import Mathlib.Data.List.Basic
import StaticSite.Text.Digit

/-!
# Decimal notation

Integers are written by their decimal digits, a negative one with a sign before them
(`toList_toString_int`). The value of these digits is the integer without its sign
(`digitsValue_toDigits`).
-/

namespace StaticSite.Text

theorem digitValue?_of_isDigit {c : Char} (hc : c.isDigit = true) :
    digitValue? c = some (c.toNat - '0'.toNat) := by
  rw [Char.isDigit_iff_toNat] at hc
  exact if_pos hc

theorem isDigit_of_char_isDigit {c : Char} (hc : c.isDigit = true) : isDigit c = true := by
  rw [isDigit, digitValue?_of_isDigit hc, Option.isSome_some]

theorem isDigit_toDigits (n : Nat) : ∀ c ∈ Nat.toDigits 10 n, isDigit c = true := fun _ hc =>
  isDigit_of_char_isDigit (Nat.isDigit_of_mem_toDigits (by decide) (by decide) hc)

/-- Reading digits one by one is what the value of a list of digits is defined by. -/
theorem digitsValue_eq_ofDigitChars {cs : List Char} (h : ∀ c ∈ cs, c.isDigit = true) :
    digitsValue cs = Nat.ofDigitChars 10 cs 0 := by
  unfold digitsValue
  rw [Nat.ofDigitChars_eq_foldl]
  refine List.foldl_ext _ _ _ fun n c hc => ?_
  rw [digitValue?_of_isDigit (h c hc)]

theorem digitsValue_toDigits (n : Nat) : digitsValue (Nat.toDigits 10 n) = n := by
  rw [digitsValue_eq_ofDigitChars fun _ => Nat.isDigit_of_mem_toDigits (by decide) (by decide),
    Nat.ofDigitChars_ten_toDigits]

/-- The decimal notation of an integer is its digits, for a negative one with a sign before. -/
theorem toList_toString_int (i : Int) :
    (toString i).toList = (if i < 0 then ['-'] else []) ++ Nat.toDigits 10 i.natAbs := by
  rw [Int.toString_eq_repr, Int.repr_eq_if]
  by_cases hi : 0 ≤ i
  · rw [if_pos hi, if_neg (Int.not_lt.mpr hi), Nat.toList_repr, List.nil_append]
    congr 1
    omega
  · have habs : (-i).toNat = i.natAbs := by omega
    rw [if_neg hi, if_pos (Int.not_le.mp hi), String.toList_append, Nat.toList_repr, habs]
    rfl

end StaticSite.Text
