import Mathlib.Data.List.Basic
import StaticSite.Html.Script
import StaticSite.Json.Parser
import StaticSite.Proofs.Text.Digits

/-!
# Strings and integers in scripts

In a script the brackets and ampersands of a JSON text are written as escapes (`Html.scripted`).
Strings and integers are read back from there.

* `Json.scanString_written` says that each character of a string is read as its units (`IsUnits`),
  however it is written: by itself, by an escape of JSON or by one of the script.
  `Json.parseString_written` says that a string is read back, up to its closing quote.
* `Json.parseScalar_int` says that an integer is read back, up to a character that ends it
  (`EndsValue`).
-/

namespace StaticSite

namespace Html

/-- A JSON text as it stands in a script. -/
def scripted (cs : List Char) : List Char := cs.flatMap escapeInScript

theorem scripted_append (xs ys : List Char) : scripted (xs ++ ys) = scripted xs ++ scripted ys :=
  List.flatMap_append

theorem scripted_cons (c : Char) (cs : List Char) :
    scripted (c :: cs) = escapeInScript c ++ scripted cs := List.flatMap_cons

theorem toList_inScript (json : String) : (inScript json).text.toList = scripted json.toList :=
  String.toList_ofList

/-- Text without the characters of markup stands in a script as it is. -/
theorem scripted_eq_self {cs : List Char} (h : ∀ c ∈ cs, escapeInScript c = [c]) :
    scripted cs = cs := by
  unfold scripted
  rw [List.flatMap_congr h, List.flatMap_singleton']

/-- **A script holds none of the characters that markup is made of.** -/
theorem ne_of_mem_scripted {cs : List Char} {c : Char} (h : c ∈ scripted cs) :
    c ≠ '<' ∧ c ≠ '>' ∧ c ≠ '&' := by
  obtain ⟨d, -, hc⟩ := List.mem_flatMap.mp h
  have hescapes : ∀ c ∈ "\\u003c".toList ++ ("\\u003e".toList ++ "\\u0026".toList),
      c ≠ '<' ∧ c ≠ '>' ∧ c ≠ '&' := by simp
  unfold escapeInScript at hc
  -- An escape is a fixed text; what is not escaped is none of the three.
  split at hc
  · exact hescapes c (List.mem_append_left _ hc)
  · next hlt =>
    split at hc
    · exact hescapes c (List.mem_append_right _ (List.mem_append_left _ hc))
    · next hgt =>
      split at hc
      · exact hescapes c (List.mem_append_right _ (List.mem_append_right _ hc))
      · next hamp =>
        obtain rfl := List.mem_singleton.mp hc
        rw [beq_iff_eq] at hlt hgt hamp
        exact ⟨hlt, hgt, hamp⟩

end Html

open Html (scripted scripted_append scripted_cons scripted_eq_self escapeInScript)

namespace Json

/-! ### Characters -/

/-- **The units that stand for a character**: its code, or the two halves of a code beyond the first
plane. -/
inductive IsUnits (c : Char) : List Nat → Prop
  | code : IsUnits c [c.toNat]
  | halves (h : 0x10000 ≤ c.toNat) :
      IsUnits c [0xD800 + (c.toNat - 0x10000) / 0x400, 0xDC00 + (c.toNat - 0x10000) % 0x400]

theorem toNat_not_surrogate (c : Char) : ¬ (0xD800 ≤ c.toNat ∧ c.toNat < 0xE000) := by
  have hvalid := c.valid
  simp only [UInt32.isValidChar, Nat.isValidChar] at hvalid
  have hval : c.val.toNat = c.toNat := rfl
  omega

theorem toNat_lt (c : Char) : c.toNat < 0x110000 := by
  have hvalid := c.valid
  simp only [UInt32.isValidChar, Nat.isValidChar] at hvalid
  have hval : c.val.toNat = c.toNat := rfl
  omega

/-- The units of a character are joined to it, whatever units follow. -/
theorem IsUnits.joinUnits_append {c : Char} {units : List Nat} (h : IsUnits c units)
    (more : List Nat) : joinUnits (units ++ more) = c :: joinUnits more := by
  cases h with
  | code =>
    have hcode : (if (0xD800 ≤ c.toNat && c.toNat < 0xE000) = true then Char.ofNat 0xFFFD
        else Char.ofNat c.toNat) = c := by
      rw [if_neg, Char.ofNat_toNat]
      simpa using toNat_not_surrogate c
    cases more with
    | nil =>
      rw [List.append_nil]
      exact congrArg (fun d => [d]) hcode
    | cons b more =>
      -- A unit that is a character on its own is no first half, whatever follows.
      have hhigh : ¬ ((0xD800 ≤ c.toNat && c.toNat < 0xDC00 && 0xDC00 ≤ b && b < 0xE000) =
          true) := by
        have hnot := toNat_not_surrogate c
        simp only [Bool.and_eq_true, decide_eq_true_eq]
        omega
      rw [List.singleton_append, joinUnits, if_neg hhigh, hcode]
  | halves h =>
    have hlt := toNat_lt c
    have hjoin : ((0xD800 ≤ 0xD800 + (c.toNat - 0x10000) / 0x400 &&
        0xD800 + (c.toNat - 0x10000) / 0x400 < 0xDC00 &&
        0xDC00 ≤ 0xDC00 + (c.toNat - 0x10000) % 0x400 &&
        0xDC00 + (c.toNat - 0x10000) % 0x400 < 0xE000) = true) := by
      simp only [Bool.and_eq_true, decide_eq_true_eq]
      omega
    -- Ten bits go into each half, and the offset is added again.
    have hcode : 0x10000 + (0xD800 + (c.toNat - 0x10000) / 0x400 - 0xD800) * 0x400 +
        (0xDC00 + (c.toNat - 0x10000) % 0x400 - 0xDC00) = c.toNat := by omega
    show joinUnits (_ :: _ :: more) = _
    rw [joinUnits, if_pos hjoin, hcode, Char.ofNat_toNat]

/-! ### Escapes -/

theorem hexValue?_hexDigit : ∀ d < 16, hexValue? (Text.hexDigit d) = some d := by decide

theorem escapeInScript_hexDigit :
    ∀ d < 16, escapeInScript (Text.hexDigit d) = [Text.hexDigit d] := by decide

/-- The last four hexadecimal digits of a number. -/
theorem hexDigits_four (n : Nat) : Text.hexDigits 4 n =
    [Text.hexDigit (n / 16 / 16 / 16 % 16), Text.hexDigit (n / 16 / 16 % 16),
     Text.hexDigit (n / 16 % 16), Text.hexDigit (n % 16)] := rfl

theorem scripted_unitEscape (n : Nat) : scripted (unitEscape n) = unitEscape n := by
  have hdigit (m : Nat) :
      escapeInScript (Text.hexDigit (m % 16)) = [Text.hexDigit (m % 16)] :=
    escapeInScript_hexDigit _ (Nat.mod_lt _ (by decide))
  refine scripted_eq_self ?_
  unfold unitEscape
  rw [hexDigits_four]
  simp only [List.forall_mem_cons]
  exact ⟨rfl, rfl, hdigit _, hdigit _, hdigit _, hdigit _, fun _ h => absurd h List.not_mem_nil⟩

variable {start : Nat} {units : List Nat}

/-- The escape of a unit is read as the unit. -/
theorem scanString_unitEscape {n : Nat} (hn : n < 0x10000) (e : Char) (rest : List Char) :
    scanString start (unitEscape n ++ e :: rest) units =
      scanString start (e :: rest) (n :: units) := by
  have hvalue (m : Nat) : hexValue? (Text.hexDigit (m % 16)) = some (m % 16) :=
    hexValue?_hexDigit _ (Nat.mod_lt _ (by decide))
  -- The four digits are those of `n` to the base of sixteen.
  have hunit : unit? (Text.hexDigit (n / 16 / 16 / 16 % 16)) (Text.hexDigit (n / 16 / 16 % 16))
      (Text.hexDigit (n / 16 % 16)) (Text.hexDigit (n % 16)) = some n := by
    unfold unit?
    rw [hvalue, hvalue, hvalue, hvalue]
    show some _ = some n
    congr 1
    omega
  unfold unitEscape
  rw [hexDigits_four]
  show scanString start ('\\' :: 'u' :: _ :: _ :: _ :: _ :: e :: rest) units = _
  rw [scanString, hunit]

/-- A character that may stand in a string is read as its code. -/
theorem scanString_plain {c : Char} (hquote : c ≠ '"') (hslash : c ≠ '\\') (hc : 0x20 ≤ c.toNat)
    (rest : List Char) :
    scanString start (c :: rest) units = scanString start rest (c.toNat :: units) := by
  rw [scanString]
  · rw [if_neg (Nat.not_lt.mpr hc)]
  all_goals
    intros
    simp_all

/-- A character that has a short escape is read from it. -/
theorem scanString_short {c x : Char} (hx : escaped? x = some c) (e : Char) (rest : List Char) :
    scanString start ('\\' :: x :: e :: rest) units =
      scanString start (e :: rest) (c.toNat :: units) := by
  rw [scanString]
  · rw [hx]
  all_goals
    intros
    simp_all [escaped?]

/-- How a character is written: by a short escape, by the escape of its unit or of its two units, or
as it is. -/
theorem renderChar_cases (set : Charset) (c : Char) :
    (∃ x, escaped? x = some c ∧ escapeInScript x = [x] ∧ renderChar set c = ['\\', x]) ∨
    (c.toNat < 0x10000 ∧ renderChar set c = unitEscape c.toNat) ∨
    (0x10000 ≤ c.toNat ∧ renderChar set c =
      unitEscape (0xD800 + (c.toNat - 0x10000) / 0x400) ++
        unitEscape (0xDC00 + (c.toNat - 0x10000) % 0x400)) ∨
    (c ≠ '"' ∧ c ≠ '\\' ∧ 0x20 ≤ c.toNat ∧ renderChar set c = [c]) := by
  unfold renderChar
  -- A slash has a short escape for reading, which is never written.
  by_cases hshort : ∃ x, escaped? x = some c ∧ x ≠ '/'
  · obtain ⟨x, hx, hslash⟩ := hshort
    left
    unfold escaped? at hx
    split at hx
    all_goals first
      | cases hx
        exact ⟨_, rfl, rfl, rfl⟩
      | exact absurd rfl hslash
      | cases hx
  · have hne (x : Char) {d : Char} (hx : escaped? x = some d) (hslash : x ≠ '/') : c ≠ d := by
      rintro rfl
      exact hshort ⟨x, hx, hslash⟩
    have hquote : c ≠ '"' := hne '"' rfl (by decide)
    have hslash : c ≠ '\\' := hne '\\' rfl (by decide)
    right
    simp only [beq_iff_eq, if_neg hquote, if_neg hslash, if_neg (hne 'n' rfl (by decide)),
      if_neg (hne 'r' rfl (by decide)), if_neg (hne 't' rfl (by decide)),
      if_neg (hne 'b' rfl (by decide)), if_neg (hne 'f' rfl (by decide))]
    split
    · next hcontrol => exact .inl ⟨by omega, rfl⟩
    · next hcontrol =>
      split
      · exact .inr (.inr ⟨hquote, hslash, Nat.not_lt.mp hcontrol, rfl⟩)
      · split
        · next hfirst => exact .inl ⟨hfirst, rfl⟩
        · next hfirst => exact .inr (.inl ⟨Nat.not_lt.mp hfirst, rfl⟩)

/-- **A character of a string is read as its units**, however it is written. -/
theorem scanString_written (set : Charset) (c : Char) :
    ∃ us, IsUnits c us ∧ ∀ (start : Nat) (units : List Nat) (e : Char) (rest : List Char),
      scanString start (scripted (renderChar set c) ++ e :: rest) units =
        scanString start (e :: rest) (us.reverse ++ units) := by
  rcases renderChar_cases set c with ⟨x, hx, hself, hc⟩ | ⟨hn, hc⟩ | ⟨hn, hc⟩ |
    ⟨hquote, hslash, hcontrol, hc⟩ <;> rw [hc]
  · refine ⟨_, .code, fun start units e rest => ?_⟩
    rw [scripted_cons, scripted_cons, hself]
    exact scanString_short hx e rest
  · refine ⟨_, .code, fun start units e rest => ?_⟩
    rw [scripted_unitEscape]
    exact scanString_unitEscape hn e rest
  · refine ⟨_, .halves hn, fun start units e rest => ?_⟩
    have hlt := toNat_lt c
    have hhigh : 0xD800 + (c.toNat - 0x10000) / 0x400 < 0x10000 := by omega
    have hlow : 0xDC00 + (c.toNat - 0x10000) % 0x400 < 0x10000 := by omega
    rw [scripted_append, scripted_unitEscape, scripted_unitEscape, List.append_assoc]
    exact (scanString_unitEscape hhigh _ _).trans (scanString_unitEscape hlow e rest)
  -- A character that is written as it is may still be one that the script escapes.
  · refine ⟨_, .code, fun start units e rest => ?_⟩
    have hunit (n : Nat) (hn : n < 0x10000) : scanString start (unitEscape n ++ e :: rest) units =
        scanString start (e :: rest) (n :: units) := scanString_unitEscape hn e rest
    rw [scripted_cons]
    unfold escapeInScript
    split
    · next h =>
      obtain rfl := beq_iff_eq.mp h
      exact hunit 0x3C (by decide)
    · split
      · next h =>
        obtain rfl := beq_iff_eq.mp h
        exact hunit 0x3E (by decide)
      · split
        · next h =>
          obtain rfl := beq_iff_eq.mp h
          exact hunit 0x26 (by decide)
        · exact scanString_plain hquote hslash hcontrol (e :: rest)

/-! ### Strings -/

theorem scanString_characters (set : Charset) (cs : List Char) (start : Nat) (units : List Nat)
    (rest : List Char) :
    ∃ us, scanString start (scripted (cs.flatMap (renderChar set)) ++ '"' :: rest) units =
      .ok (units.reverse ++ us, rest) ∧ joinUnits us = cs := by
  induction cs generalizing units with
  | nil =>
    refine ⟨[], ?_, rfl⟩
    rw [List.append_nil]
    rfl
  | cons c cs ih =>
    obtain ⟨us, hus, hscan⟩ := scanString_written set c
    obtain ⟨more, hmore, hjoin⟩ := ih (us.reverse ++ units)
    refine ⟨us ++ more, ?_, by rw [hus.joinUnits_append, hjoin]⟩
    rw [List.flatMap_cons, scripted_append, List.append_assoc]
    -- Something follows the character: another one, or the quote at the end.
    obtain ⟨e, tail, htail⟩ : ∃ e tail,
        scripted (cs.flatMap (renderChar set)) ++ '"' :: rest = e :: tail :=
      List.exists_cons_of_ne_nil (by simp)
    rw [htail, hscan, ← htail, hmore]
    simp

/-- **A string is read back**, up to its closing quote. -/
theorem parseString_written (set : Charset) (s : String) (rest : List Char) :
    parseString (scripted (s.toList.flatMap (renderChar set)) ++ '"' :: rest) = .ok (s, rest) := by
  unfold parseString
  obtain ⟨us, hscan, hjoin⟩ := scanString_characters set s.toList _ [] rest
  rw [hscan]
  show Except.ok (String.ofList (joinUnits us), rest) = _
  rw [hjoin, String.ofList_toList]

theorem scripted_renderString (set : Charset) (s : String) :
    scripted (renderString set s) =
      '"' :: (scripted (s.toList.flatMap (renderChar set)) ++ ['"']) := by
  unfold renderString
  rw [List.cons_append, scripted_cons, scripted_append]
  rfl

/-! ### Integers -/

/-- **Text that ends a value**: none, or a sign that separates values or closes them. -/
def EndsValue (rest : List Char) : Prop := ∀ c ∈ rest.head?, c = ',' ∨ c = ']' ∨ c = '}'

theorem EndsValue.cons {c : Char} (h : c = ',' ∨ c = ']' ∨ c = '}') (rest : List Char) :
    EndsValue (c :: rest) := fun d hd => by
  obtain rfl := Option.some.inj hd
  exact h

/-- What ends a value does not go on with a numeral. -/
theorem EndsValue.takeWhile_isAsciiDigit {rest : List Char} (h : EndsValue rest) :
    rest.takeWhile isAsciiDigit = [] ∧ rest.dropWhile isAsciiDigit = rest := by
  cases rest with
  | nil => exact ⟨rfl, rfl⟩
  | cons c rest =>
    rcases h c rfl with rfl | rfl | rfl <;> exact ⟨rfl, rfl⟩

theorem EndsValue.scan_eq_none {rest : List Char} (h : EndsValue rest) :
    scanFraction rest = none ∧ scanPower rest = none := by
  cases rest with
  | nil => exact ⟨rfl, rfl⟩
  | cons c rest =>
    rcases h c rfl with rfl | rfl | rfl <;> exact ⟨rfl, rfl⟩

theorem isAsciiDigit_toDigits (n : Nat) : ∀ c ∈ Nat.toDigits 10 n, isAsciiDigit c = true := by
  intro c hc
  have hdigit := Nat.isDigit_of_mem_toDigits (by decide) (by decide) hc
  rw [Char.isDigit_iff_toNat] at hdigit
  unfold isAsciiDigit
  rw [Bool.and_eq_true, decide_eq_true_eq, decide_eq_true_eq]
  exact hdigit

/-- Decimal notation begins with a zero for zero only. -/
theorem head?_toDigits {n : Nat} (hn : n ≠ 0) : (Nat.toDigits 10 n).head? ≠ some '0' := by
  induction n using Nat.strongRecOn with
  | ind n ih =>
    by_cases hlt : n < 10
    · have hdigit : ∀ m < 10, m ≠ 0 → Nat.digitChar m ≠ '0' := by decide
      rw [Nat.toDigits_of_lt_base hlt]
      exact fun h => hdigit n hlt hn (Option.some.inj h)
    · rw [Nat.toDigits_of_base_le (by decide) (Nat.not_lt.mp hlt),
        List.head?_append_of_ne_nil _ Nat.toDigits_ne_nil]
      exact ih (n / 10) (by omega) (by omega)

theorem scanWhole_toDigits (n : Nat) {rest : List Char} (hrest : EndsValue rest) :
    scanWhole (Nat.toDigits 10 n ++ rest) = some (Nat.toDigits 10 n, rest) := by
  by_cases hn : n = 0
  · subst hn
    rfl
  · obtain ⟨c, cs, hcs⟩ := List.exists_cons_of_ne_nil (Nat.toDigits_ne_nil (n := n) (b := 10))
    have hdigits : ∀ d ∈ c :: cs, isAsciiDigit d = true := hcs ▸ isAsciiDigit_toDigits n
    rw [List.forall_mem_cons] at hdigits
    have hzero : c ≠ '0' := fun h => head?_toDigits hn (by rw [hcs, h, List.head?_cons])
    rw [hcs, List.cons_append, scanWhole, if_pos hdigits.1,
      List.takeWhile_append_of_pos hdigits.2, List.dropWhile_append_of_pos hdigits.2,
      hrest.takeWhile_isAsciiDigit.1, hrest.takeWhile_isAsciiDigit.2, List.append_nil]
    exact fun h => absurd h hzero

theorem scanNumeral_toDigits (negative : Bool) (n : Nat) {rest : List Char}
    (hrest : EndsValue rest) : scanNumeral negative (Nat.toDigits 10 n ++ rest) =
      some (.int (if negative then -(n : Int) else n), rest) := by
  unfold scanNumeral
  rw [scanWhole_toDigits n hrest]
  obtain ⟨hfraction, hpower⟩ := hrest.scan_eq_none
  simp only [hfraction, hpower, Option.getD_none, Option.isSome_none, Bool.or_self,
    Text.digitsValue_toDigits, Bool.false_eq_true, if_false]

/-- A numeral is no constant. -/
theorem scanConstant_eq_none {c : Char} (hc : isAsciiDigit c = true) (rest : List Char) :
    scanConstant (c :: rest) = none ∧ scanConstant ('-' :: c :: rest) = none := by
  have hne {d : Char} (hd : isAsciiDigit d = false) : (d == c) = false := by
    rw [beq_eq_false_iff_ne]
    rintro rfl
    rw [hd] at hc
    cases hc
  have hn := hne (d := 'n') rfl
  have ht := hne (d := 't') rfl
  have hf := hne (d := 'f') rfl
  have hN := hne (d := 'N') rfl
  have hI := hne (d := 'I') rfl
  have hsign := hne (d := '-') rfl
  constructor
  · simp [scanConstant, constants, List.isPrefixOf?, hn, ht, hf, hN, hI, hsign]
  · simp [scanConstant, constants, List.isPrefixOf?, hI]

/-- **An integer is read back.** -/
theorem parseScalar_int (i : Int) {rest : List Char} (hrest : EndsValue rest) :
    parseScalar ((toString i).toList ++ rest) = .ok (.int i, rest) := by
  obtain ⟨c, cs, hcs⟩ :=
    List.exists_cons_of_ne_nil (Nat.toDigits_ne_nil (n := i.natAbs) (b := 10))
  have hc : isAsciiDigit c = true :=
    isAsciiDigit_toDigits i.natAbs c (hcs ▸ List.mem_cons_self)
  have hscan (negative : Bool) := scanNumeral_toDigits negative i.natAbs hrest
  rw [hcs, List.cons_append] at hscan
  rw [Text.toList_toString_int, hcs]
  -- The sign is read first, and a digit is no sign.
  by_cases hi : i < 0
  · have habs : -(i.natAbs : Int) = i := by omega
    rw [if_pos hi, List.singleton_append, List.cons_append, List.cons_append, parseScalar,
      (scanConstant_eq_none hc _).2]
    simp only [hscan true, habs, if_true]
  · have habs : (i.natAbs : Int) = i := by omega
    have hsign : c ≠ '-' := by
      rintro rfl
      exact absurd hc (by decide)
    rw [if_neg hi, List.nil_append, List.cons_append, parseScalar, (scanConstant_eq_none hc _).1]
    simp only [hscan false, habs, Bool.false_eq_true, if_false]
    exact fun _ h => hsign (List.cons.inj h).1

end Json

end StaticSite
