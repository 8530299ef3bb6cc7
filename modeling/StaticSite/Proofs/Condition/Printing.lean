import Mathlib
import StaticSite.Condition.Eval
import StaticSite.Proofs.Condition.Cut
import StaticSite.Proofs.Text.Digits
import StaticSite.Proofs.Text.Find

/-!
# Printing tokens

A token is written as a word (`Token.Written`): a string in quotes of a kind that it lacks, an
integer in decimal notation, a reference by its name, and every other token by its symbol. Words
with blanks between them are cut into the tokens they were written for. Each word is cut into its
one token (`Token.Written.isCut`), and a blank separates (`IsCut.spaced`).

That a word is not read as something else depends on the order in which a step tries its readers. A
reference does not begin with a digit, or it would be read as a numeral; a word that holds no sign
of an operator gets past the operators (`isCut_word`); and what ends in the suffix of membership, or
is written like a truth value, is no name (`IsReference`).

Integers have a bound on their number of digits, `digitLimit`. A longer numeral is no token
(`tokenize_toString_of_digitLimit_lt`).
-/

namespace StaticSite.Condition

open Text (digitValue?_of_isDigit isDigit_of_char_isDigit isDigit_toDigits digitsValue_toDigits
  toList_toString_int)

/-- The characters of a class without separators and quotes are plain. -/
theorem IsGapless.isPlain {p : Char → Bool} (hp : IsGapless p) (hsingle : p '\'' = false)
    (hdouble : p '"' = false) {c : Char} (hc : p c = true) : IsPlain c := by
  refine ⟨?_, ?_, ?_⟩
  · rw [Bool.eq_false_iff]
    intro hsep
    rw [hp c hsep] at hc
    cases hc
  · rintro rfl
    exact Bool.false_ne_true (hsingle.symm.trans hc)
  · rintro rfl
    exact Bool.false_ne_true (hdouble.symm.trans hc)

/-! ### Numerals -/

/-- ASCII has no other digits. -/
theorem isDigit_eq_false_of_ascii {c : Char} (hascii : c.toNat < 0x80) (hc : c.isDigit = false) :
    Text.isDigit c = false := by
  have hc : ¬ ('0' ≤ c ∧ c ≤ '9') := fun h =>
    Bool.eq_false_iff.mp hc (Char.isDigit_iff_toNat.mpr h)
  rw [Text.isDigit, Text.digitValue?, if_neg hc, if_pos hascii, Option.isSome_none]

/-- The number of decimal digits of an integer, its sign aside. -/
def digitCount (i : Int) : Nat := (Nat.toDigits 10 i.natAbs).length

theorem digitCount_ten_pow (k : Nat) : digitCount ((10 ^ k : Nat) : Int) = k + 1 := by
  unfold digitCount
  rw [Int.natAbs_natCast]
  have hle : (Nat.toDigits 10 (10 ^ k)).length ≤ k + 1 :=
    (Nat.length_toDigits_le_iff (by decide) (Nat.succ_pos k)).mpr
      (Nat.pow_lt_pow_right (by decide) (Nat.lt_succ_self k))
  have hlt : ¬ (Nat.toDigits 10 (10 ^ k)).length ≤ k := by
    rcases Nat.eq_zero_or_pos k with rfl | hk
    · exact Nat.not_le.mpr Nat.length_toDigits_pos
    · rw [Nat.length_toDigits_le_iff (by decide) hk]
      exact Nat.lt_irrefl _
  omega

/-- What is read off the decimal notation of an integer. -/
theorem integerOf_toDigits (negative : Bool) (n : Nat) :
    integerOf negative (Nat.toDigits 10 n) =
      if digitLimit < (Nat.toDigits 10 n).length then
        .error (.numeral (Nat.toDigits 10 n).length)
      else .ok (.int (if negative then -(n : Int) else n)) := by
  rw [integerOf, digitsValue_toDigits]

theorem scanNumeral_toDigits (negative : Bool) (n : Nat) :
    scanNumeral negative (Nat.toDigits 10 n) =
      some (integerOf negative (Nat.toDigits 10 n), []) := by
  have htake := List.takeWhile_eq_self_iff.mpr (isDigit_toDigits n)
  have hdrop := List.dropWhile_eq_nil_iff.mpr (isDigit_toDigits n)
  rw [scanNumeral_of_ne_point (by rw [htake]; exact Nat.toDigits_ne_nil) (by rw [hdrop]; nofun),
    htake, hdrop]

/-- **The decimal notation of an integer is read as the integer**, unless it is too long. -/
theorem scanNumber_toString_int (i : Int) :
    scanNumber (toString i).toList =
      some (if digitLimit < digitCount i then .error (.numeral (digitCount i)) else .ok (.int i),
        []) := by
  rw [toList_toString_int]
  -- A sign is taken off before the digits are read; without one, the first digit is no sign.
  by_cases hi : i < 0
  · have hscan : scanNumber ('-' :: Nat.toDigits 10 i.natAbs) =
        scanNumeral true (Nat.toDigits 10 i.natAbs) := rfl
    have habs : -(i.natAbs : Int) = i := by omega
    rw [if_pos hi, List.singleton_append, hscan, scanNumeral_toDigits, integerOf_toDigits,
      if_pos rfl, habs, digitCount]
  · have habs : (i.natAbs : Int) = i := by omega
    have hunsigned : ∀ rest, Nat.toDigits 10 i.natAbs ≠ '-' :: rest := fun rest hdigits =>
      absurd (isDigit_toDigits i.natAbs '-' (hdigits ▸ List.mem_cons_self)) (by decide)
    rw [if_neg hi, List.nil_append, scanNumber_of_unsigned hunsigned, scanNumeral_toDigits,
      integerOf_toDigits, if_neg Bool.false_ne_true, habs, digitCount]

/-- The decimal notation of an integer begins with a sign or a digit. -/
theorem exists_toString_int_eq_cons (i : Int) :
    ∃ c rest, (toString i).toList = c :: rest ∧ IsPlain c := by
  rw [toList_toString_int]
  by_cases hi : i < 0
  · exact ⟨'-', _, by rw [if_pos hi, List.singleton_append], isPlain_iff.mpr ⟨rfl, rfl⟩⟩
  · obtain ⟨c, rest, hdigits⟩ :=
      List.exists_cons_of_ne_nil (Nat.toDigits_ne_nil (n := i.natAbs) (b := 10))
    have hc : Text.isDigit c = true := isDigit_toDigits i.natAbs c (hdigits ▸ List.mem_cons_self)
    exact ⟨c, rest, by rw [if_neg hi, List.nil_append, hdigits],
      isGapless_isDigit.isPlain (by decide) (by decide) hc⟩

theorem isCut_toString_int {i : Int} (hi : digitCount i ≤ digitLimit) :
    IsCut (toString i).toList [.operand (.int i)] := by
  obtain ⟨c, rest, hlist, hc⟩ := exists_toString_int_eq_cons i
  have hscan := scanNumber_toString_int i
  rw [if_neg (Nat.not_lt.mpr hi), hlist] at hscan
  rw [hlist]
  exact .step (.number hc hscan) .nil

/-- **A numeral that is too long is no token.** -/
theorem tokenize_toString_of_digitLimit_lt {i : Int} (hi : digitLimit < digitCount i) :
    tokenize (toString i) = .error (.numeral (digitCount i)) := by
  -- The first step already fails, whatever fuel there is.
  obtain ⟨c, rest, hlist, hc⟩ := exists_toString_int_eq_cons i
  obtain ⟨hsep, hquote⟩ := isPlain_iff.mp hc
  have hscan := scanNumber_toString_int i
  rw [if_pos hi, hlist] at hscan
  rw [tokenize, tokenizeList, hlist, List.length_cons, tokenizeFrom, step]
  simp only [hsep, hquote, hscan, Bool.false_eq_true, if_false]

/-! ### Words -/

theorem toNat_lt_of_isNameChar {c : Char} (hc : isNameChar c = true) : c.toNat < 0x80 := by
  simp only [isNameChar, Char.isAlphanum, Char.isAlpha, Char.isUpper, Char.isLower, Char.isDigit,
    Bool.or_eq_true, Bool.and_eq_true, decide_eq_true_eq, beq_iff_eq, ge_iff_le,
    UInt32.le_iff_toNat_le] at hc
  rcases hc with (((hc | hc) | hc) | rfl) | rfl
  · exact Nat.lt_of_le_of_lt hc.2 (by decide)
  · exact Nat.lt_of_le_of_lt hc.2 (by decide)
  · exact Nat.lt_of_le_of_lt hc.2 (by decide)
  · decide
  · decide

theorem scanOperator_of_isNameChar {c : Char} (hc : isNameChar c = true) (rest : List Char) :
    scanOperator (c :: rest) = none := by
  unfold scanOperator
  split
  case h_11 => rfl
  all_goals
    next heq =>
    obtain ⟨rfl, -⟩ := List.cons.inj heq
    exact absurd hc (by decide)

theorem scanNumber_of_isNameChar {c : Char} (hc : isNameChar c = true)
    (hdigit : Text.isDigit c = false) (rest : List Char) : scanNumber (c :: rest) = none := by
  have hunsigned : ∀ more, c :: rest ≠ '-' :: more := by
    rintro more heq
    obtain ⟨rfl, -⟩ := List.cons.inj heq
    exact absurd hc (by decide)
  have htake : (c :: rest).takeWhile Text.isDigit = [] :=
    List.takeWhile_cons_of_neg (by rw [hdigit]; decide)
  rw [scanNumber_of_unsigned hunsigned]
  simp only [scanNumeral, htake, List.isEmpty_nil, if_true]

/-- **A word is cut into what the word stands for.** -/
theorem isCut_word {c : Char} {rest : List Char} {ts : List Token}
    (hchars : (c :: rest).all isNameChar = true) (hdigit : Text.isDigit c = false)
    (hts : wordTokens (c :: rest) = .ok ts) : IsCut (c :: rest) ts := by
  rw [List.all_eq_true] at hchars
  have hc := hchars c List.mem_cons_self
  have htake := List.takeWhile_eq_self_iff.mpr hchars
  have hdrop := List.dropWhile_eq_nil_iff.mpr hchars
  -- The readers that come before that of words find nothing.
  have hword : Reads c rest ts ((c :: rest).dropWhile isNameChar) :=
    .word (isGapless_isNameChar.isPlain (by decide) (by decide) hc)
      (scanNumber_of_isNameChar hc hdigit rest)
      (scanOperator_of_isNameChar hc rest) (by rw [htake]; exact List.cons_ne_nil _ _)
      (by rwa [htake])
  rw [hdrop] at hword
  simpa using IsCut.step hword .nil

/-! ### References -/

/-- Whether a text is a part of a name: ASCII letters, digits and underscores, at least one. -/
def isNamePart (part : String) : Bool :=
  part != "" && part.toList.all fun c => c.isAlphanum || c == '_'

/-- **A name that is read as a reference.** Its parts between points are not empty, and it is not
written like a numeral, a truth value or the beginning of a test for membership. -/
structure IsReference (name : String) : Prop where
  parts : (segments name).all isNamePart = true
  notNumeral : name.toList.head?.any Char.isDigit = false
  notTruth : name ≠ "true" ∧ name ≠ "false"
  notMembership : ¬ includesWord <:+ name.toList

theorem stripSuffix?_eq_none {pat cs : List Char} (h : ¬ pat <:+ cs) :
    Text.stripSuffix? pat cs = none := by
  unfold Text.stripSuffix?
  rw [Option.map_eq_none_iff, Option.eq_none_iff_forall_not_mem]
  intro rest hrest
  refine h ⟨rest.reverse, ?_⟩
  have happend := congrArg List.reverse (List.append_eq_of_isPrefixOf?_eq_some hrest)
  simpa using happend

/-- A character other than the one to split at is in one of the pieces. -/
theorem exists_mem_splitOn {a c : Char} {cs : List Char} (hc : c ∈ cs) (hne : c ≠ a) :
    ∃ piece ∈ cs.splitOn a, c ∈ piece := by
  -- By induction on the text: its first character begins a new piece or joins the first one.
  induction cs with
  | nil => cases hc
  | cons d cs ih =>
    obtain ⟨piece, pieces, hsplit⟩ := List.exists_cons_of_ne_nil (List.splitOn_ne_nil a cs)
    rw [List.splitOn_cons_eq_if_modifyHead]
    by_cases hd : d = a
    · have hc := (List.mem_cons.mp hc).resolve_left fun h => hne (h.trans hd)
      obtain ⟨found, hfound, hmem⟩ := ih hc
      rw [if_pos (beq_iff_eq.mpr hd)]
      exact ⟨found, List.mem_cons_of_mem _ hfound, hmem⟩
    · rw [if_neg (mt beq_iff_eq.mp hd), hsplit, List.modifyHead_cons]
      rcases List.mem_cons.mp hc with rfl | hc
      · exact ⟨_, List.mem_cons_self, List.mem_cons_self⟩
      · obtain ⟨found, hfound, hmem⟩ := ih hc
        rw [hsplit] at hfound
        rcases List.mem_cons.mp hfound with rfl | hfound
        · exact ⟨_, List.mem_cons_self, List.mem_cons_of_mem _ hmem⟩
        · exact ⟨found, List.mem_cons_of_mem _ hfound, hmem⟩

/-- Where no piece is empty, a separator has a character before it and another one behind it, which
is no separator. -/
theorem ne_nil_of_nil_notMem_splitOn {a : Char} {before after : List Char}
    (hnil : [] ∉ (before ++ a :: after).splitOn a) :
    before ≠ [] ∧ after ≠ [] ∧ ∀ rest, after ≠ a :: rest := by
  rw [List.splitOn_append_cons_self, List.mem_append, not_or] at hnil
  refine ⟨?_, ?_, ?_⟩
  · rintro rfl
    exact hnil.1 List.mem_cons_self
  · rintro rfl
    exact hnil.2 List.mem_cons_self
  · rintro rest rfl
    rw [← List.nil_append (a :: rest), List.splitOn_append_cons_self] at hnil
    exact hnil.2 List.mem_cons_self

namespace IsReference

variable {name : String}

theorem isNamePart_of_mem_splitOn (h : IsReference name) {piece : List Char}
    (hpiece : piece ∈ name.toList.splitOn '.') : isNamePart (String.ofList piece) = true :=
  List.all_eq_true.mp h.parts _ (List.mem_map_of_mem hpiece)

/-- The points of a name have something on both sides. -/
theorem nil_notMem_splitOn (h : IsReference name) : [] ∉ name.toList.splitOn '.' := fun hmem =>
  absurd (h.isNamePart_of_mem_splitOn hmem) (by decide)

theorem all_isNameChar (h : IsReference name) : name.toList.all isNameChar = true := by
  rw [List.all_eq_true]
  intro c hc
  by_cases hpoint : c = '.'
  · rw [hpoint]
    rfl
  · obtain ⟨piece, hpiece, hmem⟩ := exists_mem_splitOn hc hpoint
    have hpart := h.isNamePart_of_mem_splitOn hpiece
    rw [isNamePart, Bool.and_eq_true, String.toList_ofList, List.all_eq_true] at hpart
    rw [isNameChar, hpart.2 c hmem, Bool.true_or]

/-- A point of a name has a character before it and another one behind it, which is no point. -/
theorem ne_nil_of_point (h : IsReference name) {before after : List Char}
    (hname : name.toList = before ++ '.' :: after) :
    before ≠ [] ∧ after ≠ [] ∧ ∀ rest, after ≠ '.' :: rest :=
  ne_nil_of_nil_notMem_splitOn (hname ▸ h.nil_notMem_splitOn)

/-- **The word of a name stands for the reference alone.** -/
theorem wordTokens (h : IsReference name) :
    wordTokens name.toList = .ok [.operand (.ref name)] := by
  -- A word is a reference if no test that comes before finds anything else in it.
  have hincludes : name.toList ≠ includesWord := fun heq =>
    h.notMembership (heq ▸ List.suffix_refl _)
  have htrue : name.toList ≠ "true".toList := mt String.toList_inj.mp h.notTruth.1
  have hfalse : name.toList ≠ "false".toList := mt String.toList_inj.mp h.notTruth.2
  have hhead : name.toList.head? ≠ some '.' := by
    intro hhead
    obtain ⟨after, hafter⟩ := List.head?_eq_some_iff.mp hhead
    have hname : name.toList = [] ++ '.' :: after := hafter
    exact (h.ne_nil_of_point hname).1 rfl
  have hlast : name.toList.getLast? ≠ some '.' := by
    intro hlast
    obtain ⟨before, hbefore⟩ := List.getLast?_eq_some_iff.mp hlast
    exact (h.ne_nil_of_point hbefore).2.1 rfl
  have hdouble : ¬ hasDoublePoint name.toList = true := by
    intro hdouble
    obtain ⟨before, after, hname⟩ := Text.containsList_iff.mp hdouble
    exact (h.ne_nil_of_point (hname.symm.trans (List.append_assoc ..))).2.2 after rfl
  rw [Condition.wordTokens, if_neg hincludes, stripSuffix?_eq_none h.notMembership]
  simp only [if_neg htrue, if_neg hfalse, hhead, hlast, hdouble, decide_false, Bool.or_self,
    Bool.false_eq_true, if_false, String.ofList_toList]

theorem isCut (h : IsReference name) : IsCut name.toList [.operand (.ref name)] := by
  have hwordTokens := h.wordTokens
  have hchars := h.all_isNameChar
  have hnumeral := h.notNumeral
  have hnil := h.nil_notMem_splitOn
  cases hlist : name.toList with
  | nil =>
    rw [hlist] at hnil
    exact absurd List.mem_cons_self hnil
  | cons c rest =>
    rw [hlist] at hwordTokens hchars hnumeral
    -- Digits of other alphabets would begin a numeral too, but a name is written in ASCII.
    have hascii : c.toNat < 0x80 :=
      toNat_lt_of_isNameChar (List.all_eq_true.mp hchars c List.mem_cons_self)
    exact isCut_word hchars (isDigit_eq_false_of_ascii hascii hnumeral) hwordTokens

end IsReference

/-! ### Tokens -/

/-- **The ways to write a token.** -/
inductive Token.Written : Token → String → Prop
  | text {s : String} {q : Char} (hq : q = '\'' ∨ q = '"') (hs : q ∉ s.toList) :
      Written (.operand (.text s)) (String.singleton q ++ s ++ String.singleton q)
  | int (i : Int) : Written (.operand (.int i)) (toString i)
  | truth (b : Bool) : Written (.operand (.truth b)) (if b then "true" else "false")
  | ref {name : String} (hname : IsReference name) : Written (.operand (.ref name)) name
  | compare (op : Operator) : Written (.compare op) op.symbol
  | connect (k : Connective) : Written (.connect k) k.symbol
  | includes : Written .includes ".includes"
  | openParen : Written .openParen "("
  | closeParen : Written .closeParen ")"

/-- The tokens that have a way to be written. A string must lack a kind of quotes, and a number must
be an integer. -/
def Token.IsPrintable : Token → Prop
  | .operand (.text s) => '\'' ∉ s.toList ∨ '"' ∉ s.toList
  | .operand (.float _) => False
  | .operand (.ref name) => IsReference name
  | _ => True

theorem Token.exists_written_iff {t : Token} : (∃ w, t.Written w) ↔ t.IsPrintable := by
  constructor
  · rintro ⟨w, h⟩
    cases h with
    | text hq hs =>
      rcases hq with rfl | rfl
      · exact .inl hs
      · exact .inr hs
    | ref hname => exact hname
    | int | truth | compare | connect | includes | openParen | closeParen => trivial
  · intro h
    cases t with
    | operand o =>
      cases o with
      | text s =>
        rcases h with hs | hs
        · exact ⟨_, .text (.inl rfl) hs⟩
        · exact ⟨_, .text (.inr rfl) hs⟩
      | int i => exact ⟨_, .int i⟩
      -- A decimal fraction has no written form: what is written for one is read as another token.
      | float x => exact h.elim
      | truth b => exact ⟨_, .truth b⟩
      | ref name => exact ⟨_, .ref h⟩
    | compare op => exact ⟨_, .compare op⟩
    | connect k => exact ⟨_, .connect k⟩
    | includes => exact ⟨_, .includes⟩
    | openParen => exact ⟨_, .openParen⟩
    | closeParen => exact ⟨_, .closeParen⟩

/-- An integer is short enough to be read. -/
def Token.IsShort : Token → Prop
  | .operand (.int i) => digitCount i ≤ digitLimit
  | _ => True

/-- **A written token is cut into itself.** -/
theorem Token.Written.isCut {t : Token} {w : String} (h : t.Written w)
    (hshort : t.IsShort) : IsCut w.toList [t] := by
  -- One case for each way to write a token; `hshort` is of use for numbers alone.
  cases h with
  | @text s q hq hs =>
    have hlist : (String.singleton q ++ s ++ String.singleton q).toList =
        q :: (s.toList ++ q :: []) := by simp
    have hreads : Reads q (s.toList ++ q :: []) [.operand (.text (String.ofList s.toList))] [] :=
      .text hq hs
    rw [String.ofList_toList] at hreads
    rw [hlist]
    exact .step hreads .nil
  | int i => exact isCut_toString_int hshort
  | truth b => cases b <;> exact isCut_word rfl (by decide) rfl
  | ref hname => exact hname.isCut
  | compare op => cases op <;> exact isCut_operator (isPlain_iff.mpr ⟨rfl, rfl⟩) rfl rfl
  | connect k => exact isCut_symbol k
  | includes => exact isCut_word rfl (by decide) rfl
  | openParen | closeParen => exact isCut_operator (isPlain_iff.mpr ⟨rfl, rfl⟩) rfl rfl

/-- Words with blanks between them are cut one by one. -/
theorem isCut_intercalate {tokens : List Token} {words : List String}
    (h : List.Forall₂ (fun t w => IsCut w.toList [t]) tokens words) :
    IsCut (" ".intercalate words).toList tokens := by
  induction h with
  | nil => exact .nil
  | @cons t w tokens words hw hwords ih =>
    cases hwords with
    | nil => rwa [String.intercalate_singleton]
    | cons =>
      rw [String.intercalate_cons_cons, String.toList_append, String.toList_append]
      simpa using hw.spaced ih

theorem exists_forall₂_written {tokens : List Token} (h : ∀ t ∈ tokens, t.IsPrintable) :
    ∃ words, List.Forall₂ Token.Written tokens words := by
  induction tokens with
  | nil => exact ⟨[], .nil⟩
  | cons t tokens ih =>
    rw [List.forall_mem_cons] at h
    obtain ⟨w, hw⟩ := Token.exists_written_iff.mpr h.1
    obtain ⟨words, hwords⟩ := ih h.2
    exact ⟨w :: words, .cons hw hwords⟩

/-- **Tokens survive printing.** Tokens that can be written are read back from the text that holds
them with blanks between, whichever way each is written, if no integer is too long. -/
theorem tokenize_undoes_printing {tokens : List Token} (hprint : ∀ t ∈ tokens, t.IsPrintable)
    (hshort : ∀ t ∈ tokens, t.IsShort) :
    (∃ words, List.Forall₂ Token.Written tokens words) ∧
      ∀ words, List.Forall₂ Token.Written tokens words →
        tokenize (" ".intercalate words) = .ok tokens := by
  refine ⟨exists_forall₂_written hprint, fun words hwords => ?_⟩
  have hcut : List.Forall₂ (fun t w => IsCut w.toList [t]) tokens words :=
    ((List.forall₂_and_left _ _).mpr ⟨hshort, hwords⟩).imp fun _ _ h => h.2.isCut h.1
  exact tokenize_eq_ok_iff.mpr (isCut_intercalate hcut)

/-- A name may hold a word of the language after a point, and a string may hold what would be tokens
outside of it. -/
theorem printed_membership_is_read_back :
    let tokens : List Token :=
      [.operand (.ref "a.true"), .includes, .openParen, .operand (.text "&& 'b'"), .closeParen,
       .connect .any, .operand (.int (-12)), .compare .lt, .operand (.ref "includes.1")]
    (∀ t ∈ tokens, t.IsPrintable) ∧ (∀ t ∈ tokens, t.IsShort) ∧
      tokenize "a.true .includes ( \"&& 'b'\" ) || -12 < includes.1" = .ok tokens := by
  intro tokens
  have hname : ∀ name ∈ ["a.true", "includes.1"], IsReference name := by
    intro name hname
    simp only [List.mem_cons, List.not_mem_nil, or_false] at hname
    rcases hname with rfl | rfl <;> exact ⟨rfl, rfl, by decide, by decide⟩
  have hprint : ∀ t ∈ tokens, t.IsPrintable := by
    simp only [tokens, List.forall_mem_cons, List.not_mem_nil, false_imp_iff, implies_true,
      Token.IsPrintable, and_true, true_and]
    exact ⟨hname _ (by decide), .inr (by decide), hname _ (by decide)⟩
  have hshort : ∀ t ∈ tokens, t.IsShort := by
    simp only [tokens, List.forall_mem_cons, List.not_mem_nil, false_imp_iff, implies_true,
      Token.IsShort, and_true, true_and]
    decide
  refine ⟨hprint, hshort, ?_⟩
  refine (tokenize_undoes_printing hprint hshort).2
    ["a.true", ".includes", "(", "\"&& 'b'\"", ")", "||", "-12", "<", "includes.1"] ?_
  exact .cons (.ref (hname _ (by decide))) (.cons .includes (.cons .openParen
    (.cons (.text (.inr rfl) (by decide)) (.cons .closeParen (.cons (.connect .any)
      (.cons (.int _) (.cons (.compare .lt) (.cons (.ref (hname _ (by decide))) .nil))))))))

/-- The shortest integer that is too long: it can be written, but is not read back. -/
theorem tokenize_ten_pow_digitLimit :
    let tokens : List Token := [.operand (.int ((10 ^ digitLimit : Nat) : Int))]
    let words := [toString ((10 ^ digitLimit : Nat) : Int)]
    (∀ t ∈ tokens, t.IsPrintable) ∧ List.Forall₂ Token.Written tokens words ∧
      tokenize (" ".intercalate words) = .error (.numeral 4301) := by
  intro tokens words
  refine ⟨List.forall_mem_singleton.mpr trivial, .cons (.int _) .nil, ?_⟩
  have hcount := digitCount_ten_pow digitLimit
  rw [String.intercalate_singleton,
    tokenize_toString_of_digitLimit_lt (by rw [hcount]; exact Nat.lt_succ_self _), hcount]
  rfl

end StaticSite.Condition
