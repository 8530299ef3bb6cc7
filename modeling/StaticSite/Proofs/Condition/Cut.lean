import StaticSite.Condition.Parser

/-!
# Cutting conditions into tokens

The tokens of a condition are read one step after the other, each step taking at least one
character. `IsCut cs ts` says so without fuel and without places: steps lead from the text `cs` to
its end, and their tokens are `ts`. This is what `tokenize` computes (`tokenize_eq_ok_iff`).

A step looks ahead, but not past a separator: a numeral, an operator or a word that ends where a
text ends also ends there if the text goes on with a separator, and the quote that closes a string
is found in the same place (`Reads.append`). So texts may be put together with a blank between them,
and the tokens are those of the parts (`IsCut.spaced`).
-/

namespace StaticSite.Condition

/-! ### Texts that go on -/

/-- **A text stands apart** from what is before it: it begins with a separator, or is empty. -/
def StandsApart (tail : List Char) : Prop := ∀ c ∈ tail.head?, isSeparator c = true

/-- A class has no separators. -/
def IsGapless (p : Char → Bool) : Prop := ∀ c, isSeparator c = true → p c = false

theorem standsApart_cons {c : Char} (hc : isSeparator c = true) (tail : List Char) :
    StandsApart (c :: tail) := fun _ h => Option.some.inj h ▸ hc

theorem isSeparator_iff {c : Char} :
    isSeparator c = true ↔ c = ' ' ∨ c = '\t' ∨ c = '\r' ∨ c = '\n' := by
  simp [isSeparator, or_assoc]

theorem isGapless_isDigit : IsGapless Text.isDigit := by
  intro c hc
  rcases isSeparator_iff.mp hc with rfl | rfl | rfl | rfl <;> decide

theorem isGapless_isNameChar : IsGapless isNameChar := by
  intro c hc
  rcases isSeparator_iff.mp hc with rfl | rfl | rfl | rfl <;> decide

variable {p : Char → Bool} {cs tail : List Char}

namespace StandsApart

theorem takeWhile_append (htail : StandsApart tail) (hp : IsGapless p) (cs : List Char) :
    (cs ++ tail).takeWhile p = cs.takeWhile p := by
  induction cs with
  | nil =>
    cases tail with
    | nil => rfl
    | cons c tail => exact List.takeWhile_cons_of_neg (by rw [hp c (htail c rfl)]; decide)
  | cons c cs ih => rw [List.cons_append, List.takeWhile_cons, List.takeWhile_cons, ih]

theorem dropWhile_append (htail : StandsApart tail) (hp : IsGapless p) (cs : List Char) :
    (cs ++ tail).dropWhile p = cs.dropWhile p ++ tail := by
  induction cs with
  | nil =>
    cases tail with
    | nil => rfl
    | cons c tail => exact List.dropWhile_cons_of_neg (by rw [hp c (htail c rfl)]; decide)
  | cons c cs ih =>
    rw [List.cons_append, List.dropWhile_cons, List.dropWhile_cons, ih]
    split <;> rfl

/-- A text that goes on does not get another beginning, unless that is a separator. -/
theorem append_ne_cons (htail : StandsApart tail) {a : Char} (ha : isSeparator a = false)
    (h : ∀ rest, cs ≠ a :: rest) (rest : List Char) : cs ++ tail ≠ a :: rest := by
  cases cs with
  | nil =>
    rintro rfl
    rw [htail a rfl] at ha
    cases ha
  | cons c cs =>
    intro heq
    obtain rfl := (List.cons.inj heq).1
    exact h cs rfl

theorem append_ne_cons_cons (htail : StandsApart tail) {a b : Char} (hb : isSeparator b = false)
    (hne : cs ≠ []) (h : ∀ rest, cs ≠ a :: b :: rest) (rest : List Char) :
    cs ++ tail ≠ a :: b :: rest := by
  cases cs with
  | nil => exact absurd rfl hne
  | cons c cs =>
    intro heq
    obtain ⟨rfl, heq'⟩ := List.cons.inj heq
    exact htail.append_ne_cons hb (fun rest hcs => h rest (congrArg _ hcs)) rest heq'

end StandsApart

/-! ### The readers of a step -/

/-- The integer that is read off digits; there must not be too many of them. -/
def integerOf (negative : Bool) (digits : List Char) : Except Fault Operand :=
  if digitLimit < digits.length then .error (.numeral digits.length)
  else .ok (.int (if negative then -(Text.digitsValue digits : Int) else Text.digitsValue digits))

/-- Digits are an integer unless a point comes next. -/
theorem scanNumeral_of_ne_point {negative : Bool} (hwhole : cs.takeWhile Text.isDigit ≠ [])
    (hpoint : ∀ more, cs.dropWhile Text.isDigit ≠ '.' :: more) :
    scanNumeral negative cs =
      some (integerOf negative (cs.takeWhile Text.isDigit), cs.dropWhile Text.isDigit) := by
  simp only [scanNumeral, integerOf, List.isEmpty_iff, if_neg hwhole]

theorem scanNumeral_append (htail : StandsApart tail) (negative : Bool) (cs : List Char) :
    scanNumeral negative (cs ++ tail) =
      (scanNumeral negative cs).map fun r => (r.1, r.2 ++ tail) := by
  have htake := htail.takeWhile_append isGapless_isDigit
  have hdrop := htail.dropWhile_append isGapless_isDigit
  by_cases hwhole : cs.takeWhile Text.isDigit = []
  · simp only [scanNumeral, htake, hwhole, List.isEmpty_nil, if_true]
    rfl
  by_cases hpoint : ∃ more, cs.dropWhile Text.isDigit = '.' :: more
  -- The digits behind a point are those that stand there in the text itself.
  · obtain ⟨more, hmore⟩ := hpoint
    simp only [scanNumeral, htake, hdrop, hmore, List.cons_append]
    split
    · rfl
    · split <;> rfl
  · have hpoint := not_exists.mp hpoint
    have hpoint' := htail.append_ne_cons rfl hpoint
    rw [← hdrop] at hpoint'
    rw [scanNumeral_of_ne_point hwhole hpoint, scanNumeral_of_ne_point (by rwa [htake]) hpoint',
      htake, hdrop]
    rfl

theorem scanNumber_of_unsigned (h : ∀ rest, cs ≠ '-' :: rest) :
    scanNumber cs = scanNumeral false cs := by
  unfold scanNumber
  split
  · exact absurd rfl (h _)
  · rfl

theorem scanNumber_append (htail : StandsApart tail) (cs : List Char) :
    scanNumber (cs ++ tail) = (scanNumber cs).map fun r => (r.1, r.2 ++ tail) := by
  by_cases hsign : ∃ rest, cs = '-' :: rest
  · obtain ⟨rest, rfl⟩ := hsign
    exact scanNumeral_append htail true rest
  · have hsign := not_exists.mp hsign
    rw [scanNumber_of_unsigned hsign, scanNumber_of_unsigned (htail.append_ne_cons rfl hsign),
      scanNumeral_append htail]

theorem scanOperator_append (htail : StandsApart tail) (hne : cs ≠ []) :
    scanOperator (cs ++ tail) = (scanOperator cs).map fun r => (r.1, r.2 ++ tail) := by
  fun_cases scanOperator cs with
  | case1 | case2 | case3 | case4 | case5 | case6 | case9 | case10 => rfl
  -- A sign that an equals sign would complete stays alone, as a separator follows.
  | case7 rest h =>
    have hnext := htail.append_ne_cons rfl h
    simp [scanOperator]
  | case8 rest h =>
    have hnext := htail.append_ne_cons rfl h
    simp [scanOperator]
  | case11 =>
    -- No operator begins the text, and what follows the text cannot complete one.
    unfold scanOperator
    split
    all_goals first
      | rfl
      | exact absurd ‹_› (htail.append_ne_cons_cons rfl hne ‹_› _)
      | exact absurd ‹_› (htail.append_ne_cons rfl ‹_› _)

/-! ### What the readers leave -/

/-- A run of characters that is not empty leaves less. -/
theorem length_dropWhile_lt (h : cs.takeWhile p ≠ []) : (cs.dropWhile p).length < cs.length := by
  have hlength := congrArg List.length (List.takeWhile_append_dropWhile (p := p) (l := cs))
  rw [List.length_append] at hlength
  have hpos := List.length_pos_iff.mpr h
  omega

theorem length_scanNumeral_lt {negative : Bool} {more : List Char} {o : Except Fault Operand}
    (h : scanNumeral negative cs = some (o, more)) : more.length < cs.length := by
  by_cases hwhole : cs.takeWhile Text.isDigit = []
  · simp [scanNumeral, hwhole] at h
  -- At least one digit is read, with or without a fraction behind it.
  have hlt := length_dropWhile_lt hwhole
  by_cases hpoint : ∃ rest, cs.dropWhile Text.isDigit = '.' :: rest
  · obtain ⟨rest, hrest⟩ := hpoint
    have hle := (List.dropWhile_suffix (p := Text.isDigit) (l := rest)).length_le
    rw [hrest, List.length_cons] at hlt
    simp only [scanNumeral, hrest, List.isEmpty_iff, if_neg hwhole] at h
    split at h
    · cases h
      rwa [List.length_cons]
    · cases h
      omega
  · rw [scanNumeral_of_ne_point hwhole (not_exists.mp hpoint)] at h
    cases h
    exact hlt

theorem length_scanNumber_lt {more : List Char} {o : Except Fault Operand}
    (h : scanNumber cs = some (o, more)) : more.length < cs.length := by
  unfold scanNumber at h
  split at h
  · exact Nat.lt_succ_of_lt (length_scanNumeral_lt h)
  · exact length_scanNumeral_lt h

theorem length_scanOperator_lt {more : List Char} {t : Token}
    (h : scanOperator cs = some (t, more)) : more.length < cs.length := by
  unfold scanOperator at h
  split at h
  all_goals cases h
  all_goals simp only [List.length_cons]; omega

/-! ### Steps -/

/-- A character that begins neither a gap between tokens nor a string. -/
def IsPlain (c : Char) : Prop := isSeparator c = false ∧ c ≠ '\'' ∧ c ≠ '"'

/-- **What a step reads** at the beginning of a text, and what is left of the text: a separator, a
string up to the next quote of its kind, a numeral, an operator, or a word, in this order. -/
inductive Reads : Char → List Char → List Token → List Char → Prop
  | separator {c : Char} {rest : List Char} (hc : isSeparator c = true) : Reads c rest [] rest
  | text {q : Char} {text rest : List Char} (hq : q = '\'' ∨ q = '"') (htext : q ∉ text) :
      Reads q (text ++ q :: rest) [.operand (.text (String.ofList text))] rest
  | number {c : Char} {rest more : List Char} {o : Operand} (hc : IsPlain c)
      (hnumber : scanNumber (c :: rest) = some (.ok o, more)) : Reads c rest [.operand o] more
  | operator {c : Char} {rest more : List Char} {t : Token} (hc : IsPlain c)
      (hnumber : scanNumber (c :: rest) = none)
      (hoperator : scanOperator (c :: rest) = some (t, more)) : Reads c rest [t] more
  | word {c : Char} {rest : List Char} {ts : List Token} (hc : IsPlain c)
      (hnumber : scanNumber (c :: rest) = none) (hoperator : scanOperator (c :: rest) = none)
      (hne : (c :: rest).takeWhile isNameChar ≠ [])
      (hword : wordTokens ((c :: rest).takeWhile isNameChar) = .ok ts) :
      Reads c rest ts ((c :: rest).dropWhile isNameChar)

/-- A text up to a character that it does not hold. -/
theorem takeWhile_dropWhile_bne {q : Char} {text : List Char} (htext : q ∉ text)
    (rest : List Char) :
    (text ++ q :: rest).takeWhile (· != q) = text ∧
      (text ++ q :: rest).dropWhile (· != q) = q :: rest := by
  have hne : ∀ c ∈ text, (c != q) = true := fun c hc =>
    bne_iff_ne.mpr fun heq => htext (heq ▸ hc)
  rw [List.takeWhile_append_of_pos hne, List.dropWhile_append_of_pos hne]
  simp

theorem isPlain_iff {c : Char} :
    IsPlain c ↔ isSeparator c = false ∧ (c == '\'' || c == '"') = false := by
  simp [IsPlain]

/-- **The steps that succeed** are those that read something. -/
theorem step_eq_ok_iff {total : Nat} {c : Char} {rest more : List Char} {ts : List Token} :
    step total c rest = .ok (ts, more) ↔ Reads c rest ts more := by
  constructor
  -- The readers are tried one after the other; those that were tried in vain are premises.
  · intro h
    simp only [step] at h
    split at h
    case isTrue hsep =>
      cases h
      exact .separator hsep
    case isFalse hsep =>
    split at h
    case isTrue hquote =>
      split at h
      case isTrue hclosed =>
        obtain ⟨text, after, rfl, htext⟩ :=
          List.eq_append_cons_of_mem (List.contains_iff_mem.mp hclosed)
        obtain ⟨htake, hdrop⟩ := takeWhile_dropWhile_bne htext after
        rw [htake, hdrop] at h
        cases h
        exact .text (by simpa using hquote) htext
      case isFalse => cases h
    case isFalse hquote =>
    have hc : IsPlain c :=
      isPlain_iff.mpr ⟨Bool.eq_false_iff.mpr hsep, Bool.eq_false_iff.mpr hquote⟩
    split at h
    case h_1 hnumber =>
      cases h
      exact .number hc hnumber
    case h_2 => cases h
    case h_3 hnumber =>
    split at h
    case h_1 hoperator =>
      cases h
      exact .operator hc hnumber hoperator
    case h_2 hoperator =>
    split at h
    case isTrue => cases h
    case isFalse hne =>
    split at h
    case h_1 hword =>
      cases h
      exact .word hc hnumber hoperator (fun hnil => hne (List.isEmpty_iff.mpr hnil)) hword
    case h_2 => cases h
  · intro h
    cases h with
    | separator hc => rw [step, if_pos hc]
    | @text text more hq htext =>
      have hsep : isSeparator c = false := by rcases hq with rfl | rfl <;> rfl
      have hquote : (c == '\'' || c == '"') = true := by rcases hq with rfl | rfl <;> rfl
      have hclosed : (text ++ c :: more).contains c = true :=
        List.contains_iff_mem.mpr (List.mem_append_right _ List.mem_cons_self)
      obtain ⟨htake, hdrop⟩ := takeWhile_dropWhile_bne htext more
      simp only [step, hsep, hquote, hclosed, htake, hdrop, if_true, Bool.false_eq_true, if_false,
        List.drop_one, List.tail_cons]
    | number hc hnumber =>
      obtain ⟨hsep, hquote⟩ := isPlain_iff.mp hc
      simp only [step, hsep, hquote, hnumber, Bool.false_eq_true, if_false]
    | operator hc hnumber hoperator =>
      obtain ⟨hsep, hquote⟩ := isPlain_iff.mp hc
      simp only [step, hsep, hquote, hnumber, hoperator, Bool.false_eq_true, if_false]
    | word hc hnumber hoperator hne hword =>
      obtain ⟨hsep, hquote⟩ := isPlain_iff.mp hc
      simp only [step, hsep, hquote, hnumber, hoperator, hword, List.isEmpty_iff, hne,
        Bool.false_eq_true, if_false]

namespace Reads

variable {c : Char} {rest more : List Char} {ts : List Token}

/-- **A step reads the same if a text goes on**, unless it goes on at once. -/
theorem append (h : Reads c rest ts more) (htail : StandsApart tail) :
    Reads c (rest ++ tail) ts (more ++ tail) := by
  have hne (cs : List Char) : c :: cs ≠ [] := List.cons_ne_nil _ _
  -- Each kind of step looks at the text up to where it stops; what stands apart from that changes
  -- neither what is tried first nor what is read.
  cases h with
  | separator hc => exact .separator hc
  | text hq htext =>
    rw [List.append_assoc, List.cons_append]
    exact .text hq htext
  | number hc hnumber =>
    refine .number hc ?_
    rw [← List.cons_append, scanNumber_append htail, hnumber]
    rfl
  | operator hc hnumber hoperator =>
    refine .operator hc ?_ ?_
    · rw [← List.cons_append, scanNumber_append htail, hnumber]
      rfl
    · rw [← List.cons_append, scanOperator_append htail (hne rest), hoperator]
      rfl
  | word hc hnumber hoperator hword hts =>
    have htake := htail.takeWhile_append isGapless_isNameChar (c :: rest)
    have hdrop := htail.dropWhile_append isGapless_isNameChar (c :: rest)
    rw [← hdrop]
    refine .word hc ?_ ?_ ?_ ?_
    · rw [← List.cons_append, scanNumber_append htail, hnumber]
      rfl
    · rw [← List.cons_append, scanOperator_append htail (hne rest), hoperator]
      rfl
    · rwa [← List.cons_append, htake]
    · rwa [← List.cons_append, htake]

/-- A step takes at least the character it begins with. -/
theorem length_le (h : Reads c rest ts more) : more.length ≤ rest.length := by
  cases h with
  | separator hc => exact Nat.le_refl _
  | text hq htext =>
    rw [List.length_append, List.length_cons]
    omega
  | number hc hnumber => exact Nat.le_of_lt_succ (length_scanNumber_lt hnumber)
  | operator hc hnumber hoperator => exact Nat.le_of_lt_succ (length_scanOperator_lt hoperator)
  | word hc hnumber hoperator hword hts =>
    exact Nat.le_of_lt_succ (length_dropWhile_lt hword)

end Reads

/-! ### All steps of a text -/

/-- **The tokens of a text.** Steps lead from the text to its end, and read these tokens. -/
inductive IsCut : List Char → List Token → Prop
  | nil : IsCut [] []
  | step {c : Char} {rest more : List Char} {ts us : List Token} (h : Reads c rest ts more)
      (hmore : IsCut more us) : IsCut (c :: rest) (ts ++ us)

theorem isCut_nil_iff {ts : List Token} : IsCut [] ts ↔ ts = [] :=
  ⟨fun h => by cases h; rfl, fun h => h ▸ .nil⟩

/-- As much fuel as there are characters leads to the end of a text. -/
theorem tokenizeFrom_eq_ok_iff {total fuel : Nat} {cs : List Char} {ts : List Token}
    (hf : cs.length ≤ fuel) : tokenizeFrom total fuel cs = .ok ts ↔ IsCut cs ts := by
  -- By induction on the fuel: a step takes a character (`Reads.length_le`), so the rest has enough.
  induction fuel generalizing cs ts with
  | zero =>
    obtain rfl : cs = [] := List.eq_nil_of_length_eq_zero (Nat.le_zero.mp hf)
    rw [tokenizeFrom, Except.ok.injEq, eq_comm, isCut_nil_iff]
  | succ fuel ih =>
    cases cs with
    | nil => rw [tokenizeFrom, Except.ok.injEq, eq_comm, isCut_nil_iff]
    | cons c rest =>
      rw [List.length_cons] at hf
      constructor
      · intro h
        rw [tokenizeFrom] at h
        split at h
        · cases h
        · next us more hstep =>
          have hreads := step_eq_ok_iff.mp hstep
          have hle := hreads.length_le
          split at h
          · cases h
          · next vs hmore =>
            cases h
            exact .step hreads ((ih (by omega)).mp hmore)
      · intro h
        cases h with
        | step hreads hmore =>
          have hle := hreads.length_le
          rw [tokenizeFrom, step_eq_ok_iff.mpr hreads]
          simp only [(ih (by omega)).mpr hmore]

theorem tokenize_eq_ok_iff {s : String} {ts : List Token} :
    tokenize s = .ok ts ↔ IsCut s.toList ts := tokenizeFrom_eq_ok_iff (Nat.le_refl _)

namespace IsCut

variable {cs ds : List Char} {ts us : List Token}

/-- The tokens of two texts, of which the second stands apart, are those of both. -/
theorem append (h : IsCut cs ts) (hd : StandsApart ds) (h' : IsCut ds us) :
    IsCut (cs ++ ds) (ts ++ us) := by
  -- By induction on the steps of the first text: each of them reads the same in both together.
  induction h with
  | nil => exact h'
  | step h hmore ih =>
    rw [List.append_assoc]
    exact .step (h.append hd) ih

/-- The tokens of texts with a blank between them. -/
theorem spaced (h : IsCut cs ts) (h' : IsCut ds us) : IsCut (cs ++ ' ' :: ds) (ts ++ us) := by
  have hblank : IsCut (' ' :: ds) ([] ++ us) := .step (.separator rfl) h'
  exact h.append (standsApart_cons rfl ds) hblank

end IsCut

/-- An operator is read as a whole: those of two characters are tried before those of one. -/
theorem isCut_operator {c : Char} {rest : List Char} {t : Token} (hc : IsPlain c)
    (hnumber : scanNumber (c :: rest) = none)
    (hoperator : scanOperator (c :: rest) = some (t, [])) : IsCut (c :: rest) [t] :=
  .step (.operator hc hnumber hoperator) .nil

theorem isCut_symbol (k : Connective) : IsCut k.symbol.toList [.connect k] := by
  cases k <;> exact isCut_operator (isPlain_iff.mpr ⟨rfl, rfl⟩) rfl rfl

end StaticSite.Condition
