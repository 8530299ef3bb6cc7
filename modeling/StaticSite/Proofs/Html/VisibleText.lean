import Mathlib.Data.List.Basic
import StaticSite.Html.Reader
import StaticSite.Proofs.Html.Tags

/-!
# The text that a page shows

A page shows the text between its tags, with the character references in it resolved. A reference is
an ampersand and a name, with the semicolon where it has one; of several names that the text goes on
with, the longest counts. So a text is not resolved piece by piece: where it is cut, a reference may
reach across the cut (`References.Straddles`).

* `References.decode_append` says that the pieces are resolved as the whole is, if none does.
* `References.length_decode_append_lt` says that more is shown of the pieces otherwise.
* `References.visibleText` is the text of a page. A tag is a cut that no reference reaches across.
* `References.classic` are the references of the older standard.
-/

namespace StaticSite.Html

/-- **The references of a dialect**: the characters that the text behind an ampersand stands for. -/
structure References where
  chars? : List Char → Option (List Char)
  /-- The signs of markup are no parts of names. -/
  notMem : ∀ {name chars : List Char}, chars? name = some chars → ∀ c ∈ ['&', '<', '>'], c ∉ name
  /-- No name is shorter than what it stands for. -/
  length_le : ∀ {name chars : List Char}, chars? name = some chars → chars.length ≤ name.length
  /-- A name that begins with another stands for less than the other one with the signs behind. -/
  length_lt : ∀ {name more chars chars' : List Char}, chars? name = some chars →
    chars? (name ++ more) = some chars' → more ≠ [] → chars'.length < chars.length + more.length

/-! ### The longest name -/

/-- The longest name that a text begins with: how many characters it has, and what it stands for. -/
def longest? (chars? : List Char → Option (List Char)) : List Char → Option (Nat × List Char)
  | [] => (chars? []).map fun chars => (0, chars)
  | c :: cs =>
    match longest? (fun name => chars? (c :: name)) cs with
    | some (n, chars) => some (n + 1, chars)
    | none => (chars? []).map fun chars => (0, chars)

section

variable {chars? : List Char → Option (List Char)} {xs ys chars : List Char} {n : Nat}

theorem longest?_spec (h : longest? chars? xs = some (n, chars)) :
    n ≤ xs.length ∧ chars? (xs.take n) = some chars := by
  induction xs generalizing chars? n with
  | nil =>
    obtain ⟨_, hchars, heq⟩ := Option.map_eq_some_iff.mp h
    cases heq
    exact ⟨Nat.zero_le _, hchars⟩
  | cons x xs ih =>
    rw [longest?] at h
    split at h
    · next hlongest =>
      cases h
      obtain ⟨hle, hchars⟩ := ih hlongest
      exact ⟨Nat.succ_le_succ hle, hchars⟩
    · obtain ⟨_, hchars, heq⟩ := Option.map_eq_some_iff.mp h
      cases heq
      exact ⟨Nat.zero_le _, hchars⟩

theorem longest?_eq_none (h : ∀ name, chars? name = none) (cs : List Char) :
    longest? chars? cs = none := by
  induction cs generalizing chars? with
  | nil => rw [longest?, h]; rfl
  | cons c cs ih => rw [longest?, ih fun name => h (c :: name), h]; rfl

/-- Less text has no more names. -/
theorem longest?_eq_none_of_append (h : longest? chars? (xs ++ ys) = none) :
    longest? chars? xs = none := by
  induction xs generalizing chars? with
  | nil =>
    cases ys with
    | nil => exact h
    | cons y ys =>
      rw [List.nil_append, longest?] at h
      split at h
      · cases h
      · exact h
  | cons x xs ih =>
    rw [List.cons_append, longest?] at h
    split at h
    · cases h
    · next hnone =>
      rw [longest?, ih hnone]
      exact h

/-- A name that ends before the end of a text is the longest one, whatever follows. -/
theorem longest?_of_append (h : longest? chars? (xs ++ ys) = some (n, chars)) (hn : n ≤ xs.length) :
    longest? chars? xs = some (n, chars) := by
  induction xs generalizing chars? n with
  | nil =>
    obtain rfl := Nat.le_zero.mp hn
    have hchars : chars? [] = some chars := (longest?_spec h).2
    rw [longest?, hchars]
    rfl
  | cons x xs ih =>
    rw [List.cons_append, longest?] at h
    rw [longest?]
    split at h
    · next hlongest =>
      cases h
      rw [ih hlongest (Nat.le_of_succ_le_succ hn)]
    · next hnone =>
      rw [longest?_eq_none_of_append hnone]
      exact h

/-- No name goes on with a sign that is part of none. -/
theorem longest?_append_stop {stop : Char}
    (h : ∀ name chars, chars? name = some chars → stop ∉ name) (xs ys : List Char) :
    longest? chars? (xs ++ stop :: ys) = longest? chars? xs := by
  induction xs generalizing chars? with
  | nil =>
    have hnone : ∀ name, chars? (stop :: name) = none := fun name => by
      by_contra hsome
      obtain ⟨chars, hchars⟩ := Option.ne_none_iff_exists'.mp hsome
      exact h _ _ hchars List.mem_cons_self
    rw [List.nil_append, longest?.eq_2, longest?_eq_none hnone, longest?.eq_1]
  | cons x xs ih =>
    have htail : ∀ name chars, chars? (x :: name) = some chars → stop ∉ name :=
      fun name chars hchars => mt (List.mem_cons_of_mem x) (h _ chars hchars)
    rw [List.cons_append, longest?, ih htail, longest?]

end

namespace References

variable (R : References)

/-! ### Resolving references -/

/-- Resolves the references in a text, of which `skip` characters belong to one that has been
resolved. -/
def decodeFrom : Nat → List Char → List Char
  | _, [] => []
  | skip + 1, _ :: cs => decodeFrom skip cs
  | 0, c :: cs =>
    if c == '&' then
      match longest? R.chars? cs with
      | some (n, chars) => chars ++ decodeFrom n cs
      | none => c :: decodeFrom 0 cs
    else c :: decodeFrom 0 cs

/-- **A text with its references resolved.** -/
def decode (cs : List Char) : List Char := R.decodeFrom 0 cs

theorem decodeFrom_eq (n : Nat) (cs : List Char) : R.decodeFrom n cs = R.decode (cs.drop n) := by
  induction cs generalizing n with
  | nil => rw [List.drop_nil, decode, decodeFrom, decodeFrom]
  | cons c cs ih =>
    cases n with
    | zero => rfl
    | succ n => exact ih n

variable {R} {xs ys zs cs chars : List Char} {n : Nat}

theorem decode_cons {c : Char} (h : c ≠ '&') (cs : List Char) :
    R.decode (c :: cs) = c :: R.decode cs := by
  unfold decode
  rw [decodeFrom, if_neg (by simpa using h)]

theorem decode_reference (h : longest? R.chars? cs = some (n, chars)) :
    R.decode ('&' :: cs) = chars ++ R.decode (cs.drop n) := by
  rw [decode, decodeFrom, if_pos (beq_self_eq_true _), h, ← decodeFrom_eq]

theorem decode_ampersand (h : longest? R.chars? cs = none) :
    R.decode ('&' :: cs) = '&' :: R.decode cs := by
  rw [decode, decodeFrom, if_pos (beq_self_eq_true _), h]
  rfl

/-- Text without ampersands is shown as it is. -/
theorem decode_text_append (h : '&' ∉ xs) (ys : List Char) :
    R.decode (xs ++ ys) = xs ++ R.decode ys := by
  induction xs with
  | nil => rfl
  | cons x xs ih =>
    rw [List.mem_cons, not_or] at h
    rw [List.cons_append, decode_cons (Ne.symm h.1), ih h.2, List.cons_append]

theorem decode_text (h : '&' ∉ xs) : R.decode xs = xs := by
  have htext := decode_text_append (R := R) h []
  rwa [List.append_nil, show R.decode [] = [] from rfl, List.append_nil] at htext

/-! ### References across a cut -/

variable (R) in
/-- **A reference reaches across the place where two texts meet**: it begins in the first one, and
its name is longer than what the first one has of it. -/
def Straddles (xs ys : List Char) : Prop :=
  ∃ before name n chars, xs = before ++ '&' :: name ∧
    longest? R.chars? (name ++ ys) = some (n, chars) ∧ name.length < n

theorem Straddles.append_left (h : R.Straddles ys zs) (xs : List Char) :
    R.Straddles (xs ++ ys) zs := by
  obtain ⟨before, name, n, chars, rfl, hread, hlt⟩ := h
  exact ⟨xs ++ before, name, n, chars, (List.append_assoc ..).symm, hread, hlt⟩

/-- The name of such a reference, as far as it stands before the cut, holds no sign of markup. -/
theorem notMem_of_longest? {name : List Char}
    (hread : longest? R.chars? (name ++ ys) = some (n, chars)) (hlt : name.length < n) :
    ∀ c ∈ ['&', '<', '>'], c ∉ name := by
  intro c hc hmem
  refine R.notMem (longest?_spec hread).2 c hc ?_
  rw [List.take_append, List.take_of_length_le (Nat.le_of_lt hlt)]
  exact List.mem_append_left _ hmem

/-- **Pieces are resolved as the whole**, if no reference reaches across the cut. -/
theorem decode_append (h : ¬ R.Straddles xs ys) :
    R.decode (xs ++ ys) = R.decode xs ++ R.decode ys := by
  induction hlength : xs.length using Nat.strongRecOn generalizing xs with
  | _ k ih =>
    cases xs with
    | nil => rfl
    | cons c cs =>
      -- No reference reaches across the cut from further on either.
      have hdrop (n : Nat) : R.decode (cs.drop n ++ ys) = R.decode (cs.drop n) ++ R.decode ys := by
        refine ih _ ?_ (fun hstraddles => h ?_) rfl
        · rw [List.length_cons] at hlength
          rw [List.length_drop]
          omega
        · have hall := hstraddles.append_left (c :: cs.take n)
          rwa [List.cons_append, List.take_append_drop] at hall
      by_cases hc : c = '&'
      · subst hc
        rw [List.cons_append]
        cases hread : longest? R.chars? (cs ++ ys) with
        | none =>
          rw [decode_ampersand hread, decode_ampersand (longest?_eq_none_of_append hread)]
          exact congrArg ('&' :: ·) (hdrop 0)
        | some r =>
          obtain ⟨n, chars⟩ := r
          -- The reference that begins here ends before the cut.
          have hn : n ≤ cs.length := Nat.not_lt.mp fun hlt => h ⟨[], cs, n, chars, rfl, hread, hlt⟩
          rw [decode_reference hread, decode_reference (longest?_of_append hread hn),
            List.drop_append_of_le_length hn, hdrop n, List.append_assoc]
      · rw [List.cons_append, decode_cons hc, decode_cons hc]
        exact congrArg (c :: ·) (hdrop 0)

/-- An ampersand begins anew. -/
theorem decode_append_ampersand (xs cs : List Char) :
    R.decode (xs ++ '&' :: cs) = R.decode xs ++ R.decode ('&' :: cs) := by
  refine decode_append ?_
  rintro ⟨before, name, n, chars, -, hread, hlt⟩
  refine R.notMem (longest?_spec hread).2 '&' (by decide) ?_
  obtain ⟨k, hk⟩ := Nat.exists_eq_add_of_lt hlt
  rw [List.take_append, hk]
  exact List.mem_append_right _ (by simp [Nat.add_assoc, List.take_succ_cons])

/-- A reference shows less than what is left of it without the end of its name. -/
theorem length_lt_of_cut {name more : List Char} (hchars : R.chars? (name ++ more) = some chars)
    (hne : more ≠ []) : chars.length < (R.decode ('&' :: name)).length + more.length := by
  have hnot : '&' ∉ name := fun hmem =>
    R.notMem hchars '&' (by decide) (List.mem_append_left _ hmem)
  cases hname : longest? R.chars? name with
  | none =>
    have hle := R.length_le hchars
    rw [decode_ampersand hname, decode_text hnot, List.length_cons]
    rw [List.length_append] at hle
    omega
  | some r =>
    -- The beginning of the name may be a name by itself.
    obtain ⟨k, chars'⟩ := r
    have hk := (longest?_spec hname).2
    have hrest : '&' ∉ name.drop k := fun hmem => hnot (List.mem_of_mem_drop hmem)
    have hchars' : R.chars? (name.take k ++ (name.drop k ++ more)) = some chars := by
      rwa [← List.append_assoc, List.take_append_drop]
    have hlt := R.length_lt hk hchars' (by simp [hne])
    rw [decode_reference hname, decode_text hrest, List.length_append]
    rw [List.length_append] at hlt
    omega

/-- **More is shown of the pieces than of the whole**, if a reference reaches across the cut. -/
theorem length_decode_append_lt (h : R.Straddles xs ys) :
    (R.decode (xs ++ ys)).length < (R.decode xs).length + (R.decode ys).length := by
  obtain ⟨before, name, n, chars, rfl, hread, hlt⟩ := h
  obtain ⟨hn, hchars⟩ := longest?_spec hread
  -- What the second text has of the name, and the rest of the text.
  obtain ⟨more, rest, rfl, hmore⟩ :
      ∃ more rest, ys = more ++ rest ∧ more.length = n - name.length :=
    ⟨ys.take (n - name.length), ys.drop (n - name.length), (List.take_append_drop ..).symm, by
      rw [List.length_append] at hn
      rw [List.length_take]
      omega⟩
  have htake : (name ++ (more ++ rest)).take n = name ++ more := by
    rw [← List.append_assoc, List.take_left' (by rw [List.length_append]; omega)]
  have hdrop : (name ++ (more ++ rest)).drop n = rest := by
    rw [← List.append_assoc, List.drop_left' (by rw [List.length_append]; omega)]
  rw [htake] at hchars
  have hnot : '&' ∉ more := fun hmem =>
    R.notMem hchars '&' (by decide) (List.mem_append_right _ hmem)
  have hne : more ≠ [] := fun hnil => by
    rw [hnil, List.length_nil] at hmore
    omega
  have hshort := length_lt_of_cut hchars hne
  rw [List.append_assoc, List.cons_append, decode_append_ampersand, decode_append_ampersand,
    decode_reference hread, hdrop, decode_text_append hnot]
  simp only [List.length_append]
  omega

theorem length_decode_append_le (xs ys : List Char) :
    (R.decode (xs ++ ys)).length ≤ (R.decode xs).length + (R.decode ys).length := by
  by_cases h : R.Straddles xs ys
  · exact Nat.le_of_lt (length_decode_append_lt h)
  · exact Nat.le_of_eq (by rw [decode_append h, List.length_append])

/-- A reference that reaches beyond two texts begins in one of them. -/
theorem straddles_append (h : R.Straddles (xs ++ ys) zs) :
    R.Straddles xs (ys ++ zs) ∨ R.Straddles ys zs := by
  obtain ⟨before, name, n, chars, heq, hread, hlt⟩ := h
  rcases List.append_eq_append_iff.mp heq with ⟨more, rfl, rfl⟩ | ⟨more, rfl, hmore⟩
  · exact .inr ⟨more, name, n, chars, rfl, hread, hlt⟩
  · cases more with
    | nil => exact .inr ⟨[], name, n, chars, hmore.symm, hread, hlt⟩
    | cons c more =>
      rw [List.cons_append] at hmore
      obtain ⟨rfl, rfl⟩ := List.cons.inj hmore
      rw [List.append_assoc] at hread
      rw [List.length_append] at hlt
      exact .inl ⟨before, more, n, chars, rfl, hread, by omega⟩

/-- A text that is cut twice is resolved piece by piece, if no reference reaches across a cut. -/
theorem decode_pieces (hfirst : ¬ R.Straddles xs (ys ++ zs))
    (hsecond : ¬ R.Straddles (xs ++ ys) zs) :
    R.decode (xs ++ (ys ++ zs)) = R.decode xs ++ (R.decode ys ++ R.decode zs) := by
  rw [decode_append hfirst, decode_append fun h => hsecond (h.append_left xs)]

/-- More is shown of the three pieces, if a reference reaches across one of the cuts. -/
theorem length_decode_pieces_lt (h : R.Straddles xs (ys ++ zs) ∨ R.Straddles (xs ++ ys) zs) :
    (R.decode (xs ++ (ys ++ zs))).length <
      (R.decode xs).length + ((R.decode ys).length + (R.decode zs).length) := by
  rcases h.elim .inl straddles_append with hfirst | hsecond
  · have hlt := length_decode_append_lt hfirst
    have hle := length_decode_append_le (R := R) ys zs
    omega
  · have hle := length_decode_append_le (R := R) xs (ys ++ zs)
    have hlt := length_decode_append_lt hsecond
    omega

/-- Only the text behind the last end of a tag matters before a cut. -/
theorem straddles_behind_end : R.Straddles (xs ++ '>' :: ys) zs ↔ R.Straddles ys zs := by
  constructor
  -- A reference that straddles the cut has no end of a tag in it, and so stands behind the last
  -- one.
  · rintro ⟨before, name, n, chars, heq, hread, hlt⟩
    have hnot := notMem_of_longest? hread hlt '>' (by decide)
    rcases List.append_eq_append_iff.mp heq with ⟨more, -, hmore⟩ | ⟨more, -, hmore⟩
    · cases more with
      | nil => cases hmore
      | cons c more =>
        obtain ⟨-, rfl⟩ := List.cons.inj hmore
        exact ⟨more, name, n, chars, rfl, hread, hlt⟩
    · cases more with
      | nil => cases hmore
      | cons c more =>
        rw [(List.cons.inj hmore).2] at hnot
        simp at hnot
  · intro h
    rw [List.append_cons]
    exact h.append_left _

/-- Only the text up to the next tag matters behind a cut. -/
theorem straddles_leadText : R.Straddles xs ys ↔ R.Straddles xs (leadText ys) := by
  have hlongest (name : List Char) :
      longest? R.chars? (name ++ ys) = longest? R.chars? (name ++ leadText ys) := by
    have hys : leadText ys ++ ys.dropWhile (· != '<') = ys := List.takeWhile_append_dropWhile
    cases hrest : ys.dropWhile (· != '<') with
    | nil => rw [hrest, List.append_nil] at hys; rw [hys]
    | cons c rest =>
      have hc : (c != '<') = false := by
        have hhead := List.head?_dropWhile_not (· != '<') ys
        rw [hrest] at hhead
        simpa using hhead
      obtain rfl : c = '<' := by simpa using hc
      -- No name has a bracket, so that none goes on behind one.
      have hstop : ∀ name chars, R.chars? name = some chars → '<' ∉ name :=
        fun name chars hchars => R.notMem hchars '<' (by decide)
      rw [← longest?_append_stop hstop (name ++ leadText ys) rest, List.append_assoc, ← hrest, hys]
  unfold Straddles
  simp only [hlongest]

/-! ### Pages -/

/-- The text behind the end of a tag. -/
def behindTag (tag : List Char) : List Char := (tag.dropWhile (· != '>')).tail

variable (R) in
/-- **The text that a page shows**: what stands between its tags, with the references resolved. -/
def visibleText (page : List Char) : List Char :=
  R.decode (leadText page) ++ (tagTexts page).flatMap fun tag => R.decode (behindTag tag)

theorem behindTag_append {name : List Char} (h : '>' ∉ name) (text : List Char) :
    behindTag (name ++ '>' :: text) = text := by
  have hdrop : (name ++ '>' :: text).dropWhile (· != '>') = '>' :: text := dropWhile_bne_append h _
  unfold behindTag
  rw [hdrop, List.tail_cons]

/-! ### The older standard -/

/-- Whether a text names a reference: a number, or letters and digits. -/
def isReferenceName : List Char → Bool
  | '#' :: 'x' :: digits => !digits.isEmpty && digits.all isHexDigit
  | '#' :: 'X' :: digits => !digits.isEmpty && digits.all isHexDigit
  | '#' :: digits => !digits.isEmpty && digits.all Char.isDigit
  | name => name.all Char.isAlphanum

/-- The characters that a name with its semicolon stands for. -/
def closedCharacters? (cs : List Char) : Option (List Char) :=
  match cs.reverse with
  | ';' :: name =>
    if isReferenceName name.reverse then classicCharacters? name.reverse else none
  | _ => none

/-- The signs around names are of no class that names are made of. -/
theorem classes_of_mem_signs {c : Char} (hc : c ∈ [';', '&', '<', '>']) :
    isHexDigit c = false ∧ c.isDigit = false ∧ c.isAlphanum = false ∧
      c ≠ '#' ∧ c ≠ 'x' ∧ c ≠ 'X' := by
  simp only [List.mem_cons, List.not_mem_nil, or_false] at hc
  rcases hc with rfl | rfl | rfl | rfl <;> decide

theorem notMem_of_isReferenceName {name : List Char} (h : isReferenceName name = true) :
    ∀ c ∈ [';', '&', '<', '>'], c ∉ name := by
  have hall {isSign : Char → Bool} {signs : List Char} (hsigns : signs.all isSign = true)
      {c : Char} (hc : isSign c = false) : c ∉ signs := fun hmem => by
    rw [List.all_eq_true.mp hsigns c hmem] at hc
    cases hc
  intro c hc
  obtain ⟨hhex, hdigit, halphanum, hsign⟩ := classes_of_mem_signs hc
  unfold isReferenceName at h
  split at h
  · simp [hsign, hall (Bool.and_eq_true .. ▸ h).2 hhex]
  · simp [hsign, hall (Bool.and_eq_true .. ▸ h).2 hhex]
  · simp [hsign, hall (Bool.and_eq_true .. ▸ h).2 hdigit]
  · exact hall h halphanum

theorem closedCharacters?_eq_some {cs chars : List Char} (h : closedCharacters? cs = some chars) :
    ∃ name, cs = name ++ [';'] ∧ isReferenceName name = true ∧
      classicCharacters? name = some chars := by
  unfold closedCharacters? at h
  split at h
  · next name hname =>
    split at h
    · next hreference =>
      refine ⟨name.reverse, ?_, hreference, h⟩
      rw [← List.reverse_cons, ← hname, List.reverse_reverse]
    · cases h
  · cases h

/-- A name stands for one character at most. -/
theorem length_classicCharacters?_le {name chars : List Char}
    (h : classicCharacters? name = some chars) : chars.length ≤ 1 := by
  have hone (n : Nat) : (documentChar n).length ≤ 1 := by
    unfold documentChar
    split
    · exact Nat.le_refl 1
    · exact Nat.zero_le 1
  unfold classicCharacters? at h
  split at h
  · cases h; exact hone _
  · cases h; exact hone _
  · cases h; exact hone _
  · obtain ⟨n, -, rfl⟩ := Option.map_eq_some_iff.mp h
    exact hone n

/-- **The references of the older standard**, which end in semicolons. -/
def classic : References where
  chars? := closedCharacters?
  notMem := by
    intro name chars h c hc
    obtain ⟨name, rfl, hname, -⟩ := closedCharacters?_eq_some h
    have hsemicolon : c ≠ ';' := by
      rintro rfl
      exact absurd hc (by decide)
    rw [List.mem_append, List.mem_singleton, not_or]
    exact ⟨notMem_of_isReferenceName hname c (List.mem_cons_of_mem _ hc), hsemicolon⟩
  length_le := by
    intro name chars h
    obtain ⟨name, rfl, -, hchars⟩ := closedCharacters?_eq_some h
    have hle := length_classicCharacters?_le hchars
    rw [List.length_append, List.length_singleton]
    omega
  length_lt := by
    intro name more chars chars' h h' hmore
    -- A name ends with its only semicolon, so that none begins another one.
    obtain ⟨name, rfl, -, -⟩ := closedCharacters?_eq_some h
    obtain ⟨name', heq, hname', -⟩ := closedCharacters?_eq_some h'
    obtain ⟨more, last, rfl⟩ := (List.eq_nil_or_concat more).resolve_left hmore
    rw [List.concat_eq_append, ← List.append_assoc] at heq
    refine absurd ?_ (notMem_of_isReferenceName hname' ';' (by decide))
    rw [← (List.append_inj' heq rfl).1]
    simp

end References

end StaticSite.Html
