import Mathlib.Data.List.Forall2
import StaticSite.Text.Case

/-!
# Letters regardless of case

Two characters match regardless of case if their classes are equal. A sign of markup matches nothing
but itself (`eq_of_sameLetter_lt`), and a letter matches its small letter
(`sameLetter_smallLetter`), since small letters are their own ones. So a text matches the same text
in small letters, letter by letter (`forall₂_sameLetter_lowerList`), except for a dotted capital I,
which becomes two characters.
-/

namespace StaticSite.Text

/-- The letters and digits of ASCII by their code points. -/
theorem toNat_of_isAlphanum {c : Char} (h : c.isAlphanum = true) :
    48 ≤ c.toNat ∧ c.toNat ≤ 57 ∨ 65 ≤ c.toNat ∧ c.toNat ≤ 90 ∨ 97 ≤ c.toNat ∧ c.toNat ≤ 122 := by
  have hread : c.isAlphanum = ((decide (c.val ≥ 65 ∧ c.val ≤ 90) ||
      (decide (c.val ≥ 97) && decide (c.val ≤ 122))) ||
      (decide (c.val ≥ 48) && decide (c.val ≤ 57))) := rfl
  simp only [hread, Bool.or_eq_true, Bool.and_eq_true, decide_eq_true_eq,
    UInt32.le_iff_toNat_le, ge_iff_le] at h
  change ((65 ≤ c.toNat ∧ c.toNat ≤ 90) ∨ (97 ≤ c.toNat ∧ c.toNat ≤ 122)) ∨
    (48 ≤ c.toNat ∧ c.toNat ≤ 57) at h
  omega

/-! ### Runs of letters -/

/-- The image of the first letter of a run. -/
def CaseRun.imageFirst (r : CaseRun) : Nat := ((r.first : Int) + r.shift).toNat

/-- The image of the last letter of a run. -/
def CaseRun.imageLast (r : CaseRun) : Nat := ((r.last : Int) + r.shift).toNat

/-- Whether the images of a run are seen to belong to no letter of another: they lie before it or
behind it, or they are the letters in between. -/
def CaseRun.misses (r s : CaseRun) : Bool :=
  Nat.blt r.imageLast s.first || Nat.blt s.last r.imageFirst ||
    ((r.step == 2 || r.first == r.last) && s.step == 2 && (r.imageFirst + s.first) % 2 == 1)

theorem CaseRun.image?_eq_some {r : CaseRun} {n m : Nat} (h : r.image? n = some m) :
    r.first ≤ n ∧ n ≤ r.last ∧ (n - r.first) % r.step = 0 ∧ ((n : Int) + r.shift).toNat = m := by
  unfold image? at h
  split at h
  · next hin =>
    simp only [Bool.and_eq_true, decide_eq_true_eq, beq_iff_eq] at hin
    exact ⟨hin.1.1, hin.1.2, hin.2, Option.some.inj h⟩
  · cases h

theorem CaseRun.image?_eq_none {r s : CaseRun} {n m : Nat} (h : r.misses s = true)
    (hpos : 0 ≤ (r.first : Int) + r.shift) (himage : r.image? n = some m) : s.image? m = none := by
  obtain ⟨hfirst, hlast, hstep, hm⟩ := image?_eq_some himage
  cases hs : s.image? m with
  | none => rfl
  | some k =>
    obtain ⟨hfirst', hlast', hstep', -⟩ := image?_eq_some hs
    unfold misses imageFirst imageLast at h
    simp only [Bool.or_eq_true, Bool.and_eq_true, Nat.blt_eq, beq_iff_eq] at h
    -- The image of one run lies before the other run, behind it, or between its letters.
    rcases h with (hbefore | hbehind) | ⟨⟨hrun, hrun'⟩, hodd⟩
    · omega
    · omega
    · rw [hrun'] at hstep'
      rcases hrun with hrun | hrun
      · rw [hrun] at hstep
        omega
      · omega

theorem smallRuns_pos : ∀ r ∈ smallRuns, 60 < (r.first : Int) + r.shift := by decide +kernel

/-! ### The sign of tags -/

theorem eq_of_ofNat_eq_lt {n : Nat} (h : Char.ofNat n = '<') : n = 60 := by
  by_cases hvalid : n.isValidChar
  · have hchar : Char.ofNat n = Char.ofNatAux n hvalid := dif_pos hvalid
    exact congrArg Char.toNat (hchar.symm.trans h)
  · have hchar : Char.ofNat n = '\x00' := dif_neg hvalid
    exact absurd (hchar.symm.trans h) (by decide)

/-- A sign that is no letter is the small letter of no other character. -/
theorem eq_of_smallLetter_eq_lt {c : Char} (h : smallLetter c = '<') : c = '<' := by
  have hascii : ∀ n < 0x80, (Char.ofNat n).toLower = '<' → Char.ofNat n = '<' := by decide +kernel
  unfold smallLetter at h
  split at h
  · next hc =>
    have hself : Char.ofNat c.toNat = c := Char.ofNat_toNat c
    rw [← hself] at h ⊢
    exact hascii c.toNat hc h
  · split at h
    · next n hn =>
      obtain ⟨r, hr, himage⟩ := List.exists_of_findSome?_eq_some hn
      have hshift := smallRuns_pos r hr
      have hin := CaseRun.image?_eq_some himage
      have hcode := eq_of_ofNat_eq_lt h
      omega
    · exact h

theorem eq_of_sameLetter_lt {c : Char} (h : sameLetter c '<' = true) : c = '<' := by
  have hvariants : ∀ p ∈ caseVariants, p.2 ≠ 60 := by decide +kernel
  have hclass : caseClass c = '<' := (eq_of_beq h).trans (by decide)
  unfold caseClass at hclass
  dsimp only at hclass
  split at hclass
  · exact eq_of_smallLetter_eq_lt hclass
  · split at hclass
    · next n hn =>
      obtain ⟨before, after, hmem, -⟩ := List.lookup_eq_some_iff.mp hn
      have hpair : ((smallLetter c).toNat, n) ∈ caseVariants := by
        rw [hmem]
        exact List.mem_append_right _ List.mem_cons_self
      exact absurd (eq_of_ofNat_eq_lt hclass) (hvariants _ hpair)
    · exact eq_of_smallLetter_eq_lt hclass

/-! ### Small letters -/

/-- No small letter has another small letter. -/
theorem applyRuns_eq_none {n m : Nat} (h : applyRuns smallRuns n = some m) :
    applyRuns smallRuns m = none := by
  have hmisses : (smallRuns.all fun r => smallRuns.all r.misses) = true := by decide +kernel
  obtain ⟨r, hr, himage⟩ := List.exists_of_findSome?_eq_some h
  have hpos := smallRuns_pos r hr
  refine List.findSome?_eq_none_iff.mpr fun s hs => CaseRun.image?_eq_none ?_ (by omega) himage
  exact List.all_eq_true.mp (List.all_eq_true.mp hmisses r hr) s hs

/-- The small letters within ASCII are those of ASCII. -/
theorem isLower_of_applyRuns {n m : Nat} (h : applyRuns smallRuns n = some m) (hm : m < 0x80) :
    0x61 ≤ m ∧ m ≤ 0x7A := by
  have hruns : (smallRuns.all fun r => Nat.blt 0x7F r.imageFirst ||
      (Nat.blt 0x60 r.imageFirst && Nat.blt r.imageLast 0x7B)) = true := by decide +kernel
  obtain ⟨r, hr, himage⟩ := List.exists_of_findSome?_eq_some h
  obtain ⟨hfirst, hlast, -, hshift⟩ := CaseRun.image?_eq_some himage
  have hrun := List.all_eq_true.mp hruns r hr
  simp only [Bool.or_eq_true, Bool.and_eq_true, Nat.blt_eq, CaseRun.imageFirst,
    CaseRun.imageLast] at hrun
  omega

/-- **A small letter is its own small letter.** -/
theorem smallLetter_smallLetter (c : Char) : smallLetter (smallLetter c) = smallLetter c := by
  have hascii : ∀ n < 0x80,
      smallLetter (Char.ofNat n).toLower = (Char.ofNat n).toLower := by decide +kernel
  have hsmall : ∀ n ≤ 0x7A, 0x61 ≤ n → smallLetter (Char.ofNat n) = Char.ofNat n := by
    decide +kernel
  -- A letter that is replaced either becomes a small one of the first range, or one that no run
  -- replaces again.
  by_cases hc : c.toNat < 0x80
  · have hlower : smallLetter c = c.toLower := if_pos hc
    have hself := hascii c.toNat hc
    rwa [Char.ofNat_toNat, ← hlower] at hself
  · cases hn : applyRuns smallRuns c.toNat with
    | none =>
      have hself : smallLetter c = c := by rw [smallLetter, if_neg hc, hn]
      rw [hself, hself]
    | some m =>
      have himage : smallLetter c = Char.ofNat m := by rw [smallLetter, if_neg hc, hn]
      rw [himage]
      by_cases hm : m < 0x80
      · obtain ⟨hfirst, hlast⟩ := isLower_of_applyRuns hn hm
        exact hsmall m hlast hfirst
      · by_cases hvalid : m.isValidChar
        · have hcode : (Char.ofNat m).toNat = m := by
            rw [Char.ofNat, dif_pos hvalid]
            rfl
          rw [smallLetter, hcode, if_neg hm, applyRuns_eq_none hn]
        · have hchar : Char.ofNat m = '\x00' := dif_neg hvalid
          rw [hchar]
          decide

/-- The small letters of an ASCII text are those of its characters. -/
theorem lowerFrom_eq_map {cs : List Char} (h : ∀ c ∈ cs, c.toNat < 0x80) (before : List Char) :
    lowerFrom before cs = cs.map Char.toLower := by
  induction cs generalizing before with
  | nil => rfl
  | cons c cs ih =>
    have hc := h c List.mem_cons_self
    rw [lowerFrom, ih fun d hd => h d (List.mem_cons_of_mem c hd), if_neg (by simp; omega),
      if_neg (by simp; omega), smallLetter, if_pos hc, List.map_cons, List.singleton_append]

theorem sameLetter_smallLetter (c : Char) : sameLetter (smallLetter c) c = true := by
  have hclass : caseClass (smallLetter c) = caseClass c := by
    unfold caseClass
    rw [smallLetter_smallLetter]
  exact beq_iff_eq.mpr hclass

/-- **A text matches its small letters**, unless it has a dotted capital I. -/
theorem forall₂_sameLetter_lowerFrom {cs : List Char} (h : ∀ c ∈ cs, c.toNat ≠ 0x130)
    (before : List Char) :
    List.Forall₂ (fun k c => sameLetter k c = true) (lowerFrom before cs) cs := by
  induction cs generalizing before with
  | nil => exact .nil
  | cons c cs ih =>
    rw [List.forall_mem_cons] at h
    rw [lowerFrom]
    split
    · next hc =>
      -- Both forms of a small sigma match the capital one.
      have hsigma : ∀ isFinal : Bool, sameLetter (Char.ofNat (if isFinal then 0x3C2 else 0x3C3))
          (Char.ofNat 0x3A3) = true := by decide +kernel
      have hself : Char.ofNat 0x3A3 = c := by rw [← beq_iff_eq.mp hc, Char.ofNat_toNat]
      rw [← hself]
      exact .cons (hsigma _) (ih h.2 _)
    · rw [if_neg (by simpa using h.1)]
      exact .cons (sameLetter_smallLetter c) (ih h.2 _)

theorem forall₂_sameLetter_lowerList {cs : List Char} (h : ∀ c ∈ cs, c.toNat ≠ 0x130) :
    List.Forall₂ (fun k c => sameLetter k c = true) (lowerList cs) cs :=
  forall₂_sameLetter_lowerFrom h []

end StaticSite.Text
