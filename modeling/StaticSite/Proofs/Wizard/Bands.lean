import StaticSite.Proofs.Wizard.Scoring

/-!
# The completion score and the bands of scores

On exact numbers the completion score is the percentage of the required questions that are answered,
rounded to the nearest integer (`completionOf_eq`). So it lies between 0 and 100, it does not fall
when more questions are answered, and it is 100 when all steps are valid.

The score of a wizard is its weighted score, or its completion score if it has none, and either is
an integer from 0 to 100 (`exactScore_range`). Bands whose bounds are integers tile a range of
integers if each begins one above the end of the one before (`ScoreBand.Tile`). Then every integer
of the range lies in exactly one of them (`ScoreBand.Tile.exists_band`), and so does every score of
a wizard whose bands tile a range around 0 to 100 (`scores_are_percentages_in_one_band`).
-/

namespace StaticSite

namespace Wizard

open Condition (Answers)

variable {steps : List WizardStep} {answers : Answers}

/-! ### The completion score -/

/-- The required questions that are answered. -/
def answeredFields (steps : List WizardStep) (answers : Answers) : List WizardField :=
  (requiredFields steps).filter fun f => isAnswered (answers.lookup f.id)

/-- **How much of a wizard is completed**, in percent: the share of the required questions that are
answered, and all of it if there are none. -/
def completion (steps : List WizardStep) (answers : Answers) : Rat :=
  if requiredFields steps = [] then 100
  else (answeredFields steps answers).length / (requiredFields steps).length * 100

theorem length_requiredFields_pos (h : requiredFields steps ≠ []) :
    (0 : Rat) < (requiredFields steps).length :=
  Nat.cast_pos.mpr (List.length_pos_of_ne_nil h)

/-- **The completion score is the completion, rounded to the nearest integer.** -/
theorem completionOf_eq (steps : List WizardStep) (answers : Answers) :
    completionOf Exact steps answers = .ok (completion steps answers + 1 / 2).floor := by
  unfold completionOf completion
  by_cases h : requiredFields steps = []
  · have hhundred : ((100 : Rat) + 1 / 2).floor = 100 := by decide +kernel
    rw [if_pos h, hhundred]
    exact if_pos (List.isEmpty_iff.mpr h)
  · rw [if_neg h]
    refine (if_neg (mt List.isEmpty_iff.mp h)).trans ?_
    rw [Exact.ofNat_eq, Exact.ofNat_eq, percentage_rational (length_requiredFields_pos h).ne',
      roundScore_rational]
    rfl

theorem completion_range (steps : List WizardStep) (answers : Answers) :
    0 ≤ completion steps answers ∧ completion steps answers ≤ 100 := by
  unfold completion
  split
  · exact ⟨by decide, le_refl _⟩
  · next h =>
    have hpos := length_requiredFields_pos h
    have hle : ((answeredFields steps answers).length : Rat) ≤ (requiredFields steps).length :=
      Nat.cast_le.mpr (List.length_filter_le _ _)
    have hshare := (div_le_one₀ hpos).mpr hle
    exact ⟨mul_nonneg (div_nonneg (Nat.cast_nonneg _) hpos.le) (by decide), by linarith⟩

/-- Answers to more questions complete as much or more. -/
theorem completion_mono {a b : Answers}
    (h : ∀ f ∈ requiredFields steps, isAnswered (a.lookup f.id) = true →
      isAnswered (b.lookup f.id) = true) :
    completion steps a ≤ completion steps b := by
  unfold completion
  split
  · exact le_refl _
  · have hsub : (answeredFields steps a).length ≤ (answeredFields steps b).length := by
      unfold answeredFields
      rw [← List.countP_eq_length_filter, ← List.countP_eq_length_filter]
      exact List.countP_mono_left h
    have hle : ((answeredFields steps a).length : Rat) ≤ (answeredFields steps b).length :=
      Nat.cast_le.mpr hsub
    gcongr

theorem forall_stepIsValid_iff : (∀ s ∈ steps, stepIsValid s answers = true) ↔
    ∀ f ∈ requiredFields steps, isAnswered (answers.lookup f.id) = true := by
  simp only [stepIsValid, requiredFields, List.all_eq_true, List.mem_flatMap]
  constructor
  · rintro h f ⟨s, hs, hf⟩
    exact h s hs f hf
  · exact fun h s hs f hf => h f ⟨s, hs, hf⟩

/-- A wizard whose steps are all valid is completed. -/
theorem completion_eq_hundred (h : ∀ s ∈ steps, stepIsValid s answers = true) :
    completion steps answers = 100 := by
  have hall : answeredFields steps answers = requiredFields steps :=
    List.filter_eq_self.mpr (forall_stepIsValid_iff.mp h)
  unfold completion
  split
  · rfl
  · next hne => rw [hall, div_self (length_requiredFields_pos hne).ne', one_mul]

/-! ### The score of a wizard -/

/-- The score of a wizard on exact numbers. -/
def exactScore (w : Wizard) (answers : Answers) : Except ScoreError Int :=
  scoreOf (w.scoring.map (·.table.exact)) w.steps answers

/-- A table that is not for weighted scores gives none. -/
theorem weightedOf_of_method_ne {table : ScoreTable Exact} (h : table.method ≠ some .weighted)
    (answers : Answers) : weightedOf table answers = .ok none :=
  if_neg fun hc => h hc.1

/-- **A score is an integer from 0 to 100**, whichever way it is computed. -/
theorem exactScore_range {w : Wizard} {answers : Answers} {n : Int}
    (h : exactScore w answers = .ok n) : 0 ≤ n ∧ n ≤ 100 := by
  unfold exactScore scoreOf at h
  obtain ⟨score, hscore, h⟩ := exists_of_bind_eq_ok h
  -- A wizard without a score of its own has the completion for one.
  cases score with
  | none =>
    dsimp only at h
    rw [completionOf_eq] at h
    cases h
    exact floor_add_half_range (completion_range _ _)
  | some m =>
    cases h
    cases hscoring : w.scoring with
    | none =>
      rw [hscoring] at hscore
      cases hscore
    | some s =>
      rw [hscoring] at hscore
      by_cases hmethod : s.table.exact.method = some .weighted
      · exact weightedOf_range hmethod hscore
      · have hnone := hscore.symm.trans (weightedOf_of_method_ne hmethod answers)
        cases hnone

end Wizard

/-! ### Bands -/

namespace ScoreBand

/-- Whether a band reaches from one integer to another. -/
def Reaches (b : ScoreBand) (low high : Int) : Prop :=
  b.min.isFinite = true ∧ b.max.isFinite = true ∧ b.min.toRat = low ∧ b.max.toRat = high

instance (b : ScoreBand) (low high : Int) : Decidable (b.Reaches low high) :=
  inferInstanceAs (Decidable (_ ∧ _ ∧ _ ∧ _))

/-- Whether an integer lies between the bounds of a band. -/
def Contains (b : ScoreBand) (n : Int) : Prop := b.min.toRat ≤ n ∧ (n : Rat) ≤ b.max.toRat

/-- **Bands that tile a range of integers.** The first begins where the range does, each of the
others one above the end of the band before it, and the last ends where the range does. A band may
be empty; if one ended still further before its beginning, its neighbours would overlap. -/
def Tile : Int → List ScoreBand → Int → Prop
  | low, [], high => low = high + 1
  | low, b :: bands, high => ∃ mid, b.Reaches low mid ∧ low ≤ mid + 1 ∧ Tile (mid + 1) bands high

variable {b : ScoreBand} {bands : List ScoreBand} {low high n : Int}

theorem Reaches.contains_iff (h : b.Reaches low high) : b.Contains n ↔ low ≤ n ∧ n ≤ high := by
  obtain ⟨-, -, hmin, hmax⟩ := h
  rw [Contains, hmin, hmax, Int.cast_le, Int.cast_le]

theorem Tile.le (h : Tile low bands high) : low ≤ high + 1 := by
  induction bands generalizing low with
  | nil => exact le_of_eq h
  | cons b bands ih =>
    obtain ⟨mid, -, hmid, hrest⟩ := h
    exact hmid.trans (ih hrest)

/-- The bands of a tiling have finite bounds and lie within its range. -/
theorem Tile.of_mem (h : Tile low bands high) (hb : b ∈ bands) :
    b.min.isFinite = true ∧ b.max.isFinite = true ∧ (b.Contains n → low ≤ n ∧ n ≤ high) := by
  induction bands generalizing low with
  | nil => exact absurd hb List.not_mem_nil
  | cons c bands ih =>
    obtain ⟨mid, hreach, hmid, hrest⟩ := h
    have hend := hrest.le
    rcases List.mem_cons.mp hb with rfl | hb
    · refine ⟨hreach.1, hreach.2.1, fun hn => ?_⟩
      obtain ⟨hlow, hhigh⟩ := hreach.contains_iff.mp hn
      omega
    · obtain ⟨hmin, hmax, hbetween⟩ := ih hrest hb
      exact ⟨hmin, hmax, fun hn => by have := hbetween hn; omega⟩

/-- **Every integer of the range lies in exactly one band.** -/
theorem Tile.exists_band (h : Tile low bands high) (hlow : low ≤ n) (hhigh : n ≤ high) :
    ∃ before b after, bands = before ++ b :: after ∧ b.Contains n ∧
      ∀ c ∈ before ++ after, ¬ c.Contains n := by
  induction bands generalizing low with
  | nil =>
    have hempty : low = high + 1 := h
    omega
  | cons b bands ih =>
    obtain ⟨mid, hreach, hmid, hrest⟩ := h
    by_cases hn : n ≤ mid
    -- The first band has it, and all others begin above.
    · refine ⟨[], b, bands, rfl, hreach.contains_iff.mpr ⟨hlow, hn⟩, fun c hc hcn => ?_⟩
      have habove := ((hrest.of_mem hc).2.2 hcn).1
      omega
    · obtain ⟨before, c, after, rfl, hc, hothers⟩ := ih hrest (by omega)
      refine ⟨b :: before, c, after, rfl, hc, ?_⟩
      rw [List.cons_append, List.forall_mem_cons]
      exact ⟨fun hb => hn (hreach.contains_iff.mp hb).2, hothers⟩

end ScoreBand

namespace Wizard

open Condition (Answers)

theorem inRange_iff {low high : Binary64} {score : Rat} : inRange low high score = true ↔
    low.isFinite = true ∧ high.isFinite = true ∧ low.toRat ≤ score ∧ score ≤ high.toRat := by
  rw [inRange, Bool.and_eq_true, Bool.and_eq_true, Bool.and_eq_true, decide_eq_true_iff,
    decide_eq_true_iff, and_assoc, and_assoc]

/-- The band that is found is the first that contains the score. -/
theorem findBand_of_append {s : Scoring} {before after : List ScoreBand} {b : ScoreBand} {n : Int}
    (hbands : s.bands = before ++ b :: after)
    (hfinite : b.min.isFinite = true ∧ b.max.isFinite = true) (hb : b.Contains n)
    (hbefore : ∀ c ∈ before, ¬ c.Contains n) : findBand (some s) n = some b := by
  refine List.find?_eq_some_iff_append.mpr
    ⟨inRange_iff.mpr ⟨hfinite.1, hfinite.2, hb⟩, before, after, hbands, fun c hc => ?_⟩
  rw [Bool.not_eq_true', ← Bool.not_eq_true]
  exact fun hrange => hbefore c hc (inRange_iff.mp hrange).2.2

/-- **The scores of a wizard.** The completion score is the completion in percent, rounded to the
nearest integer, and so an integer from 0 to 100. It does not fall when all required questions that
were answered still are, and it is 100 when all steps are valid. If the bands of a wizard tile a
range around the scores, each score of the wizard lies in exactly one of them, and that one is
found. -/
theorem scores_are_percentages_in_one_band :
    (∀ steps,
      (∀ answers, ∃ n, completionOf Exact steps answers = .ok n ∧
        n = (completion steps answers + 1 / 2).floor ∧ 0 ≤ n ∧ n ≤ 100) ∧
      (∀ a b n m, completionOf Exact steps a = .ok n → completionOf Exact steps b = .ok m →
        (∀ f ∈ requiredFields steps, isAnswered (a.lookup f.id) = true →
          isAnswered (b.lookup f.id) = true) → n ≤ m) ∧
      ∀ answers, (∀ s ∈ steps, stepIsValid s answers = true) →
        completionOf Exact steps answers = .ok 100) ∧
    ∀ (w : Wizard) s low high answers n, w.scoring = some s → ScoreBand.Tile low s.bands high →
      low ≤ 0 → 100 ≤ high → exactScore w answers = .ok n →
      ∃ before b after, s.bands = before ++ b :: after ∧ b.Contains n ∧
        (∀ c ∈ before ++ after, ¬ c.Contains n) ∧ findBand w.scoring n = some b := by
  refine ⟨fun steps => ⟨fun answers => ?_, fun a b n m ha hb h => ?_, fun answers h => ?_⟩,
    fun w s low high answers n hscoring htile hlow hhigh hscore => ?_⟩
  · exact ⟨_, completionOf_eq steps answers, rfl, floor_add_half_range (completion_range _ _)⟩
  · rw [completionOf_eq] at ha hb
    cases ha
    cases hb
    exact floor_add_half_mono (completion_mono h)
  · have hhundred : ((100 : Rat) + 1 / 2).floor = 100 := by decide +kernel
    rw [completionOf_eq, completion_eq_hundred h, hhundred]
  -- The bands reach from below the score to above it, and no band before the one that holds it
  -- does.
  · obtain ⟨hzero, hhundred⟩ := exactScore_range hscore
    obtain ⟨before, b, after, hbands, hb, hothers⟩ :=
      htile.exists_band (hlow.trans hzero) (hhundred.trans hhigh)
    obtain ⟨hmin, hmax, -⟩ := htile.of_mem (n := n) (b := b) (by simp [hbands])
    have hbefore : ∀ c ∈ before, ¬ c.Contains n := fun c hc =>
      hothers c (List.mem_append_left _ hc)
    refine ⟨before, b, after, hbands, hb, hothers, ?_⟩
    rw [hscoring]
    exact findBand_of_append hbands ⟨hmin, hmax⟩ hb hbefore

/-- Three bands, of which the second holds one score. -/
def surveyBands : List ScoreBand :=
  [⟨.ofNat 0, .ofNat 49, "low", none⟩, ⟨.ofNat 50, .ofNat 50, "half", none⟩,
   ⟨.ofNat 51, .ofNat 100, "high", none⟩]

/-- A wizard with two required questions and these bands. -/
def surveyWizard : Wizard where
  steps :=
    [{ id := "house", title := "House", description := none, nextStep := none, branches := []
       fields :=
        [⟨"roof", .text, "Roof", [], true⟩, ⟨"walls", .text, "Walls", [], true⟩,
         ⟨"color", .text, "Color", [], false⟩] }]
  resultRules := []
  resultTemplate := .score
  collectLead := none
  scoring := some
    { table := { method := none, weights := [], valueMap := [] }
      bands := surveyBands
      outcomes := [] }

/-- The scores of a survey grow as it is filled in, and each has its band. -/
theorem half_survey_lies_in_one_band :
    let half : Answers := [("roof", .str "flat"), ("color", .str "red")]
    let full : Answers := [("walls", .str "brick"), ("roof", .str "slate")]
    ScoreBand.Tile 0 surveyBands 100 ∧
    completionOf Exact surveyWizard.steps half = .ok 50 ∧ (50 : Int) ≤ 100 ∧
      completionOf Exact surveyWizard.steps full = .ok 100 ∧
      exactScore surveyWizard half = .ok 50 ∧
      ∃ b, b.Contains 50 ∧ findBand surveyWizard.scoring (50 : Int) = some b := by
  intro half full
  have hhalf : completionOf Exact surveyWizard.steps half = .ok 50 := by decide +kernel
  have hvalid : ∀ s ∈ surveyWizard.steps, stepIsValid s full = true := by decide +kernel
  have hmore : ∀ f ∈ requiredFields surveyWizard.steps, isAnswered (half.lookup f.id) = true →
      isAnswered (full.lookup f.id) = true := by decide +kernel
  have hscore : exactScore surveyWizard half = .ok 50 := by decide +kernel
  obtain ⟨-, hmono, hfull⟩ := scores_are_percentages_in_one_band.1 surveyWizard.steps
  -- The bands end at 49, at 50 and at 100.
  have htile : ScoreBand.Tile 0 surveyBands 100 :=
    ⟨49, by decide +kernel, by decide, 50, by decide +kernel, by decide, 100, by decide +kernel,
      by decide, rfl⟩
  obtain ⟨-, b, -, -, hb, -, hfind⟩ := scores_are_percentages_in_one_band.2 surveyWizard _ 0 100
    half 50 rfl htile (le_refl _) (le_refl _) hscore
  exact ⟨htile, hhalf, hmono _ _ _ _ hhalf (hfull full hvalid) hmore, hfull full hvalid, hscore,
    b, hb, hfind⟩

end Wizard
end StaticSite
