import Mathlib.Algebra.BigOperators.Ring.List
import Mathlib.Algebra.Order.BigOperators.Group.List
import Mathlib.Algebra.Order.Field.Rat
import Mathlib.Tactic.FieldSimp
import Mathlib.Tactic.Linarith
import StaticSite.Proofs.Condition.Outcome
import StaticSite.Wizard.Scoring

/-!
# The weighted score

On exact numbers the weighted score is the weighted mean of the points of the answers, rounded to
the nearest integer (`weightedOf_eq`). Only the weights that are finite and positive have a part in
it (`usable`), and the points of an answer lie between 0 and 100 (`points`), so the score does too,
and it grows with the points (`weighted_score_is_rounded_mean`).

An answer has no points if it is an integer beyond the range of double precision, or a list with an
entry that cannot be looked up in the table of values (`Unscorable`). Then there is no score at all.
-/

namespace StaticSite

/-! ### Exact numbers -/

namespace Exact

/-- The rational of the range from 0 to 100 that is nearest to an exact number. -/
def clamped : Exact → Rat
  | .nan => 100
  | .infinite true => 0
  | .infinite false => 100
  | .rational q => max 0 (min 100 q)

theorem clamped_nonneg (x : Exact) : 0 ≤ x.clamped := by
  cases x with
  | nan => decide
  | infinite s => cases s <;> decide
  | rational q => exact le_max_left _ _

theorem clamped_le (x : Exact) : x.clamped ≤ 100 := by
  cases x with
  | nan => exact le_refl _
  | infinite s => cases s <;> decide
  | rational q => exact max_le (by decide) (min_le_left _ _)

theorem clamp_eq (x : Exact) : Arithmetic.clamp x = .rational x.clamped := by
  cases x with
  | nan => rfl
  | infinite s => cases s <;> rfl
  | rational q =>
    have hhundred : ((100 : Nat) : Rat) = 100 := rfl
    have hzero : ((0 : Nat) : Rat) = 0 := rfl
    have hlow : (if Arithmetic.lt (rational q) (Arithmetic.ofNat 100) = true then rational q
        else Arithmetic.ofNat 100) = rational (min 100 q) := by
      rw [ofNat_eq, hhundred]
      split
      · next h => rw [min_eq_right (lt_rational_iff.mp h).le]
      · next h => rw [min_eq_left (not_lt.mp (mt lt_rational_iff.mpr h))]
    rw [Arithmetic.clamp, hlow, ofNat_eq, hzero, clamped]
    split
    · next h => rw [max_eq_right (lt_rational_iff.mp h).le]
    · next h => rw [max_eq_left (not_lt.mp (mt lt_rational_iff.mpr h))]

end Exact

/-- A table of scores on exact numbers. -/
def ScoreTable.exact (t : ScoreTable Binary64) : ScoreTable Exact where
  method := t.method
  weights := t.weights.map fun f => (f.1, .ofBinary64 f.2)
  valueMap := t.valueMap.map fun f => (f.1, f.2.map fun e => (e.1, .ofBinary64 e.2))

namespace Wizard

open Condition (Answers)

variable {table : ScoreTable Exact} {answers : Answers}

/-! ### Points -/

/-- **What an answer counts for**, between 0 and 100; nothing if there is none. -/
def points (table : ScoreTable Exact) (answers : Answers) (field : String) :
    Except ScoreError Rat :=
  (scoreValue table field (answers.lookup field)).map fun value => value.elim 0 Exact.clamped

theorem points_range {field : String} {p : Rat} (h : points table answers field = .ok p) :
    0 ≤ p ∧ p ≤ 100 := by
  unfold points at h
  cases hvalue : scoreValue table field (answers.lookup field) with
  | error e =>
    rw [hvalue] at h
    cases h
  | ok value =>
    rw [hvalue] at h
    cases h
    cases value with
    | none => exact ⟨le_refl _, by decide⟩
    | some x => exact ⟨x.clamped_nonneg, x.clamped_le⟩

/-- Whether a value is a list or an object, which cannot be looked up in a table of values. -/
def IsNested : Json → Prop
  | .arr _ => True
  | .obj _ => True
  | _ => False

/-- **An answer that has no points**: an integer beyond the range, and a list with a nested entry,
if there is a table to look up its entries in. -/
def Unscorable (values : List (String × Exact)) : Option Json → Prop
  | some (.int i) => Binary64.overflow ≤ i.natAbs
  | some (.arr items) => values ≠ [] ∧ ∃ v ∈ items, IsNested v
  | _ => False

theorem exists_mappedEntries_eq_ok_iff {values : List (String × Exact)} {items : List Json} :
    (∃ hits, mappedEntries values items = .ok hits) ↔ ∀ v ∈ items, ¬ IsNested v := by
  induction items with
  | nil => exact iff_of_true ⟨[], rfl⟩ fun _ h => nomatch h
  | cons v items ih =>
    rw [List.forall_mem_cons, ← ih]
    cases v with
    | arr | obj => exact iff_of_false (fun ⟨_, h⟩ => nomatch h) fun h => h.1 trivial
    | str s => exact exists_bind_pure_eq_ok_iff.trans (and_iff_right id).symm
    | null | bool | int | float => exact (and_iff_right id).symm

/-- **Which answers have points.** -/
theorem exists_points_eq_ok_iff {field : String} : (∃ p, points table answers field = .ok p) ↔
    ¬ Unscorable ((table.valueMap.lookup field).getD []) (answers.lookup field) := by
  unfold points
  rw [exists_map_eq_ok_iff]
  unfold scoreValue
  generalize (table.valueMap.lookup field).getD [] = values
  -- Two kinds of answers may fail: an integer beyond the range, and a list with an entry that
  -- cannot be looked up.
  cases answers.lookup field with
  | none => exact iff_of_true ⟨_, rfl⟩ id
  | some v =>
    cases v with
    | null | bool | float | obj => exact iff_of_true ⟨_, rfl⟩ id
    | int i =>
      rw [Unscorable, Nat.not_le, ← Condition.exists_widen_eq_ok_iff]
      dsimp only
      cases Condition.widen i with
      | error e => exact iff_of_false (fun ⟨_, h⟩ => nomatch h) fun ⟨_, h⟩ => nomatch h
      | ok x => exact iff_of_true ⟨_, rfl⟩ ⟨x, rfl⟩
    | str s =>
      refine iff_of_true ?_ id
      dsimp only
      cases values.lookup s with
      | some x => exact ⟨_, rfl⟩
      | none =>
        dsimp only
        split
        · exact ⟨_, rfl⟩
        · split <;> exact ⟨_, rfl⟩
    | arr items =>
      cases items with
      | nil => exact iff_of_true ⟨_, rfl⟩ fun h => nomatch h.2.choose_spec.1
      | cons v items =>
        dsimp only
        cases values with
        | nil => exact iff_of_true ⟨_, rfl⟩ fun h => h.1 rfl
        | cons entry values =>
          have hfind : ¬ Unscorable (entry :: values) (some (.arr (v :: items))) ↔
              ∃ hits, mappedEntries (entry :: values) (v :: items) = .ok hits := by
            rw [exists_mappedEntries_eq_ok_iff, Unscorable, and_iff_right (List.cons_ne_nil _ _)]
            simp only [not_exists, not_and]
          rw [hfind, if_neg (by simp)]
          cases mappedEntries (entry :: values) (v :: items) with
          | error e => exact iff_of_false (fun ⟨_, h⟩ => nomatch h) fun ⟨_, h⟩ => nomatch h
          | ok hits => cases hits <;> exact iff_of_true ⟨_, rfl⟩ ⟨_, rfl⟩

/-- The points of an answer, zero if it has none. -/
def pointsOrZero (table : ScoreTable Exact) (answers : Answers) (field : String) : Rat :=
  match points table answers field with
  | .ok p => p
  | .error _ => 0

theorem pointsOrZero_range (field : String) :
    0 ≤ pointsOrZero table answers field ∧ pointsOrZero table answers field ≤ 100 := by
  unfold pointsOrZero
  split
  · next p hp => exact points_range hp
  · exact ⟨le_refl _, by decide⟩

/-! ### The tally -/

/-- **The weights that have a part in the score**: those that are finite and positive. -/
def usable (weights : List (String × Exact)) : List (String × Rat) :=
  weights.filterMap fun f =>
    match f.2 with
    | .rational q => if 0 < q then some (f.1, q) else none
    | _ => none

/-- The sum of weights. -/
def weightSum (ws : List (String × Rat)) : Rat := (ws.map fun f => f.2).sum

/-- The sum of the weights, each times the points of its field. -/
def pointSum (table : ScoreTable Exact) (answers : Answers) (ws : List (String × Rat)) : Rat :=
  (ws.map fun f => f.2 * pointsOrZero table answers f.1).sum

theorem mem_usable_iff {weights : List (String × Exact)} {field : String} {q : Rat} :
    (field, q) ∈ usable weights ↔ (field, .rational q) ∈ weights ∧ 0 < q := by
  unfold usable
  rw [List.mem_filterMap]
  constructor
  · rintro ⟨⟨g, w⟩, hg, h⟩
    cases w with
    | nan | infinite => cases h
    | rational r =>
      dsimp only at h
      split at h <;> cases h
      exact ⟨hg, ‹_›⟩
  · rintro ⟨hg, hq⟩
    exact ⟨_, hg, if_pos hq⟩

theorem isUsable_rational_iff {q : Rat} : isUsable (Exact.rational q) = true ↔ 0 < q :=
  Exact.lt_rational_iff

theorem usable_cons_rational {q : Rat} (hq : 0 < q) (field : String)
    (weights : List (String × Exact)) :
    usable ((field, .rational q) :: weights) = (field, q) :: usable weights :=
  List.filterMap_cons_some (if_pos hq)

theorem usable_cons_of_not_isUsable {w : Exact} (hw : ¬ isUsable w = true) (field : String)
    (weights : List (String × Exact)) : usable ((field, w) :: weights) = usable weights := by
  refine List.filterMap_cons_none ?_
  cases w with
  | nan | infinite => rfl
  | rational q => exact if_neg (mt isUsable_rational_iff.mpr hw)

theorem isUsable_iff {w : Exact} : isUsable w = true ↔ ∃ q, w = .rational q ∧ 0 < q := by
  cases w with
  | nan | infinite => exact iff_of_false (fun h => nomatch h) fun ⟨_, h, _⟩ => nomatch h
  | rational q =>
    refine isUsable_rational_iff.trans ⟨fun hq => ⟨q, rfl, hq⟩, ?_⟩
    rintro ⟨r, hr, hq⟩
    cases hr
    exact hq

/-- A weight that is not usable is not counted. -/
theorem count_of_not_isUsable {t : Tally Exact} {field : String} {w : Exact}
    (h : ¬ isUsable w = true) : t.count table answers field w = .ok t := if_neg h

/-- A usable weight is counted with the points of its field. -/
theorem count_rational {total achieved q : Rat} {field : String} (hq : 0 < q) :
    Tally.count table answers ⟨.rational total, .rational achieved⟩ field (.rational q) =
      (points table answers field).map fun p =>
        ⟨.rational (total + q), .rational (achieved + q * (p / 100))⟩ := by
  rw [Tally.count, if_pos (isUsable_rational_iff.mpr hq), points]
  cases scoreValue table field (answers.lookup field) with
  | error e => rfl
  | ok value =>
    cases value with
    | none =>
      show Except.ok (Tally.mk (Exact.rational (total + q)) (Exact.rational achieved)) =
        .ok ⟨.rational (total + q), .rational (achieved + q * (0 / 100))⟩
      rw [zero_div, mul_zero, add_zero]
    | some x =>
      have hshare : share (Exact.rational q) x = .rational (q * (x.clamped / 100)) := by
        rw [share, Exact.clamp_eq, Exact.ofNat_eq, Exact.div_rational (by decide),
          Exact.mul_rational]
        rfl
      show Except.ok (Tally.mk (Exact.rational (total + q))
        (Arithmetic.add (.rational achieved) (share (.rational q) x))) = _
      rw [hshare]
      rfl

/-- **The tally adds up the usable weights and their points**, if all of them have points. -/
theorem tally_eq (weights : List (String × Exact)) (total achieved : Rat) :
    tally table answers weights ⟨.rational total, .rational achieved⟩ =
      ((usable weights).mapM fun f => points table answers f.1).map fun _ =>
        ⟨.rational (total + weightSum (usable weights)),
          .rational (achieved + pointSum table answers (usable weights) / 100)⟩ := by
  -- By induction on the weights, for any totals so far: the tally adds to them from the left.
  induction weights generalizing total achieved with
  | nil =>
    show Except.ok (Tally.mk (Exact.rational total) (Exact.rational achieved)) =
      .ok ⟨.rational (total + 0), .rational (achieved + 0 / 100)⟩
    rw [zero_div, add_zero, add_zero]
  | cons f weights ih =>
    obtain ⟨field, w⟩ := f
    rw [tally]
    by_cases hw : isUsable w = true
    · obtain ⟨q, rfl, hq⟩ := isUsable_iff.mp hw
      have hsum : weightSum ((field, q) :: usable weights) = q + weightSum (usable weights) :=
        List.sum_cons
      have hpoints : pointSum table answers ((field, q) :: usable weights) =
          q * pointsOrZero table answers field + pointSum table answers (usable weights) :=
        List.sum_cons
      rw [usable_cons_rational hq, List.mapM_cons, count_rational hq, hsum, hpoints, pointsOrZero]
      cases points table answers field with
      | error e => rfl
      | ok p =>
        have htotal : total + q + weightSum (usable weights) =
            total + (q + weightSum (usable weights)) := add_assoc _ _ _
        have hachieved : achieved + q * (p / 100) + pointSum table answers (usable weights) / 100 =
            achieved + (q * p + pointSum table answers (usable weights)) / 100 := by ring
        refine (ih (total + q) (achieved + q * (p / 100))).trans ?_
        rw [htotal, hachieved]
        cases (usable weights).mapM fun f => points table answers f.1 <;> rfl
    · rw [count_of_not_isUsable hw, usable_cons_of_not_isUsable hw]
      exact ih total achieved

/-! ### The score -/

theorem pos_of_mem_usable {weights : List (String × Exact)} {f : String × Rat}
    (hf : f ∈ usable weights) : 0 < f.2 := (mem_usable_iff.mp hf).2

theorem weightSum_pos {weights : List (String × Exact)} (hne : usable weights ≠ []) :
    0 < weightSum (usable weights) :=
  List.sum_pos _ (List.forall_mem_map.mpr fun _ hf => pos_of_mem_usable hf)
    (mt List.map_eq_nil_iff.mp hne)

theorem roundScore_rational (q : Rat) :
    roundScore (Exact.rational q) = .ok (q + 1 / 2).floor := by
  rw [roundScore, Exact.roundHalfUp_rational]

theorem percentage_rational {part whole : Rat} (hwhole : whole ≠ 0) :
    percentage (Exact.rational part) (.rational whole) = .rational (part / whole * 100) := by
  rw [percentage, Exact.div_rational hwhole, Exact.ofNat_eq, Exact.mul_rational]
  rfl

/-- **The weighted mean of the points** of the fields with a usable weight. -/
def weightedMean (table : ScoreTable Exact) (answers : Answers) : Rat :=
  pointSum table answers (usable table.weights) / weightSum (usable table.weights)

/-- **The weighted score is the weighted mean of the points, rounded to the nearest integer**, if
all fields with a usable weight have points. -/
theorem weightedOf_eq (hmethod : table.method = some .weighted) (answers : Answers) :
    weightedOf table answers =
      ((usable table.weights).mapM fun f => points table answers f.1).map fun _ =>
        if usable table.weights = [] then none
        else some (weightedMean table answers + 1 / 2).floor := by
  have htally : tally table answers table.weights ⟨Arithmetic.ofNat 0, Arithmetic.ofNat 0⟩ = _ :=
    tally_eq table.weights 0 0
  unfold weightedOf
  by_cases hweights : table.weights = []
  · rw [if_neg (by simp [hweights]), hweights]
    rfl
  rw [if_pos ⟨hmethod, by simpa using hweights⟩, htally]
  cases (usable table.weights).mapM fun f => points table answers f.1 with
  | error e => rfl
  | ok ps =>
    -- Without a usable weight the total is zero, and there is no score.
    by_cases hne : usable table.weights = []
    · have hzero : ¬ Arithmetic.lt (Arithmetic.ofNat 0)
          (Exact.rational (0 + weightSum (usable table.weights))) = true := by
        rw [hne]
        exact mt Exact.lt_rational_iff.mp (by simp [weightSum])
      rw [if_pos hne]
      exact if_neg hzero
    · have hpos := weightSum_pos hne
      have hlt : Arithmetic.lt (Arithmetic.ofNat 0)
          (Exact.rational (0 + weightSum (usable table.weights))) = true :=
        Exact.lt_rational_iff.mpr (by rw [zero_add]; exact hpos)
      have hmean : (0 + pointSum table answers (usable table.weights) / 100) /
          (0 + weightSum (usable table.weights)) * 100 = weightedMean table answers := by
        rw [zero_add, zero_add, weightedMean]
        field_simp
      rw [if_neg hne]
      refine (if_pos hlt).trans ?_
      rw [percentage_rational (by rw [zero_add]; exact hpos.ne'), hmean, roundScore_rational]
      rfl

/-- What is known of a score: some weight is usable, and the fields with one have points. -/
theorem weightedOf_eq_ok_some {n : Int} (hmethod : table.method = some .weighted)
    (h : weightedOf table answers = .ok (some n)) :
    usable table.weights ≠ [] ∧
    (∀ f ∈ usable table.weights, ∃ p, points table answers f.1 = .ok p) ∧
    n = (weightedMean table answers + 1 / 2).floor := by
  rw [weightedOf_eq hmethod] at h
  cases hpoints : (usable table.weights).mapM fun f => points table answers f.1 with
  | error e =>
    rw [hpoints] at h
    cases h
  | ok ps =>
    rw [hpoints] at h
    have h := Except.ok.inj h
    split at h
    · cases h
    · next hne =>
      cases h
      exact ⟨hne, exists_mapM_eq_ok_iff.mp ⟨ps, hpoints⟩, rfl⟩

/-! ### Bounds and growth -/

/-- A percentage, rounded to the nearest integer, is one. -/
theorem floor_add_half_range {p : Rat} (h : 0 ≤ p ∧ p ≤ 100) :
    0 ≤ (p + 1 / 2).floor ∧ (p + 1 / 2).floor ≤ 100 := by
  have hzero : ((0 : Rat) + 1 / 2).floor = 0 := by decide +kernel
  have hhundred : ((100 : Rat) + 1 / 2).floor = 100 := by decide +kernel
  exact ⟨hzero ▸ floor_add_half_mono h.1, hhundred ▸ floor_add_half_mono h.2⟩

theorem pointSum_mono {a b : Answers} {ws : List (String × Rat)} (hpos : ∀ f ∈ ws, 0 < f.2)
    (h : ∀ f ∈ ws, pointsOrZero table a f.1 ≤ pointsOrZero table b f.1) :
    pointSum table a ws ≤ pointSum table b ws :=
  List.sum_le_sum fun f hf => mul_le_mul_of_nonneg_left (h f hf) (hpos f hf).le

theorem pointSum_nonneg {ws : List (String × Rat)} (hpos : ∀ f ∈ ws, 0 < f.2) :
    0 ≤ pointSum table answers ws :=
  List.sum_nonneg (List.forall_mem_map.mpr fun f hf =>
    mul_nonneg (hpos f hf).le (pointsOrZero_range f.1).1)

theorem pointSum_le {ws : List (String × Rat)} (hpos : ∀ f ∈ ws, 0 < f.2) :
    pointSum table answers ws ≤ weightSum ws * 100 := by
  rw [weightSum, ← List.sum_map_mul_right]
  exact List.sum_le_sum fun f hf =>
    mul_le_mul_of_nonneg_left (pointsOrZero_range f.1).2 (hpos f hf).le

/-- The mean of points that lie between 0 and 100 does too. -/
theorem weightedMean_range (hne : usable table.weights ≠ []) :
    0 ≤ weightedMean table answers ∧ weightedMean table answers ≤ 100 := by
  have hpos := weightSum_pos hne
  unfold weightedMean
  constructor
  · exact div_nonneg (pointSum_nonneg fun _ => pos_of_mem_usable) hpos.le
  · rw [div_le_iff₀ hpos, mul_comm]
    exact pointSum_le fun _ => pos_of_mem_usable

/-- A score lies between 0 and 100. -/
theorem weightedOf_range {n : Int} (hmethod : table.method = some .weighted)
    (h : weightedOf table answers = .ok (some n)) : 0 ≤ n ∧ n ≤ 100 := by
  obtain ⟨hne, -, rfl⟩ := weightedOf_eq_ok_some hmethod h
  exact floor_add_half_range (weightedMean_range hne)

/-- Answers that count for as much or more do not lower the score. -/
theorem weightedOf_mono {a b : Answers} {n m : Int} (hmethod : table.method = some .weighted)
    (ha : weightedOf table a = .ok (some n)) (hb : weightedOf table b = .ok (some m))
    (h : ∀ f ∈ usable table.weights, ∀ p q, points table a f.1 = .ok p →
      points table b f.1 = .ok q → p ≤ q) : n ≤ m := by
  obtain ⟨hne, hpa, rfl⟩ := weightedOf_eq_ok_some hmethod ha
  obtain ⟨-, hpb, rfl⟩ := weightedOf_eq_ok_some hmethod hb
  refine floor_add_half_mono (div_le_div_of_nonneg_right ?_ (weightSum_pos hne).le)
  refine pointSum_mono (fun _ => pos_of_mem_usable) fun f hf => ?_
  obtain ⟨p, hp⟩ := hpa f hf
  obtain ⟨q, hq⟩ := hpb f hf
  rw [pointsOrZero, pointsOrZero, hp, hq]
  exact h f hf p q hp hq

/-! ### What has no part in the score -/

theorem points_congr {table' : ScoreTable Exact} {a b : Answers} {field : String}
    (hvalues : table'.valueMap = table.valueMap) (h : a.lookup field = b.lookup field) :
    points table a field = points table' b field := by
  unfold points scoreValue
  rw [hvalues, h]

/-- Only usable weights and the answers to their fields have a part in the score. -/
theorem weightedOf_congr {table' : ScoreTable Exact} {a b : Answers}
    (hmethod : table.method = some .weighted) (hmethod' : table'.method = some .weighted)
    (hvalues : table'.valueMap = table.valueMap)
    (husable : usable table'.weights = usable table.weights)
    (h : ∀ f ∈ usable table.weights, a.lookup f.1 = b.lookup f.1) :
    weightedOf table a = weightedOf table' b := by
  have hpoints (f : String × Rat) (hf : f ∈ usable table.weights) :
      points table a f.1 = points table' b f.1 := points_congr hvalues (h f hf)
  have hmean : weightedMean table a = weightedMean table' b := by
    have hsum : pointSum table a (usable table.weights) =
        pointSum table' b (usable table.weights) := by
      refine congrArg List.sum (List.map_congr_left fun f hf => ?_)
      rw [pointsOrZero, pointsOrZero, hpoints f hf]
    rw [weightedMean, weightedMean, husable, hsum]
  rw [weightedOf_eq hmethod, weightedOf_eq hmethod', husable, hmean, mapM_congr_of_mem hpoints]

theorem usable_eq_nil_iff {weights : List (String × Exact)} :
    usable weights = [] ↔ ∀ f ∈ weights, ∀ q, f.2 = .rational q → q ≤ 0 := by
  rw [List.eq_nil_iff_forall_not_mem]
  constructor
  · rintro h ⟨field, w⟩ hf q rfl
    exact not_lt.mp fun hq => h _ (mem_usable_iff.mpr ⟨hf, hq⟩)
  · rintro h ⟨field, q⟩ hf
    obtain ⟨hmem, hq⟩ := mem_usable_iff.mp hf
    exact hq.not_ge (h _ hmem q rfl)

theorem weightedOf_eq_ok_none_iff (hmethod : table.method = some .weighted) :
    weightedOf table answers = .ok none ↔ usable table.weights = [] := by
  rw [weightedOf_eq hmethod]
  constructor
  · intro h
    cases hpoints : (usable table.weights).mapM fun f => points table answers f.1 with
    | error e =>
      rw [hpoints] at h
      cases h
    | ok ps =>
      rw [hpoints] at h
      by_contra hne
      have h := Except.ok.inj h
      rw [if_neg hne] at h
      cases h
  · intro h
    rw [if_pos h, h]
    rfl

theorem points_of_unanswered {field : String} (h : answers.lookup field = none) :
    points table answers field = .ok 0 := by
  rw [points, h]
  rfl

/-- A scoring of one field, one of whose choices counts for ten. -/
def roofScoring : Scoring where
  table :=
    { method := some .weighted
      weights := [("roof", .ofNat 1), ("color", .ofNat 0)]
      valueMap := [("roof", [("flat", .ofNat 10)])] }
  bands := []
  outcomes := []

end Wizard
end StaticSite
