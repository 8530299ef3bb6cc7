import Mathlib.Data.List.Perm.Subperm
import Mathlib.Data.Set.Finite.Lattice
import Mathlib.Logic.Relation
import StaticSite.Proofs.Number.Order
import StaticSite.Proofs.Site.Files
import StaticSite.Proofs.Text.Digits
import StaticSite.Widget.Infographic

/-!
# The items of an infographic

The identifier of an item is searched for among the candidates of its base. A candidate that has
been seen gives way to the next one (`GivesWay`). The candidates differ from each other
(`candidate_injective`), so the search comes to an end whatever has been seen
(`wellFounded_givesWay`), and `unseen` is the candidate that it ends at (`exists_search`).

So no two items have the same identifier (`nodup_withDistinctIds`). Measures are rounded without
fail (`exists_percentage_mul`). But for their identifiers the items are those of the options of a
comparison, or of the ranges of a cost guide, each shown once and in order (`infographic_items`).
-/

namespace StaticSite.InfographicItem

variable {base : String} {seen : List String} {m n : Nat}

/-! ### The search for an identifier -/

/-- The decimal notation of a number is that of no other. -/
theorem toString_nat_injective : Function.Injective (toString : Nat → String) := by
  intro m n h
  have hdigits : Nat.toDigits 10 m = Nat.toDigits 10 n := by
    rw [← Nat.toList_repr, ← Nat.toList_repr]
    exact congrArg String.toList h
  rw [← Text.digitsValue_toDigits m, hdigits, Text.digitsValue_toDigits]

/-- **The candidates of a base differ from each other.** -/
theorem candidate_injective (base : String) : Function.Injective (candidate base) := by
  -- A numbered candidate is longer than the base, by the hyphen at least.
  have hnumbered : ∀ n, candidate base (n + 1) ≠ base := by
    intro n h
    have hhyphen : "-".length = 1 := rfl
    have hlength := congrArg String.length h
    rw [candidate, String.length_append, String.length_append] at hlength
    omega
  intro m n h
  cases m with
  | zero =>
    cases n with
    | zero => rfl
    | succ n => exact absurd h.symm (hnumbered n)
  | succ m =>
    cases n with
    | zero => exact absurd h (hnumbered m)
    | succ n => exact toString_nat_injective (by simpa [candidate] using h)

/-- **A step of the search**: a candidate that has been seen gives way to the next one. -/
def GivesWay (base : String) (seen : List String) (n m : Nat) : Prop :=
  candidate base n ∈ seen ∧ m = n + 1

/-- **The search comes to an end**: it cannot go on for ever, from no candidate. -/
theorem wellFounded_givesWay (base : String) (seen : List String) :
    WellFounded fun m n => GivesWay base seen n m := by
  have hfinite : {n | candidate base n ∈ seen}.Finite :=
    (List.finite_toSet seen).preimage (candidate_injective base).injOn
  obtain ⟨bound, hbound⟩ := hfinite.bddAbove
  -- The numbers of the candidates that have been seen are bounded, so the distance decreases.
  refine Subrelation.wf ?_ (measure fun n => bound + 1 - n).wf
  rintro m n ⟨hseen, rfl⟩
  have hle : n ≤ bound := hbound hseen
  show bound + 1 - (n + 1) < bound + 1 - n
  omega

/-- The search reaches a candidate if all the ones before have been seen. -/
theorem reflTransGen_givesWay_iff :
    Relation.ReflTransGen (GivesWay base seen) 0 n ↔ ∀ m < n, candidate base m ∈ seen := by
  constructor
  · intro h
    induction h with
    | refl => exact nofun
    | tail _ hstep ih =>
      obtain ⟨hseen, rfl⟩ := hstep
      intro m hm
      rcases Nat.lt_succ_iff_lt_or_eq.mp hm with hm | rfl
      · exact ih m hm
      · exact hseen
  · intro h
    induction n with
    | zero => exact .refl
    | succ n ih =>
      exact (ih fun m hm => h m (Nat.lt_succ_of_lt hm)).tail ⟨h n (Nat.lt_succ_self n), rfl⟩

/-- There are more candidates up to the number of what has been seen than have been seen. -/
theorem exists_candidate_notMem (base : String) (seen : List String) :
    ∃ n ≤ seen.length, candidate base n ∉ seen := by
  by_contra! hall
  have hsub : (List.range (seen.length + 1)).map (candidate base) ⊆ seen := by
    intro c hc
    obtain ⟨n, hn, rfl⟩ := List.mem_map.mp hc
    exact hall n (Nat.lt_succ_iff.mp (List.mem_range.mp hn))
  have hnodup := (List.nodup_range (n := seen.length + 1)).map (candidate_injective base)
  have hlength := (hnodup.subperm hsub).length_le
  rw [List.length_map, List.length_range] at hlength
  omega

/-- **What the search ends at.** -/
theorem exists_search (base : String) (seen : List String) :
    ∃ n ≤ seen.length, Relation.ReflTransGen (GivesWay base seen) 0 n ∧
      candidate base n ∉ seen ∧ unseen base seen = candidate base n := by
  obtain ⟨k, hk, hnew⟩ := exists_candidate_notMem base seen
  have hsome : ((List.range (seen.length + 1)).find?
      ((fun c => !seen.contains c) ∘ candidate base)).isSome := by
    rw [List.find?_isSome]
    exact ⟨k, List.mem_range.mpr (Nat.lt_succ_of_le hk), by simpa using hnew⟩
  obtain ⟨n, hn⟩ := Option.isSome_iff_exists.mp hsome
  obtain ⟨hnotMem, hmem, hbefore⟩ := List.find?_range_eq_some.mp hn
  refine ⟨n, Nat.lt_succ_iff.mp (List.mem_range.mp hmem),
    reflTransGen_givesWay_iff.mpr fun m hm => by simpa using hbefore m hm,
    by simpa using hnotMem, ?_⟩
  rw [unseen, List.find?_map, hn]
  rfl

/-! ### Distinct identifiers -/

/-- **Whether an item is another one but for its identifier**, which is a candidate of the
identifier of the other. -/
def Shows (item plain : InfographicItem) : Prop :=
  ∃ n, item = { plain with id := candidate plain.id n }

/-- The identifiers are new, and no two of them are the same. -/
theorem nodup_withDistinctIds (seen : List String) (items : List InfographicItem) :
    ((withDistinctIds seen items).map (·.id)).Nodup ∧
      ∀ i ∈ withDistinctIds seen items, i.id ∉ seen := by
  induction items generalizing seen with
  | nil => exact ⟨List.nodup_nil, nofun⟩
  | cons item items ih =>
    obtain ⟨n, -, -, hnew, hunseen⟩ := exists_search item.id seen
    obtain ⟨hnodup, hlater⟩ := ih (unseen item.id seen :: seen)
    rw [withDistinctIds]
    refine ⟨List.nodup_cons.mpr ⟨fun h => ?_, hnodup⟩, List.forall_mem_cons.mpr ⟨?_, ?_⟩⟩
    · obtain ⟨i, hi, hid⟩ := List.mem_map.mp h
      exact hlater i hi (hid ▸ List.mem_cons_self)
    · exact hunseen ▸ hnew
    · exact fun i hi hseen => hlater i hi (List.mem_cons_of_mem _ hseen)

/-- Each item is shown once, in order. -/
theorem forall₂_shows_withDistinctIds (seen : List String) (items : List InfographicItem) :
    List.Forall₂ Shows (withDistinctIds seen items) items := by
  induction items generalizing seen with
  | nil => exact .nil
  | cons item items ih =>
    obtain ⟨n, -, -, -, hunseen⟩ := exists_search item.id seen
    exact .cons ⟨n, congrArg (fun id => { item with id }) hunseen⟩ (ih _)

/-! ### Measures -/

/-- **Measures are rounded without fail**: a measure is a product, and a finite product has an
integer next to it. -/
theorem exists_percentage_mul {x y : Binary64} (h : (x * y).isFinite = true) :
    ∃ n, Arithmetic.roundHalfUp (x * y) = .ok n ∧
      percentage (x * y) = (max 0 (min 100 n)).toNat := by
  obtain ⟨n, hn⟩ := Binary64.exists_roundHalfUp_eq_ok (Binary64.inRange_mul x y) h
  refine ⟨n, hn, ?_⟩
  rw [percentage, if_pos h, hn]

theorem percentage_le (x : Binary64) : percentage x ≤ 100 := by
  unfold percentage
  split
  · split
    · omega
    · exact Nat.zero_le _
  · exact Nat.zero_le _

theorem metricValue_ofOption_le (c : Comparison) (o : ComparisonOption) :
    (ofOption c o).metricValue ≤ 100 := by
  show composite c.columns o ≤ 100
  unfold composite
  extract_lets number? numbers
  split
  · exact Nat.zero_le _
  · exact percentage_le _

theorem metricValue_ofRange_le (r : CostRange) : (ofRange r).metricValue ≤ 100 := by
  show position r ≤ 100
  unfold position
  split
  · exact percentage_le _
  · exact Nat.zero_le _

/-! ### The items of an article -/

/-- A comparison with options and columns has the items of its options. -/
theorem infographicItems_of_comparison {a : Article} {c : Comparison}
    (hc : a.payloads.comparison = some c) (hoptions : c.options ≠ []) (hcolumns : c.columns ≠ []) :
    infographicItems a = withDistinctIds [] (c.options.map (ofOption c)) := by
  have hsome : c.columns.isEmpty = false := List.isEmpty_eq_false_iff.mpr hcolumns
  unfold infographicItems
  rw [hc]
  simp [hsome, hoptions]

/-- Without such a comparison the items are those of the ranges of a cost guide. -/
theorem infographicItems_of_no_comparison {a : Article}
    (h : ∀ c, a.payloads.comparison = some c → c.options = [] ∨ c.columns = []) :
    infographicItems a =
      withDistinctIds [] (((a.payloads.costGuide.map (·.ranges)).getD []).map ofRange) := by
  unfold infographicItems
  cases hc : a.payloads.comparison with
  | none => rfl
  | some c => rcases h c hc with h | h <;> simp [h]

theorem metricValue_withDistinctIds_le {items : List InfographicItem} (seen : List String)
    (h : ∀ i ∈ items, i.metricValue ≤ 100) :
    ∀ i ∈ withDistinctIds seen items, i.metricValue ≤ 100 := by
  induction items generalizing seen with
  | nil => exact nofun
  | cons item items ih =>
    obtain ⟨hitem, hitems⟩ := List.forall_mem_cons.mp h
    exact List.forall_mem_cons.mpr ⟨hitem, ih _ hitems⟩

theorem metricValue_infographicItems_le (a : Article) :
    ∀ i ∈ infographicItems a, i.metricValue ≤ 100 := by
  -- The ranges of a cost guide are taken unless there is a comparison to be shown.
  by_cases h : ∃ c, a.payloads.comparison = some c ∧ c.options ≠ [] ∧ c.columns ≠ []
  · obtain ⟨c, hc, hoptions, hcolumns⟩ := h
    rw [infographicItems_of_comparison hc hoptions hcolumns]
    exact metricValue_withDistinctIds_le []
      (List.forall_mem_map.mpr fun o _ => metricValue_ofOption_le c o)
  · rw [infographicItems_of_no_comparison fun c hc => by
      by_contra! hne
      exact h ⟨c, hc, hne⟩]
    exact metricValue_withDistinctIds_le []
      (List.forall_mem_map.mpr fun r _ => metricValue_ofRange_le r)

/-- **The items of an infographic have distinct identifiers.** The search for an identifier comes
to an end for every base and whatever has been seen, at a candidate that is new, and rounding a
measure, which is a product, does not fail. The items have measures between 0 and 100, and are those
of the options of the comparison, if it has options and columns, or else those of the ranges of the
cost guide: one for each, in order, with a candidate of its base as the identifier. -/
theorem infographic_items :
    (∀ base seen, (WellFounded fun m n => GivesWay base seen n m) ∧
      ∃ n ≤ seen.length, Relation.ReflTransGen (GivesWay base seen) 0 n ∧
        candidate base n ∉ seen ∧ unseen base seen = candidate base n) ∧
    (∀ x y : Binary64, (x * y).isFinite = true → ∃ n, Arithmetic.roundHalfUp (x * y) = .ok n ∧
      percentage (x * y) = (max 0 (min 100 n)).toNat) ∧
    ∀ a : Article, ((infographicItems a).map (·.id)).Nodup ∧
      (∀ i ∈ infographicItems a, i.metricValue ≤ 100) ∧
      (∀ c, a.payloads.comparison = some c → c.options ≠ [] → c.columns ≠ [] →
        List.Forall₂ (fun i o => Shows i (ofOption c o)) (infographicItems a) c.options) ∧
      ((∀ c, a.payloads.comparison = some c → c.options = [] ∨ c.columns = []) →
        List.Forall₂ (fun i r => Shows i (ofRange r)) (infographicItems a)
          ((a.payloads.costGuide.map (·.ranges)).getD [])) := by
  refine ⟨fun base seen => ⟨wellFounded_givesWay base seen, exists_search base seen⟩,
    fun _ _ => exists_percentage_mul, fun a =>
    ⟨(nodup_withDistinctIds [] _).1, metricValue_infographicItems_le a,
      fun c hc hoptions hcolumns => ?_, fun h => ?_⟩⟩
  -- Either list of items is that of its sources, with the identifiers made distinct.
  · rw [infographicItems_of_comparison hc hoptions hcolumns]
    exact List.forall₂_map_right_iff.mp (forall₂_shows_withDistinctIds [] _)
  · rw [infographicItems_of_no_comparison h]
    exact List.forall₂_map_right_iff.mp (forall₂_shows_withDistinctIds [] _)

/-- Two plans of one name, and between them one that is named like a numbered plan. -/
def namesakes : Comparison where
  options := ["Plan", "Plan 1", "Plan"].map fun name =>
    { name, url := none, badge := none, scores := [("value", .number (.ofNat 4))] }
  columns := [{ key := "value", label := "Value", kind := .number, sortable := true }]
  defaultSort := none
  verdict := none

/-- The second plan of the name gets the first number that is free. -/
theorem infographic_items_of_namesakes :
    let a := bareWizard "plans"
    let a := { a with payloads := { a.payloads with comparison := some namesakes } }
    namesakes.options ≠ [] ∧ namesakes.columns ≠ [] ∧
      (infographicItems a).map (·.id) = ["plan", "plan-1", "plan-2"] ∧
      ((infographicItems a).map (·.id)).Nodup ∧
      List.Forall₂ (fun i o => Shows i (ofOption namesakes o)) (infographicItems a)
        namesakes.options := by
  intro _ a
  have hoptions : namesakes.options ≠ [] := by decide
  have hcolumns : namesakes.columns ≠ [] := by decide
  obtain ⟨hnodup, -, hshows, -⟩ := infographic_items.2.2 a
  exact ⟨hoptions, hcolumns, by decide +kernel, hnodup, hshows namesakes rfl hoptions hcolumns⟩

end StaticSite.InfographicItem
