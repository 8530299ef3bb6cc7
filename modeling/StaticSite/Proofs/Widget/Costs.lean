import Mathlib.Algebra.Order.BigOperators.Group.List
import Mathlib.Data.List.Pairwise
import Mathlib.Data.List.TakeWhile
import StaticSite.Proofs.Number.Order
import StaticSite.Widget.Costs

/-!
# Ranges of dollar amounts

A dollar amount is a dollar sign with a run of digits and commas behind it that has a digit
(`IsAmountAt`). The amounts of a text are those of all its places, from the left
(`listsAmounts_amounts`).

On exact numbers the range of a text depends on its amounts alone, and not on their order
(`exactSpan?_eq`). Their mean lies between the least and the greatest, which are whole numbers,
so rounding does not take the average out of the range (`average_range`,
`span_of_dollar_amounts`).
-/

namespace StaticSite

variable {cs run after : List Char} {place start value : Nat} {ns : List Nat}

/-! ### Amounts in a text -/

/-- **The amount at a place of a text.** There stands a dollar sign, and behind it a run of digits
and commas, as long as can be, with a digit in it. The commas do not count. -/
def IsAmountAt (cs : List Char) (place value : Nat) : Prop :=
  ∃ before run after, cs = before ++ '$' :: (run ++ after) ∧ before.length = place ∧
    (∀ c ∈ run, isAmountChar c = true) ∧ (∀ c ∈ after.head?, isAmountChar c = false) ∧
    (∃ c ∈ run, Text.isDigit c = true) ∧ value = Text.digitsValue run

/-- **A list of the amounts of a text**, one for each place that has one, from the left. -/
def ListsAmounts (cs : List Char) (ns : List Nat) : Prop :=
  ∃ found : List (Nat × Nat), found.Pairwise (fun a b => a.1 < b.1) ∧
    (∀ place value, (place, value) ∈ found ↔ IsAmountAt cs place value) ∧
    ns = found.map Prod.snd

/-- The commas among digits do not change their value. -/
theorem digitsValue_filter_comma (cs : List Char) :
    Text.digitsValue (cs.filter (· != ',')) = Text.digitsValue cs := by
  unfold Text.digitsValue
  rw [List.foldl_filter]
  refine List.foldl_ext _ _ _ fun n c _ => ?_
  by_cases hc : c = ','
  · subst hc
    rfl
  · exact if_pos (bne_iff_ne.mpr hc)

/-- In a run of digits and commas, what is not a comma is a digit. -/
theorem filter_comma_ne_nil_iff (hrun : ∀ c ∈ run, isAmountChar c = true) :
    run.filter (· != ',') ≠ [] ↔ ∃ c ∈ run, Text.isDigit c = true := by
  rw [Ne, List.filter_eq_nil_iff, not_forall]
  constructor
  · rintro ⟨c, hc⟩
    obtain ⟨hmem, hne⟩ := Classical.not_imp.mp hc
    rw [not_not, bne_iff_ne] at hne
    exact ⟨c, hmem, (Bool.or_eq_true_iff.mp (hrun c hmem)).resolve_left (mt beq_iff_eq.mp hne)⟩
  · rintro ⟨c, hmem, hdigit⟩
    refine ⟨c, Classical.not_imp.mpr ⟨hmem, not_not.mpr (bne_iff_ne.mpr ?_)⟩⟩
    rintro rfl
    exact absurd hdigit (by decide)

/-- **What is read behind a dollar sign.** -/
theorem amountAfter?_eq_some_iff : amountAfter? cs = some value ↔
    ∃ run after, cs = run ++ after ∧ (∀ c ∈ run, isAmountChar c = true) ∧
      (∀ c ∈ after.head?, isAmountChar c = false) ∧ (∃ c ∈ run, Text.isDigit c = true) ∧
      value = Text.digitsValue run := by
  unfold amountAfter?
  constructor
  · intro h
    have hrun : ∀ c ∈ cs.takeWhile isAmountChar, isAmountChar c = true := fun c =>
      List.mem_takeWhile_imp
    dsimp only at h
    split at h
    · cases h
    · next hne =>
      have hvalue := Option.some.inj h
      rw [digitsValue_filter_comma] at hvalue
      refine ⟨_, cs.dropWhile isAmountChar, List.takeWhile_append_dropWhile.symm, hrun,
        fun c hc => ?_, (filter_comma_ne_nil_iff hrun).mp (mt List.isEmpty_iff.mpr hne),
        hvalue.symm⟩
      have := List.head?_dropWhile_not isAmountChar cs
      rw [hc] at this
      exact this
  · rintro ⟨run, after, rfl, hrun, hafter, hdigit, rfl⟩
    -- What follows the run does not belong to an amount, so that the run is all that is read.
    have htake : (run ++ after).takeWhile isAmountChar = run := by
      rw [List.takeWhile_append_of_pos hrun]
      cases after with
      | nil => rw [List.takeWhile_nil, List.append_nil]
      | cons c after =>
        rw [List.takeWhile_cons_of_neg (Bool.eq_false_iff.mp (hafter c rfl)), List.append_nil]
    dsimp only
    rw [htake, digitsValue_filter_comma]
    exact if_neg (mt List.isEmpty_iff.mp ((filter_comma_ne_nil_iff hrun).mpr hdigit))

/-- The amounts of a text with their places, the first place being `start`. -/
def amountsFrom (start : Nat) : List Char → List (Nat × Nat)
  | [] => []
  | c :: cs =>
    if c = '$' then ((amountAfter? cs).map (start, ·)).toList ++ amountsFrom (start + 1) cs
    else amountsFrom (start + 1) cs

theorem mem_amountsFrom_iff : (place, value) ∈ amountsFrom start cs ↔
    ∃ before rest, cs = before ++ '$' :: rest ∧ place = start + before.length ∧
      amountAfter? rest = some value := by
  induction cs generalizing start with
  | nil => simp [amountsFrom]
  | cons c cs ih =>
    -- In the text with one more character in front, an amount stands one place further on.
    have hlater : (place, value) ∈ amountsFrom (start + 1) cs ↔
        ∃ before rest, c :: cs = (c :: before) ++ '$' :: rest ∧
          place = start + (c :: before).length ∧ amountAfter? rest = some value := by
      rw [ih]
      simp only [List.cons_append, List.cons.injEq, true_and, List.length_cons, Nat.add_assoc,
        Nat.add_comm 1]
    rw [amountsFrom]
    constructor
    · intro h
      split at h
      · next hc =>
        rcases List.mem_append.mp h with h | h
        · obtain ⟨v, hv, heq⟩ := Option.map_eq_some_iff.mp (Option.mem_toList.mp h)
          cases heq
          exact ⟨[], cs, by rw [hc]; rfl, rfl, hv⟩
        · obtain ⟨before, rest, h⟩ := hlater.mp h
          exact ⟨_, rest, h⟩
      · obtain ⟨before, rest, h⟩ := hlater.mp h
        exact ⟨_, rest, h⟩
    · rintro ⟨before, rest, hcs, hplace, hvalue⟩
      cases before with
      | nil =>
        obtain ⟨rfl, rfl⟩ := List.cons.inj hcs
        rw [if_pos rfl, hplace, hvalue]
        exact List.mem_append_left _ List.mem_cons_self
      | cons d before =>
        obtain ⟨rfl, -⟩ := List.cons.inj hcs
        have hmem := hlater.mpr ⟨before, rest, hcs, hplace, hvalue⟩
        split
        · exact List.mem_append_right _ hmem
        · exact hmem

theorem pairwise_amountsFrom (start : Nat) (cs : List Char) :
    (amountsFrom start cs).Pairwise fun a b => a.1 < b.1 := by
  induction cs generalizing start with
  | nil => exact List.Pairwise.nil
  | cons c cs ih =>
    rw [amountsFrom]
    split
    · refine List.pairwise_append.mpr ⟨?_, ih (start + 1), fun a ha b hb => ?_⟩
      · cases amountAfter? cs with
        | none => exact List.Pairwise.nil
        | some v => exact List.pairwise_singleton _ _
      -- What is found later stands behind the dollar sign of this one.
      · obtain ⟨v, -, rfl⟩ := Option.map_eq_some_iff.mp (Option.mem_toList.mp ha)
        obtain ⟨before, rest, -, hplace, -⟩ := mem_amountsFrom_iff.mp (show (b.1, b.2) ∈ _ from hb)
        dsimp only
        omega
    · exact ih (start + 1)

/-- The first piece of a text reaches up to the first dollar sign. -/
theorem exists_splitOn_dollar (cs : List Char) :
    ∃ pieces, cs.splitOn '$' = cs.takeWhile (· != '$') :: pieces := by
  induction cs with
  | nil => exact ⟨[], List.splitOn_nil '$'⟩
  | cons c cs ih =>
    obtain ⟨pieces, h⟩ := ih
    rw [List.splitOn_cons_eq_if_modifyHead]
    by_cases hc : c = '$'
    · exact ⟨cs.splitOn '$', by simp [hc]⟩
    · exact ⟨pieces, by simp [hc, h]⟩

/-- No amount reaches over a dollar sign. -/
theorem amountAfter?_takeWhile (cs : List Char) :
    amountAfter? (cs.takeWhile (· != '$')) = amountAfter? cs := by
  -- A dollar sign is no part of a run, so that a run ends at it anyway.
  have hand : (fun c => decide (isAmountChar c = true ∧ (c != '$') = true)) = isAmountChar := by
    funext c
    by_cases hc : c = '$'
    · subst hc
      decide
    · simp [hc]
  unfold amountAfter?
  rw [List.takeWhile_takeWhile, hand]

theorem map_snd_amountsFrom (start : Nat) (cs : List Char) :
    (amountsFrom start cs).map Prod.snd = (cs.splitOn '$').tail.filterMap amountAfter? := by
  induction cs generalizing start with
  | nil => rfl
  | cons c cs ih =>
    obtain ⟨pieces, hpieces⟩ := exists_splitOn_dollar cs
    have ih := ih (start + 1)
    rw [hpieces, List.tail_cons] at ih
    rw [amountsFrom, List.splitOn_cons_eq_if_modifyHead, hpieces]
    by_cases hc : c = '$'
    · rw [if_pos hc, if_pos (beq_iff_eq.mpr hc), List.map_append, ih, List.tail_cons,
        List.filterMap_cons, amountAfter?_takeWhile]
      cases amountAfter? cs <;> rfl
    · rw [if_neg hc, if_neg (mt beq_iff_eq.mp hc), ih]
      rfl

/-- **The amounts of a text are those of its places, from the left.** -/
theorem listsAmounts_amounts (text : String) : ListsAmounts text.toList (amounts text) := by
  refine ⟨amountsFrom 0 text.toList, pairwise_amountsFrom 0 _, fun place value => ?_,
    (map_snd_amountsFrom 0 _).symm⟩
  rw [mem_amountsFrom_iff]
  constructor
  · rintro ⟨before, rest, hcs, hplace, hvalue⟩
    obtain ⟨run, after, rfl, h⟩ := amountAfter?_eq_some_iff.mp hvalue
    exact ⟨before, run, after, hcs, by omega, h⟩
  · rintro ⟨before, run, after, hcs, hplace, h⟩
    exact ⟨before, run ++ after, hcs, by omega,
      amountAfter?_eq_some_iff.mpr ⟨run, after, rfl, h⟩⟩

/-- A text has one list of amounts. -/
theorem ListsAmounts.eq_of {ms : List Nat} (hm : ListsAmounts cs ms) (hn : ListsAmounts cs ns) :
    ms = ns := by
  obtain ⟨found, hpair, hmem, rfl⟩ := hm
  obtain ⟨found', hpair', hmem', rfl⟩ := hn
  -- Both lists hold the same places with their amounts, and both go from the left.
  have hnodup : ∀ {l : List (Nat × Nat)}, l.Pairwise (fun a b => a.1 < b.1) → l.Nodup := fun h =>
    h.imp fun hlt heq => absurd (congrArg Prod.fst heq) (Nat.ne_of_lt hlt)
  have hperm : found.Perm found' := (List.perm_ext_iff_of_nodup (hnodup hpair) (hnodup hpair')).mpr
    fun a => (hmem a.1 a.2).trans (hmem' a.1 a.2).symm
  rw [List.Perm.eq_of_pairwise (fun a b _ _ hab hba => absurd hab (Nat.lt_asymm hba)) hpair hpair'
    hperm]

/-! ### The average -/

/-- The mean of numbers, rounded to the nearest integer, a half going up. -/
def roundedMean (ns : List Nat) : Int := ((ns.sum : Rat) / ns.length + 1 / 2).floor

/-- Whole numbers as exact ones. -/
def exactly (ns : List Nat) : List Exact := ns.map Arithmetic.ofNat

theorem foldl_add_exactly (ns : List Nat) (q : Rat) :
    (exactly ns).foldl Arithmetic.add (.rational q) = .rational (q + ns.sum) := by
  induction ns generalizing q with
  | nil => exact congrArg Exact.rational (add_zero q).symm
  | cons n ns ih =>
    have hcons : exactly (n :: ns) = .rational n :: exactly ns := rfl
    rw [hcons, List.foldl_cons, Exact.add_rational, ih, List.sum_cons,
      Nat.cast_add, add_assoc]

theorem mean_exactly (hne : ns ≠ []) :
    Arithmetic.mean (exactly ns) = .rational ((ns.sum : Rat) / ns.length) := by
  have hlength : ((ns.length : Nat) : Rat) ≠ 0 :=
    Nat.cast_ne_zero.mpr (List.length_pos_iff.mpr hne).ne'
  have hsum : Arithmetic.sum (exactly ns) = .rational ns.sum :=
    (foldl_add_exactly ns 0).trans (congrArg _ (zero_add _))
  rw [Arithmetic.mean, hsum, exactly, List.length_map, Exact.ofNat_eq, Exact.div_rational hlength]

/-- **Rounding keeps the mean of whole numbers between bounds that are whole numbers.** -/
theorem average_range {low high : Nat} (hne : ns ≠ []) (hlow : ∀ n ∈ ns, low ≤ n)
    (hhigh : ∀ n ∈ ns, n ≤ high) : (low : Int) ≤ roundedMean ns ∧ roundedMean ns ≤ high := by
  have hpos : (0 : Rat) < ns.length := Nat.cast_pos.mpr (List.length_pos_iff.mpr hne)
  have hleast : ns.length * low ≤ ns.sum := List.card_nsmul_le_sum ns low hlow
  have hgreatest : ns.sum ≤ ns.length * high := List.sum_le_card_nsmul ns high hhigh
  have hlowmean : (low : Rat) ≤ (ns.sum : Rat) / ns.length := by
    rw [le_div_iff₀ hpos, mul_comm]
    exact_mod_cast hleast
  have hmeanhigh : (ns.sum : Rat) / ns.length ≤ high := by
    rw [div_le_iff₀ hpos, mul_comm]
    exact_mod_cast hgreatest
  rw [← floor_natCast_add_half low, ← floor_natCast_add_half high]
  exact ⟨floor_add_half_mono hlowmean, floor_add_half_mono hmeanhigh⟩

/-- Two numbers have their middle as the mean. -/
theorem roundedMean_pair (a b : Nat) :
    roundedMean [a, b] = (((a : Rat) + b) / 2 + 1 / 2).floor := by
  simp [roundedMean]

/-! ### The range -/

/-- Numbers in rising order. -/
def rising (ns : List Nat) : List Nat := ns.mergeSort fun a b => decide (a ≤ b)

theorem perm_rising (ns : List Nat) : (rising ns).Perm ns := List.mergeSort_perm ns _

theorem pairwise_rising (ns : List Nat) : (rising ns).Pairwise (· ≤ ·) := by
  refine (List.pairwise_mergeSort (fun a b c => ?_) (fun a b => ?_) ns).imp of_decide_eq_true
  · simp only [decide_eq_true_eq]
    exact Nat.le_trans
  · simp only [Bool.or_eq_true, decide_eq_true_eq]
    exact Nat.le_total a b

/-- The rising order does not depend on the order that numbers were in. -/
theorem rising_eq_of_perm {ms : List Nat} (h : ms.Perm ns) : rising ms = rising ns :=
  List.Perm.eq_of_pairwise (fun _ _ _ _ => Nat.le_antisymm) (pairwise_rising ms)
    (pairwise_rising ns) ((perm_rising ms).trans (h.trans (perm_rising ns).symm))

/-- The range of the dollar amounts in a text, on exact numbers. -/
def exactSpan? (text : String) : Except IntegerError (Option (CostSpan Exact)) := spanOfText? text

/-- **The range of a text depends on its amounts in rising order.** -/
theorem exactSpan?_eq (text : String) :
    exactSpan? text = spanOf? (exactly (rising (amounts text))) := by
  rw [exactSpan?, spanOfText?, exactly, rising, List.map_mergeSort]
  intro a _ b _
  rw [Exact.ofNat_eq, Exact.ofNat_eq, Bool.eq_iff_iff, Bool.not_eq_true', ← Bool.not_eq_true,
    Exact.lt_rational_iff, not_lt, Nat.cast_le, decide_eq_true_iff]

/-- The range of at least two numbers in rising order. -/
theorem spanOf?_exactly (low second : Nat) (rest : List Nat) :
    spanOf? (exactly (low :: second :: rest)) =
      .ok (some
        { low := .rational low
          average := .computed (roundedMean (low :: second :: rest))
          high := .rational ((rest.getLastD second : Nat) : Rat) }) := by
  have hlast : (exactly rest).getLastD (Arithmetic.ofNat second) =
      Arithmetic.ofNat (rest.getLastD second) := List.getLastD_map
  -- Of two numbers the average is computed from the ends of the range, of more from all of them.
  have haverage : averageOf
      (if (exactly rest).isEmpty then [] else exactly (low :: second :: rest))
      (Arithmetic.ofNat low : Exact) (Arithmetic.ofNat (rest.getLastD second)) =
        .ok (roundedMean (low :: second :: rest)) := by
    unfold averageOf
    cases rest with
    | nil =>
      rw [roundedMean_pair]
      exact Exact.roundHalfUp_rational _
    | cons third rest =>
      exact (congrArg _ (mean_exactly (List.cons_ne_nil _ _))).trans
        (Exact.roundHalfUp_rational _)
  have hcons : exactly (low :: second :: rest) =
      Arithmetic.ofNat low :: Arithmetic.ofNat second :: exactly rest := rfl
  rw [hcons] at haverage ⊢
  rw [spanOf?, hlast, haverage]
  rfl

/-- The first of numbers in rising order is the least, and the last one the greatest. -/
theorem isLeast_isGreatest_of_rising {low second : Nat} {rest : List Nat}
    (h : rising ns = low :: second :: rest) :
    IsLeast {n | n ∈ ns} low ∧ IsGreatest {n | n ∈ ns} (rest.getLastD second) := by
  have hmem : ∀ n, n ∈ ns ↔ n ∈ low :: second :: rest := fun n => by
    rw [← h, (perm_rising ns).mem_iff]
  have hrising : (low :: second :: rest).Pairwise (· ≤ ·) := h ▸ pairwise_rising ns
  have hlast : rest.getLastD second = (low :: second :: rest).getLast (List.cons_ne_nil _ _) := by
    rw [List.getLast_eq_getLastD, List.getLastD_cons]
  refine ⟨⟨(hmem low).mpr List.mem_cons_self, fun n hn => ?_⟩, ?_, fun n hn => ?_⟩
  · rcases List.mem_cons.mp ((hmem n).mp hn) with rfl | hn
    · exact Nat.le_refl _
    · exact (List.pairwise_cons.mp hrising).1 n hn
  · exact (hmem _).mpr (hlast ▸ List.getLast_mem _)
  · exact hlast ▸ hrising.rel_getLast ((hmem n).mp hn)

/-- The mean does not depend on the order of the numbers. -/
theorem roundedMean_eq_of_perm {ms : List Nat} (h : ms.Perm ns) :
    roundedMean ms = roundedMean ns := by
  rw [roundedMean, roundedMean, h.sum_eq, h.length_eq]

/-- **The range of a text by its amounts**, of which there have to be two. -/
theorem exactSpan?_eq_none_iff (text : String) :
    exactSpan? text = .ok none ↔ (amounts text).length < 2 := by
  rw [exactSpan?_eq, ← (perm_rising (amounts text)).length_eq]
  match rising (amounts text) with
  | [] => exact iff_of_true rfl (by decide)
  | [n] => exact iff_of_true rfl (by simp)
  | low :: second :: rest =>
    rw [spanOf?_exactly]
    exact iff_of_false (fun h => nomatch h) (by simp)

theorem exists_exactSpan?_eq_some {text : String} (h : 2 ≤ (amounts text).length) :
    ∃ low high : Nat, exactSpan? text = .ok (some
        { low := .rational low, average := .computed (roundedMean (amounts text))
          high := .rational high }) ∧
      IsLeast {n | n ∈ amounts text} low ∧ IsGreatest {n | n ∈ amounts text} high ∧
      ((amounts text).length = 2 →
        roundedMean (amounts text) = (((low : Rat) + high) / 2 + 1 / 2).floor) := by
  rw [← (perm_rising (amounts text)).length_eq] at h ⊢
  rw [exactSpan?_eq, ← roundedMean_eq_of_perm (perm_rising (amounts text))]
  -- The amounts in rising order: the first one is the least, and the last one the greatest.
  match hrising : rising (amounts text), h with
  | low :: second :: rest, _ =>
    obtain ⟨hlow, hhigh⟩ := isLeast_isGreatest_of_rising hrising
    refine ⟨low, rest.getLastD second, spanOf?_exactly low second rest, hlow, hhigh,
      fun htwo => ?_⟩
    obtain rfl : rest = [] := by simpa using htwo
    exact roundedMean_pair low second

/-- **The price range of a text.** Its amounts are the numbers behind dollar signs. With fewer than
two of them there is no range. Otherwise the range reaches from the least amount to the greatest,
and the average, which lies between them, is the mean of all amounts, rounded to the nearest
integer; of two amounts it is the middle. Texts with the same amounts in any order have the same
range. -/
theorem span_of_dollar_amounts (text : String) :
    ∃ ns, ListsAmounts text.toList ns ∧
      (exactSpan? text = .ok none ↔ ns.length < 2) ∧
      (2 ≤ ns.length → ∃ (low high : Nat) (average : Int),
        exactSpan? text = .ok (some
          { low := .rational low, average := .computed average, high := .rational high }) ∧
        IsLeast {n | n ∈ ns} low ∧ IsGreatest {n | n ∈ ns} high ∧
        low ≤ average ∧ average ≤ high ∧
        average = ((ns.sum : Rat) / ns.length + 1 / 2).floor ∧
        (ns.length = 2 → average = (((low : Rat) + high) / 2 + 1 / 2).floor)) ∧
      ∀ (other : String) ms, ListsAmounts other.toList ms → ms.Perm ns →
        exactSpan? other = exactSpan? text := by
  refine ⟨amounts text, listsAmounts_amounts text, exactSpan?_eq_none_iff text, fun h => ?_,
    fun other ms hms hperm => ?_⟩
  · obtain ⟨low, high, hspan, hlow, hhigh, htwo⟩ := exists_exactSpan?_eq_some h
    have hne : amounts text ≠ [] := List.length_pos_iff.mp (by omega)
    obtain ⟨hle, hge⟩ := average_range hne (fun n => (hlow.2 ·)) fun n => (hhigh.2 ·)
    exact ⟨low, high, _, hspan, hlow, hhigh, hle, hge, rfl, htwo⟩
  -- The range reads the amounts in rising order only.
  · rw [hms.eq_of (listsAmounts_amounts other)] at hperm
    rw [exactSpan?_eq, exactSpan?_eq, rising_eq_of_perm hperm]

/-- The range of three amounts. What a blank parts from its dollar sign is none. -/
theorem span_of_three_dollar_amounts :
    ListsAmounts "$1,200 or $,3500, or $ 900 for $900".toList [1200, 3500, 900] ∧
      exactSpan? "$1,200 or $,3500, or $ 900 for $900" = .ok (some
        { low := .rational 900, average := .computed 1867, high := .rational 3500 }) := by
  obtain ⟨ns, hns, -, hspan, -⟩ := span_of_dollar_amounts "$1,200 or $,3500, or $ 900 for $900"
  obtain rfl : ns = [1200, 3500, 900] :=
    (hns.eq_of (listsAmounts_amounts _)).trans (by decide +kernel)
  obtain ⟨low, high, average, hspan, hlow, hhigh, -, -, haverage, -⟩ := hspan (by decide)
  obtain rfl : low = 900 := hlow.unique ⟨by decide, by simp [lowerBounds]⟩
  obtain rfl : high = 3500 := hhigh.unique ⟨by decide, by simp [upperBounds]⟩
  obtain rfl : average = 1867 := haverage.trans (by decide +kernel)
  exact ⟨hns, hspan⟩

end StaticSite
