import StaticSite.Proofs.Condition.Composition
import StaticSite.Proofs.Number.Order

/-!
# Conditions whose evaluation fails

The evaluation of a condition fails where a clause needs a view of a value that the value does not
have. An integer beyond the range of double precision has no view as a number (`HasNumber`), and
neither it nor a list that holds it has one as a text; an object has no text if it holds an integer
of too many digits (`HasText`). Which views a clause needs depends on its operator and on what its
values meet (`Clause.Evaluates`, `Comparable`).

A condition has an outcome exactly if all its clauses evaluate, so one that compares such an integer
is false together with its negation (`valid_condition_has_outcome_iff`).
-/

namespace StaticSite

/-- Induction over a value, through the items of its lists and the values of its fields. -/
theorem Json.induct {motive : Json → Prop} (null : motive .null) (bool : ∀ b, motive (.bool b))
    (int : ∀ i, motive (.int i)) (float : ∀ x, motive (.float x)) (str : ∀ s, motive (.str s))
    (arr : ∀ items, (∀ v ∈ items, motive v) → motive (.arr items))
    (obj : ∀ fields, (∀ f ∈ fields, motive f.2) → motive (.obj fields)) : ∀ v, motive v
  | .null => null
  | .bool b => bool b
  | .int i => int i
  | .float x => float x
  | .str s => str s
  | .arr items => arr items fun v _ => induct null bool int float str arr obj v
  | .obj fields => obj fields fun f _ => induct null bool int float str arr obj f.2
termination_by v => sizeOf v
decreasing_by
  · decreasing_tactic
  · have hlt : sizeOf f < sizeOf fields := List.sizeOf_lt_of_mem ‹_›
    obtain ⟨name, v⟩ := f
    simp only [Prod.mk.sizeOf_spec, Json.obj.sizeOf_spec] at hlt ⊢
    omega

namespace Condition

open Binary64 (overflow)

variable {answers : Answers} {v w : Json} {i : Int}

/-! ### Views of values -/

/-- An integer occurs in a value. -/
inductive Occurs (i : Int) : Json → Prop
  | here : Occurs i (.int i)
  | item {v : Json} {items : List Json} (hv : v ∈ items) (h : Occurs i v) : Occurs i (.arr items)
  | field {name : String} {v : Json} {fields : List (String × Json)} (hf : (name, v) ∈ fields)
      (h : Occurs i v) : Occurs i (.obj fields)

/-- **A value has a view as a number** unless it is an integer beyond the range. -/
def HasNumber : Json → Prop
  | .int i => i.natAbs < overflow
  | _ => True

/-- **A value has a view as a text**: its integers are within the range, and those in objects can be
written. -/
inductive HasText : Json → Prop
  | null : HasText .null
  | bool (b : Bool) : HasText (.bool b)
  | int {i : Int} (hi : i.natAbs < overflow) : HasText (.int i)
  | float (x : Binary64) : HasText (.float x)
  | str (s : String) : HasText (.str s)
  | arr {items : List Json} (h : ∀ v ∈ items, HasText v) : HasText (.arr items)
  | obj {fields : List (String × Json)}
      (h : ∀ i, Occurs i (.obj fields) → i.natAbs < Nat.pow 10 digitLimit) : HasText (.obj fields)

theorem exists_widen_eq_ok_iff : (∃ x, widen i = .ok x) ↔ i.natAbs < overflow := by
  rw [← Nat.not_le, ← Binary64.ofInt?_eq_none_iff, widen]
  cases Binary64.ofInt? i with
  | none => exact iff_of_false (fun ⟨_, h⟩ => nomatch h) fun h => h rfl
  | some x => exact iff_of_true ⟨x, rfl⟩ fun h => nomatch h

theorem exists_toNumber_eq_ok_iff : (∃ x, toNumber v = .ok x) ↔ HasNumber v := by
  cases v with
  | int i => exact exists_widen_eq_ok_iff
  | null | bool | float | str | arr | obj => exact iff_of_true ⟨_, rfl⟩ trivial

theorem hasLongIntegerItem_eq_any (vs : List Json) :
    hasLongIntegerItem vs = vs.any hasLongInteger := by
  induction vs with
  | nil => rfl
  | cons v vs ih => rw [hasLongIntegerItem, List.any_cons, ih]

theorem hasLongIntegerField_eq_any (fields : List (String × Json)) :
    hasLongIntegerField fields = fields.any fun f => hasLongInteger f.2 := by
  induction fields with
  | nil => rfl
  | cons f fs ih => rw [hasLongIntegerField, List.any_cons, ih]

theorem hasLongInteger_iff : hasLongInteger v = true ↔
    ∃ i, Occurs i v ∧ Nat.pow 10 digitLimit ≤ i.natAbs := by
  -- One way by induction on the value, the other by induction on where the integer occurs in it.
  constructor
  · intro h
    induction v using Json.induct with
    | int i =>
      rw [hasLongInteger, decide_eq_true_eq] at h
      exact ⟨i, .here, h⟩
    | arr items ih =>
      rw [hasLongInteger, hasLongIntegerItem_eq_any, List.any_eq_true] at h
      obtain ⟨v, hv, hlong⟩ := h
      obtain ⟨i, hi, hle⟩ := ih v hv hlong
      exact ⟨i, .item hv hi, hle⟩
    | obj fields ih =>
      rw [hasLongInteger, hasLongIntegerField_eq_any, List.any_eq_true] at h
      obtain ⟨f, hf, hlong⟩ := h
      obtain ⟨i, hi, hle⟩ := ih f hf hlong
      exact ⟨i, .field hf hi, hle⟩
    | null | bool | float | str => cases h
  · rintro ⟨i, h, hle⟩
    induction h with
    | here => rw [hasLongInteger, decide_eq_true_eq]; exact hle
    | item hv h ih =>
      rw [hasLongInteger, hasLongIntegerItem_eq_any, List.any_eq_true]
      exact ⟨_, hv, ih⟩
    | field hf h ih =>
      rw [hasLongInteger, hasLongIntegerField_eq_any, List.any_eq_true]
      exact ⟨_, hf, ih⟩

/-- The texts of values are found if each of them is. -/
theorem exists_toTexts_eq_ok_iff {vs : List Json} :
    (∃ s, toTexts vs = .ok s) ↔ ∀ v ∈ vs, ∃ s, toText v = .ok s := by
  induction vs with
  | nil => exact iff_of_true ⟨"", rfl⟩ fun _ h => nomatch h
  | cons v vs ih =>
    rw [List.forall_mem_cons, ← ih]
    exact exists_bind_bind_pure_eq_ok_iff

/-- A list has a text if each of its items has. -/
theorem exists_toText_arr_eq_ok_iff {items : List Json} :
    (∃ s, toText (.arr items) = .ok s) ↔ ∀ v ∈ items, ∃ s, toText v = .ok s := by
  cases items with
  | nil => exact iff_of_true ⟨"", rfl⟩ fun _ h => nomatch h
  | cons v vs =>
    rw [List.forall_mem_cons, ← exists_toTexts_eq_ok_iff]
    exact exists_bind_bind_pure_eq_ok_iff

theorem exists_toText_obj_eq_ok_iff {fields : List (String × Json)} :
    (∃ s, toText (.obj fields) = .ok s) ↔
      ∀ i, Occurs i (.obj fields) → i.natAbs < Nat.pow 10 digitLimit := by
  rw [toText]
  by_cases hlong : hasLongInteger (.obj fields) = true
  · obtain ⟨i, hi, hle⟩ := hasLongInteger_iff.mp hlong
    rw [hasLongInteger] at hlong
    rw [if_pos hlong]
    exact iff_of_false (fun ⟨_, h⟩ => nomatch h) fun h => Nat.not_lt.mpr hle (h i hi)
  · have hshort (i : Int) (hi : Occurs i (.obj fields)) : i.natAbs < Nat.pow 10 digitLimit :=
      Nat.not_le.mp fun hle => hlong (hasLongInteger_iff.mpr ⟨i, hi, hle⟩)
    rw [hasLongInteger] at hlong
    rw [if_neg hlong]
    exact iff_of_true ⟨_, rfl⟩ hshort

theorem exists_toText_int_eq_ok_iff : (∃ s, toText (.int i) = .ok s) ↔ i.natAbs < overflow :=
  exists_map_eq_ok_iff.trans exists_widen_eq_ok_iff

theorem exists_toText_eq_ok_iff : (∃ s, toText v = .ok s) ↔ HasText v := by
  -- One way by induction on the value, the other by induction on why it has a text.
  constructor
  · intro h
    induction v using Json.induct with
    | null => exact .null
    | bool b => exact .bool b
    | int i => exact .int (exists_toText_int_eq_ok_iff.mp h)
    | float x => exact .float x
    | str s => exact .str s
    | arr items ih => exact .arr fun v hv => ih v hv (exists_toText_arr_eq_ok_iff.mp h v hv)
    | obj fields ih => exact .obj (exists_toText_obj_eq_ok_iff.mp h)
  · intro h
    induction h with
    | null | bool | float | str => exact ⟨_, rfl⟩
    | int hi => exact exists_toText_int_eq_ok_iff.mpr hi
    | arr h ih => exact exists_toText_arr_eq_ok_iff.mpr ih
    | obj h => exact exists_toText_obj_eq_ok_iff.mpr h

/-! ### Operators -/

/-- The test of a value on its own looks at it as a number. -/
theorem exists_truthy_eq_ok_iff : (∃ b, truthy v = .ok b) ↔ HasNumber v := by
  cases v with
  | int i =>
    rw [truthy, HasNumber]
    split
    · next hi =>
      subst hi
      exact iff_of_true ⟨_, rfl⟩ (exists_widen_eq_ok_iff.mp ⟨_, rfl⟩)
    · exact exists_map_eq_ok_iff.trans exists_widen_eq_ok_iff
  | null | bool | float | str | arr | obj => exact iff_of_true ⟨_, rfl⟩ trivial

/-- Whether equality looks at what is beside a value as a number. -/
def isMeasure : Json → Bool
  | .bool _ => true
  | .int _ => true
  | .float _ => true
  | .str s => (numericText? s).isSome
  | _ => false

/-- **A value has the view that equality looks at** beside another: an integer beside what measures
as a number, and a list beside a text. -/
def Meets : Json → Json → Prop
  | .int i, w => isMeasure w = true → i.natAbs < overflow
  | .arr items, .str _ => HasText (.arr items)
  | _, _ => True

/-- **Two values are comparable**: each has the view that equality looks at beside the other. -/
def Comparable (v w : Json) : Prop := Meets v w ∧ Meets w v

theorem meets_int_iff (hw : isMeasure w = true) : Meets (.int i) w ↔ ∃ x, widen i = .ok x :=
  Iff.trans ⟨fun h => h hw, fun h _ => h⟩ exists_widen_eq_ok_iff.symm

/-- Two values that are compared as numbers need both views. -/
theorem exists_looseEquals_eq_ok_iff_of_numbers {a b : Except EvalError Binary64}
    (ha : asNumber? (coercePair v w).1 = some a) (hb : asNumber? (coercePair v w).2 = some b) :
    (∃ c, looseEquals v w = .ok c) ↔ (∃ x, a = .ok x) ∧ ∃ y, b = .ok y := by
  unfold looseEquals
  simp only [ha, hb]
  exact exists_bind_bind_pure_eq_ok_iff

/-- A number needs its view beside a text that looks like one, on either side. -/
theorem exists_looseEquals_eq_ok_iff_of_text {number : Json} {a : Except EvalError Binary64}
    {s : String} (ha : asNumber? number = some a)
    (hpair : coercePair v w = (number, ((numericText? s).map .float).getD (.str s)) ∨
      coercePair v w = (((numericText? s).map .float).getD (.str s), number)) :
    (∃ b, looseEquals v w = .ok b) ↔ (isMeasure (.str s) = true → ∃ x, a = .ok x) := by
  rw [isMeasure]
  -- A text that looks like no number stays a text, and is never equal to a number.
  cases hs : numericText? s with
  | none =>
    rw [hs] at hpair
    refine iff_of_true ⟨false, ?_⟩ fun h => nomatch h
    rw [looseEquals]
    cases number with
    | int | float => rcases hpair with hpair | hpair <;> rw [hpair] <;> rfl
    | null | bool | str | arr | obj => cases ha
  | some y =>
    rw [hs] at hpair
    -- The text has a view in any case, so that only the view of the number is asked for.
    have hview : (∃ x, a = .ok x) ↔ (Option.isSome (some y) = true → ∃ x, a = .ok x) :=
      ⟨fun h _ => h, fun h => h rfl⟩
    rw [← hview]
    rcases hpair with hpair | hpair
    · exact (exists_looseEquals_eq_ok_iff_of_numbers (by rw [hpair, ha]) (by rw [hpair]; rfl)).trans
        (and_iff_left ⟨y, rfl⟩)
    · exact (exists_looseEquals_eq_ok_iff_of_numbers (by rw [hpair]; rfl) (by rw [hpair, ha])).trans
        (and_iff_right ⟨y, rfl⟩)

/-- **Equality has an outcome** exactly for values that are comparable. -/
theorem exists_looseEquals_eq_ok_iff : (∃ b, looseEquals v w = .ok b) ↔ Comparable v w := by
  rw [Comparable]
  have htrue {p : Prop} (hp : p) : p ↔ True := iff_of_true hp trivial
  -- Most pairs are compared without any view. Those with an integer or a list are looked at singly.
  cases v with
  | null => cases w <;> exact iff_of_true ⟨_, rfl⟩ ⟨trivial, by simp [Meets, isMeasure]⟩
  | bool b =>
    cases w with
    | int j =>
      rw [meets_int_iff rfl]
      exact (exists_bind_bind_pure_eq_ok_iff (x := toNumber (.bool b)) (y := widen j)).trans
        (and_congr_left' (htrue ⟨_, rfl⟩))
    | null | bool | float | str | arr | obj => exact iff_of_true ⟨_, rfl⟩ ⟨trivial, trivial⟩
  | int i =>
    cases w with
    | null | arr | obj => exact iff_of_true ⟨_, rfl⟩ ⟨fun h => (nomatch h), trivial⟩
    | bool b =>
      rw [meets_int_iff rfl]
      exact (exists_bind_bind_pure_eq_ok_iff (x := widen i) (y := toNumber (.bool b))).trans
        (and_congr_right' (htrue ⟨_, rfl⟩))
    | int j =>
      rw [meets_int_iff rfl, meets_int_iff rfl]
      exact exists_looseEquals_eq_ok_iff_of_numbers rfl rfl
    | float y =>
      rw [meets_int_iff rfl]
      exact (exists_looseEquals_eq_ok_iff_of_numbers rfl rfl).trans
        (and_congr_right' (htrue ⟨_, rfl⟩))
    | str s =>
      refine (exists_looseEquals_eq_ok_iff_of_text rfl (.inl rfl)).trans ?_
      rw [exists_widen_eq_ok_iff]
      exact (and_iff_left trivial).symm
  | float x =>
    cases w with
    | int j =>
      rw [meets_int_iff rfl]
      exact (exists_looseEquals_eq_ok_iff_of_numbers rfl rfl).trans
        (and_congr_left' (htrue ⟨_, rfl⟩))
    | str s =>
      refine iff_of_true ?_ ⟨trivial, trivial⟩
      exact (exists_looseEquals_eq_ok_iff_of_text rfl (.inl rfl)).mpr fun _ => ⟨_, rfl⟩
    | null | bool | float | arr | obj => exact iff_of_true ⟨_, rfl⟩ ⟨trivial, trivial⟩
  | str s =>
    cases w with
    | int j =>
      refine (exists_looseEquals_eq_ok_iff_of_text rfl (.inr rfl)).trans ?_
      rw [exists_widen_eq_ok_iff]
      exact (and_iff_right trivial).symm
    | float y =>
      refine iff_of_true ?_ ⟨trivial, trivial⟩
      exact (exists_looseEquals_eq_ok_iff_of_text rfl (.inr rfl)).mpr fun _ => ⟨_, rfl⟩
    | arr items =>
      refine Iff.trans ?_ ((and_iff_right trivial).trans exists_toText_eq_ok_iff.symm).symm
      exact exists_bind_pure_eq_ok_iff
    | null | bool | str | obj => exact iff_of_true ⟨_, rfl⟩ ⟨trivial, trivial⟩
  | arr items =>
    cases w with
    | int j => exact iff_of_true ⟨_, rfl⟩ ⟨trivial, fun h => (nomatch h)⟩
    | str s =>
      refine Iff.trans ?_ ((and_iff_left trivial).trans exists_toText_eq_ok_iff.symm).symm
      exact exists_bind_pure_eq_ok_iff
    | null | bool | float | arr | obj => exact iff_of_true ⟨_, rfl⟩ ⟨trivial, trivial⟩
  | obj fields =>
    cases w with
    | int j => exact iff_of_true ⟨_, rfl⟩ ⟨trivial, fun h => (nomatch h)⟩
    | null | bool | float | str | arr | obj => exact iff_of_true ⟨_, rfl⟩ ⟨trivial, trivial⟩

/-- Turning a text into a number takes no view of a value as a number, and gives none. -/
theorem hasNumber_coercePair (v w : Json) : (HasNumber (coercePair v w).1 ↔ HasNumber v) ∧
    (HasNumber (coercePair v w).2 ↔ HasNumber w) := by
  have htext (s : String) :
      HasNumber (((numericText? s).map .float).getD (.str s)) ↔ HasNumber (.str s) := by
    cases numericText? s <;> exact Iff.rfl
  -- Only the first text of the two may become a number; the other value stays as it is.
  cases v with
  | str s =>
    rw [coercePair]
    split
    · exact ⟨htext s, Iff.rfl⟩
    · exact ⟨Iff.rfl, Iff.rfl⟩
  | null | bool | int | float | arr | obj =>
    cases w with
    | str s =>
      simp only [coercePair]
      split
      · exact ⟨Iff.rfl, htext s⟩
      · exact ⟨Iff.rfl, Iff.rfl⟩
    | null | bool | int | float | arr | obj => exact ⟨Iff.rfl, Iff.rfl⟩

/-- **A comparison has an outcome**: an equality if the values are comparable, and another one if
both have a view as a number. -/
theorem exists_compare_eq_ok_iff (op : Operator) : (∃ b, compare op v w = .ok b) ↔
    if op = .eq ∨ op = .ne then Comparable v w else HasNumber v ∧ HasNumber w := by
  have hnumbers {f : Binary64 → Binary64 → Bool} : (∃ b, (do
      let a ← toNumber (coercePair v w).1
      let b ← toNumber (coercePair v w).2
      Except.ok (f a b) : Except EvalError Bool) = .ok b) ↔ HasNumber v ∧ HasNumber w := by
    rw [← (hasNumber_coercePair v w).1, ← (hasNumber_coercePair v w).2, ← exists_toNumber_eq_ok_iff,
      ← exists_toNumber_eq_ok_iff]
    exact exists_bind_bind_pure_eq_ok_iff
  cases op with
  | eq => exact exists_looseEquals_eq_ok_iff
  | ne => exact exists_map_eq_ok_iff.trans exists_looseEquals_eq_ok_iff
  | ge | le | gt | lt => exact hnumbers

/-- Membership in a list looks at no view; in anything else, at both values as texts. -/
theorem exists_includes_eq_ok_iff : (∃ b, includes v w = .ok b) ↔
    (∃ items, v = .arr items) ∨ HasText v ∧ HasText w := by
  cases v with
  | arr items => exact iff_of_true ⟨_, rfl⟩ (.inl ⟨items, rfl⟩)
  | null | bool | int | float | str | obj =>
    rw [or_iff_right (fun ⟨_, h⟩ => nomatch h), ← exists_toText_eq_ok_iff,
      ← exists_toText_eq_ok_iff, and_comm]
    exact exists_bind_bind_pure_eq_ok_iff

/-! ### Clauses and conditions -/

/-- **A clause evaluates**: its values have the views that its operator looks at. -/
def Clause.Evaluates (answers : Answers) : Clause → Prop
  | .truthy o => HasNumber (resolve answers o)
  | .compare l op r =>
    if op = .eq ∨ op = .ne then Comparable (resolve answers l) (resolve answers r)
    else HasNumber (resolve answers l) ∧ HasNumber (resolve answers r)
  | .includes c i => (∃ items, resolve answers c = .arr items) ∨
      HasText (resolve answers c) ∧ HasText (resolve answers i)

theorem exists_evalClause_eq_ok_iff {c : Clause} :
    (∃ b, evalClause answers c = .ok b) ↔ c.Evaluates answers := by
  cases c with
  | truthy o => exact exists_truthy_eq_ok_iff
  | compare l op r => exact exists_compare_eq_ok_iff op
  | includes c i => exact exists_includes_eq_ok_iff

/-- The clauses of a condition. -/
def Tree.clauses : Tree → List Clause
  | .clause c => [c]
  | .join _ l r => l.clauses ++ r.clauses

theorem exists_evalTree_eq_ok_iff {t : Tree} :
    (∃ b, evalTree answers t = .ok b) ↔ ∀ c ∈ t.clauses, c.Evaluates answers := by
  induction t with
  | clause c => exact exists_evalClause_eq_ok_iff.trans List.forall_mem_singleton.symm
  | join k l r ihl ihr =>
    rw [Tree.clauses, List.forall_mem_append, ← ihl, ← ihr]
    exact exists_bind_bind_pure_eq_ok_iff

/-! ### Integers within the range -/

/-- The integers of a value are within the range of double precision. -/
def InRange (v : Json) : Prop := ∀ i, Occurs i v → i.natAbs < overflow

theorem overflow_le : overflow ≤ Nat.pow 10 digitLimit := by
  have hbits (k n : Nat) (hn : 54 + k ≤ n) : (2 ^ 54 - 1) * 2 ^ k ≤ Nat.pow 10 n :=
    calc (2 ^ 54 - 1) * 2 ^ k ≤ 2 ^ 54 * 2 ^ k := Nat.mul_le_mul_right _ (Nat.sub_le _ _)
      _ = 2 ^ (54 + k) := (Nat.pow_add 2 54 k).symm
      _ ≤ 10 ^ (54 + k) := Nat.pow_le_pow_left (by decide) _
      _ ≤ 10 ^ n := Nat.pow_le_pow_right (by decide) hn
  exact hbits 970 digitLimit (by decide)

theorem InRange.hasNumber (h : InRange v) : HasNumber v := by
  cases v with
  | int i => exact h i .here
  | null | bool | float | str | arr | obj => trivial

theorem InRange.hasText (h : InRange v) : HasText v := by
  induction v using Json.induct with
  | null => exact .null
  | bool b => exact .bool b
  | int i => exact .int (h i .here)
  | float x => exact .float x
  | str s => exact .str s
  | arr items ih => exact .arr fun v hv => ih v hv fun i hi => h i (.item hv hi)
  | obj fields ih => exact .obj fun i hi => (h i hi).trans_le overflow_le

theorem InRange.meets (h : InRange v) (w : Json) : Meets v w := by
  cases v with
  | int i => exact fun _ => h i .here
  | arr items =>
    cases w with
    | str s => exact h.hasText
    | null | bool | int | float | arr | obj => trivial
  | null | bool | float | str | obj => trivial

theorem occurs_of_lookup {fields : List (String × Json)} {name : String}
    (hlookup : fields.lookup name = some v) (h : Occurs i v) : Occurs i (.obj fields) := by
  obtain ⟨before, after, rfl, -⟩ := List.lookup_eq_some_iff.mp hlookup
  exact .field (List.mem_append_right before List.mem_cons_self) h

theorem occurs_of_walk {parts : List String} (hwalk : walk parts v = some w) (h : Occurs i w) :
    Occurs i v := by
  -- By induction on the path: each part leads into a field of the value before.
  induction parts generalizing v with
  | nil =>
    cases hwalk
    exact h
  | cons part parts ih =>
    obtain ⟨u, hu, hrest⟩ := Option.bind_eq_some_iff.mp hwalk
    cases v with
    | obj fields => exact occurs_of_lookup hu (ih hrest)
    | null | bool | int | float | str | arr => cases hu

theorem occurs_of_presentOr {found : Option Json} (h : Occurs i (presentOr found)) :
    ∃ v, found = some v ∧ Occurs i v := by
  unfold presentOr at h
  split at h
  · cases h
  · cases h
  · exact ⟨_, rfl, h⟩

/-- What an operand stands for is in range if the numerals of the condition and the answers are. -/
theorem inRange_resolve {o : Operand} (ho : ∀ i, o = .int i → i.natAbs < overflow)
    (hanswers : InRange (.obj answers)) : InRange (resolve answers o) := by
  intro i hi
  -- A name is looked up as it is first, and then by its parts; either way the value stands in the
  -- answers.
  cases o with
  | int j =>
    cases hi
    exact ho _ rfl
  | ref name =>
    rw [resolve, lookup] at hi
    split at hi
    · next v hv =>
      obtain ⟨_, hsome, hi⟩ := occurs_of_presentOr hi
      cases hsome
      exact hanswers i (occurs_of_lookup hv hi)
    · obtain ⟨v, hv, hi⟩ := occurs_of_presentOr hi
      exact hanswers i (occurs_of_walk hv hi)
  | text | float | truth => cases hi

/-- A clause evaluates if all integers that it may look at are within the range. -/
theorem Clause.evaluates_of_inRange {c : Clause}
    (hints : ∀ i, .operand (.int i) ∈ c.tokens → i.natAbs < overflow)
    (hanswers : InRange (.obj answers)) : c.Evaluates answers := by
  have hresolve {o : Operand} (ho : .operand o ∈ c.tokens) : InRange (resolve answers o) :=
    inRange_resolve (fun i hi => hints i (hi ▸ ho)) hanswers
  cases c with
  | truthy o => exact (hresolve (by simp [Clause.tokens])).hasNumber
  | compare l op r =>
    have hl : InRange (resolve answers l) := hresolve (by simp [Clause.tokens])
    have hr : InRange (resolve answers r) := hresolve (by simp [Clause.tokens])
    rw [Clause.Evaluates]
    split
    · exact ⟨hl.meets _, hr.meets _⟩
    · exact ⟨hl.hasNumber, hr.hasNumber⟩
  | includes c i =>
    exact .inr ⟨(hresolve (by simp [Clause.tokens])).hasText,
      (hresolve (by simp [Clause.tokens])).hasText⟩

/-- The tokens of a clause are among those of the condition. -/
theorem Tree.tokens_subset {t : Tree} {c : Clause} (hc : c ∈ t.clauses) : c.tokens ⊆ t.tokens := by
  induction t with
  | clause d =>
    obtain rfl : c = d := List.mem_singleton.mp hc
    exact List.Subset.refl _
  | join k l r ihl ihr =>
    rw [Tree.tokens]
    rcases List.mem_append.mp hc with hc | hc
    · exact List.subset_append_of_subset_left _ (ihl hc)
    · exact List.subset_append_of_subset_right _ (List.subset_cons_of_subset _ (ihr hc))

/-! ### Outcomes -/

/-- A condition has an outcome exactly if all its clauses evaluate. -/
theorem exists_hasOutcome_iff {s : String} {t : Tree} (ht : parse s = .ok t) :
    (∃ b, HasOutcome answers s b) ↔ ∀ c ∈ t.clauses, c.Evaluates answers := by
  rw [← exists_evalTree_eq_ok_iff]
  constructor
  · rintro ⟨b, u, hu, hb⟩
    obtain rfl : t = u := Except.ok.inj (ht.symm.trans hu)
    exact ⟨b, hb⟩
  · rintro ⟨b, hb⟩
    exact ⟨b, t, ht, hb⟩

theorem hasOutcome_of_holds {s : String} (h : holds s answers = true) :
    HasOutcome answers s true := by
  unfold holds at h
  split at h
  · cases h
  · next t ht =>
    split at h
    · cases h
    · next b hb => exact ⟨t, ht, h ▸ hb⟩

/-- A condition without an outcome is false. -/
theorem holds_eq_false_of_not_evaluates {s : String} {t : Tree} {c : Clause}
    (ht : parse s = .ok t) (hc : c ∈ t.clauses) (hfails : ¬ c.Evaluates answers) :
    holds s answers = false := by
  rw [← Bool.not_eq_true]
  exact fun h => hfails ((exists_hasOutcome_iff ht).mp ⟨true, hasOutcome_of_holds h⟩ c hc)

end Condition
end StaticSite
