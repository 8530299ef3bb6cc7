import Mathlib.Data.List.Induction
import StaticSite.Condition.Eval
import StaticSite.Proofs.Html.Reading
import StaticSite.Proofs.Schema.Reader
import StaticSite.Wizard.Navigation

/-!
# Form controls and the answers that they give

`Markup.controls` are the controls with a name in markup, in order. A list to choose from has the
options that stand between it and the next control.

The answers of a reader are collected from the controls one after the other (`Collects`). Each
control gives what the reader has made of it (`Control.Gives`): of the radio buttons that share a
name at most one is picked, a check box is ticked or not, a list has one of its options, and a field
has a text of its type. So the answers that controls can give are those that some run collects from
them.
-/

namespace StaticSite

open Condition (Answers)

/-! ### Controls -/

/-- A control with a name. -/
inductive Control where
  | radio (name value : String)
  | checkbox (name value : String)
  | select (name : String) (options : List String)
  | number (name : String)
  | text (name : String)
deriving DecidableEq, Repr

/-- The name of a control. -/
def Control.name : Control → String
  | .radio name _ | .checkbox name _ | .select name _ | .number name | .text name => name

/-- What a tag has to do with controls. -/
inductive FormPart where
  | input (type name value : String)
  | select (name : String)
  | option (value : String)
deriving DecidableEq, Repr

/-- The value of an attribute, which is empty if there is none. -/
def WrittenTag.value (t : WrittenTag) (name : String) : String :=
  (t.attributes.lookup name).getD ""

/-- The part of a form that a tag begins. -/
def WrittenTag.parts (t : WrittenTag) : List FormPart :=
  match t.attributes.lookup "name" with
  | some name =>
    [if t.name = "select" then .select name else .input (t.value "type") name (t.value "value")]
  | none => if t.name = "option" then [.option (t.value "value")] else []

attribute [simp] WrittenTag.value WrittenTag.parts

@[simp]
theorem lookup_attribute (name name' value : String) (attributes : List (String × String)) :
    ((name', value) :: attributes).lookup name =
      if name = name' then some value else attributes.lookup name := by
  rw [List.lookup_cons]
  by_cases h : name = name'
  · rw [if_pos h, beq_iff_eq.mpr h]
  · rw [if_neg h, beq_false_of_ne h]

/-- The control of an input element. One of an unknown type is a field for text. -/
def Control.ofInput (type name value : String) : Control :=
  if type = "radio" then .radio name value
  else if type = "checkbox" then .checkbox name value
  else if type = "number" then .number name
  else .text name

/-- The options up to the next control. -/
def leadingOptions : List FormPart → List String
  | .option value :: parts => value :: leadingOptions parts
  | _ => []

/-- The controls that are made of parts. -/
def controlsOf : List FormPart → List Control
  | [] => []
  | .input type name value :: parts => .ofInput type name value :: controlsOf parts
  | .select name :: parts => .select name (leadingOptions parts) :: controlsOf parts
  | .option _ :: parts => controlsOf parts

/-- **The controls in markup**, in order. -/
def Markup.controls (m : Markup) : List Control := controlsOf (m.read WrittenTag.parts)

/-- Parts do not begin with an option, which would belong to a list before them. -/
def BeginsControl : List FormPart → Prop
  | .option _ :: _ => False
  | _ => True

theorem leadingOptions_append {ps qs : List FormPart} (h : BeginsControl qs) :
    leadingOptions (ps ++ qs) = leadingOptions ps := by
  induction ps with
  | nil =>
    match qs, h with
    | [], _ => rfl
    | .input _ _ _ :: _, _ => rfl
    | .select _ :: _, _ => rfl
  | cons p ps ih =>
    cases p with
    | option value => exact congrArg (value :: ·) ih
    | input _ _ _ => rfl
    | select _ => rfl

/-- Parts that begin with a control add their controls to those before them. -/
theorem controlsOf_append {ps qs : List FormPart} (h : BeginsControl qs) :
    controlsOf (ps ++ qs) = controlsOf ps ++ controlsOf qs := by
  induction ps with
  | nil => rfl
  | cons p ps ih =>
    cases p with
    | option value => exact ih
    | input type name value => exact congrArg (_ :: ·) ih
    | select name =>
      rw [List.cons_append, controlsOf, controlsOf, leadingOptions_append h, ih, List.cons_append]

/-- Parts that all are made in one way, each with a control first. -/
theorem controlsOf_flatMap {α : Type} {f : α → List FormPart} (h : ∀ x, BeginsControl (f x))
    (xs : List α) : controlsOf (xs.flatMap f) = xs.flatMap fun x => controlsOf (f x) := by
  have hall (xs : List α) : BeginsControl (xs.flatMap f) := by
    induction xs with
    | nil => trivial
    | cons x xs ih =>
      have hx := h x
      rw [List.flatMap_cons]
      match f x, hx with
      | [], _ => exact ih
      | .input _ _ _ :: _, _ => trivial
      | .select _ :: _, _ => trivial
  induction xs with
  | nil => rfl
  | cons x xs ih => rw [List.flatMap_cons, List.flatMap_cons, controlsOf_append (hall xs), ih]

/-! ### Answers -/

/-- Answers that have been collected so far, and the names under which a radio button has been
picked. -/
structure Collected where
  answers : Answers
  picked : List String

namespace Collected

/-- A value becomes the answer under a name. -/
def answer (c : Collected) (name : String) (value : Json) : Collected :=
  { c with answers := Json.setField name value c.answers }

/-- The values that are ticked under a name. -/
def ticked (c : Collected) (name : String) : List String :=
  match c.answers.lookup name with
  | some (.arr items) => items.filterMap fun | .str s => some s | _ => none
  | _ => []

/-- The given values are ticked under a name. -/
def tick (c : Collected) (name : String) (values : List String) : Collected :=
  c.answer name (.arr (values.map .str))

end Collected

/-- Whether digits have an exponent or nothing behind them. -/
def isExponentEnd : List Char → Bool
  | [] => true
  | e :: cs =>
    let digits := match cs with
      | '+' :: rest | '-' :: rest => rest
      | _ => cs
    (e == 'e' || e == 'E') && !digits.isEmpty && digits.all Char.isDigit

/-- Whether a field for numbers takes a text: a number in decimal notation. -/
def isNumberText (text : String) : Bool :=
  let body := match text.toList with
    | '-' :: rest => rest
    | cs => cs
  let whole := body.takeWhile Char.isDigit
  match body.drop whole.length with
  | '.' :: rest =>
    let fraction := rest.takeWhile Char.isDigit
    !fraction.isEmpty && isExponentEnd (rest.drop fraction.length)
  | rest => !whole.isEmpty && isExponentEnd rest

/-- **What a control gives**, by what the reader has made of it. -/
inductive Control.Gives : Control → Collected → Collected → Prop
  | pick {name value : String} {c : Collected} (h : name = "" ∨ name ∉ c.picked) :
      Gives (.radio name value) c
        { c.answer name (.str value) with picked := name :: c.picked }
  | pass {name value : String} {c : Collected} : Gives (.radio name value) c c
  | tick {name value : String} {c : Collected} :
      Gives (.checkbox name value) c
        (c.tick name (if value ∈ c.ticked name then c.ticked name else c.ticked name ++ [value]))
  | untick {name value : String} {c : Collected} :
      Gives (.checkbox name value) c (c.tick name ((c.ticked name).erase value))
  | choose {name value : String} {options : List String} {c : Collected}
      (h : value ∈ options ∨ options = [] ∧ value = "") :
      Gives (.select name options) c (c.answer name (.str value))
  | enterNumber {name text : String} {c : Collected} (h : text = "" ∨ isNumberText text = true) :
      Gives (.number name) c (c.answer name (.str text))
  | enterText {name text : String} {c : Collected} (h : ∀ b ∈ ['\n', '\r'], b ∉ text.toList) :
      Gives (.text name) c (c.answer name (.str text))

/-- **Answers are collected** from controls one after the other. -/
inductive Collects : Collected → List Control → Collected → Prop
  | done {c : Collected} : Collects c [] c
  | next {c c' c'' : Collected} {k : Control} {ks : List Control} (h : k.Gives c c')
      (hrest : Collects c' ks c'') : Collects c (k :: ks) c''

/-- Answers that the controls in markup can give. -/
def Markup.CanGive (m : Markup) (answers : Answers) : Prop :=
  ∃ c, Collects ⟨[], []⟩ m.controls c ∧ c.answers = answers

theorem Collects.append {c c' c'' : Collected} {ks ls : List Control} (h : Collects c ks c')
    (h' : Collects c' ls c'') : Collects c (ks ++ ls) c'' := by
  induction h with
  | done => exact h'
  | next hk _ ih => exact .next hk (ih h')

/-! ### Which answers can be given -/

open Wizard (isAnswered)

namespace Collected

variable (c : Collected)

theorem lookup_answer_self (name : String) (value : Json) :
    (c.answer name value).answers.lookup name = some value :=
  Fields.lookup_setField_self c.answers name value

theorem lookup_answer_of_ne {name other : String} (h : other ≠ name) (value : Json) :
    (c.answer name value).answers.lookup other = c.answers.lookup other :=
  Fields.agreeBut_setField c.answers name value other h

end Collected

/-- Whether there can be an answer under an identifier behind a control, if there can be one before
it or not. A radio button may be passed over, and all other controls give an answer anyway. -/
def Control.answerable (id : String) (before : Bool) (k : Control) : Bool :=
  if k.name = id then
    match k with
    | .radio _ value => before || value != ""
    | .select _ options => options.any (· != "")
    | .checkbox _ _ | .number _ | .text _ => true
  else before

/-- A control leaves the answers under other names. -/
theorem Control.Gives.lookup_of_ne {k : Control} {c c' : Collected} (h : k.Gives c c')
    {id : String} (hne : id ≠ k.name) : c'.answers.lookup id = c.answers.lookup id := by
  cases h with
  | pass => rfl
  | pick | tick | untick | choose | enterNumber | enterText =>
    exact c.lookup_answer_of_ne hne _

/-- What one control gives: there is an answer only if there can be one. -/
theorem Control.Gives.answerable {k : Control} {c c' : Collected} (h : k.Gives c c') {id : String}
    {before : Bool} (hbefore : isAnswered (c.answers.lookup id) = true → before = true)
    (hafter : isAnswered (c'.answers.lookup id) = true) : k.answerable id before = true := by
  unfold Control.answerable
  by_cases hname : k.name = id
  · rw [if_pos hname]
    subst hname
    -- A text that is answered is not empty.
    have htext {name value : String} {c : Collected}
        (h : isAnswered ((c.answer name (.str value)).answers.lookup name) = true) :
        (value != "") = true := by
      rwa [c.lookup_answer_self] at h
    cases h with
    | pick => exact Bool.or_eq_true_iff.mpr (.inr (htext hafter))
    | pass => exact Bool.or_eq_true_iff.mpr (.inl (hbefore hafter))
    | @choose name value options c h =>
      have hvalue := htext hafter
      rcases h with hmem | ⟨-, rfl⟩
      · exact List.any_eq_true.mpr ⟨value, hmem, hvalue⟩
      · cases hvalue
    | tick | untick | enterNumber | enterText => rfl
  · rw [if_neg hname]
    rw [h.lookup_of_ne (Ne.symm hname)] at hafter
    exact hbefore hafter

/-- Whether there can be an answer under an identifier behind controls. -/
def answerableAfter (id : String) (before : Bool) (ks : List Control) : Bool :=
  ks.foldl (Control.answerable id) before

/-- **What controls give**: there is an answer only if there can be one. -/
theorem Collects.answerable {ks : List Control} {c c' : Collected} (h : Collects c ks c')
    {id : String} {before : Bool}
    (hbefore : isAnswered (c.answers.lookup id) = true → before = true)
    (hafter : isAnswered (c'.answers.lookup id) = true) :
    answerableAfter id before ks = true := by
  induction h generalizing before with
  | done => exact hbefore hafter
  | next hk _ ih => exact ih (hk.answerable hbefore) hafter

/-- A control that is no radio button can always give an answer, if it ever can. -/
theorem Control.exists_gives {k : Control} (hradio : ∀ name value, k ≠ .radio name value)
    (c : Collected) : ∃ c', k.Gives c c' ∧ c'.picked = c.picked ∧
      ∀ before, k.answerable k.name before = true →
        isAnswered (c'.answers.lookup k.name) = true := by
  have htext {name value : String} (h : (value != "") = true) :
      isAnswered ((c.answer name (.str value)).answers.lookup name) = true := by
    rw [c.lookup_answer_self]
    exact h
  cases k with
  | radio name value => exact absurd rfl (hradio name value)
  | checkbox name value =>
    refine ⟨_, .tick, rfl, fun _ _ => ?_⟩
    -- What is ticked holds the value of this box, whether it was ticked before or not.
    have hmem : value ∈ if value ∈ c.ticked name then c.ticked name
        else c.ticked name ++ [value] := by
      split
      · assumption
      · exact List.mem_append_right _ List.mem_cons_self
    rw [Control.name, Collected.tick, c.lookup_answer_self]
    generalize (if value ∈ c.ticked name then c.ticked name else c.ticked name ++ [value]) =
      values at hmem
    cases values with
    | nil => exact absurd hmem List.not_mem_nil
    | cons v vs => rfl
  | select name options =>
    -- A selection can only be answered if one of its options is not empty.
    by_cases hany : options.any (· != "") = true
    · obtain ⟨value, hmem, hvalue⟩ := List.any_eq_true.mp hany
      exact ⟨_, .choose (.inl hmem), rfl, fun _ _ => htext hvalue⟩
    · have hnone (before : Bool) :
          (Control.select name options).answerable name before ≠ true := by
        unfold Control.answerable
        rw [Control.name, if_pos rfl]
        exact hany
      cases options with
      | nil => exact ⟨_, .choose (.inr ⟨rfl, rfl⟩), rfl, fun b h => absurd h (hnone b)⟩
      | cons value values =>
        exact ⟨_, .choose (.inl List.mem_cons_self), rfl, fun b h => absurd h (hnone b)⟩
  | number name => exact ⟨_, .enterNumber (.inr (by decide : isNumberText "1" = true)), rfl,
      fun _ _ => htext rfl⟩
  | text name => exact ⟨_, .enterText (by simp : ∀ b ∈ ['\n', '\r'], b ∉ "a".toList), rfl,
      fun _ _ => htext rfl⟩

/-- **All answers that can be given can be given together**, even if no radio button is picked under
some given names, except for the answers under these. -/
theorem exists_collects (ks : List Control) (avoided : List String) :
    ∃ c, Collects ⟨[], []⟩ ks c ∧ (∀ id ∈ avoided, id ∉ c.picked) ∧
      ∀ id ∉ avoided, answerableAfter id false ks = true →
        isAnswered (c.answers.lookup id) = true := by
  -- The induction is on the last control: only what follows a radio button tells whether it is
  -- better to pick another one under its name.
  induction ks using List.reverseRecOn generalizing avoided with
  | nil => exact ⟨_, .done, fun _ _ => List.not_mem_nil, fun _ _ h => nomatch h⟩
  | append_singleton ks k ih =>
    have hlast (id : String) : answerableAfter id false (ks ++ [k]) =
        k.answerable id (answerableAfter id false ks) := List.foldl_append
    have hother {id : String} (hne : k.name ≠ id)
        (h : k.answerable id (answerableAfter id false ks) = true) :
        answerableAfter id false ks = true := by
      unfold Control.answerable at h
      rwa [if_neg hne] at h
    simp only [hlast]
    by_cases hradio : ∀ name value, k ≠ .radio name value
    · obtain ⟨c, hc, havoided, hcan⟩ := ih avoided
      obtain ⟨c', hgives, hpicked, hself⟩ := Control.exists_gives hradio c
      refine ⟨c', hc.append (.next hgives .done), by rwa [hpicked], fun id hid h => ?_⟩
      by_cases hname : k.name = id
      · subst hname
        exact hself _ h
      · rw [hgives.lookup_of_ne (Ne.symm hname)]
        exact hcan id hid (hother hname h)
    · obtain ⟨name, value, rfl⟩ : ∃ name value, k = .radio name value := by
        simpa using hradio
      by_cases hpick : name ∉ avoided ∧ value ≠ "" ∧ answerableAfter name false ks = false
      · -- The answer comes from this button, so that no other of its name is picked.
        obtain ⟨c, hc, havoided, hcan⟩ := ih (name :: avoided)
        rw [List.forall_mem_cons] at havoided
        have hgives : (Control.radio name value).Gives c _ := .pick (.inr havoided.1)
        refine ⟨_, hc.append (.next hgives .done), fun id hid => ?_, fun id hid h => ?_⟩
        · rw [List.mem_cons, not_or]
          exact ⟨fun heq => hpick.1 (heq ▸ hid), havoided.2 id hid⟩
        · by_cases hname : name = id
          · subst hname
            rw [c.lookup_answer_self]
            exact bne_iff_ne.mpr hpick.2.1
          · rw [hgives.lookup_of_ne (Ne.symm hname)]
            refine hcan id ?_ (hother hname h)
            rw [List.mem_cons, not_or]
            exact ⟨Ne.symm hname, hid⟩
      · obtain ⟨c, hc, havoided, hcan⟩ := ih avoided
        refine ⟨c, hc.append (.next .pass .done), havoided, fun id hid h => hcan id hid ?_⟩
        by_cases hname : name = id
        · subst hname
          rw [Control.answerable, Control.name, if_pos rfl, Bool.or_eq_true, bne_iff_ne] at h
          by_contra hbefore
          exact hpick ⟨hid, h.resolve_left hbefore, Bool.eq_false_iff.mpr hbefore⟩
        · exact hother hname h

end StaticSite
