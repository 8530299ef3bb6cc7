import StaticSite.Json.Fields
import StaticSite.Schema.Reader

/-!
# Reading records

A record is read by applying its constructor to the outcomes of its fields. The first lemmas take
the outcome of a record apart again, and say of a list how many items it was read from.

* `Checked.exists_of_map_eq_ok` and `Checked.exists_of_seq_eq_ok` split an outcome in two.
* `length_eq_of_listField_eq_ok` says that a list has as many items as the field that it was read
  from, which has none if it is absent.

The content of a block and the payload of an article are read field by field, each field by its
name. What a field holds has therefore no influence on how the others are read.

* `Fields.without` leaves a field out; `Json.setField` gives it a value.
* `Fields.AgreeBut` says that two objects have the same fields but for one name. Setting this field
  or leaving it out gives such objects, and all other fields are read alike in both.
* Fields that are found alike are read alike (`Schema.defaultField_congr` and its kin).
-/

namespace StaticSite.Schema

/-! ### Outcomes -/

variable {α β : Type}

namespace Checked

theorem exists_of_map_eq_ok {f : α → β} {x : Checked α} {b : β} (h : f <$> x = .ok b) :
    ∃ a, x = .ok a ∧ b = f a := by
  cases x with
  | ok a =>
    cases h
    exact ⟨a, rfl, rfl⟩
  | bad ps => cases h

/-- A function that was applied to an outcome, and what it was applied to, are both good. -/
theorem exists_of_seq_eq_ok {f : Checked (α → β)} {x : Checked α} {b : β} (h : f <*> x = .ok b) :
    ∃ g a, f = .ok g ∧ x = .ok a ∧ b = g a := by
  cases f with
  | ok g =>
    cases x with
    | ok a =>
      cases h
      exact ⟨g, a, rfl, rfl, rfl⟩
    | bad ps => cases h
  | bad ps => cases x <;> cases h

theorem under_eq_ok_iff {s : Step} {x : Checked α} {a : α} : x.under s = .ok a ↔ x = .ok a := by
  cases x with
  | ok b => exact Iff.rfl
  | bad ps => exact ⟨fun h => (nomatch h), fun h => (nomatch h)⟩

end Checked

open Checked

theorem length_eq_of_itemsFrom_eq_ok {r : Reader α} {n : Nat} {vs : List Json} {xs : List α}
    (h : itemsFrom r n vs = .ok xs) : xs.length = vs.length := by
  induction vs generalizing n xs with
  | nil =>
    cases h
    rfl
  | cons v vs ih =>
    obtain ⟨g, rest, hg, hrest, rfl⟩ := exists_of_seq_eq_ok h
    obtain ⟨x, -, rfl⟩ := exists_of_map_eq_ok hg
    rw [List.length_cons, List.length_cons, ih hrest]

/-- A list has as many items as the field that it was read from. -/
theorem length_eq_of_listField_eq_ok {r : Reader α} {fs : Fields} {name : String} {xs : List α}
    (h : listField fs name r = .ok xs) : xs.length = (fs.items name).length := by
  have hfind : Name.find? name fs = fs.lookup name := by
    unfold Name.find?
    cases fs.lookup name <;> rfl
  unfold listField defaultField at h
  rw [hfind] at h
  unfold Fields.items
  cases hfield : fs.lookup name with
  | none =>
    rw [hfield] at h
    cases h
    rfl
  | some v =>
    rw [hfield] at h
    have hlist : readList r v = .ok xs := under_eq_ok_iff.mp h
    cases v with
    | arr vs => exact length_eq_of_itemsFrom_eq_ok hlist
    | _ => cases hlist

end StaticSite.Schema

/-! ### Setting and leaving out fields -/


namespace StaticSite

open Schema (Name)

namespace Fields

variable {fs gs : Fields} {name other : String}

/-- The fields without those of a name. -/
def without (fs : Fields) (name : String) : Fields := fs.filter fun f => f.1 != name

theorem lookup_setField_self (fs : Fields) (name : String) (value : Json) :
    (Json.setField name value fs).lookup name = some value := by
  induction fs with
  | nil => rw [Json.setField, List.lookup_cons_self]
  | cons f rest ih =>
    obtain ⟨n, v⟩ := f
    rw [Json.setField]
    by_cases hn : n = name
    · rw [if_pos hn, hn, List.lookup_cons_self]
    · rw [if_neg hn, List.lookup_cons, beq_false_of_ne (Ne.symm hn)]
      exact ih

theorem lookup_without_self (fs : Fields) (name : String) :
    (fs.without name).lookup name = none := by
  rw [List.lookup_eq_none_iff]
  intro f hf
  exact bne_iff_ne.mpr (Ne.symm (bne_iff_ne.mp (List.mem_filter.mp hf).2))

/-! ### Fields that differ under one name -/

/-- Two objects have the same fields but for one name. -/
def AgreeBut (name : String) (fs gs : Fields) : Prop :=
  ∀ other, other ≠ name → fs.lookup other = gs.lookup other

theorem agreeBut_setField (fs : Fields) (name : String) (value : Json) :
    AgreeBut name (Json.setField name value fs) fs := by
  intro other hne
  induction fs with
  | nil => rw [Json.setField, List.lookup_cons, beq_false_of_ne hne]
  | cons f rest ih =>
    obtain ⟨n, v⟩ := f
    rw [Json.setField]
    by_cases hn : n = name
    · -- The field is found here, under a name that is not looked up.
      rw [if_pos hn, List.lookup_cons, List.lookup_cons, beq_false_of_ne (hn ▸ hne)]
    · rw [if_neg hn, List.lookup_cons, List.lookup_cons, ih]

theorem agreeBut_without (fs : Fields) (name : String) : AgreeBut name (fs.without name) fs := by
  intro other hne
  induction fs with
  | nil => rfl
  | cons f rest ih =>
    obtain ⟨n, v⟩ := f
    by_cases hn : n = name
    -- What is left out here has a name that is not looked up.
    · have hskip : Fields.without ((n, v) :: rest) name = Fields.without rest name :=
        List.filter_cons_of_neg (by rw [hn, bne_self_eq_false]; exact Bool.false_ne_true)
      rw [hskip, ih, List.lookup_cons, beq_false_of_ne (hn ▸ hne)]
    · have hkeep : Fields.without ((n, v) :: rest) name = (n, v) :: Fields.without rest name :=
        List.filter_cons_of_pos (bne_iff_ne.mpr hn)
      rw [hkeep, List.lookup_cons, List.lookup_cons, ih]

namespace AgreeBut

theorem symm (h : AgreeBut name fs gs) : AgreeBut name gs fs :=
  fun other hne => (h other hne).symm

theorem trans {hs : Fields} (h : AgreeBut name fs gs) (h' : AgreeBut name gs hs) :
    AgreeBut name fs hs :=
  fun other hne => (h other hne).trans (h' other hne)

theorem text?_eq (h : AgreeBut name fs gs) (hne : other ≠ name) :
    fs.text? other = gs.text? other := by
  unfold text?
  rw [h other hne]

theorem records_eq (h : AgreeBut name fs gs) (hne : other ≠ name) :
    fs.records other = gs.records other := by
  unfold records items
  rw [h other hne]

theorem number?_eq (h : AgreeBut name fs gs) (hne : other ≠ name) :
    fs.number? other = gs.number? other := by
  unfold number?
  rw [h other hne]

/-- A field of a record that goes by other names is found alike. -/
theorem find?_eq (h : AgreeBut name fs gs) {n : Name} (hmain : n.main ≠ name)
    (hother : ∀ o, n.other = some o → o ≠ name) : n.find? fs = n.find? gs := by
  unfold Name.find?
  rw [h n.main hmain]
  cases ho : n.other with
  | none => rfl
  | some o => rw [Option.bind_some, Option.bind_some, h o (hother o ho)]

end AgreeBut

end Fields

/-! ### Fields that are found alike -/

namespace Schema

variable {α : Type} {fs gs : Fields} {n : Name} {r : Reader α}

theorem requiredField_congr (h : n.find? fs = n.find? gs) :
    requiredField fs n r = requiredField gs n r := by
  unfold requiredField
  rw [h]

theorem defaultField_congr {default : α} (h : n.find? fs = n.find? gs) :
    defaultField fs n default r = defaultField gs n default r := by
  unfold defaultField
  rw [h]

theorem optionalField_congr (h : n.find? fs = n.find? gs) :
    optionalField fs n r = optionalField gs n r := defaultField_congr h

theorem listField_congr (h : n.find? fs = n.find? gs) : listField fs n r = listField gs n r :=
  defaultField_congr h

end Schema

end StaticSite
