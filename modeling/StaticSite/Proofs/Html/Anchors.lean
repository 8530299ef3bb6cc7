import StaticSite.Block.Scripts
import StaticSite.Page.Blocks
import StaticSite.Proofs.Failure
import StaticSite.Proofs.Html.Reading
import StaticSite.Widget.Calculator
import StaticSite.Widget.Scripts
import StaticSite.Wizard.Payload

/-!
# Anchors

The anchors of markup are the ends of its links: the elements that are named by an identifier, and
the addresses that are linked to. `Markup.anchors` reads both off its tags, in order.

`Markup.HasAnchors` says that markup is whole and has given anchors, so that it adds just these to a
page.

Scripts have none. The code of every script is inert: it compares numbers, but no `<` in it begins a
tag. Data in a script has no `<` at all. So a script adds nothing to the tags of a page but its own
element. The code is a fixed text, which is checked line by line.
-/

namespace StaticSite

/-! ### Inert texts -/

theorem isInert_ofList {cs : List Char} (h : IsInert cs) : IsInert (String.ofList cs).toList := by
  rwa [String.toList_ofList]

theorem isInert_append {s t : String} (hs : IsInert s.toList) (ht : IsInert t.toList) :
    IsInert (s ++ t).toList := by
  rw [String.toList_append]
  exact hs.append ht

/-- Data in a script is inert. -/
@[simp]
theorem isInert_inScript (v : Json) : IsInert v.inScript.toList :=
  .of_notMem (Markup.lt_notMem_inScript (v.render .ascii))

/-! ### Code -/

open Block in
theorem isInert_of_mem_blockCodes :
    ∀ code ∈ [pageScript, scrollCtaCode, tickedCode, chipsCode, tableSortCode, gateCode],
      IsInert code.toList := by
  simp only [List.forall_mem_cons]
  refine ⟨?_, ?_, ?_, ?_, ?_, ?_, fun _ h => absurd h List.not_mem_nil⟩
  all_goals
    refine IsInert.unlines ?_
    simp only [List.forall_mem_cons]
    repeat' with_reducible apply And.intro
  all_goals try with_reducible apply isInert_append
  all_goals first
    | exact isInert_ofList (by decide +kernel)
    | exact fun _ h => absurd h List.not_mem_nil

theorem isInert_of_mem_widgetCodes :
    ∀ code ∈ [calculatorCode, leadCode, mapCode, regionScript, sortCode, sortByDefault,
      checklistScript, infographicScript],
      IsInert code.toList := by
  simp only [List.forall_mem_cons]
  refine ⟨?_, ?_, ?_, ?_, ?_, ?_, ?_, ?_, fun _ h => absurd h List.not_mem_nil⟩
  all_goals
    refine IsInert.unlines ?_
    simp only [List.forall_mem_cons]
    repeat' with_reducible apply And.intro
  all_goals try with_reducible apply isInert_append
  all_goals first
    | exact isInert_ofList (by decide +kernel)
    | exact fun _ h => absurd h List.not_mem_nil

open Wizard in
theorem isInert_of_mem_wizardCodes :
    ∀ code ∈ [Condition.evaluatorScript, engineScript, controllerCode],
      IsInert code.toList := by
  simp only [List.forall_mem_cons]
  refine ⟨?_, ?_, ?_, fun _ h => absurd h List.not_mem_nil⟩
  all_goals
    refine IsInert.unlines ?_
    simp only [List.forall_mem_cons]
    repeat' with_reducible apply And.intro
  all_goals try with_reducible apply isInert_append
  all_goals first
    | exact isInert_ofList (by decide +kernel)
    | exact fun _ h => absurd h List.not_mem_nil

/-! ### Scripts with their data -/

@[simp]
theorem isInert_pageScript : IsInert pageScript.toList := isInert_of_mem_blockCodes _ (by simp)

@[simp]
theorem isInert_regionScript : IsInert regionScript.toList :=
  isInert_of_mem_widgetCodes _ (by simp)

@[simp]
theorem isInert_checklistScript : IsInert checklistScript.toList :=
  isInert_of_mem_widgetCodes _ (by simp)

@[simp]
theorem isInert_infographicScript : IsInert infographicScript.toList :=
  isInert_of_mem_widgetCodes _ (by simp)

@[simp]
theorem isInert_evaluatorScript : IsInert Condition.evaluatorScript.toList :=
  isInert_of_mem_wizardCodes _ (by simp)

@[simp]
theorem isInert_engineScript : IsInert Wizard.engineScript.toList :=
  isInert_of_mem_wizardCodes _ (by simp)

/-- A script that names its data first. -/
theorem isInert_named {before s code : String} (hbefore : '<' ∉ before.toList)
    (hs : IsInert s.toList) (hcode : IsInert code.toList) :
    IsInert (before ++ s ++ ";\n" ++ code).toList :=
  isInert_append (isInert_append (isInert_append (.of_notMem hbefore) hs)
    (.of_notMem (by decide))) hcode

section

variable {s : String} (hs : IsInert s.toList)
include hs

@[simp]
theorem isInert_calculatorScript : IsInert (calculatorScript s).toList :=
  isInert_named (by decide) hs (isInert_of_mem_widgetCodes _ (by simp))

@[simp]
theorem isInert_leadScript : IsInert (leadScript s).toList :=
  isInert_named (by decide) hs (isInert_of_mem_widgetCodes _ (by simp))

@[simp]
theorem isInert_mapScript : IsInert (mapScript s).toList :=
  isInert_named (by decide) hs (isInert_of_mem_widgetCodes _ (by simp))

@[simp]
theorem isInert_sortScript : IsInert (sortScript s).toList := by
  have hdefault : IsInert ("  var defaultKey = " ++ s ++ ";\n" ++ sortByDefault).toList :=
    isInert_named (by decide) hs (isInert_of_mem_widgetCodes _ (by simp))
  have hall := isInert_append (isInert_of_mem_widgetCodes sortCode (by simp)) hdefault
  unfold sortScript
  simpa only [String.append_assoc] using hall

theorem isInert_elementNamed {place code : String} (hplace : '<' ∉ place.toList)
    (hcode : IsInert code.toList) : IsInert (Block.elementNamed place s ++ code).toList := by
  refine isInert_append (isInert_append (isInert_append ?_ hs) (.of_notMem (by decide))) hcode
  refine isInert_append (isInert_append (.of_notMem (by decide)) (.of_notMem hplace)) ?_
  exact .of_notMem (by decide)

@[simp]
theorem isInert_scrollCtaScript : IsInert (Block.scrollCtaScript s).toList :=
  isInert_elementNamed hs (by decide) (isInert_of_mem_blockCodes _ (by simp))

@[simp]
theorem isInert_tickedScript : IsInert (Block.tickedScript s).toList :=
  isInert_elementNamed hs (by decide) (isInert_of_mem_blockCodes _ (by simp))

@[simp]
theorem isInert_chipsScript : IsInert (Block.chipsScript s).toList :=
  isInert_elementNamed hs (by decide) (isInert_of_mem_blockCodes _ (by simp))

@[simp]
theorem isInert_tableSortScript : IsInert (Block.tableSortScript s).toList :=
  isInert_elementNamed hs (by decide) (isInert_of_mem_blockCodes _ (by simp))

@[simp]
theorem isInert_gateScript : IsInert (Block.gateScript s).toList :=
  isInert_elementNamed hs (by decide) (isInert_of_mem_blockCodes _ (by simp))

@[simp]
theorem isInert_controllerScript : IsInert (Wizard.controllerScript s).toList :=
  isInert_named (by decide) hs (isInert_of_mem_wizardCodes _ (by simp))

end

/-! ### Anchors of markup -/

/-- An end of links: an element with an identifier, or a link to an address. -/
inductive Anchor where
  | name (id : String)
  | link (address : String)
deriving DecidableEq, Repr

namespace Anchor

/-- The anchor that an attribute makes, if it makes one. -/
def ofAttribute (a : String × String) : List Anchor :=
  if a.1 = "id" then [.name a.2] else if a.1 = "href" then [.link a.2] else []

/-- The identifier of an element. -/
def name? : Anchor → Option String
  | .name id => some id
  | .link _ => none

/-- The address of a link. -/
def link? : Anchor → Option String
  | .name _ => none
  | .link address => some address

end Anchor

/-- The addresses among anchors, in order. -/
def linksOf (anchors : List Anchor) : List String := anchors.filterMap Anchor.link?

section

variable {α : Type}

@[simp]
theorem linksOf_nil : linksOf [] = [] := rfl

@[simp]
theorem linksOf_link_cons (address : String) (as : List Anchor) :
    linksOf (.link address :: as) = address :: linksOf as := rfl

@[simp]
theorem linksOf_name_cons (id : String) (as : List Anchor) :
    linksOf (.name id :: as) = linksOf as := rfl

@[simp]
theorem linksOf_append (as bs : List Anchor) : linksOf (as ++ bs) = linksOf as ++ linksOf bs :=
  List.filterMap_append

@[simp]
theorem linksOf_flatMap (xs : List α) (f : α → List Anchor) :
    linksOf (xs.flatMap f) = xs.flatMap fun x => linksOf (f x) := List.filterMap_flatMap ..

@[simp]
theorem linksOf_flatten (ass : List (List Anchor)) :
    linksOf ass.flatten = ass.flatMap linksOf := List.filterMap_flatten ..

@[simp]
theorem linksOf_map_link (xs : List α) (f : α → String) :
    linksOf (xs.map fun x => .link (f x)) = xs.map f := by
  induction xs with
  | nil => rfl
  | cons x xs ih => rw [List.map_cons, linksOf_link_cons, ih, List.map_cons]

@[simp]
theorem linksOf_map_of_strings (as : List String) : linksOf (as.map .link) = as :=
  (linksOf_map_link as id).trans (List.map_id as)

@[simp]
theorem linksOf_map_name (xs : List α) (f : α → String) :
    linksOf (xs.map fun x => .name (f x)) = [] := by
  induction xs with
  | nil => rfl
  | cons x xs ih => rw [List.map_cons, linksOf_name_cons, ih]

end

/-- The anchors of a value, if there is one. -/
def anchorsOf {ε α : Type} (x : Except ε α) (anchors : α → List Anchor) : List Anchor :=
  match x with
  | .ok a => anchors a
  | .error _ => []

/-- The anchors of a tag. -/
def WrittenTag.anchors (t : WrittenTag) : List Anchor := t.attributes.flatMap Anchor.ofAttribute

attribute [simp] Anchor.ofAttribute Anchor.name? Anchor.link? WrittenTag.anchors

namespace Markup

/-- The anchors of markup, in order. -/
abbrev anchors (m : Markup) : List Anchor := m.read WrittenTag.anchors

/-- The identifiers of markup, in order. -/
def ids (m : Markup) : List String := m.anchors.filterMap Anchor.name?

/-- The addresses that markup links to, in order. -/
def addresses (m : Markup) : List String := linksOf m.anchors

/-- **Markup has anchors**, wherever it stands. -/
@[simp]
abbrev HasAnchors (m : Markup) (anchors : List Anchor) : Prop := m.IsWhole ∧ m.anchors = anchors

/-- Pieces of markup have their anchors one after the other. -/
theorem HasAnchors.append {a b : Markup} {as bs : List Anchor} (ha : a.HasAnchors as)
    (hb : b.HasAnchors bs) : (a ++ b).HasAnchors (as ++ bs) :=
  ⟨isWhole_append ha.1 hb.1, by rw [Markup.anchors, read_append ha.1, ← ha.2, ← hb.2]⟩

theorem HasAnchors.anchors_append {a : Markup} {as : List Anchor} (ha : a.HasAnchors as)
    (b : Markup) : (a ++ b).anchors = as ++ b.anchors := by
  rw [Markup.anchors, read_append ha.1, ← ha.2]

/-- Markup that begins with a tag has its anchors behind any other. -/
theorem HasAnchors.behind {m : Markup} {as : List Anchor} (hm : m.HasAnchors as)
    (htag : m.BeginsWithTag) (before : Markup) :
    (before ++ m).HasAnchors (before.anchors ++ as) := by
  obtain ⟨hwhole, htags⟩ := hm.1.behind htag before
  refine ⟨hwhole, ?_⟩
  rw [← hm.2, Markup.anchors, Markup.read, htags, List.flatMap_append]
  rfl

/-- A row has the anchors of its contents, even if these are not whole. -/
theorem anchors_rows_singleton (m : Markup) : (Markup.rows [m]).anchors = m.anchors := by
  unfold Markup.anchors Markup.read
  rw [tags_rows_singleton]

/-- What is known of each piece of markup is known of all of them. -/
theorem hasAnchors_of_mapM_eq_ok {ε α : Type} {f : α → Except ε Markup} (as : α → List Anchor)
    {xs : List α} {ms : List Markup} (h : xs.mapM f = .ok ms)
    (hf : ∀ x m, f x = .ok m → m.HasAnchors (as x)) :
    (∀ m ∈ ms, m.IsWhole) ∧ ms.flatMap anchors = xs.flatMap as := by
  refine ⟨fun m hm => ?_, ?_⟩
  · obtain ⟨x, -, hx⟩ := exists_of_mem_of_mapM_eq_ok h hm
    exact (hf x m hx).1
  · have hmap : ms.map anchors = xs.map as := map_eq_of_mapM_eq_ok (fun x m hx => (hf x m hx).2) h
    rw [List.flatMap_def, List.flatMap_def, hmap]

/-- What is known of each piece of markup at its position is known of all of them. -/
theorem hasAnchors_mapIdx {α : Type} {f : Nat → α → Markup} (as : Nat → α → List Anchor)
    (hf : ∀ i x, (f i x).HasAnchors (as i x)) (xs : List α) :
    (∀ m ∈ xs.mapIdx f, m.IsWhole) ∧ (xs.mapIdx f).flatMap anchors = (xs.mapIdx as).flatten := by
  induction xs generalizing f as with
  | nil => exact ⟨fun _ h => absurd h List.not_mem_nil, rfl⟩
  | cons x xs ih =>
    obtain ⟨hwhole, hread⟩ := ih (fun i => as (i + 1)) fun i => hf (i + 1)
    rw [List.mapIdx_cons, List.mapIdx_cons, List.forall_mem_cons, List.flatMap_cons,
      List.flatten_cons, hread, (hf 0 x).2]
    exact ⟨⟨(hf 0 x).1, hwhole⟩, rfl⟩

end Markup

/-- Entries of which none adds anything. -/
@[simp]
theorem flatMap_nil_right {α β : Type} (xs : List α) : (xs.flatMap fun _ => ([] : List β)) = [] :=
  List.flatMap_eq_nil_iff.mpr fun _ _ => rfl

/-- What is read off entries does not depend on their positions. -/
theorem flatMap_mapIdx {α β γ : Type} {f : Nat → α → β} {g : β → List γ} {k : α → List γ}
    (h : ∀ i x, g (f i x) = k x) (xs : List α) : (xs.mapIdx f).flatMap g = xs.flatMap k := by
  induction xs generalizing f with
  | nil => rfl
  | cons x xs ih =>
    rw [List.mapIdx_cons, List.flatMap_cons, ih fun i => h (i + 1), h, List.flatMap_cons]

@[simp]
theorem flatten_mapIdx_const {α β : Type} (f : α → List β) (xs : List α) :
    (xs.mapIdx fun _ x => f x).flatten = xs.flatMap f := by
  rw [← List.flatMap_id]
  exact flatMap_mapIdx (f := fun _ => f) (k := f) (fun _ _ => rfl) xs

end StaticSite
