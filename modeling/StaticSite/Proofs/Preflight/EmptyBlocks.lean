import StaticSite.Block.Render
import StaticSite.Proofs.Html.Tags
import StaticSite.Proofs.Preflight.Readiness
import StaticSite.Proofs.Schema.Reader
import StaticSite.Proofs.Site.Files

/-!
# Blocks that show nothing

Four types of blocks are made of a list, and show nothing without its entries: calculators, ranges
of prices, questions, and sources. Preflight has a concern for each, if the list is missing or has
no entries. `emptyBlock_is_reported_iff` compares the two.

* A calculator or ranges of prices show nothing only if the list has no entries, since entries that
  do not fit keep the block from being read. Whenever they show nothing, this is reported.
* Of questions and sources those are left out that have no text to show. A block all of whose
  entries are left out shows nothing, and this is reported exactly if there are no entries at all.
-/

namespace StaticSite

open Preflight (Concern)

/-! ### Markup without text -/

namespace Markup

theorem append_ne_empty {m : Markup} (hm : m ≠ .empty) (n : Markup) : m ++ n ≠ .empty := by
  intro h
  have htext : (m ++ n).text = "" := congrArg text h
  have hboth : m.text = "" ∧ n.text = "" := String.append_eq_empty_iff.mp htext
  exact hm (congrArg mk hboth.1)

/-- Two lines have a line feed between them. -/
theorem lines_ne_empty (m n : Markup) (ms : List Markup) : lines (m :: n :: ms) ≠ .empty := by
  intro h
  have htext : (lines (m :: n :: ms)).text.toList = [] := congrArg (fun m => m.text.toList) h
  unfold lines at htext
  rw [toList_joinWith_cons_cons] at htext
  simp at htext

theorem when_eq_empty_iff {c : Bool} {m : Markup} (hm : m ≠ .empty) :
    Markup.when c m = .empty ↔ c = false := by
  cases c with
  | false => exact iff_of_true rfl rfl
  | true => exact iff_of_false hm Bool.true_eq_false.mp

end Markup

namespace Block

variable {b : Block} {ctx : BlockContext}

theorem comment_ne_empty (reason type : String) : comment reason type ≠ .empty := by
  refine Markup.append_ne_empty (Markup.append_ne_empty (fun h => ?_) _) _
  have htext : "<!-- " ++ reason ++ ": " = "" := congrArg Markup.text h
  simp at htext

/-- A block that shows nothing is rendered so, and is not one that cannot be rendered. -/
theorem render_eq_of_markup_eq_empty {kind : BlockKind}
    (hkind : BlockKind.named? b.type = some kind) (h : b.markup ctx = .empty) :
    kind.render b ctx = .ok .empty := by
  unfold markup at h
  rw [hkind] at h
  cases hrender : kind.render b ctx with
  | ok m =>
    simp only [hrender] at h
    rw [h]
  | error e =>
    simp only [hrender] at h
    exact absurd h (comment_ne_empty _ _)

/-! ### What the blocks are made of -/

theorem faq_eq_empty_iff : b.faq = .empty ↔ b.content.recordsWith "items" "question" = [] := by
  unfold faq
  rw [Markup.when_eq_empty_iff (Markup.lines_ne_empty _ _ _), Bool.not_eq_false',
    List.isEmpty_iff]

theorem citations_eq_empty_iff :
    b.citations = .empty ↔ b.content.recordsWith "sources" "title" = [] := by
  unfold citations
  rw [Markup.when_eq_empty_iff (Markup.lines_ne_empty _ _ _), Bool.not_eq_false',
    List.isEmpty_iff]

/-- The payload of a block comes from its content. -/
theorem read_eq_of_payload_eq_ok {α : Type} {read : Schema.Reader α} {a : α}
    (h : payload b read = .ok a) : read (.obj b.content) = .ok a := by
  unfold payload BlockError.ofChecked at h
  split at h
  · next hread =>
    cases h
    exact hread
  · cases h

open Schema.Checked in
/-- A calculator has as many inputs as its list. -/
theorem length_inputs_of_read_eq_ok {fs : Fields} {c : Calculator}
    (h : Calculator.read (.obj fs) = .ok c) : c.inputs.length = (fs.items "inputs").length := by
  obtain ⟨_, methodology, h₁, -, rfl⟩ := exists_of_seq_eq_ok h
  obtain ⟨_, assumptions, h₂, -, rfl⟩ := exists_of_seq_eq_ok h₁
  obtain ⟨_, formula, h₃, -, rfl⟩ := exists_of_seq_eq_ok h₂
  obtain ⟨_, outputs, h₄, -, rfl⟩ := exists_of_seq_eq_ok h₃
  obtain ⟨inputs, hinputs, rfl⟩ := exists_of_map_eq_ok h₄
  exact Schema.length_eq_of_listField_eq_ok hinputs

open Schema.Checked in
/-- A guide has as many ranges as its list. -/
theorem length_ranges_of_read_eq_ok {fs : Fields} {g : CostGuide}
    (h : CostGuide.read (.obj fs) = .ok g) : g.ranges.length = (fs.items "ranges").length := by
  obtain ⟨_, factors, h₁, -, rfl⟩ := exists_of_seq_eq_ok h
  obtain ⟨ranges, hranges, rfl⟩ := exists_of_map_eq_ok h₁
  exact Schema.length_eq_of_listField_eq_ok hranges

theorem items_eq_nil_of_quoteCalculator (h : b.quoteCalculator ctx = .ok .empty) :
    b.content.items "inputs" = [] := by
  obtain ⟨c, hc, h⟩ := exists_of_bind_eq_ok h
  have hempty := (Markup.when_eq_empty_iff (Markup.lines_ne_empty _ _ _)).mp (Except.ok.inj h)
  rw [Bool.not_eq_false', List.isEmpty_iff_length_eq_zero,
    length_inputs_of_read_eq_ok (read_eq_of_payload_eq_ok hc)] at hempty
  exact List.eq_nil_of_length_eq_zero hempty

theorem items_eq_nil_of_costBreakdown (h : b.costBreakdown = .ok .empty) :
    b.content.items "ranges" = [] := by
  obtain ⟨g, hg, h⟩ := exists_of_bind_eq_ok h
  obtain ⟨spans, hspans, h⟩ := exists_of_bind_eq_ok h
  have hempty := (Markup.when_eq_empty_iff (Markup.lines_ne_empty _ _ _)).mp (Except.ok.inj h)
  -- There is one span for each range.
  have hlength : spans.map (fun _ => ()) = g.ranges.map fun _ => () :=
    map_eq_of_mapM_eq_ok (fun _ _ _ => rfl) (mapError_eq_ok_iff.mp hspans)
  rw [Bool.not_eq_false', List.isEmpty_iff] at hempty
  rw [hempty, List.map_nil] at hlength
  have hranges : g.ranges.length = 0 := by rw [List.map_eq_nil_iff.mp hlength.symm, List.length_nil]
  rw [length_ranges_of_read_eq_ok (read_eq_of_payload_eq_ok hg)] at hranges
  exact List.eq_nil_of_length_eq_zero hranges

end Block

/-! ### What preflight says of them -/

namespace Preflight

/-- A list without which a block shows nothing. -/
structure NeededList where
  field : String
  /-- The field that an entry needs a text in to be shown, if there is one. -/
  key : Option String
  /-- What preflight says of a block whose list has no entries. -/
  concern : Concern

/-- The lists that blocks are made of. -/
def neededList? : BlockKind → Option NeededList
  | .quoteCalculator => some ⟨"inputs", none, .emptyCalculator⟩
  | .costBreakdown => some ⟨"ranges", none, .emptyCosts⟩
  | .faq => some ⟨"items", some "question", .emptyQuestions⟩
  | .citations => some ⟨"sources", some "title", .emptyCitations⟩
  | _ => none

/-- Whether a concern is about a list without entries. -/
def Concern.isAboutList : Concern → Bool
  | .emptyCalculator | .emptyCosts | .emptyQuestions | .emptyCitations => true
  | _ => false

theorem isAboutList_of_neededList? {kind : BlockKind} {l : NeededList}
    (h : neededList? kind = some l) : l.concern.isAboutList = true := by
  unfold neededList? at h
  split at h
  case h_5 => cases h
  all_goals
    cases h
    rfl

namespace Site

variable {s : Site} {b : Block} {concern : Concern}

theorem not_isAboutList_of_mem_map {α : Type} {xs : List α} {f : α → Concern}
    (hf : ∀ x, (f x).isAboutList = false) (h : concern ∈ xs.map f) :
    concern.isAboutList = false := by
  obtain ⟨x, -, rfl⟩ := List.mem_map.mp h
  exact hf x

theorem not_isAboutList_of_mem_checkHeader {content : Fields}
    (h : concern ∈ s.checkHeader content) : concern.isAboutList = false := by
  rcases List.mem_append.mp h with h | h
  · obtain ⟨link, -, h⟩ := List.mem_flatMap.mp h
    rcases List.mem_append.mp h with h | h
    · exact not_isAboutList_of_mem_map (fun _ => rfl) h
    · obtain ⟨child, -, h⟩ := List.mem_flatMap.mp h
      exact not_isAboutList_of_mem_map (fun _ => rfl) h
  · exact not_isAboutList_of_mem_map (fun _ => rfl) h

theorem not_isAboutList_of_mem_ite {p : Prop} [Decidable p] {other : Concern}
    (hother : other.isAboutList = false) (h : concern ∈ if p then [other] else []) :
    concern.isAboutList = false := by
  split at h
  · rwa [List.mem_singleton.mp h]
  · exact absurd h List.not_mem_nil

/-- A concern about a list comes from the check of lists, and from no other one. -/
theorem mem_checkBlock_iff_of_isAboutList (hc : concern.isAboutList = true) :
    concern ∈ s.checkBlock b ↔ concern ∈ checkEmpty b := by
  rw [mem_checkBlock_iff]
  refine ⟨fun h => ?_, fun h => .inr (.inr (.inl h))⟩
  have habsurd (h : concern.isAboutList = false) : concern ∈ checkEmpty b :=
    absurd (h.symm.trans hc) Bool.false_ne_true
  rcases h with ⟨-, h⟩ | h | h | h | h | h | h
  · exact habsurd (not_isAboutList_of_mem_checkHeader h)
  · obtain ⟨field, -, h⟩ := List.mem_flatMap.mp h
    exact habsurd (not_isAboutList_of_mem_map (fun _ => rfl) h)
  · exact h
  · exact habsurd (not_isAboutList_of_mem_ite rfl h)
  · exact habsurd (not_isAboutList_of_mem_ite rfl h)
  · exact habsurd (not_isAboutList_of_mem_map (fun _ => rfl) h)
  · exact habsurd (not_isAboutList_of_mem_ite rfl h)

theorem checkEmpty_eq {l : NeededList}
    (hl : (BlockKind.named? b.type).bind neededList? = some l) :
    checkEmpty b = checkList b.content l.field l.concern := by
  obtain ⟨kind, hkind, hl⟩ := Option.bind_eq_some_iff.mp hl
  unfold checkEmpty
  rw [hkind]
  unfold neededList? at hl
  split at hl
  case h_5 => cases hl
  all_goals
    cases hl
    rfl

/-- **When a list without entries is reported.** -/
theorem concern_mem_checkBlock_iff {l : NeededList}
    (hl : (BlockKind.named? b.type).bind neededList? = some l) :
    l.concern ∈ s.checkBlock b ↔ b.content.items l.field = [] := by
  obtain ⟨kind, -, hkind⟩ := Option.bind_eq_some_iff.mp hl
  rw [mem_checkBlock_iff_of_isAboutList (isAboutList_of_neededList? hkind), checkEmpty_eq hl,
    checkList, ← List.isEmpty_iff]
  split
  · next h => exact iff_of_true (List.mem_singleton.mpr rfl) h
  · next h => exact iff_of_false List.not_mem_nil h

end Site

/-- **What a block that shows nothing lacks.** Its list has no entries, or none with a text to
show. -/
theorem entries_of_markup_eq_empty {b : Block} {ctx : BlockContext} {l : NeededList}
    (hl : (BlockKind.named? b.type).bind neededList? = some l) (h : b.markup ctx = .empty) :
    (l.key = none → b.content.items l.field = []) ∧
      ∀ key, l.key = some key → b.content.recordsWith l.field key = [] := by
  obtain ⟨kind, hkind, hl⟩ := Option.bind_eq_some_iff.mp hl
  have hrender := Block.render_eq_of_markup_eq_empty hkind h
  unfold neededList? at hl
  -- Four kinds of blocks need a list; the last two of them leave out entries without a text.
  split at hl <;> cases hl
  · exact ⟨fun _ => Block.items_eq_nil_of_quoteCalculator hrender, nofun⟩
  · exact ⟨fun _ => Block.items_eq_nil_of_costBreakdown hrender, nofun⟩
  · refine ⟨nofun, fun key hkey => ?_⟩
    cases hkey
    exact Block.faq_eq_empty_iff.mp (Except.ok.inj hrender)
  · refine ⟨nofun, fun key hkey => ?_⟩
    cases hkey
    exact Block.citations_eq_empty_iff.mp (Except.ok.inj hrender)

variable {domain : String} {pages : List Page} {niche : Option String}

/-- **What preflight says of blocks that show nothing**, if they are made of a list.

* Of calculators and ranges of prices it says so always.
* Questions and sources show nothing if no entry has a text to show. Preflight says so exactly if
  there are no entries at all. -/
theorem emptyBlock_is_reported_iff {p : Page} {b : Block} {ctx : BlockContext} {l : NeededList}
    (hp : p ∈ pages) (hb : b ∈ p.blocks)
    (hl : (BlockKind.named? b.type).bind neededList? = some l) (hempty : b.markup ctx = .empty) :
    (l.key = none → ⟨l.concern, p.route, some b.id⟩ ∈ (report domain pages niche).issues) ∧
      (∀ key, l.key = some key → b.content.recordsWith l.field key = []) ∧
      (l.concern ∈ (checkedSite domain pages niche).checkBlock b ↔
        b.content.items l.field = []) ∧
      (b.content.items l.field = [] →
        ⟨l.concern, p.route, some b.id⟩ ∈ (report domain pages niche).issues) := by
  obtain ⟨hall, hsome⟩ := entries_of_markup_eq_empty hl hempty
  have hreported : b.content.items l.field = [] →
      ⟨l.concern, p.route, some b.id⟩ ∈ (report domain pages niche).issues := fun hitems =>
    mem_issues_of_mem_checkBlock hp hb ((Site.concern_mem_checkBlock_iff hl).mpr hitems)
  exact ⟨fun hkey => hreported (hall hkey), hsome, Site.concern_mem_checkBlock_iff hl, hreported⟩

/-- A page with one block. -/
def pageOf (b : Block) : Page := { barePage "/" with blocks := [b] }

/-- What the blocks of a bare page know of it. -/
def bareContext : BlockContext :=
  (Compilation.ofRequest bareRequest bareDomain [] bareTime).blockContext (barePage "/")

/-- A calculator without content. -/
def bareCalculator : Block := bareBlock "QuoteCalculator" []

theorem bareCalculator_is_reported :
    bareCalculator.markup bareContext = .empty ∧
      ⟨.emptyCalculator, "/", some bareCalculator.id⟩ ∈
        (report "example.com" [pageOf bareCalculator] none).issues := by
  have hl : (BlockKind.named? bareCalculator.type).bind neededList? =
      some ⟨"inputs", none, .emptyCalculator⟩ := rfl
  have hempty : bareCalculator.markup bareContext = .empty := rfl
  have hp : pageOf bareCalculator ∈ [pageOf bareCalculator] := List.mem_cons_self
  exact ⟨hempty, (emptyBlock_is_reported_iff hp List.mem_cons_self hl hempty).1 rfl⟩

/-- A question that asks nothing. -/
def bareQuestion : Block := bareBlock "FAQ" [("items", .arr [.obj []])]

/-- Questions that ask nothing show nothing, and this is not reported. -/
theorem bareQuestion_is_not_reported :
    bareQuestion.markup bareContext = .empty ∧
      ∀ i ∈ (report "example.com" [pageOf bareQuestion] none).issues,
        i.concern ≠ .emptyQuestions :=
  ⟨rfl, by decide +kernel⟩

end Preflight

end StaticSite
