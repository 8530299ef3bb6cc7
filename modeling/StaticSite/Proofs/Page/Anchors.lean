import Mathlib.Data.List.Nodup
import StaticSite.Proofs.Block.Anchors
import StaticSite.Proofs.Page.Places

/-!
# The anchors of a page made of blocks

A page made of blocks shows its last header, all blocks that are no headers and no footers, and its
last footer (`shownBlocks`). Beside the links of its head, its anchors are those of these blocks and
of the fragments of a provider of advertisements (`anchors_blockPage`).

So are its identifiers. They are distinct exactly if no block has one twice and no two have one in
common (`nodup_ids_blockPage_iff`).

Blocks that name one element after themselves never have an identifier in common, as they are
identified themselves (`nodup_ids_of_namesItself`). A widget is different: the identifier of a
comparison, a calculator or a form as a whole is fixed, so that two of them on a page have it in
common.
-/

namespace StaticSite

open Markup

/-! ### The blocks of a page -/

@[simp]
theorem Block.hasAnchors_wrapper (b : Block) (ctx : BlockContext) :
    (b.wrapper ctx).HasAnchors (b.anchors ctx) := by
  unfold wrapper
  dsimp only
  split
  · simp (disch := simp (disch := simp))
  · cases b.variant.filter fun v => !v.isEmpty <;> simp (disch := simp (disch := simp))

namespace BlockPage

variable (ctx : BlockContext)

/-- A block that may be missing. -/
theorem hasAnchors_getD_wrapper (o : Option Block) :
    Markup.HasAnchors ((o.map fun b => b.wrapper ctx).getD .empty)
      (o.toList.flatMap fun b => b.anchors ctx) := by
  cases o <;> simp

/-- The parts of a page have the anchors of the blocks that it shows. -/
theorem hasAnchors_parts_ofBlocks (blocks : List Block) :
    (∀ m ∈ (ofBlocks ctx blocks).parts, m.IsWhole) ∧
      (ofBlocks ctx blocks).parts.flatMap Markup.anchors =
        (shownBlocks blocks).flatMap (·.anchors ctx) := by
  have hheader := hasAnchors_getD_wrapper ctx (blocks.filter fun b => b.type == "Header").getLast?
  have hfooter := hasAnchors_getD_wrapper ctx (blocks.filter fun b => b.type == "Footer").getLast?
  have hsections : (ofBlocks ctx blocks).sections =
      (blocks.filter fun b => !(b.type == "Header" || b.type == "Footer")).map (·.wrapper ctx) :=
    sections_foldl_add {} ctx blocks
  unfold parts shownBlocks
  rw [header_ofBlocks, footer_ofBlocks, hsections]
  generalize (blocks.filter fun b => b.type == "Header").getLast? = first at hheader ⊢
  generalize (blocks.filter fun b => b.type == "Footer").getLast? = last at hfooter ⊢
  generalize (blocks.filter fun b => !(b.type == "Header" || b.type == "Footer")) = others
  simp [hheader, hfooter, List.flatMap_map]

end BlockPage

/-! ### The head of a page -/

@[simp]
theorem hasAnchors_propertyTag (property content : String) :
    (propertyTag property content).HasAnchors [] := by
  unfold propertyTag
  simp (disch := simp (disch := simp))

@[simp]
theorem hasAnchors_nameTag (name content : String) : (nameTag name content).HasAnchors [] := by
  unfold nameTag
  simp (disch := simp (disch := simp))

@[simp]
theorem PageShell.hasAnchors_stylesheetLink (href : String) :
    (stylesheetLink href).HasAnchors [.link href] := by
  unfold stylesheetLink
  simp (disch := simp (disch := simp))

@[simp]
theorem PageShell.hasAnchors_iconLink : iconLink.HasAnchors [.link "/favicon.svg"] := by
  unfold iconLink
  simp (disch := simp (disch := simp))

theorem PageShell.doctype_spec :
    (html "<!DOCTYPE html>").IsWhole ∧ (html "<!DOCTYPE html>").tags = [] := by
  obtain ⟨hwhole, htags⟩ := isWhole_of_tag (m := html "<!DOCTYPE html>")
    "!DOCTYPE html>".toList rfl (by decide) (by decide)
  refine ⟨hwhole, ?_⟩
  rw [htags, readTag?_of_isDeadTag rfl]
  rfl

@[simp]
theorem PageShell.hasAnchors_doctype : (html "<!DOCTYPE html>").HasAnchors [] :=
  ⟨doctype_spec.1, read_of_tags_eq_nil doctype_spec.2⟩

theorem PageShell.hasAnchors_headStart (description : String) :
    (Markup.rows (headStart description)).HasAnchors [] := by
  unfold headStart
  simp (disch := simp (disch := simp))

namespace BlockContext

variable (ctx : BlockContext)

@[simp]
theorem hasAnchors_shareTags : ctx.shareTags.HasAnchors [] := by
  unfold BlockContext.shareTags timeTags
  dsimp only
  cases ctx.published <;> cases ctx.updated <;> simp (disch := simp (disch := simp))

/-- The links in the head of a page that lead to its fonts. -/
def fontAnchors : List Anchor :=
  ctx.fontUrl?.toList.flatMap fun url =>
    [.link "https://fonts.googleapis.com", .link "https://fonts.gstatic.com", .link url]

theorem hasAnchors_fontLinks : (Markup.rows ctx.fontLinks).HasAnchors ctx.fontAnchors := by
  unfold fontLinks fontAnchors
  cases ctx.fontUrl? with
  | none => simp
  | some url => simp (disch := simp (disch := simp))

/-- The anchors in the head of a page, which are all links. -/
def headAnchors (stylesheet : String) : List Anchor :=
  .link ctx.canonicalUrl :: ctx.fontAnchors ++ [.link stylesheet, .link "/favicon.svg"]

theorem hasAnchors_headLines (stylesheet : String) :
    (Markup.rows (ctx.headLines stylesheet)).HasAnchors (ctx.headAnchors stylesheet) := by
  have hdata : (ctx.pageData ++ html "\n  " ++ ctx.wayData).HasAnchors [] := by
    unfold pageData wayData breadcrumbData
    split <;> simp (disch := simp (disch := simp)) [read_append]
  have hfirst : (Markup.rows
      [.indent 2 <| el "title" [] (esc ctx.fullTitle),
       .indent 2 <| leaf "link" [attr "rel" "canonical", attr "href" ctx.canonicalUrl],
       .indent 2 <| ctx.shareTags]).HasAnchors [.link ctx.canonicalUrl] := by
    simp (disch := simp (disch := simp))
  have hlast : (Markup.rows
      [.indent 2 <| PageShell.stylesheetLink stylesheet,
       .indent 2 <| PageShell.iconLink,
       .indent 2 <| ctx.pageData ++ html "\n  " ++ ctx.wayData]).HasAnchors
        [.link stylesheet, .link "/favicon.svg"] := by
    simp (disch := simp (disch := simp) [hdata]) [hdata]
  unfold headLines headAnchors
  rw [Markup.rows_append, Markup.rows_append, Markup.rows_append]
  exact (((PageShell.hasAnchors_headStart ctx.description).append hfirst).append
    ctx.hasAnchors_fontLinks).append hlast

end BlockContext

/-! ### The whole page -/

/-- A script that stands between line feeds. -/
theorem hasAnchors_scriptLines {code : String} (h : IsInert code.toList) :
    (el "script" [] (html ("\n" ++ code ++ "\n"))).HasAnchors [] := by
  have hcode : (html ("\n" ++ code ++ "\n")).tags = [] := by
    refine IsInert.readTags_eq_nil ?_
    exact isInert_append (isInert_append (.of_notMem (by decide)) h) (.of_notMem (by decide))
  have hattrs : ∀ a ∈ ([] : List Markup), a.IsAttribute := fun _ h => absurd h List.not_mem_nil
  refine ⟨isWhole_el rfl hattrs _, ?_⟩
  rw [Markup.anchors, read_el rfl hattrs, read_of_tags_eq_nil hcode]
  rfl

theorem BlockPage.hasAnchors_lines (ctx : BlockContext) (blocks : List Block) :
    (Markup.rows ((ofBlocks ctx blocks).lines ctx)).HasAnchors
      ((shownBlocks blocks).flatMap fun b => b.anchors ctx) := by
  obtain ⟨hwhole, hread⟩ := hasAnchors_parts_ofBlocks ctx blocks
  rw [← hread]
  generalize ofBlocks ctx blocks = p at hwhole
  have hheader : p.header.IsWhole := hwhole _ List.mem_cons_self
  have hsections : ∀ m ∈ p.sections, m.IsWhole := fun m hm =>
    hwhole m (List.mem_append_left _ (List.mem_cons_of_mem _ hm))
  have hfooter : p.footer.IsWhole := hwhole _ (List.mem_append_right _ List.mem_cons_self)
  have hscript := hasAnchors_scriptLines isInert_pageScript
  unfold lines parts
  -- The text of the script is long; what is known of it is enough.
  generalize pageScript = code at hscript ⊢
  simp (disch := simp (disch := simp [eq_true hsections])
    [hheader, hfooter, eq_true hsections, hscript]) [hscript]

/-- **The anchors of a page made of blocks** are the links of its head, and the anchors of the
blocks that it shows and of the fragments that are put into it. -/
theorem anchors_blockPage (blocks : List Block) (ctx : BlockContext) (stylesheet : String) :
    (blockPage blocks ctx stylesheet).anchors =
      ctx.headAnchors stylesheet ++ ctx.headScripts.anchors ++
        (shownBlocks blocks).flatMap (fun b => b.anchors ctx) ++ ctx.bodyScripts.anchors := by
  have htag (name : String) (ms : List Markup) : (Markup.rows (endTag name :: ms)).BeginsWithTag :=
    (Markup.beginsWithTag_endTag name).rows_cons ms
  have hend : (Markup.rows [endTag "body", endTag "html"]).HasAnchors [] := by
    simp (disch := simp (disch := simp))
  have hlines := BlockPage.hasAnchors_lines ctx blocks
  have hhead := ctx.hasAnchors_headLines stylesheet
  -- As in the frame, tags of the page follow the fragments.
  rw [blockPage_eq, (hend.behind (htag "body" _) _).2, List.append_nil,
    (hlines.behind (htag "head" _) _).anchors_append, hhead.anchors_append,
    BlockContext.headFragment, BlockContext.bodyFragment, anchors_rows_singleton,
    anchors_rows_singleton, Markup.anchors, read_indent]

/-! ### Identifiers -/

open Markup

/-- The identifiers in a block. -/
def Block.ids (b : Block) (ctx : BlockContext) : List String :=
  (b.anchors ctx).filterMap Anchor.name?

variable {ctx : BlockContext}

theorem BlockContext.filterMap_name?_headAnchors (ctx : BlockContext) (stylesheet : String) :
    (ctx.headAnchors stylesheet).filterMap Anchor.name? = [] := by
  unfold headAnchors fontAnchors
  cases ctx.fontUrl? <;> rfl

/-- **The identifiers of a page** are those of the blocks it shows and of the fragments in it. -/
theorem ids_blockPage (blocks : List Block) (ctx : BlockContext) (stylesheet : String) :
    (blockPage blocks ctx stylesheet).ids =
      ctx.headScripts.ids ++ (shownBlocks blocks).flatMap (·.ids ctx) ++ ctx.bodyScripts.ids := by
  unfold Markup.ids Block.ids
  rw [anchors_blockPage, List.filterMap_append, List.filterMap_append, List.filterMap_append,
    ctx.filterMap_name?_headAnchors, List.filterMap_flatMap, List.nil_append]

/-- **The identifiers of a page are distinct exactly if** those of the fragments are, each block has
distinct ones, which are not those of a fragment, and no two blocks have one in common. -/
theorem nodup_ids_blockPage_iff (blocks : List Block) (ctx : BlockContext) (stylesheet : String) :
    (blockPage blocks ctx stylesheet).ids.Nodup ↔
      (ctx.headScripts.ids ++ ctx.bodyScripts.ids).Nodup ∧
        (∀ b ∈ shownBlocks blocks, (b.ids ctx).Nodup ∧
          (b.ids ctx).Disjoint (ctx.headScripts.ids ++ ctx.bodyScripts.ids)) ∧
        (shownBlocks blocks).Pairwise fun a b => (a.ids ctx).Disjoint (b.ids ctx) := by
  -- The head comes first on the page; the order of the parts is of no matter to their being
  -- distinct.
  have hperm : (blockPage blocks ctx stylesheet).ids.Perm
      ((shownBlocks blocks).flatMap (·.ids ctx) ++
        (ctx.headScripts.ids ++ ctx.bodyScripts.ids)) := by
    rw [ids_blockPage, ← List.append_assoc]
    exact List.Perm.append_right _ List.perm_append_comm
  have hapart (ids : List String) : ((shownBlocks blocks).flatMap (·.ids ctx)).Disjoint ids ↔
      ∀ b ∈ shownBlocks blocks, (b.ids ctx).Disjoint ids := by
    constructor
    · exact fun h b hb id hid => h (List.mem_flatMap.mpr ⟨b, hb, hid⟩)
    · intro h id hid
      obtain ⟨b, hb, hid⟩ := List.mem_flatMap.mp hid
      exact h b hb hid
  rw [hperm.nodup_iff, List.nodup_append', List.nodup_flatMap, hapart]
  constructor
  · rintro ⟨⟨hblock, hpair⟩, hfragments, hapart⟩
    exact ⟨hfragments, fun b hb => ⟨hblock b hb, hapart b hb⟩, hpair⟩
  · rintro ⟨hfragments, hblock, hpair⟩
    exact ⟨⟨fun b hb => (hblock b hb).1, hpair⟩, hfragments, fun b hb => (hblock b hb).2⟩

/-! ### Blocks that name an element after themselves -/

/-- How the identifier begins that a block of a type forms from its own. -/
def BlockKind.ownPrefix? : BlockKind → Option String
  | .ctaBanner | .scrollCta => some "scroll-cta-"
  | .dataTable => some "data-table-"
  | .pdfDownload => some "pdf-gate-"
  | .statGrid => some "stat-grid-"
  | _ => none

/-- No identifier can begin in two of these ways. -/
theorem BlockKind.eq_of_append_eq {k l : BlockKind} {p q x y : String} (hp : k.ownPrefix? = some p)
    (hq : l.ownPrefix? = some q) (h : p ++ x = q ++ y) : p = q := by
  have hmem {k : BlockKind} {p : String} (hp : k.ownPrefix? = some p) :
      p ∈ ["scroll-cta-", "data-table-", "pdf-gate-", "stat-grid-"] := by
    cases k <;> cases hp <;> simp
  have hstart : ∀ p ∈ ["scroll-cta-", "data-table-", "pdf-gate-", "stat-grid-"],
      ∀ x : String, (p ++ x).toList.take 2 = p.toList.take 2 := by
    simp
  have hdiffer : ∀ p ∈ ["scroll-cta-", "data-table-", "pdf-gate-", "stat-grid-"],
      ∀ q ∈ ["scroll-cta-", "data-table-", "pdf-gate-", "stat-grid-"],
        p.toList.take 2 = q.toList.take 2 → p = q := by
    decide
  refine hdiffer p (hmem hp) q (hmem hq) ?_
  rw [← hstart p (hmem hp) x, ← hstart q (hmem hq) y, h]

namespace Block

/-- A block names an element after itself, and no other. -/
def NamesItself (b : Block) : Prop :=
  ∃ kind start, BlockKind.named? b.type = some kind ∧ kind.ownPrefix? = some start

variable (ctx) in
theorem ids_of_ownPrefix {b : Block} {kind : BlockKind} {start : String}
    (hkind : BlockKind.named? b.type = some kind) (hstart : kind.ownPrefix? = some start) :
    b.ids ctx = [] ∨ b.ids ctx = [start ++ b.id] := by
  have hscroll : b.scrollCtaAnchors.filterMap Anchor.name? = [] ∨
      b.scrollCtaAnchors.filterMap Anchor.name? = ["scroll-cta-" ++ b.id] := by
    unfold scrollCtaAnchors
    cases Call.ofBlock? b <;> simp
  have hanchors : (kind.anchors b ctx).filterMap Anchor.name? = [] ∨
      (kind.anchors b ctx).filterMap Anchor.name? = [start ++ b.id] := by
    unfold BlockKind.anchors
    -- Five kinds of blocks have a prefix of their own.
    cases kind <;> cases hstart
    case scrollCta => exact hscroll
    case ctaBanner =>
      dsimp only
      unfold ctaBannerAnchors
      split
      · exact hscroll
      · cases Call.ofBlock? b <;> simp
    case dataTable =>
      dsimp only
      unfold dataTableAnchors
      split <;> simp
    case statGrid =>
      dsimp only
      unfold statGridAnchors
      split <;> simp
    case pdfDownload =>
      dsimp only
      unfold pdfDownloadAnchors
      cases b.documentUrl? with
      | none => simp
      | some url => cases b.config.flag "gated" false <;> simp
  unfold ids Block.anchors
  rw [hkind]
  dsimp only
  cases kind.render b ctx with
  | error e => exact .inl rfl
  | ok m => exact hanchors

end Block

/-- **Blocks that name an element after themselves** have distinct identifiers on a page, if they
are identified themselves. -/
theorem nodup_ids_of_namesItself {bs : List Block} (hids : (bs.map Block.id).Nodup)
    (hown : ∀ b ∈ bs, b.NamesItself) : (bs.flatMap (·.ids ctx)).Nodup := by
  rw [List.nodup_flatMap]
  refine ⟨fun b hb => ?_, ?_⟩
  · obtain ⟨kind, start, hkind, hstart⟩ := hown b hb
    rcases Block.ids_of_ownPrefix ctx hkind hstart with h | h <;> rw [h]
    · exact List.nodup_nil
    · exact List.nodup_singleton _
  · refine (List.pairwise_map.mp hids).imp_of_mem fun {a b} ha hb hne => ?_
    obtain ⟨k, p, hk, hp⟩ := hown a ha
    obtain ⟨l, q, hl, hq⟩ := hown b hb
    rcases Block.ids_of_ownPrefix ctx hk hp with h | h
    · rw [Function.onFun_apply, h]
      exact List.disjoint_nil_left _
    rcases Block.ids_of_ownPrefix ctx hl hq with h' | h'
    · rw [Function.onFun_apply, h']
      exact List.disjoint_nil_right _
    rw [Function.onFun_apply, h, h', List.singleton_disjoint, List.mem_singleton]
    -- A prefix belongs to one kind of block, so that what follows it is the same as well.
    intro heq
    obtain rfl := BlockKind.eq_of_append_eq hp hq heq
    exact hne (by simpa using heq)

/-! ### Two widgets on a page -/

/-- A calculator with one number to enter and one that it shows. -/
def smallCalculator (id input output : String) : Block where
  id := id
  type := "QuoteCalculator"
  variant := none
  content :=
    [("inputs", .arr [.obj [("id", .str input), ("label", .str "Amount")]]),
     ("outputs", .arr [.obj [("id", .str output), ("label", .str "Price")]])]
  config := []

/-- A page with two calculators. -/
def twoCalculators : List Block :=
  [smallCalculator "first" "rent" "total", smallCalculator "second" "loan" "rate"]

/-- Two calculators have the identifiers of a calculator as a whole in common, although those of
their blocks, inputs and outputs are distinct. -/
theorem twoCalculators_share_identifiers :
    (twoCalculators.map Block.id).Nodup ∧
      twoCalculators.map (·.ids plainContext) =
        [["calculator", "first-rent", "calc-error-msg", "first-total"],
         ["calculator", "second-loan", "calc-error-msg", "second-rate"]] ∧
      ¬(blockPage twoCalculators plainContext "/styles.css").ids.Nodup := by
  have hids : twoCalculators.map (·.ids plainContext) =
      [["calculator", "first-rent", "calc-error-msg", "first-total"],
       ["calculator", "second-loan", "calc-error-msg", "second-rate"]] := rfl
  have hshown : shownBlocks twoCalculators = twoCalculators := rfl
  refine ⟨by decide, hids, fun hnodup => ?_⟩
  rw [ids_blockPage, hshown, List.flatMap_def, hids] at hnodup
  exact absurd (List.nodup_append.mp (List.nodup_append.mp hnodup).1).2.1 (by decide)

end StaticSite
