import StaticSite.Proofs.Page.BlockLinks

/-!
# The places of the blocks of a page

A page made of blocks has three places: above its main part, in it, and below it. A block stands in
its place as an element with its identity and its markup (`Block.wrapper_eq`).

The places above and below hold one block each. Of several headers or footers the last one takes the
place of those before it (`BlockPage.ofBlocks_eq`), and nothing else is left out. So a page holds
all of its blocks if and only if it has at most one header and one footer
(`blockPage_places_blocks_iff`).

`PlacesAll` says that a document holds all blocks. It leaves open what stands between several
headers or footers, so that the documents that fail to hold them do so under any layout. That they
fail shows in their length: each block that is left out is missing there
(`InOrder.length_concat_le`). A block with a link that is not on the page stands nowhere in it
(`Block.not_isInfix_wrapper`).
-/

namespace StaticSite

/-! ### The blocks of a page -/

/-- The headers among the blocks of a page. -/
def headersOf (blocks : List Block) : List Block := blocks.filter fun b => b.type == "Header"

/-- The footers among the blocks of a page. -/
def footersOf (blocks : List Block) : List Block := blocks.filter fun b => b.type == "Footer"

/-- The blocks of a page that are no headers and no footers. -/
def contentsOf (blocks : List Block) : List Block :=
  blocks.filter fun b => !(b.type == "Header" || b.type == "Footer")

/-- **The blocks that a page shows**, in the order of the page. Of several headers or footers it
shows the last one. -/
def shownBlocks (blocks : List Block) : List Block :=
  (blocks.filter fun b => b.type == "Header").getLast?.toList ++
    blocks.filter (fun b => !(b.type == "Header" || b.type == "Footer")) ++
    (blocks.filter fun b => b.type == "Footer").getLast?.toList

/-- What some steps set and all others leave is what the last of these steps has set. -/
theorem last_foldl {σ α β : Type} {f : σ → α → σ} (get : σ → β) {p : α → Bool} {v : α → β}
    (hset : ∀ s a, p a = true → get (f s a) = v a)
    (hkeep : ∀ s a, p a = false → get (f s a) = get s) (s : σ) (as : List α) :
    get (as.foldl f s) = ((as.filter p).getLast?.map v).getD (get s) := by
  induction as generalizing s with
  | nil => rfl
  | cons a as ih =>
    rw [List.foldl_cons, ih, List.filter_cons]
    cases ha : p a with
    | true =>
      rw [if_pos rfl, hset s a ha, List.getLast?_cons]
      cases (as.filter p).getLast? <;> rfl
    | false => rw [if_neg Bool.false_ne_true, hkeep s a ha]

namespace BlockPage

variable (ctx : BlockContext)

theorem header_ofBlocks (blocks : List Block) : (ofBlocks ctx blocks).header =
    ((blocks.filter fun b => b.type == "Header").getLast?.map (·.wrapper ctx)).getD .empty := by
  refine last_foldl header (fun p b hb => ?_) (fun p b hb => ?_) {} blocks
  · rw [add, if_pos hb]
  · rw [add, if_neg (by rw [hb]; exact Bool.false_ne_true)]
    split <;> rfl

theorem footer_ofBlocks (blocks : List Block) : (ofBlocks ctx blocks).footer =
    ((blocks.filter fun b => b.type == "Footer").getLast?.map (·.wrapper ctx)).getD .empty := by
  refine last_foldl footer (fun p b hb => ?_) (fun p b hb => ?_) {} blocks
  · rw [add, if_neg (by rw [eq_of_beq hb]; decide), if_pos hb]
  · rw [add]
    split
    · rfl
    · rw [if_neg (by rw [hb]; exact Bool.false_ne_true)]

end BlockPage

/-- Blocks as they stand on a page. -/
def wrappers (ctx : BlockContext) (blocks : List Block) : List Markup :=
  blocks.map fun b => b.wrapper ctx

/-- The last of some fragments, or none. -/
def Markup.lastOf (ms : List Markup) : Markup := ms.getLast?.getD .empty

/-- **The places of a page** hold the last header, all contents in order, and the last footer. -/
theorem BlockPage.ofBlocks_eq (ctx : BlockContext) (blocks : List Block) :
    ofBlocks ctx blocks =
      { header := .lastOf (wrappers ctx (headersOf blocks))
        sections := wrappers ctx (contentsOf blocks)
        footer := .lastOf (wrappers ctx (footersOf blocks)) } := by
  have hsections : (ofBlocks ctx blocks).sections = wrappers ctx (contentsOf blocks) :=
    sections_foldl_add {} ctx blocks
  have hlast (bs : List Block) :
      (bs.getLast?.map fun b => b.wrapper ctx).getD .empty = .lastOf (wrappers ctx bs) := by
    rw [Markup.lastOf, wrappers, List.getLast?_map]
  have hheader := (header_ofBlocks ctx blocks).trans (hlast _)
  have hfooter := (footer_ofBlocks ctx blocks).trans (hlast _)
  calc ofBlocks ctx blocks
      = ⟨(ofBlocks ctx blocks).header, (ofBlocks ctx blocks).sections,
          (ofBlocks ctx blocks).footer⟩ := rfl
    _ = _ := by rw [hheader, hsections, hfooter]; rfl

/-- A block on a page is an element with its identity and its markup. -/
theorem Block.wrapper_eq (b : Block) (ctx : BlockContext) :
    ∃ attrs, b.wrapper ctx =
      el (if b.type == "Header" || b.type == "Footer" then "div" else "section")
        (attr "data-block-id" b.id :: attr "data-block-type" b.type :: attrs) (b.markup ctx) := by
  unfold wrapper
  dsimp only
  split
  · exact ⟨[], rfl⟩
  · exact ⟨_, rfl⟩

theorem Block.beginsWithTag_wrapper (b : Block) (ctx : BlockContext) :
    (b.wrapper ctx).BeginsWithTag := by
  obtain ⟨attrs, hel⟩ := b.wrapper_eq ctx
  have hopen (name : String) : (html ("<" ++ name)).text.toList = '<' :: name.toList :=
    String.toList_append
  rw [hel, el, startTag]
  simp only [Markup.BeginsWithTag, Markup.toList_append, hopen, List.cons_append]
  exact ⟨_, rfl⟩

theorem Block.length_wrapper_pos (b : Block) (ctx : BlockContext) :
    0 < (b.wrapper ctx).text.toList.length := by
  obtain ⟨cs, hcs⟩ := b.beginsWithTag_wrapper ctx
  rw [hcs]
  exact Nat.succ_pos _

/-! ### The document around the places -/

namespace BlockContext

variable (ctx : BlockContext)

/-- The lines above the header of a page, behind the head. -/
def bodyStart : List Markup :=
  [endTag "head", startTag "body" [attr "data-theme" ctx.theme, attr "data-skin" ctx.skin]]

/-- The lines below the footer of a page. -/
def bodyEnd : List Markup :=
  [el "div" [cls "reading-progress", attr "aria-hidden" "true"] .empty,
   el "button" [cls "back-to-top", attr "aria-label" "Back to top"] (html "&uarr;"),
   el "script" [] (html ("\n" ++ pageScript ++ "\n"))]

/-- What stands above the header of a page. -/
def above (stylesheet : String) : Markup :=
  Markup.rows (ctx.headLines stylesheet) ++ ctx.headFragment ++ Markup.rows ctx.bodyStart

/-- What stands below the footer of a page. -/
def below : Markup :=
  html "\n" ++ Markup.rows bodyEnd ++ ctx.bodyFragment ++
    Markup.rows [endTag "body", endTag "html"]

end BlockContext

/-- What stands between the header of a page and the contents of its main part. -/
def mainStart : Markup :=
  html "\n" ++
    Markup.rows [startTag "div" [cls "site-container"], .indent 2 <| startTag "main" []]

/-- What stands between the contents of the main part of a page and its footer. -/
def mainEnd : Markup := html "\n" ++ Markup.rows [.indent 2 <| endTag "main", endTag "div"]

/-- The document of a page with something in its places. -/
def BlockPage.document (p : BlockPage) (ctx : BlockContext) (stylesheet : String) : Markup :=
  ctx.above stylesheet ++ p.header ++ mainStart ++ Markup.lines p.sections ++ mainEnd ++ p.footer ++
    ctx.below

theorem Markup.append_assoc (a b c : Markup) : a ++ b ++ c = a ++ (b ++ c) :=
  congrArg Markup.mk (String.append_assoc ..)

theorem Markup.rows_singleton (m : Markup) : rows [m] = m ++ html "\n" := by
  refine eq_of_toList_eq ?_
  rw [toList_rows_cons, toList_append]
  rfl

/-- The lines of a page around its places. -/
theorem BlockPage.rows_lines (p : BlockPage) (ctx : BlockContext) :
    Markup.rows (p.lines ctx) =
      Markup.rows ctx.bodyStart ++ p.header ++ mainStart ++ Markup.lines p.sections ++ mainEnd ++
        p.footer ++ (html "\n" ++ Markup.rows BlockContext.bodyEnd) := by
  have hlines : p.lines ctx = ctx.bodyStart ++ [p.header] ++
      [startTag "div" [cls "site-container"], .indent 2 <| startTag "main" []] ++
      [Markup.lines p.sections] ++ [.indent 2 <| endTag "main", endTag "div"] ++ [p.footer] ++
      BlockContext.bodyEnd := rfl
  rw [hlines]
  simp only [Markup.rows_append, Markup.rows_singleton, mainStart, mainEnd, Markup.append_assoc]

theorem blockPage_eq_document (blocks : List Block) (ctx : BlockContext) (stylesheet : String) :
    blockPage blocks ctx stylesheet = (BlockPage.ofBlocks ctx blocks).document ctx stylesheet := by
  rw [blockPage_eq, BlockPage.rows_lines]
  simp only [BlockPage.document, BlockContext.above, BlockContext.below, Markup.append_assoc]

/-! ### Documents that hold all blocks -/

/-- Fragments stand in a text one after the other, with anything around them. -/
def InOrder : List Markup → List Char → Prop
  | [], _ => True
  | m :: ms, text => ∃ before after, text = before ++ m.text.toList ++ after ∧ InOrder ms after

/-- **A document holds all blocks of a page**, in their order: above its main part all headers, in
it the contents, one to a line, and below it all footers. -/
def PlacesAll (blocks : List Block) (ctx : BlockContext) (stylesheet : String) (m : Markup) :
    Prop :=
  ∃ header footer : Markup,
    InOrder (wrappers ctx (headersOf blocks)) header.text.toList ∧
      InOrder (wrappers ctx (footersOf blocks)) footer.text.toList ∧
      m = BlockPage.document ⟨header, wrappers ctx (contentsOf blocks), footer⟩ ctx stylesheet

/-- A text is at least as long as the fragments in it. -/
theorem InOrder.length_concat_le {ms : List Markup} {text : List Char} (h : InOrder ms text) :
    (Markup.concat ms).text.toList.length ≤ text.length := by
  induction ms generalizing text with
  | nil => exact Nat.zero_le _
  | cons m ms ih =>
    obtain ⟨before, after, rfl, hrest⟩ := h
    have hle := ih hrest
    rw [Markup.concat_cons, Markup.toList_append]
    simp only [List.length_append]
    omega

/-- A fragment alone is the last one. -/
theorem inOrder_lastOf {ms : List Markup} (h : ms.length ≤ 1) :
    InOrder ms (Markup.lastOf ms).text.toList := by
  match ms, h with
  | [], _ => trivial
  | [m], _ => exact ⟨[], [], (List.append_nil _).symm, trivial⟩

/-- Each fragment before the last one adds to the length. -/
theorem Markup.length_lastOf_le {ms : List Markup} (h : ∀ m ∈ ms, 0 < m.text.toList.length) :
    (lastOf ms).text.toList.length + (ms.length - 1) ≤ (concat ms).text.toList.length := by
  -- On the fragments; only the last one counts as a whole, and each other one for a character.
  induction ms with
  | nil => exact Nat.zero_le _
  | cons m ms ih =>
    rw [List.forall_mem_cons] at h
    have hle := ih h.2
    rw [concat_cons, toList_append, List.length_append]
    cases ms with
    | nil => exact Nat.le_add_right _ _
    | cons n ms =>
      have hlast : lastOf (m :: n :: ms) = lastOf (n :: ms) := rfl
      have hpos := h.1
      rw [hlast]
      simp only [List.length_cons] at hle ⊢
      omega

/-- A page holds all of its blocks if there is room for them in the places above and below. -/
theorem placesAll_blockPage_iff (blocks : List Block) (ctx : BlockContext) (stylesheet : String) :
    PlacesAll blocks ctx stylesheet (blockPage blocks ctx stylesheet) ↔
      (headersOf blocks).length ≤ 1 ∧ (footersOf blocks).length ≤ 1 := by
  have hlen (bs : List Block) : (wrappers ctx bs).length = bs.length := List.length_map _
  have hpos (bs : List Block) : ∀ m ∈ wrappers ctx bs, 0 < m.text.toList.length :=
    List.forall_mem_map.mpr fun b _ => b.length_wrapper_pos ctx
  rw [blockPage_eq_document, BlockPage.ofBlocks_eq]
  constructor
  · rintro ⟨header, footer, hheader, hfooter, hpage⟩
    -- Both documents are the same around headers and footers, so these are as long in both.
    have htext := congrArg (fun m => m.text.toList.length) hpage
    simp only [BlockPage.document, Markup.toList_append, List.length_append] at htext
    have hh := Markup.length_lastOf_le (hpos (headersOf blocks))
    have hf := Markup.length_lastOf_le (hpos (footersOf blocks))
    have hhle := hheader.length_concat_le
    have hfle := hfooter.length_concat_le
    rw [hlen] at hh hf
    omega
  · rintro ⟨hheaders, hfooters⟩
    exact ⟨_, _, inOrder_lastOf (by rwa [hlen]), inOrder_lastOf (by rwa [hlen]), rfl⟩

/-- **The blocks of a page stand in their places.** Each is an element with its identity around its
markup. The document holds the last header, all contents in order and the last footer; so it holds
all blocks if and only if there is at most one header and at most one footer. -/
theorem blockPage_places_blocks_iff (blocks : List Block) (ctx : BlockContext)
    (stylesheet : String) :
    (∀ b : Block, ∃ attrs, b.wrapper ctx =
      el (if b.type == "Header" || b.type == "Footer" then "div" else "section")
        (attr "data-block-id" b.id :: attr "data-block-type" b.type :: attrs) (b.markup ctx)) ∧
      blockPage blocks ctx stylesheet = BlockPage.document
        { header := .lastOf (wrappers ctx (headersOf blocks))
          sections := wrappers ctx (contentsOf blocks)
          footer := .lastOf (wrappers ctx (footersOf blocks)) } ctx stylesheet ∧
      (PlacesAll blocks ctx stylesheet (blockPage blocks ctx stylesheet) ↔
        (headersOf blocks).length ≤ 1 ∧ (footersOf blocks).length ≤ 1) := by
  refine ⟨fun b => b.wrapper_eq ctx, ?_, placesAll_blockPage_iff blocks ctx stylesheet⟩
  rw [blockPage_eq_document, BlockPage.ofBlocks_eq]

/-- What the blocks of a page without a frame know of it. -/
def plainContext : BlockContext where
  domain := "example.com"
  siteTitle := "Example Site"
  route := "/"
  theme := "clean"
  skin := "slate"
  pageTitle := none
  pageDescription := none
  published := none
  updated := none
  headScripts := .empty
  bodyScripts := .empty
  policy := ⟨none, []⟩
  now := ⟨⟨2025, 6, 1⟩, 0, 0, 0, 0, some 0⟩

/-! ### A block that is left out -/

/-- Markup that is closed and begins with a tag has its links in every page that it stands in. -/
theorem Markup.HasLinks.subset_of_isInfix {m page : Markup} {l : List String} (hm : m.HasLinks l)
    (htag : m.BeginsWithTag) (h : m.text.toList <:+: page.text.toList) : l ⊆ page.links := by
  obtain ⟨before, after, h⟩ := h
  obtain ⟨cs, hcs⟩ := htag
  have hlinks : page.links = pageLinks before ++ (l ++ pageLinks after) := by
    unfold Markup.links
    rw [← h, List.append_assoc, ← hm after, hcs, List.cons_append, pageLinks_append_tag]
  rw [hlinks]
  exact fun _ hlink => List.mem_append_right _ (List.mem_append_left _ hlink)

/-- A block with a link that is not on a page does not stand on the page. -/
theorem Block.not_isInfix_wrapper {b : Block} {ctx : BlockContext} {page : Markup} {link : String}
    (hb : link ∈ (b.markup ctx).links) (hpage : link ∉ page.links) :
    ¬ (b.wrapper ctx).text.toList <:+: page.text.toList := fun h =>
  hpage ((b.hasLinks_wrapper ctx).subset_of_isInfix (b.beginsWithTag_wrapper ctx) h hb)

/-- A header with a single link. -/
def headerTo (href : String) : Block where
  id := href
  type := "Header"
  variant := none
  content := [("navLinks", .arr [.obj [("href", .str href), ("label", .str "More")]])]
  config := []

/-- Two headers with different links. -/
def twoHeaders : List Block := [headerTo "/first", headerTo "/second"]

theorem first_mem_links_markup : "/first" ∈ ((headerTo "/first").markup plainContext).links := by
  decide +kernel

theorem first_notMem_links_markup :
    "/first" ∉ ((headerTo "/second").markup plainContext).links := by
  decide +kernel

/-- The link of the first of two headers is not on their page. -/
theorem first_notMem_links_blockPage :
    "/first" ∉ (blockPage twoHeaders plainContext "/styles.css").links := by
  have hparts : (BlockPage.ofBlocks plainContext twoHeaders).parts =
      [(headerTo "/second").wrapper plainContext, .empty] := rfl
  have hhead : plainContext.headFragment.links = [] := by decide +kernel
  have hbody : plainContext.bodyFragment.links = [] := by decide +kernel
  have hwrapper := ((headerTo "/second").hasLinks_wrapper plainContext).links_eq
  have hrest : ∀ m ∈ [plainContext.headFragment, (headerTo "/second").wrapper plainContext, .empty,
      plainContext.bodyFragment], "/first" ∉ m.links := by
    simp only [List.forall_mem_cons]
    rw [hhead, hwrapper, hbody]
    exact ⟨List.not_mem_nil, first_notMem_links_markup, List.not_mem_nil, List.not_mem_nil,
      fun _ h => absurd h List.not_mem_nil⟩
  rw [(links_blockPage ..).mem_iff, hparts, List.mem_append, not_or]
  constructor
  · intro hmem
    rcases plainContext.eq_of_mem_headLinks hmem (by decide) with h | h
    · exact absurd h (by decide +kernel)
    · exact absurd h (by decide)
  · intro hmem
    obtain ⟨m, hm, hlink⟩ := List.mem_flatMap.mp hmem
    exact hrest m hm hlink

/-- Of two headers the first one is left out: its wrapper stands nowhere in the document, which is
the document of the second header alone. -/
theorem first_of_two_headers_is_dropped :
    ¬ ((headerTo "/first").wrapper plainContext).text.toList <:+:
        (blockPage twoHeaders plainContext "/styles.css").text.toList ∧
      blockPage twoHeaders plainContext "/styles.css" =
        blockPage [headerTo "/second"] plainContext "/styles.css" ∧
      ¬ PlacesAll twoHeaders plainContext "/styles.css"
        (blockPage twoHeaders plainContext "/styles.css") := by
  have hplaces : BlockPage.ofBlocks plainContext twoHeaders =
      BlockPage.ofBlocks plainContext [headerTo "/second"] := rfl
  refine ⟨Block.not_isInfix_wrapper first_mem_links_markup first_notMem_links_blockPage, ?_, ?_⟩
  · rw [blockPage_eq_document, hplaces, ← blockPage_eq_document]
  · rw [placesAll_blockPage_iff]
    decide

end StaticSite
