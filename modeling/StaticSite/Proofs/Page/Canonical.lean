import StaticSite.Page.Blocks
import StaticSite.Page.Contents
import StaticSite.Proofs.Failure
import StaticSite.Proofs.Html.Tags
import StaticSite.Proofs.Link.Kept

/-!
# The canonical link of a page

A page names the one address under which it wants to be found by a canonical link in its head.
`canonicalLinks` reads the addresses of such links off a page, in order.

Pages are made with one, and then the linking pass goes over them. `HasCanonical` is what the pass
cannot break: a tag of the page is the whole canonical link, and the tag after it is no closing tag.
So the link is a value that the page has for the reader of canonical links (`hasCanonical_iff`), and
the pass keeps it like any other (`HasCanonical.cuts`).

The fragment for the head that a provider of advertisements supplies is taken as it is, and may hold
a canonical link of its own. `first` stands for the assumption that nothing before the link does.
-/

namespace StaticSite

open Link (TagCuts)

/-! ### Reading canonical links -/

/-- What the tag of a canonical link begins with. -/
def canonicalOpening : List Char := "link rel=\"canonical\" href=\"".toList

/-- The address of a tag that is a canonical link, as it is written there. -/
abbrev canonicalAddress? (tag : List Char) : Option String := valueAfter? canonicalOpening '"' tag

/-- The addresses of the canonical links of a page, in order. -/
def canonicalLinks (page : String) : List String := valuesAfter canonicalOpening '"' page

/-- The tag of the canonical link to an address. -/
def canonicalTag (url : String) : List Char :=
  canonicalOpening ++ ((esc url).text.toList ++ ['"', '>'])

theorem canonicalAddress?_eq_none_of_head? {tag : List Char} (h : tag.head? ≠ some 'l') :
    canonicalAddress? tag = none := by
  have hopening : canonicalOpening.head? = some 'l' := by decide
  rw [valueAfter?_eq_none_iff]
  rintro ⟨rest, rfl⟩
  rw [List.head?_append, hopening] at h
  exact h rfl

/-- The address ends with the quote of the attribute, since it is escaped. -/
theorem canonicalAddress?_of_canonicalTag {url : String} {tag : List Char}
    (h : canonicalTag url <+: tag) : canonicalAddress? tag = some (esc url).text := by
  obtain ⟨rest, rfl⟩ := h
  unfold canonicalTag
  rw [List.append_assoc, List.append_assoc]
  exact valueAfter?_append (Markup.notMem_toList_esc url (by decide)) rfl

/-! ### What linking keeps -/

/-- **A page has the canonical link to an address**, before a tag that is no closing tag. If `first`
holds, it is the first canonical link of the page. -/
inductive HasCanonical (first : Prop) (url : String) : List (List Char) → Prop
  | here {tag next : List Char} {rest : List (List Char)} (htag : canonicalTag url <+: tag)
      (hnext : next.head? ≠ some '/') : HasCanonical first url (tag :: next :: rest)
  | later {tag : List Char} {rest : List (List Char)}
      (hfirst : first → canonicalAddress? tag = none) (h : HasCanonical first url rest) :
      HasCanonical first url (tag :: rest)

/-- A tag of which a part with its end is kept still is the canonical link. -/
theorem canonicalTag_prefix_of_append {url : String} {kept moved : List Char} (hkept : '>' ∈ kept)
    (h : canonicalTag url <+: kept ++ moved) : canonicalTag url <+: kept := by
  have hsplit : canonicalTag url = canonicalOpening ++ (esc url).text.toList ++ ['"'] ++ ['>'] := by
    unfold canonicalTag
    simp
  have hend : '>' ∉ canonicalOpening ++ (esc url).text.toList ++ ['"'] := by
    rw [List.mem_append, List.mem_append, not_or, not_or]
    exact ⟨⟨by decide, Markup.notMem_toList_esc url (by decide)⟩, by decide⟩
  -- If the link were longer than what is kept, that would lack the end of the link.
  rcases List.prefix_or_prefix_of_prefix h (List.prefix_append kept moved) with h | h
  · exact h
  · rw [hsplit] at h ⊢
    rcases List.prefix_concat_iff.mp h with rfl | h
    · exact List.prefix_rfl
    · exact absurd (h.subset hkept) hend

/-- The reader of canonical links. -/
def canonicalReader : TagReader String where
  value? := canonicalAddress?
  Shows value tag := ∃ url, value = (esc url).text ∧ canonicalTag url <+: tag
  value?_of_shows := by
    rintro _ tag ⟨url, rfl, htag⟩
    exact canonicalAddress?_of_canonicalTag htag
  shows_of_append := by
    rintro _ kept moved hkept ⟨url, rfl, htag⟩
    exact ⟨url, rfl, canonicalTag_prefix_of_append hkept htag⟩
  value?_of_append h := valueAfter?_of_append h
  value?_of_head? h := canonicalAddress?_eq_none_of_head? (by rcases h with h | h <;> simp [h])

/-- A page has a canonical link if it has its address as a value. -/
theorem hasCanonical_iff {first : Prop} {url : String} {tags : List (List Char)} :
    HasCanonical first url tags ↔ canonicalReader.HasValues first [(esc url).text] tags := by
  constructor
  · intro h
    induction h with
    | here htag hnext => exact .here ⟨url, rfl, htag⟩ ⟨_, rfl, hnext⟩ .nil
    | later hfirst h ih => exact .later hfirst ih
  · intro h
    generalize hvalues : [(esc url).text] = values at h
    induction h with
    | nil => cases hvalues
    | @here value values tag rest htag hnext h ih =>
      cases hvalues
      obtain ⟨url', hurl, htag⟩ := htag
      obtain ⟨next, hmem, hopen⟩ := hnext
      obtain ⟨rest, rfl⟩ := List.head?_eq_some_iff.mp hmem
      refine .here ?_ hopen
      unfold canonicalTag at htag ⊢
      rwa [hurl]
    | later hfirst h ih => exact .later hfirst (ih hvalues)

namespace HasCanonical

variable {first : Prop} {url : String} {tags other : List (List Char)}

theorem mem_filterMap (h : HasCanonical first url tags) :
    (esc url).text ∈ tags.filterMap canonicalAddress? :=
  List.singleton_sublist.mp (hasCanonical_iff.mp h).sublist_filterMap

theorem head?_filterMap (h : HasCanonical first url tags) (hfirst : first) :
    (tags.filterMap canonicalAddress?).head? = some (esc url).text := by
  obtain ⟨others, hothers⟩ := (hasCanonical_iff.mp h).prefix_filterMap hfirst
  show (tags.filterMap canonicalReader.value?).head? = _
  rw [← hothers]
  rfl

/-- What is assumed of the tags before the link may be assumed under a stronger condition only. -/
theorem imp {other : Prop} (himp : other → first) (h : HasCanonical first url tags) :
    HasCanonical other url tags := hasCanonical_iff.mpr ((hasCanonical_iff.mp h).imp himp)

/-- Tags before the link do not matter, unless they are canonical links themselves. -/
theorem append (before : List (List Char))
    (hbefore : first → ∀ tag ∈ before, canonicalAddress? tag = none)
    (h : HasCanonical first url tags) : HasCanonical first url (before ++ tags) :=
  hasCanonical_iff.mpr ((hasCanonical_iff.mp h).append before hbefore)

/-- **The linking pass keeps the canonical link.** -/
theorem cuts (h : HasCanonical first url tags) (hcuts : TagCuts tags other) :
    HasCanonical first url other := hasCanonical_iff.mpr ((hasCanonical_iff.mp h).cuts hcuts)

end HasCanonical

/-! ### Pages as they are made -/

/-- The lines that begin the head of every document hold no canonical link. -/
theorem hasOtherTags_headStart (description : String) :
    ∀ m ∈ PageShell.headStart description, m.HasOtherTags canonicalOpening := by
  have hmeta {name value content : String} (hname : '<' ∉ name.toList) :
      (leaf "meta" [attr name value, attr "content" content]).HasOtherTags canonicalOpening := by
    refine .startTag (by decide) ?_
    rw [List.forall_mem_cons, List.forall_mem_singleton]
    exact ⟨.attr hname value, .attr (by decide) content⟩
  unfold PageShell.headStart
  simp only [List.forall_mem_cons]
  exact ⟨by decide, by decide, by decide, .indent (by decide), .indent (hmeta (by decide)),
    .indent (hmeta (by decide)), .indent (hmeta (by decide)),
    fun _ h => absurd h List.not_mem_nil⟩

theorem hasOtherTags_title (title : String) :
    (Markup.indent 2 (el "title" [] (esc title))).HasOtherTags canonicalOpening :=
  .indent (.append (.append (by decide) (.esc title)) (by decide))

/-- Two lines of the head of a page, and what stands before and behind them. -/
theorem toList_rows_indent_indent (before : List Markup) (m n : Markup) (after : List Markup) :
    (Markup.rows (before ++ .indent 2 m :: .indent 2 n :: after)).text.toList =
      (Markup.rows before ++ html "  ").text.toList ++ m.text.toList ++ ['\n', ' ', ' '] ++
        n.text.toList ++ '\n' :: (Markup.rows after).text.toList := by
  have hblank : (html "  ").text.toList = List.replicate 2 ' ' := rfl
  have hline : ['\n', ' ', ' '] = '\n' :: List.replicate 2 ' ' := rfl
  rw [Markup.toList_rows_append, Markup.toList_rows_cons, Markup.toList_rows_cons,
    Markup.toList_indent, Markup.toList_indent, Markup.toList_append, hblank, hline]
  simp only [List.append_assoc, List.cons_append]

/-- A page with a canonical link has it, if a tag follows that is no closing tag. -/
theorem hasCanonical_append (url : String) {first : Prop} {before : List Char}
    (hbefore : first → ∀ tag ∈ tagTexts before, canonicalAddress? tag = none) (rest : List Char) :
    HasCanonical first url (tagTexts
      (before ++ '<' :: (canonicalTag url ++ ['\n', ' ', ' ']) ++ '<' :: 'm' :: rest)) := by
  have hnot : '<' ∉ canonicalTag url ++ ['\n', ' ', ' '] := by
    unfold canonicalTag
    simp only [List.mem_append, not_or]
    exact ⟨⟨by decide, Markup.notMem_toList_esc url (by decide), by decide⟩, by decide⟩
  rw [tagTexts_append hnot]
  refine .append _ hbefore (.here ?_ ?_)
  · rw [List.append_assoc]
    exact List.prefix_append _ _
  · show some 'm' ≠ some '/'
    decide

/-- The element of a canonical link. -/
theorem toList_canonicalLink (url : String) :
    (leaf "link" [attr "rel" "canonical", attr "href" url]).text.toList =
      '<' :: canonicalTag url := by
  have hopening : (html ("<" ++ "link")).text.toList ++ ((attr "rel" "canonical").text.toList ++
      (html (" " ++ "href" ++ "=\"")).text.toList) = '<' :: canonicalOpening := by decide
  have hend : (html "\"").text.toList ++ ((Markup.concat []).text.toList ++
      (html ">").text.toList) = ['"', '>'] := by decide
  have hhref : attr "href" url = html (" " ++ "href" ++ "=\"") ++ esc url ++ html "\"" := rfl
  unfold leaf startTag canonicalTag
  rw [Markup.concat_cons, Markup.concat_cons, hhref, ← List.cons_append, ← hopening, ← hend]
  simp only [Markup.toList_append, List.append_assoc]

/-- Tags that begin with that of a property begin with a `meta` element. -/
theorem exists_toList_joinWith_propertyTag (sep property content : String) (ms : List Markup) :
    ∃ rest, (Markup.joinWith sep (propertyTag property content :: ms)).text.toList =
      '<' :: 'm' :: rest := by
  obtain ⟨more, hmore⟩ := Markup.exists_toList_joinWith sep (propertyTag property content) ms
  have htag : propertyTag property content = html ("<" ++ "meta") ++
      Markup.concat [attr "property" property, attr "content" content] ++ html ">" := rfl
  rw [hmore, htag, Markup.toList_append, Markup.toList_append, List.append_assoc, List.append_assoc]
  exact ⟨_, rfl⟩

/-! ### Pages made of blocks -/

/-- The head of a page made of blocks has the canonical link and the tags for sharing behind lines
without canonical links. -/
theorem exists_blockPage_eq_rows (blocks : List Block) (ctx : BlockContext) (stylesheet : String) :
    ∃ before after, (∀ m ∈ before, m.HasOtherTags canonicalOpening) ∧
      blockPage blocks ctx stylesheet = Markup.rows (before ++
        .indent 2 (leaf "link" [attr "rel" "canonical", attr "href" ctx.canonicalUrl]) ::
          .indent 2 ctx.shareTags :: after) := by
  refine ⟨PageShell.headStart ctx.description ++
    [.indent 2 (el "title" [] (esc ctx.fullTitle))], ?after, ?_, ?_⟩
  case refine_2 =>
    unfold blockPage
    simp only [List.append_assoc, List.cons_append, List.nil_append]
    rfl
  case refine_1 =>
    rw [List.forall_mem_append, List.forall_mem_singleton]
    exact ⟨hasOtherTags_headStart ctx.description, hasOtherTags_title ctx.fullTitle⟩

/-- **A page made of blocks has its address as its first canonical link.** -/
theorem hasCanonical_blockPage (blocks : List Block) (ctx : BlockContext) (stylesheet : String) :
    HasCanonical True ctx.canonicalUrl
      (tagTexts (blockPage blocks ctx stylesheet).text.toList) := by
  obtain ⟨before, after, hbefore, hpage⟩ := exists_blockPage_eq_rows blocks ctx stylesheet
  -- The tags for sharing come next, and the first of them is no closing tag.
  obtain ⟨rest, hshare⟩ : ∃ rest, ctx.shareTags.text.toList = '<' :: 'm' :: rest :=
    exists_toList_joinWith_propertyTag "\n  " "og:title" ctx.title _
  have hblank : (Markup.rows before ++ html "  ").HasOtherTags canonicalOpening :=
    (Markup.HasOtherTags.rows hbefore).append (by decide)
  have hquiet (_ : True) : ∀ tag ∈ tagTexts (Markup.rows before ++ html "  ").text.toList,
      canonicalAddress? tag = none := fun tag hmem => (hblank tag hmem).valueAfter?_eq_none
  have hcanonical := hasCanonical_append ctx.canonicalUrl hquiet
    (rest ++ '\n' :: (Markup.rows after).text.toList)
  rw [hpage, toList_rows_indent_indent, toList_canonicalLink, hshare]
  simpa only [List.append_assoc, List.cons_append] using hcanonical

/-! ### Pages of articles -/

/-- The tags by which an article is shared begin with its canonical link. -/
theorem exists_toList_shareTags (a : Article) (domain : String) :
    ∃ rest, (shareTags a domain).text.toList =
      '<' :: (canonicalTag (articleUrl domain a.slug) ++ ['\n', ' ', ' ']) ++
        '<' :: 'm' :: rest := by
  obtain ⟨more, hmore⟩ : ∃ more, shareTags a domain = Markup.joinWith "\n  "
      (leaf "link" [attr "rel" "canonical", attr "href" (articleUrl domain a.slug)] ::
        propertyTag "og:title" a.title :: more) := ⟨_, rfl⟩
  obtain ⟨rest, hrest⟩ := exists_toList_joinWith_propertyTag "\n  " "og:title" a.title more
  refine ⟨rest, ?_⟩
  rw [hmore, Markup.toList_joinWith_cons_cons, toList_canonicalLink, hrest]
  rfl

/-- The head of a page in the frame of a site has the fragment of a provider and what the page adds
behind lines without canonical links. -/
theorem exists_wrap_eq_rows (shell : PageShell) (head : PageShell.PageHead) (contents : Markup) :
    ∃ before after, (∀ m ∈ before, m.HasOtherTags canonicalOpening) ∧ shell.wrap head contents =
      Markup.rows (before ++ .indent 2 shell.headScripts :: .indent 2 head.extra :: after) := by
  refine ⟨PageShell.headStart head.description ++
    [.indent 2 (el "title" [] (esc (head.title ++ " | " ++ shell.siteTitle))),
     .indent 2 (PageShell.stylesheetLink "/styles.css"), .indent 2 PageShell.iconLink],
    ?after, ?_, ?_⟩
  case refine_2 =>
    unfold PageShell.wrap
    simp only [List.append_assoc, List.cons_append, List.nil_append]
    rfl
  case refine_1 =>
    rw [List.forall_mem_append, List.forall_mem_cons, List.forall_mem_cons,
      List.forall_mem_singleton]
    exact ⟨hasOtherTags_headStart _, hasOtherTags_title _, by decide, by decide⟩

/-- A fragment without canonical links has none either when the next line follows it. -/
theorem canonicalAddress?_append_line {fragment : List Char}
    (h : ∀ tag ∈ tagTexts fragment, canonicalAddress? tag = none) :
    ∀ tag ∈ tagTexts (fragment ++ ['\n', ' ', ' ']), canonicalAddress? tag = none := by
  have hline : tagTexts ['\n', ' ', ' '] = [] := rfl
  refine forall_tagTexts_append h ?_ (fun _ ht => ht) fun tag ht =>
    valueAfter?_append_cons (by decide) ht [' ', ' ']
  rw [hline]
  exact fun tag hmem => absurd hmem List.not_mem_nil

/-- **A page of an article has the article's address as a canonical link**, the first one unless the
fragment of a provider holds another. -/
theorem hasCanonical_articlePage {a : Article} {ctx : ArticleContext} {shell : PageShell}
    {page : Markup} (hshell : ctx.shell = some shell) (h : articlePage a ctx = .ok page) :
    HasCanonical (canonicalLinks shell.headScripts.text = []) (articleUrl ctx.domain a.slug)
      (tagTexts page.text.toList) := by
  obtain ⟨p, -, h⟩ := exists_of_bind_eq_ok h
  rw [ArticleParts.page, hshell] at h
  obtain ⟨before, after, hbefore, hpage⟩ := exists_wrap_eq_rows shell
    ⟨a.title, a.description, shareTags a ctx.domain⟩ (p.body a ctx)
  rw [Except.ok.inj h] at hpage
  obtain ⟨rest, hshare⟩ := exists_toList_shareTags a ctx.domain
  have hblank : (Markup.rows before ++ html "  ").HasOtherTags canonicalOpening :=
    (Markup.HasOtherTags.rows hbefore).append (by decide)
  -- Behind the lines of the frame and before the link stands the fragment of the provider.
  have hquiet (hfirst : canonicalLinks shell.headScripts.text = []) :
      ∀ tag ∈ tagTexts ((Markup.rows before ++ html "  ").text.toList ++
        (shell.headScripts.text.toList ++ ['\n', ' ', ' '])), canonicalAddress? tag = none :=
    forall_tagTexts_append hblank
      (canonicalAddress?_append_line (List.filterMap_eq_nil_iff.mp hfirst))
      (fun _ ht => ht.valueAfter?_eq_none) fun _ ht => (ht.append _).valueAfter?_eq_none
  have hcanonical := hasCanonical_append (articleUrl ctx.domain a.slug) hquiet
    (rest ++ '\n' :: (Markup.rows after).text.toList)
  rw [hpage, toList_rows_indent_indent, hshare]
  simpa only [List.append_assoc, List.cons_append] using hcanonical

end StaticSite
