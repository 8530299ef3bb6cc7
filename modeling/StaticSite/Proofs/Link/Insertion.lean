import Mathlib.Logic.Relation
import StaticSite.Proofs.Html.Brackets
import StaticSite.Proofs.Link.Mentions

/-!
# What linking puts into a page

The linking pass puts links around phrases of a page. A phrase may be any part of the page, even one
with tags in it, if a title happens to read so. What keeps the pass from breaking a page is where
phrases may begin and end: behind an opening tag that is complete, and before a closing tag.

`TagCut` says so in terms of the tags of a page. The link cuts two tags in two: where it begins, a
tag whose end lies before the cut (`TagCut.opening`), and where it ends, a tag that a closing tag
follows (`TagCut.closing`). `exists_cuts_of_linkKeyword?` finds both cuts in one link, and
`cuts_linkFile` says that the whole pass makes cuts of these two kinds and changes nothing else. So
whatever such a cut preserves of the tags of a page, the linking pass preserves.

The pass searches a page for one keyword after another, and what it finds decides where it goes on.
`Inserts` tells what it has done, without the search: a link is put around a phrase of the page, the
next one around a phrase of the page that results, and so on. Each `Insertion` holds the page that
it was made in, so that a pass can be followed link by link, and undone from its end.

* `exists_insertion_of_linkKeyword?` says that a mention that is linked is one insertion.
* `exists_inserts_injectLinks` says that a pass over a page makes insertions only, each around a
  mention of a target (`Insertion.IsMentionOf`), and that they are allowed (`AreAllowed`): each
  leads to a target other than the page, no two lead to the same one, and there are no more than
  `maxLinks` of them.
-/

namespace StaticSite.Link

/-- **A tag of a link is put into a page.** It cuts a tag into what stays and what follows the new
tag. -/
inductive TagCut : List (List Char) → List (List Char) → Prop
  | opening {before after : List (List Char)} {kept moved tag : List Char} (hkept : '>' ∈ kept)
      (htag : tag.head? = some 'a') :
      TagCut (before ++ (kept ++ moved) :: after) (before ++ kept :: (tag ++ moved) :: after)
  | closing {before after : List (List Char)} {kept moved next : List Char}
      (hnext : next.head? = some '/') :
      TagCut (before ++ (kept ++ moved) :: next :: after)
        (before ++ kept :: ("/a>".toList ++ moved) :: next :: after)

/-- Tags of links are put into a page, one after the other. -/
abbrev TagCuts : List (List Char) → List (List Char) → Prop := Relation.ReflTransGen TagCut

/-! ### Where a link is put -/

/-- The last tag before the text of an item is complete. -/
theorem EndsInItem.exists_last_tag {cs : List Char} (h : EndsInItem cs) :
    ∃ before last, '<' ∉ last ∧ '>' ∈ last ∧ cs = before ++ '<' :: last := by
  obtain ⟨lead, tag, text, htag, htext, rfl⟩ := h
  cases htag with
  | @mk name attributes last hname hbound hattrs =>
    -- The opening tag may hold a `<` itself, and then the last tag begins there.
    have hmem : '<' ∈ lead ++ '<' :: (name ++ attributes) := by simp
    obtain ⟨before, last, hlast, heq⟩ := StaticSite.exists_last_tag hmem
    refine ⟨before, last ++ '>' :: text, ?_, List.mem_append_right _ List.mem_cons_self, ?_⟩
    · simp only [List.mem_append, List.mem_cons, not_or]
      exact ⟨hlast, by decide, htext⟩
    · have hall := congrArg (· ++ '>' :: text) heq
      simpa only [List.append_assoc, List.cons_append, List.nil_append] using hall

/-- The first tag behind a mention begins as closing tags do. -/
theorem exists_tagTexts_of_isClosedNext {cs : List Char} (h : isClosedNext cs = true) :
    ∃ next after, next.head? = some '/' ∧ tagTexts cs = next :: after := by
  obtain ⟨text, name, last, more, htext, -, rfl⟩ := isClosedNext_iff.mp h
  exact ⟨leadText ('/' :: (name ++ '>' :: more)), _, rfl, tagTexts_text_append htext _⟩

/-! ### One link -/

/-- The tag that begins a link holds no other, since the address is escaped. -/
theorem exists_linkTo (route : String) (phrase : List Char) :
    ∃ tag, '<' ∉ tag ∧ tag.head? = some 'a' ∧
      linkTo route phrase = '<' :: tag ++ phrase ++ '<' :: "/a>".toList := by
  have hroute : '<' ∉ (esc route).text.toList := Markup.notMem_toList_esc route (by decide)
  refine ⟨"a href=\"".toList ++ (esc route).text.toList ++ "\">".toList, ?_, rfl, ?_⟩
  · rw [List.mem_append, List.mem_append, not_or, not_or]
    exact ⟨⟨by decide, hroute⟩, by decide⟩
  · unfold linkTo
    rfl

/-- **One link cuts two tags**: the tag that stands before the phrase, behind its end, and the tag
before the closing tag that follows the phrase. -/
theorem exists_cuts_of_linkKeyword? {route keyword : String} {page linked : List Char}
    (h : linkKeyword? route page keyword = some linked) :
    ∃ middle, TagCut (tagTexts page) middle ∧ TagCut middle (tagTexts linked) := by
  unfold linkKeyword? at h
  split at h
  · cases h
  · split at h
    · next lead m hfind =>
      split at h
      · cases h
      · cases h
        obtain ⟨hpage, hmention⟩ := isMention_of_findMention hfind
        obtain ⟨before, last, hlast, hend, hbefore⟩ := hmention.endsInItem.exists_last_tag
        obtain ⟨tag, htag, hhead, hlink⟩ := exists_linkTo route m.phrase
        -- The page up to the closing tag of the link, and where its last tag begins.
        have hmem : '<' ∈ before ++ '<' :: last ++ ('<' :: tag ++ m.phrase) := by simp
        obtain ⟨before', last', hlast', hbefore'⟩ := exists_last_tag hmem
        obtain ⟨next, after, hnext, hrest⟩ := exists_tagTexts_of_isClosedNext hmention.closesItem
        refine ⟨tagTexts (before ++ '<' :: last ++ ('<' :: tag ++ (m.phrase ++ m.rest))), ?_, ?_⟩
        · rw [hpage, hbefore, tagTexts_append hlast,
            tagTexts_insert hlast htag]
          exact .opening hend hhead
        · have hmiddle : before ++ '<' :: last ++ ('<' :: tag ++ (m.phrase ++ m.rest)) =
              before' ++ '<' :: last' ++ m.rest := by
            rw [← hbefore']
            simp only [List.append_assoc, List.cons_append]
          have hlinked : lead ++ m.opening ++ linkTo route m.phrase ++ m.rest =
              before' ++ '<' :: last' ++ ('<' :: "/a>".toList ++ m.rest) := by
            rw [hbefore, hlink, ← hbefore']
            simp only [List.append_assoc, List.cons_append]
          rw [hmiddle, hlinked, tagTexts_append hlast', tagTexts_insert hlast' (by decide), hrest]
          exact .closing hnext
    · cases h

/-! ### The whole pass -/

/-- Linking to any number of targets makes cuts only. -/
theorem cuts_injectFrom (current : String) (targets : List PageKeywords) (linked : List String)
    (page : List Char) :
    TagCuts (tagTexts page) (tagTexts (injectFrom current targets linked page)) := by
  induction targets generalizing linked page with
  | nil => exact .refl
  | cons target targets ih =>
    rw [injectFrom]
    split
    · exact .refl
    · split
      · exact ih linked page
      · split
        · next page' hpage' =>
          obtain ⟨keyword, -, hlink⟩ := List.exists_of_findSome?_eq_some hpage'
          -- A link that is put in makes its two cuts, and the pass goes on with the new page.
          obtain ⟨middle, hopening, hclosing⟩ := exists_cuts_of_linkKeyword? hlink
          exact .head hopening (.head hclosing (ih _ page'))
        · exact ih linked page

/-- **The linking pass makes cuts only**: the tags of a file are cut by tags of links, and are
otherwise the same. -/
theorem cuts_linkFile (targets : List Target) (file : SiteFile) :
    TagCuts (tagTexts file.content.toList) (tagTexts (linkFile targets file).content.toList) := by
  unfold linkFile
  split
  · exact .refl
  · split
    · exact .refl
    · next route _ =>
      show TagCuts _
        (tagTexts (injectLinks file.content route (targets.map Target.keywords)).toList)
      unfold injectLinks
      rw [String.toList_ofList]
      exact cuts_injectFrom route (targets.map Target.keywords) [] file.content.toList

/-! ### Insertions -/

/-- A link that is put around a phrase of a page, with the page on both sides of the phrase. -/
structure Insertion where
  before : List Char
  route : String
  phrase : List Char
  after : List Char

namespace Insertion

/-- The page that the link is put into. -/
def page (i : Insertion) : List Char := i.before ++ i.phrase ++ i.after

/-- The page with the link. -/
def linked (i : Insertion) : List Char := i.before ++ linkTo i.route i.phrase ++ i.after

/-- **The phrase mentions a target at the route of the link**, by a keyword that is long enough. -/
def IsMentionOf (i : Insertion) (targets : List PageKeywords) : Prop :=
  ∃ target ∈ targets, target.route = i.route ∧ ∃ keyword ∈ target.keywords,
    minKeywordLength ≤ keyword.length ∧ IsMention keyword.toList i.before i.phrase i.after

theorem IsMentionOf.cons {i : Insertion} {targets : List PageKeywords}
    (h : i.IsMentionOf targets) (target : PageKeywords) : i.IsMentionOf (target :: targets) := by
  obtain ⟨t, ht, hmention⟩ := h
  exact ⟨t, List.mem_cons_of_mem _ ht, hmention⟩

end Insertion

/-- **Links are put into a page**, one after the other. -/
inductive Inserts : List Insertion → List Char → List Char → Prop
  | none (page : List Char) : Inserts [] page page
  | next (i : Insertion) {is : List Insertion} {linked : List Char}
      (h : Inserts is i.linked linked) : Inserts (i :: is) i.page linked

/-- **The links that may be put into a page** at a route, when some routes have their link. -/
structure AreAllowed (current : String) (targets : List PageKeywords) (linked : List String)
    (is : List Insertion) : Prop where
  /-- Each leads to a target, other than the page itself and those that have their link. -/
  leads : ∀ i ∈ is,
    i.route ∈ targets.map PageKeywords.route ∧ i.route ≠ current ∧ i.route ∉ linked
  /-- No two lead to the same target. -/
  nodup : (is.map Insertion.route).Nodup
  /-- With those that are there already they are not too many. -/
  length_le : is.length + linked.length ≤ maxLinks

namespace AreAllowed

variable {current : String} {target : PageKeywords} {targets : List PageKeywords}
  {linked : List String} {is : List Insertion}

theorem nil (h : linked.length ≤ maxLinks) : AreAllowed current targets linked [] where
  leads := fun _ hi => absurd hi List.not_mem_nil
  nodup := List.nodup_nil
  length_le := by rwa [List.length_nil, Nat.zero_add]

/-- What is allowed without a target is allowed with it. -/
theorem cons_target (h : AreAllowed current targets linked is) :
    AreAllowed current (target :: targets) linked is where
  leads := fun i hi =>
    have ⟨htarget, hcurrent, hlinked⟩ := h.leads i hi
    ⟨List.mem_cons_of_mem _ htarget, hcurrent, hlinked⟩
  nodup := h.nodup
  length_le := h.length_le

/-- A link to a target may come first, if the others are allowed after it. -/
theorem cons {i : Insertion} (h : AreAllowed current targets (target.route :: linked) is)
    (hi : i.route = target.route) (hcurrent : target.route ≠ current)
    (hlinked : target.route ∉ linked) :
    AreAllowed current (target :: targets) linked (i :: is) where
  leads := by
    rw [List.forall_mem_cons, hi]
    refine ⟨⟨List.mem_cons_self, hcurrent, hlinked⟩, fun j hj => ?_⟩
    -- The later ones were allowed although the route of the target was linked already.
    obtain ⟨htarget, hcurrent, hlinked⟩ := h.leads j hj
    exact ⟨List.mem_cons_of_mem _ htarget, hcurrent, mt (List.mem_cons_of_mem _) hlinked⟩
  nodup := by
    rw [List.map_cons, List.nodup_cons, hi]
    refine ⟨fun hmem => ?_, h.nodup⟩
    obtain ⟨j, hj, hroute⟩ := List.mem_map.mp hmem
    exact (h.leads j hj).2.2 (hroute ▸ List.mem_cons_self)
  length_le := by
    have hlength := h.length_le
    rw [List.length_cons] at hlength ⊢
    omega

end AreAllowed

/-- A mention of a keyword that is linked is one insertion. -/
theorem exists_insertion_of_linkKeyword? {route keyword : String} {page linked : List Char}
    (h : linkKeyword? route page keyword = some linked) :
    ∃ i : Insertion, i.route = route ∧ i.page = page ∧ i.linked = linked ∧
      minKeywordLength ≤ keyword.length ∧ IsMention keyword.toList i.before i.phrase i.after := by
  unfold linkKeyword? at h
  split at h
  · cases h
  · next hlength =>
    split at h
    · next lead m hfind =>
      split at h
      · cases h
      · cases h
        obtain ⟨rfl, hmention⟩ := isMention_of_findMention hfind
        exact ⟨⟨lead ++ m.opening, route, m.phrase, m.rest⟩, rfl, List.append_assoc .., rfl,
          Nat.not_lt.mp hlength, hmention⟩
    · cases h

/-- **A pass over a page makes insertions only**, around mentions, and they are allowed. -/
theorem exists_inserts_injectFrom (current : String) (targets : List PageKeywords)
    {linked : List String} (hlinked : linked.length ≤ maxLinks) (page : List Char) :
    ∃ is, Inserts is page (injectFrom current targets linked page) ∧
      (∀ i ∈ is, i.IsMentionOf targets) ∧ AreAllowed current targets linked is := by
  have hnone {ts : List PageKeywords} : ∀ i ∈ [], Insertion.IsMentionOf i ts :=
    fun i hi => absurd hi List.not_mem_nil
  induction targets generalizing linked page with
  | nil => exact ⟨[], .none page, hnone, .nil hlinked⟩
  | cons target targets ih =>
    rw [injectFrom]
    split
    · exact ⟨[], .none page, hnone, .nil hlinked⟩
    · next hroom =>
      split
      -- The target is the page itself, or has its link.
      · obtain ⟨is, hinserts, hmentions, hallowed⟩ := ih hlinked page
        exact ⟨is, hinserts, fun i hi => (hmentions i hi).cons target, hallowed.cons_target⟩
      · next hother =>
        rw [Bool.or_eq_true, decide_eq_true_eq, List.contains_iff_mem, not_or] at hother
        split
        · next page' hpage' =>
          obtain ⟨keyword, hkeyword, hlink⟩ := List.exists_of_findSome?_eq_some hpage'
          obtain ⟨i, hroute, rfl, rfl, hmention⟩ := exists_insertion_of_linkKeyword? hlink
          have hmore : (target.route :: linked).length ≤ maxLinks := Nat.not_le.mp hroom
          obtain ⟨is, hinserts, hmentions, hallowed⟩ := ih hmore i.linked
          refine ⟨i :: is, .next i hinserts, ?_, hallowed.cons hroute hother.1 hother.2⟩
          rw [List.forall_mem_cons]
          exact ⟨⟨target, List.mem_cons_self, hroute.symm, keyword, hkeyword, hmention⟩,
            fun j hj => (hmentions j hj).cons target⟩
        -- The page has no mention of the target.
        · obtain ⟨is, hinserts, hmentions, hallowed⟩ := ih hlinked page
          exact ⟨is, hinserts, fun i hi => (hmentions i hi).cons target, hallowed.cons_target⟩

/-- **Linking a page makes insertions only**, around mentions of targets, and they are allowed. -/
theorem exists_inserts_injectLinks (page current : String) (targets : List PageKeywords) :
    ∃ is, Inserts is page.toList (injectLinks page current targets).toList ∧
      (∀ i ∈ is, i.IsMentionOf targets) ∧ AreAllowed current targets [] is := by
  have hnone : ([] : List String).length ≤ maxLinks := Nat.zero_le maxLinks
  unfold injectLinks
  rw [String.toList_ofList]
  exact exists_inserts_injectFrom current targets hnone page.toList

example : injectLinks "<p>Read about us, all about us.</p>" "/" [⟨"/about", ["about us"]⟩] =
    "<p>Read <a href=\"/about\">about us</a>, all about us.</p>" := by decide

/-! ### Files -/

section

variable {targets : List Target} {f : SiteFile} {current : String}

/-- The page that a file holds is that of a target. -/
theorem exists_target_of_routeOf? {path : String} (h : routeOf? targets path = some current) :
    ∃ t ∈ targets, t.route = current ∧ Route.filePath t.route = path := by
  obtain ⟨t, hfind, rfl⟩ := Option.map_eq_some_iff.mp h
  have hpath := List.find?_some hfind
  exact ⟨t, List.mem_reverse.mp (List.mem_of_find?_eq_some hfind), rfl, by simpa using hpath⟩

theorem isBinary_linkFile (targets : List Target) (f : SiteFile) :
    (linkFile targets f).isBinary = f.isBinary := by
  unfold linkFile
  split
  · rfl
  · split <;> rfl

/-- A file that holds the page of no target stays as it is. -/
theorem linkFile_eq_self (h : ∀ t ∈ targets, Route.filePath t.route ≠ f.path) :
    linkFile targets f = f := by
  have hnone : routeOf? targets f.path = none := by
    rw [Option.eq_none_iff_forall_ne_some]
    intro route hroute
    obtain ⟨t, ht, -, hpath⟩ := exists_target_of_routeOf? hroute
    exact h t ht hpath
  unfold linkFile
  rw [hnone]
  exact ite_self f

/-- **The linking pass makes insertions only**: a file is as it was, or holds the page of a target
with links that are allowed on that page. -/
theorem exists_inserts_linkFile (targets : List Target) (f : SiteFile) :
    ∃ is, Inserts is f.content.toList (linkFile targets f).content.toList ∧
      (is = [] ∨ ∃ t ∈ targets, Route.filePath t.route = f.path ∧
        AreAllowed t.route (targets.map Target.keywords) [] is) := by
  unfold linkFile
  split
  · exact ⟨[], .none _, .inl rfl⟩
  · split
    · exact ⟨[], .none _, .inl rfl⟩
    · next route hroute =>
      obtain ⟨t, ht, rfl, hpath⟩ := exists_target_of_routeOf? hroute
      obtain ⟨is, hinserts, -, hallowed⟩ :=
        exists_inserts_injectLinks f.content t.route (targets.map Target.keywords)
      exact ⟨is, hinserts, .inr ⟨t, ht, hpath, hallowed⟩⟩

end

end StaticSite.Link
