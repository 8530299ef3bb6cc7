import StaticSite.Proofs.Link.Fragments

/-!
# Links stand beside each other

The linking pass looks for the next mention in a page that holds the links it has put there before.
It never looks into them: behind the tag that begins a link no item is open, and none is closed by
the tag that ends it. So a phrase without a `<` that is linked later lies before, between or behind
the earlier links (`isClosedNext_eq_false_of_link`).

* `Insertion.undo` takes one link out again, and `foldr_undo_of_inserts` says that a pass is undone
  from its end.
* `Woven` says of two pages that they differ by links around phrases that do not overlap, and
  `Woven.insert` that one more link keeps them so.
* `injectLinks_puts_disjoint_links` says so of a whole pass.
-/

namespace StaticSite.Link

open Text (sameLetter)

/-! ### Taking links out -/

/-- A text without a number of characters from a position on. -/
def cutOut (start n : Nat) (cs : List Char) : List Char := cs.take start ++ cs.drop (start + n)

theorem cutOut_append (xs ys zs : List Char) :
    cutOut xs.length ys.length (xs ++ (ys ++ zs)) = xs ++ zs := by
  unfold cutOut
  rw [List.take_left, ← List.append_assoc, ← List.length_append, List.drop_left]

/-- Takes the tags of a link out of a page, the last one first. -/
def Insertion.undo (i : Insertion) (page : List Char) : List Char :=
  let tag := linkStart i.route
  cutOut i.before.length tag.length
    (cutOut (i.before ++ (tag ++ i.phrase)).length linkEnd.length page)

/-- **A link that has been put into a page is taken out again.** -/
theorem Insertion.undo_linked (i : Insertion) : i.undo i.linked = i.page := by
  have hlinked :
      i.linked = i.before ++ (linkStart i.route ++ i.phrase) ++ (linkEnd ++ i.after) := by
    unfold linked
    rw [linkTo_eq]
    simp only [List.append_assoc]
  unfold undo page
  dsimp only
  rw [hlinked, cutOut_append, List.append_assoc, List.append_assoc, cutOut_append,
    List.append_assoc]

/-- **A pass is undone from its end**: the link that came last is taken out first. -/
theorem foldr_undo_of_inserts {is : List Insertion} {page linked : List Char}
    (h : Inserts is page linked) : is.foldr Insertion.undo linked = page := by
  induction h with
  | none page => rfl
  | next i h ih => rw [List.foldr_cons, ih, i.undo_linked]

/-! ### Mentions of targets -/

namespace Insertion.IsMentionOf

variable {i : Insertion} {targets : List PageKeywords} (h : i.IsMentionOf targets)
include h

theorem endsInItem : EndsInItem i.before := by
  obtain ⟨_, _, _, _, _, _, hmention⟩ := h
  exact hmention.endsInItem

theorem closesItem : isClosedNext i.after = true := by
  obtain ⟨_, _, _, _, _, _, hmention⟩ := h
  exact hmention.closesItem

/-- Keywords without `<` are mentioned by phrases without tags. -/
theorem notMem
    (hkeywords : ∀ target ∈ targets, ∀ keyword ∈ target.keywords, '<' ∉ keyword.toList) :
    '<' ∉ i.phrase := by
  obtain ⟨target, htarget, _, keyword, hkeyword, _, hmention⟩ := h
  exact hmention.notMem (hkeywords target htarget keyword hkeyword)

end Insertion.IsMentionOf

/-- **A pass with keywords without `<`** puts its links around text of items. -/
theorem exists_inserts_text (page current : String) {targets : List PageKeywords}
    (hkeywords : ∀ target ∈ targets, ∀ keyword ∈ target.keywords, '<' ∉ keyword.toList) :
    ∃ is, Inserts is page.toList (injectLinks page current targets).toList ∧
      (∀ i ∈ is, i.IsMentionOf targets) ∧ ∀ i ∈ is, EndsInItem i.before ∧ '<' ∉ i.phrase := by
  obtain ⟨is, hinserts, hmentions, -⟩ := exists_inserts_injectLinks page current targets
  exact ⟨is, hinserts, hmentions, fun i hi =>
    ⟨(hmentions i hi).endsInItem, (hmentions i hi).notMem hkeywords⟩⟩

/-! ### Where a later phrase begins -/

/-- **A text ends its tags**: each tag that begins in it has its end there. -/
def EndsTags (cs : List Char) : Prop := ∀ before after, cs = before ++ '<' :: after → '>' ∈ after

theorem EndsTags.of_append {xs ys : List Char} (h : EndsTags (xs ++ ys)) : EndsTags ys := by
  rintro before after rfl
  exact h (xs ++ before) after (List.append_assoc ..).symm

theorem EndsInItem.endsTags {cs : List Char} (h : EndsInItem cs) : EndsTags cs := by
  obtain ⟨lead, last, hlast, hend, rfl⟩ := h.exists_last_tag
  intro before after heq
  -- The tag that begins at `before` is the last one, or the last one begins behind it.
  rcases List.append_eq_append_iff.mp heq with ⟨more, -, hmore⟩ | ⟨more, -, hmore⟩
  · cases more with
    | nil => rwa [← (List.cons.inj hmore).2]
    | cons c more =>
      rw [(List.cons.inj hmore).2] at hlast
      simp at hlast
  · cases more with
    | nil => rwa [(List.cons.inj hmore).2]
    | cons c more =>
      rw [(List.cons.inj hmore).2]
      simp [hend]

/-- The tag that ends a link ends with its only `>`. -/
theorem eq_nil_of_linkEnd {xs ys : List Char} (h : linkEnd = '<' :: (xs ++ ys)) (hx : '>' ∈ xs) :
    ys = [] := by
  have hcount : (xs ++ ys).count '>' = 1 := by
    rw [← (List.cons.inj h).2]
    rfl
  have hlast : ys ≠ [] → '>' ∈ ys := fun hne => by
    have hgetLast : ys.getLast? = some '>' := by
      rw [← List.getLast?_append_of_ne_nil ('<' :: xs) hne, List.cons_append, ← h]
      rfl
    exact List.mem_of_getLast? hgetLast
  by_contra hne
  have hxs := List.count_pos_iff.mpr hx
  have hys := List.count_pos_iff.mpr (hlast hne)
  rw [List.count_append] at hcount
  omega

/-- The tag that begins a link holds no other, since the address is escaped. -/
theorem exists_linkStart (route : String) :
    ∃ tag, '<' ∉ tag ∧ linkStart route = '<' :: 'a' :: ' ' :: tag := by
  have hroute : '<' ∉ (esc route).text.toList := Markup.notMem_toList_esc route (by decide)
  refine ⟨"href=\"".toList ++ (esc route).text.toList ++ "\">".toList, ?_, rfl⟩
  rw [List.mem_append, List.mem_append, not_or, not_or]
  exact ⟨⟨by decide, hroute⟩, by decide⟩

/-- **The tags around a link**: the tag before the phrase ends before the phrase, so that the tags
of the link only take over the text behind it. -/
theorem Insertion.exists_tagTexts {i : Insertion} (hends : EndsInItem i.before)
    (hphrase : '<' ∉ i.phrase) :
    ∃ lead last tag, '<' ∉ last ∧ '>' ∈ last ∧ i.before = lead ++ '<' :: last ∧
      linkStart i.route = '<' :: 'a' :: ' ' :: tag ∧
      tagTexts i.page =
        tagTexts lead ++ (last ++ (i.phrase ++ leadText i.after)) :: tagTexts i.after ∧
      tagTexts i.linked = tagTexts lead ++ last :: ('a' :: ' ' :: (tag ++ i.phrase)) ::
        ("/a>".toList ++ leadText i.after) :: tagTexts i.after := by
  obtain ⟨lead, last, hlast, hend, hbefore⟩ := hends.exists_last_tag
  obtain ⟨tag, htag, hstart⟩ := exists_linkStart i.route
  refine ⟨lead, last, tag, hlast, hend, hbefore, hstart, ?_, ?_⟩
  · have hpage : i.page = lead ++ '<' :: (last ++ i.phrase) ++ i.after := by
      unfold page
      rw [hbefore]
      simp only [List.append_assoc, List.cons_append]
    have hnot : '<' ∉ last ++ i.phrase := by
      rw [List.mem_append, not_or]
      exact ⟨hlast, hphrase⟩
    rw [hpage, tagTexts_append hnot, List.append_assoc]
  · have hlinked : i.linked =
        lead ++ '<' :: last ++ ('<' :: ('a' :: ' ' :: (tag ++ i.phrase)) ++
          (linkEnd ++ i.after)) := by
      unfold linked
      rw [hbefore, linkTo_eq, hstart]
      simp only [List.append_assoc, List.cons_append]
    have hnot : '<' ∉ 'a' :: ' ' :: (tag ++ i.phrase) := by simp [htag, hphrase]
    -- The end of the link takes over the text that stood behind the phrase.
    have hend : tagTexts (linkEnd ++ i.after) =
        ("/a>".toList ++ leadText i.after) :: tagTexts i.after := by
      have htext : '<' ∉ "/a>".toList := by decide
      show tagTexts ('<' :: ("/a>".toList ++ i.after)) = _
      rw [tagTexts_tag, leadText_append htext, tagTexts_text_append htext]
    have hlead : leadText (linkEnd ++ i.after) = [] := rfl
    rw [hlinked, tagTexts_insert hlast hnot, hlead, List.append_nil, hend]

/-- **No phrase that begins inside a link is a mention**, if it has no tag in it: either it stands
in the text of the link, and the tag behind it ends the link, or it begins in that tag. -/
theorem isClosedNext_eq_false_of_link {route : String} {inner before behind phrase rest more :
    List Char} (hinner : '<' ∉ inner) (hphrase : '<' ∉ phrase)
    (hlink : linkTo route inner = before ++ behind) (hbefore : before ≠ []) (hbehind : behind ≠ [])
    (hends : EndsTags before) (hrest : phrase ++ rest = behind ++ more) :
    isClosedNext rest = false := by
  obtain ⟨tag, htag, hstart⟩ := exists_linkStart route
  -- A phrase whose next tag is the end of the link is no mention.
  have hclosed {text : List Char} (htext : '<' ∉ text) (h : behind = text ++ linkEnd) :
      isClosedNext rest = false := by
    rw [← isClosedNext_text_append hphrase, hrest, h, List.append_assoc,
      isClosedNext_text_append htext, isClosedNext_linkEnd]
  rw [linkTo_eq, ← List.append_assoc] at hlink
  rcases List.append_eq_append_iff.mp hlink with ⟨signs, rfl, hend⟩ | ⟨text, hbody, hend⟩
  · cases signs with
    | nil => exact hclosed List.not_mem_nil hend.symm
    | cons c signs =>
      obtain rfl : '<' = c := (List.cons.inj hend).1
      exact absurd (eq_nil_of_linkEnd hend (hends _ _ rfl)) hbehind
  · refine hclosed (fun hmem => ?_) hend
    cases before with
    | nil => exact hbefore rfl
    | cons c before =>
      rw [hstart, List.cons_append, List.cons_append] at hbody
      have hmem' : '<' ∈ 'a' :: (' ' :: tag ++ inner) :=
        (List.cons.inj hbody).2 ▸ List.mem_append_right _ hmem
      simp [htag, hinner] at hmem'

/-- A phrase without tags lies before the next tag. -/
theorem exists_of_append_eq_tag {phrase rest text tags : List Char} (hphrase : '<' ∉ phrase)
    (h : phrase ++ rest = text ++ '<' :: tags) :
    ∃ more, text = phrase ++ more ∧ rest = more ++ '<' :: tags := by
  rcases List.append_eq_append_iff.mp h with ⟨more, rfl, hrest⟩ | ⟨more, rfl, hrest⟩
  · exact ⟨more, rfl, hrest⟩
  · cases more with
    | nil => exact ⟨[], by simp, hrest.symm⟩
    | cons c more =>
      rw [(List.cons.inj hrest).1] at hphrase
      simp at hphrase

/-- **A mention on a page with a link lies before the link or behind it.** -/
theorem exists_beside_link {text inner linked before phrase rest : List Char} {route : String}
    (hinner : '<' ∉ inner) (hphrase : '<' ∉ phrase) (hends : EndsTags before)
    (hclosed : isClosedNext rest = true)
    (hpage : text ++ (linkTo route inner ++ linked) = before ++ (phrase ++ rest)) :
    (∃ more, text = before ++ (phrase ++ more) ∧ rest = more ++ (linkTo route inner ++ linked)) ∨
      ∃ passed, before = text ++ (linkTo route inner ++ passed) ∧
        linked = passed ++ (phrase ++ rest) := by
  have hbefore {more : List Char} (htext : text = before ++ more)
      (hmore : phrase ++ rest = more ++ (linkTo route inner ++ linked)) :
      ∃ more, text = before ++ (phrase ++ more) ∧
        rest = more ++ (linkTo route inner ++ linked) := by
    obtain ⟨more', rfl, hrest⟩ := exists_of_append_eq_tag hphrase hmore
    exact ⟨more', htext, hrest⟩
  rcases List.append_eq_append_iff.mp hpage with ⟨passed, rfl, hpassed⟩ | ⟨more, htext, hmore⟩
  · rcases List.append_eq_append_iff.mp hpassed with ⟨passed, rfl, rfl⟩ | ⟨behind, hlink, hrest⟩
    · exact .inr ⟨passed, rfl, rfl⟩
    -- The phrase begins inside the link, or where the link begins or ends.
    · by_cases hstart : passed = []
      · subst hstart
        rw [List.nil_append] at hlink
        subst hlink
        have hmore : phrase ++ rest = [] ++ (linkTo route inner ++ linked) := hrest
        exact .inl (hbefore (by simp) hmore)
      · by_cases hend : behind = []
        · subst hend
          rw [List.append_nil] at hlink
          exact .inr ⟨[], by rw [hlink, List.append_nil], hrest.symm⟩
        · have hopen := isClosedNext_eq_false_of_link hinner hphrase hlink hstart hend
            hends.of_append hrest
          rw [hopen] at hclosed
          cases hclosed
  · exact .inl (hbefore htext hmore)

/-! ### Pages with links -/

/-- **A page with links**, each with its route and its phrase, in order: a page without them, and
the page with a link around each of the phrases. They do not overlap. -/
inductive Woven : List (String × List Char) → List Char → List Char → Prop
  | text (cs : List Char) : Woven [] cs cs
  | link (text : List Char) (route : String) (phrase : List Char)
      {links : List (String × List Char)} {page linked : List Char}
      (h : Woven links page linked) :
      Woven ((route, phrase) :: links) (text ++ (phrase ++ page))
        (text ++ (linkTo route phrase ++ linked))

/-- **One more link** around a phrase without tags stands beside all others. -/
theorem Woven.insert {links : List (String × List Char)} {page linked : List Char}
    (h : Woven links page linked) (hlinks : ∀ l ∈ links, '<' ∉ l.2)
    {before phrase rest : List Char} (hphrase : '<' ∉ phrase) (hends : EndsTags before)
    (hclosed : isClosedNext rest = true) (hpage : linked = before ++ (phrase ++ rest))
    (route : String) :
    ∃ links', links'.Perm ((route, phrase) :: links) ∧
      Woven links' page (before ++ (linkTo route phrase ++ rest)) := by
  -- On the links of the page. The phrase stands before the first one, or behind it among the
  -- others.
  induction h generalizing before with
  | text cs =>
    rw [hpage]
    exact ⟨_, .refl _, .link before route phrase (.text rest)⟩
  | link text r p h ih =>
    rw [List.forall_mem_cons] at hlinks
    rcases exists_beside_link hlinks.1 hphrase hends hclosed hpage with
      ⟨more, rfl, rfl⟩ | ⟨passed, rfl, rfl⟩
    · refine ⟨_, .refl _, ?_⟩
      simpa only [List.append_assoc] using Woven.link before route phrase (h.link more r p)
    · obtain ⟨links', hperm, hwoven⟩ := ih hlinks.2 hends.of_append.of_append rfl
      refine ⟨(r, p) :: links', (hperm.cons _).trans (.swap ..), ?_⟩
      simpa only [List.append_assoc] using hwoven.link text r p

/-- **A pass with keywords without `<`** puts its links beside each other, and beside those that a
page has already. -/
theorem exists_woven_of_inserts {is : List Insertion} {page linked start : List Char}
    {targets : List PageKeywords}
    (hkeywords : ∀ target ∈ targets, ∀ keyword ∈ target.keywords, '<' ∉ keyword.toList)
    (h : Inserts is page linked) (hmentions : ∀ i ∈ is, i.IsMentionOf targets)
    {links : List (String × List Char)} (hlinks : ∀ l ∈ links, '<' ∉ l.2)
    (hwoven : Woven links start page) :
    ∃ links', links'.Perm (is.map (fun i => (i.route, i.phrase)) ++ links) ∧
      Woven links' start linked := by
  -- On the run of insertions: each one weaves one more link into a page that is woven already.
  induction h generalizing links with
  | none page => exact ⟨links, .refl _, hwoven⟩
  | next i h ih =>
    rw [List.forall_mem_cons] at hmentions
    have hphrase := hmentions.1.notMem hkeywords
    obtain ⟨links', hperm, hwoven'⟩ := hwoven.insert hlinks hphrase
      hmentions.1.endsInItem.endsTags hmentions.1.closesItem (List.append_assoc ..) i.route
    have hlinks' : ∀ l ∈ links', '<' ∉ l.2 := by
      intro l hl
      rcases List.mem_cons.mp (hperm.mem_iff.mp hl) with rfl | hl
      · exact hphrase
      · exact hlinks l hl
    obtain ⟨links'', hperm', hwoven''⟩ := ih hmentions.2 hlinks'
      (by rwa [Insertion.linked, List.append_assoc])
    refine ⟨links'', hperm'.trans ?_, hwoven''⟩
    exact (hperm.append_left _).trans List.perm_middle

/-- **The pass puts links around phrases, and does nothing else.** There are no more than eight,
each around a keyword of a target and to its route, no two to the same one and none to the page
itself. Taken out from the last one on they leave the page as it was. If no keyword has a `<`, the
phrases are parts of the page that do not overlap, so that no link stands inside another. -/
theorem injectLinks_puts_disjoint_links (page current : String) (targets : List PageKeywords) :
    ∃ is : List Insertion,
      Inserts is page.toList (injectLinks page current targets).toList ∧
      is.length ≤ 8 ∧
      (∀ i ∈ is, ∃ target ∈ targets, target.route = i.route ∧ ∃ keyword ∈ target.keywords,
        4 ≤ keyword.length ∧
          List.Forall₂ (fun k c => sameLetter k c = true) keyword.toList i.phrase) ∧
      (is.map Insertion.route).Nodup ∧ current ∉ is.map Insertion.route ∧
      is.foldr Insertion.undo (injectLinks page current targets).toList = page.toList ∧
      ((∀ target ∈ targets, ∀ keyword ∈ target.keywords, '<' ∉ keyword.toList) →
        ∃ links, links.Perm (is.map fun i => (i.route, i.phrase)) ∧
          Woven links page.toList (injectLinks page current targets).toList) := by
  obtain ⟨is, hinserts, hmentions, hallowed⟩ := exists_inserts_injectLinks page current targets
  -- The links are the insertions of the pass; what they are allowed to be bounds their number and
  -- keeps their routes distinct.
  refine ⟨is, hinserts, hallowed.length_le, fun i hi => ?_, hallowed.nodup, fun hmem => ?_,
    foldr_undo_of_inserts hinserts, fun hkeywords => ?_⟩
  · obtain ⟨target, htarget, hroute, keyword, hkeyword, hlength, hmention⟩ := hmentions i hi
    exact ⟨target, htarget, hroute, keyword, hkeyword, hlength, hmention.sameLetters⟩
  · obtain ⟨i, hi, hroute⟩ := List.mem_map.mp hmem
    exact (hallowed.leads i hi).2.1 hroute
  · obtain ⟨links, hperm, hwoven⟩ := exists_woven_of_inserts hkeywords hinserts hmentions
      (fun l hl => absurd hl List.not_mem_nil) (.text page.toList)
    exact ⟨links, by rwa [List.append_nil] at hperm, hwoven⟩

end StaticSite.Link
