import StaticSite.Block.Links
import StaticSite.Proofs.Link.Disjoint
import StaticSite.Proofs.Link.Leading

/-!
# Links inside of links

A page is read tag by tag: a tag named `a` begins a link, and `</a>` ends it. No link of a page
stands inside another if none begins while one is open (`nestsNoLink`).

The linking pass looks at the item that a mention stands in, and not at what the item stands in. One
link that it puts into a page stands inside another exactly if a link is open before the mention
(`nestsNoLink_linked`), so that the whole pass nests no links exactly if none of its mentions stands
in a link (`nestsNoLink_injectLinks_iff`). This is so of every page on which no item stands in a
link (`ItemsOutsideLinks`), since the pass keeps it so. The paragraph of a card that is a link is an
item in a link, and a mention in it becomes a link inside the card.
-/

namespace StaticSite

/-! ### Reading the links of a page -/

/-- Whether a character ends the name of a tag. -/
def endsTagName (c : Char) : Bool := "\t\n\x0c\r />".toList.contains c

/-- Whether a text begins with the name of links. -/
def isLinkName : List Char → Bool
  | a :: b :: _ => (a == 'a' || a == 'A') && endsTagName b
  | _ => false

/-- Whether a tag ends a link. -/
def endsLink : List Char → Bool
  | '/' :: name => isLinkName name
  | _ => false

/-- Whether a link is open behind a tag, by whether one is open before it. -/
def openBehind (isOpen : Bool) (tag : List Char) : Bool :=
  isLinkName tag || (isOpen && !endsLink tag)

/-- Whether no tag begins a link while one is open. -/
def beginsApart : Bool → List (List Char) → Bool
  | _, [] => true
  | isOpen, tag :: tags => !(isOpen && isLinkName tag) && beginsApart (openBehind isOpen tag) tags

/-- **No link of a page stands inside another.** -/
def nestsNoLink (page : List Char) : Bool := beginsApart false (tagTexts page)

/-- Whether a link is open where a text ends. -/
def leavesLinkOpen (cs : List Char) : Bool := (tagTexts cs).foldl openBehind false

theorem isLinkName_append {name : List Char} (h : '>' ∈ name) (more : List Char) :
    isLinkName (name ++ more) = isLinkName name := by
  match name with
  | [] => cases h
  | [a] =>
    obtain rfl := List.mem_singleton.mp h
    cases more <;> rfl
  | _ :: _ :: _ => rfl

theorem endsLink_append {tag : List Char} (h : '>' ∈ tag) (more : List Char) :
    endsLink (tag ++ more) = endsLink tag := by
  unfold endsLink
  match tag with
  | [] => cases h
  | c :: name =>
    rw [List.cons_append]
    by_cases hc : c = '/'
    · subst hc
      exact isLinkName_append ((List.mem_cons.mp h).resolve_left (by decide)) more
    · split
      · next heq => exact absurd (List.cons.inj heq).1 hc
      · split
        · next heq => exact absurd (List.cons.inj heq).1 hc
        · rfl

theorem openBehind_append {tag : List Char} (h : '>' ∈ tag) (isOpen : Bool) (more : List Char) :
    openBehind isOpen (tag ++ more) = openBehind isOpen tag := by
  unfold openBehind
  rw [isLinkName_append h, endsLink_append h]

theorem beginsApart_append (isOpen : Bool) (xs ys : List (List Char)) :
    beginsApart isOpen (xs ++ ys) =
      (beginsApart isOpen xs && beginsApart (xs.foldl openBehind isOpen) ys) := by
  induction xs generalizing isOpen with
  | nil => rfl
  | cons tag xs ih =>
    rw [List.cons_append, beginsApart, beginsApart, ih, List.foldl_cons, Bool.and_assoc]

namespace Link

/-! ### One link -/

section

variable {i : Insertion} (hends : EndsInItem i.before) (hphrase : '<' ∉ i.phrase)
include hends hphrase

/-- **A link stands inside another** if one is open before its phrase, and nests nothing
otherwise. -/
theorem nestsNoLink_linked :
    nestsNoLink i.linked = (nestsNoLink i.page && !leavesLinkOpen i.before) := by
  obtain ⟨lead, last, tag, hlast, hend, hbefore, -, hpage, hlinked⟩ :=
    i.exists_tagTexts hends hphrase
  have hopen : leavesLinkOpen i.before =
      openBehind ((tagTexts lead).foldl openBehind false) last := by
    unfold leavesLinkOpen
    rw [hbefore, tagTexts_append_last hlast, List.foldl_append]
    rfl
  unfold nestsNoLink
  rw [hlinked, hpage, hopen, beginsApart_append, beginsApart_append, beginsApart.eq_2,
    beginsApart.eq_2 _ (last ++ _), isLinkName_append hend, openBehind_append hend]
  -- Behind the two tags of the link none is open.
  cases openBehind ((tagTexts lead).foldl openBehind false) last with
  | false => rw [Bool.not_false, Bool.and_true]; rfl
  | true => rw [Bool.not_true, Bool.and_false]; simp [beginsApart, isLinkName, endsTagName]

/-- Behind a link that is put where none is open, the same links are open as without it. -/
theorem leavesLinkOpen_linked (hopen : leavesLinkOpen i.before = false) :
    leavesLinkOpen i.linked = leavesLinkOpen i.page := by
  obtain ⟨lead, last, tag, hlast, hend, hbefore, -, hpage, hlinked⟩ :=
    i.exists_tagTexts hends hphrase
  unfold leavesLinkOpen at hopen ⊢
  rw [hbefore, tagTexts_append_last hlast, List.foldl_append] at hopen
  rw [hlinked, hpage, List.foldl_append, List.foldl_append, List.foldl_cons,
    List.foldl_cons (a := last ++ _), openBehind_append hend]
  rw [List.foldl_cons, List.foldl_nil] at hopen
  rw [hopen]
  rfl

end

/-! ### Items outside of links -/

/-- **No item of a page stands in a link**: where the text of one ends, none is open. -/
def ItemsOutsideLinks (page : List Char) : Prop :=
  ∀ before after, page = before ++ after → EndsInItem before → leavesLinkOpen before = false

/-- No item begins in a link around a phrase without tags. -/
theorem opensNoItem_linkTo (route : String) {phrase : List Char} (hphrase : '<' ∉ phrase) :
    OpensNoItem (linkTo route phrase) := by
  obtain ⟨tag, htag, hstart⟩ := exists_linkStart route
  have hopening : OpensNoItem (linkStart route) := by
    have hother : isOtherTag ['a', ' '] = true := by decide
    rw [hstart]
    exact .of_tag hother (by simp [htag])
  rw [linkTo_eq]
  exact hopening.append ((OpensNoItem.of_notMem hphrase).append (by decide))

/-- A text that begins no item does not end in one, wherever it is cut. -/
theorem OpensNoItem.not_endsInItem {xs ys : List Char} (h : OpensNoItem (xs ++ ys)) :
    ¬ EndsInItem xs := by
  rintro ⟨lead, tag, text, htag, -, rfl⟩
  have hopen : openingTag? tag = some (tag, []) :=
    openingTag?_eq_some_iff.mpr ⟨htag, (List.append_nil tag).symm⟩
  have hoccurs : tag <:+: (lead ++ (tag ++ text) ++ ys) ++ [] :=
    ⟨lead, text ++ ys, by simp only [List.append_assoc, List.append_nil]⟩
  obtain rfl := List.infix_nil.mp (h.isInfix_of_isInfix_append (by rw [hopen]; nofun) hoccurs)
  cases hopen

/-- **An item that ends behind the beginning of a link begins behind the link**, if the phrase of
the link stands in an item. -/
theorem exists_item_behind_link {before passed behind after phrase : List Char} {route : String}
    (hends : EndsInItem before) (hphrase : '<' ∉ phrase)
    (hpassed : linkTo route phrase ++ behind = passed ++ after) (hnil : passed ≠ [])
    (hitem : EndsInItem (before ++ passed)) :
    ∃ more, passed = linkTo route phrase ++ more ∧ behind = more ++ after ∧ EndsInItem more := by
  obtain ⟨lead, last, hlast, hend, hlead⟩ := hends.exists_last_tag
  obtain ⟨tag, text, rfl, -⟩ := List.eq_append_cons_of_mem hend
  -- The item begins behind the tag that the phrase follows, and none begins in the link.
  have hnone : OpensNoItem (text ++ linkTo route phrase) := by
    rw [List.mem_append, List.mem_cons, not_or, not_or] at hlast
    exact (OpensNoItem.of_notMem hlast.2.2).append (opensNoItem_linkTo route hphrase)
  have hmem : '<' ∈ text ++ passed := by
    cases passed with
    | nil => exact absurd rfl hnil
    | cons c passed =>
      obtain rfl : '<' = c := (List.cons.inj hpassed).1
      simp
  have hcut : before ++ passed = lead ++ '<' :: tag ++ '>' :: (text ++ passed) := by
    rw [hlead]
    simp only [List.append_assoc, List.cons_append]
  have hbehind : EndsInItem (text ++ passed) := (hcut ▸ hitem).behind hmem
  rcases List.append_eq_append_iff.mp hpassed with ⟨more, rfl, hafter⟩ | ⟨more, hlink, -⟩
  · rw [← List.append_assoc] at hbehind
    exact ⟨more, rfl, hafter, hnone.leavesNoItem more hbehind⟩
  · rw [hlink, ← List.append_assoc] at hnone
    exact absurd hbehind hnone.not_endsInItem

/-- **One link** around a mention outside of links leaves all items outside of them. -/
theorem ItemsOutsideLinks.linked {i : Insertion} (h : ItemsOutsideLinks i.page)
    (hends : EndsInItem i.before) (hphrase : '<' ∉ i.phrase) : ItemsOutsideLinks i.linked := by
  have hmention : leavesLinkOpen i.before = false := h _ _ (List.append_assoc ..) hends
  intro before after hlinked hbefore
  rw [Insertion.linked, List.append_assoc] at hlinked
  -- The item ends behind the beginning of the link, or before it.
  rcases List.append_eq_append_iff.mp hlinked with ⟨passed, rfl, hpassed⟩ | ⟨more, hmore, -⟩
  · by_cases hnil : passed = []
    · rwa [hnil, List.append_nil]
    obtain ⟨more, rfl, hafter, hitem⟩ := exists_item_behind_link hends hphrase hpassed hnil hbefore
    have hopen := leavesLinkOpen_linked (i := ⟨i.before, i.route, i.phrase, more⟩) hends hphrase
      hmention
    rw [Insertion.linked, List.append_assoc] at hopen
    rw [hopen]
    refine h _ after ?_ (hitem.append_left (i.before ++ i.phrase))
    simp only [Insertion.page, hafter, List.append_assoc]
  · refine h before (more ++ (i.phrase ++ i.after)) ?_ hbefore
    rw [Insertion.page, hmore]
    simp only [List.append_assoc]

/-! ### The whole pass -/

section

variable {is : List Insertion} {page linked : List Char} (h : Inserts is page linked)
  (his : ∀ i ∈ is, EndsInItem i.before ∧ '<' ∉ i.phrase)
include h his

/-- **A run of links** nests none exactly if none is put where one is open. -/
theorem nestsNoLink_of_inserts : nestsNoLink linked = true ↔
    nestsNoLink page = true ∧ ∀ i ∈ is, leavesLinkOpen i.before = false := by
  induction h with
  | none page => simp
  | next i h ih =>
    rw [List.forall_mem_cons] at his
    rw [ih his.2, nestsNoLink_linked his.1.1 his.1.2, Bool.and_eq_true, Bool.not_eq_true',
      List.forall_mem_cons, and_assoc]

/-- On a page with all items outside of links, none is put where one is open. -/
theorem leavesLinkOpen_of_inserts (hitems : ItemsOutsideLinks page) :
    ∀ i ∈ is, leavesLinkOpen i.before = false := by
  induction h with
  | none page => exact fun i hi => absurd hi List.not_mem_nil
  | next i h ih =>
    rw [List.forall_mem_cons] at his ⊢
    exact ⟨hitems _ _ (List.append_assoc ..) his.1.1, ih his.2 (hitems.linked his.1.1 his.1.2)⟩

end

/-- **The pass nests links exactly where it links a mention inside a link**, if no keyword has a
`<`: no link of the linked page stands inside another if and only if none does on the page and each
link is put where none is open. So none does if the items of the page stand outside of its links. -/
theorem nestsNoLink_injectLinks_iff (page current : String) {targets : List PageKeywords}
    (hkeywords : ∀ target ∈ targets, ∀ keyword ∈ target.keywords, '<' ∉ keyword.toList) :
    (∃ is, Inserts is page.toList (injectLinks page current targets).toList ∧
      (∀ i ∈ is, i.IsMentionOf targets) ∧
      (nestsNoLink (injectLinks page current targets).toList = true ↔
        nestsNoLink page.toList = true ∧ ∀ i ∈ is, leavesLinkOpen i.before = false)) ∧
    (ItemsOutsideLinks page.toList → nestsNoLink page.toList = true →
      nestsNoLink (injectLinks page current targets).toList = true) := by
  obtain ⟨is, hinserts, hmentions, his⟩ := exists_inserts_text page current hkeywords
  have hiff := nestsNoLink_of_inserts hinserts his
  exact ⟨⟨is, hinserts, hmentions, hiff⟩, fun hitems hpage =>
    hiff.mpr ⟨hpage, leavesLinkOpen_of_inserts hinserts his hitems⟩⟩

/-! ### Cards -/

/-- A card of an article on roofs, which mentions the page for their repair. -/
def roofCards : Block where
  id := "cards"
  type := "LatestArticles"
  variant := none
  content :=
    [("articles", .arr [.obj [("title", .str "Roofs"), ("href", .str "/roofs"),
      ("excerpt", .str "All about roof repair.")]])]
  config := []

/-- The page for the repair of roofs. -/
def roofRepair : PageKeywords := ⟨"/roof-repair", ["roof repair"]⟩

/-- The card is a link, and the linking pass puts another into its excerpt. -/
theorem nestsNoLink_roofCards :
    nestsNoLink (Block.latestArticles roofCards).text.toList = true ∧
      nestsNoLink
        (injectLinks (Block.latestArticles roofCards).text "/" [roofRepair]).toList = false := by
  have htext : (Block.latestArticles roofCards).text =
      "<section class=\"latest-articles-section\">\n  <div class=\"site-container\">\n" ++
        "    <div class=\"latest-articles-banner\">\n      <h2>Latest Articles</h2>\n" ++
        "    </div>\n    <div class=\"latest-articles-grid\">" ++
        "<a href=\"/roofs\" class=\"article-card\">\n" ++
        "  <div class=\"article-card-img article-card-img--placeholder\"></div>\n" ++
        "  <div class=\"article-card-body\">\n" ++
        "    <h3 class=\"article-card-title\">Roofs</h3>\n" ++
        "    <p class=\"article-card-excerpt\">All about roof repair.</p>\n" ++
        "  </div>\n</a></div>\n  </div>\n</section>" := by decide +kernel
  unfold injectLinks
  rw [htext]
  simp only [String.toList_append, String.toList_ofList]
  decide +kernel

/-- The link that the pass puts into the card stands where the one of the card is open. -/
theorem roofRepair_is_linked_inside_card :
    (∀ target ∈ [roofRepair], ∀ keyword ∈ target.keywords, '<' ∉ keyword.toList) ∧
      ∃ is, Inserts is (Block.latestArticles roofCards).text.toList
          (injectLinks (Block.latestArticles roofCards).text "/" [roofRepair]).toList ∧
        ∃ i ∈ is, leavesLinkOpen i.before = true := by
  have hkeywords :
      ∀ target ∈ [roofRepair], ∀ keyword ∈ target.keywords, '<' ∉ keyword.toList := by decide
  obtain ⟨⟨is, hinserts, -, hiff⟩, -⟩ :=
    nestsNoLink_injectLinks_iff (Block.latestArticles roofCards).text "/" hkeywords
  refine ⟨hkeywords, is, hinserts, ?_⟩
  obtain ⟨hcards, hlinked⟩ := nestsNoLink_roofCards
  -- If no insertion stood inside a link, none would be nested; but one is.
  by_contra hnone
  rw [hiff.mpr ⟨hcards, fun i hi => ?_⟩] at hlinked
  · cases hlinked
  · cases hopen : leavesLinkOpen i.before with
    | false => rfl
    | true => exact absurd ⟨i, hi, hopen⟩ hnone

/-- **The pass nests links**: a mention in a card that is a link becomes a link inside of it, and a
keyword that has a link becomes a link around that. -/
theorem injectLinks_nests_links :
    (nestsNoLink (Block.latestArticles roofCards).text.toList = true ∧
      nestsNoLink
        (injectLinks (Block.latestArticles roofCards).text "/" [roofRepair]).toList = false) ∧
    nestsNoLink "<p>Read our <a href=\"/roofs\">guide</a> to roofs</p>".toList = true ∧
      nestsNoLink (injectLinks "<p>Read our <a href=\"/roofs\">guide</a> to roofs</p>" "/"
        [⟨"/guide", ["our <a href=\"/roofs\">guide</a> to roofs"]⟩]).toList = false :=
  ⟨nestsNoLink_roofCards, by decide +kernel, by decide +kernel⟩

end Link

end StaticSite
