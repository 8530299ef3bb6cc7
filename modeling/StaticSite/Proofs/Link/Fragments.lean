import Mathlib.Data.List.Infix
import StaticSite.Proofs.Link.Insertion

/-!
# Fragments that linking leaves alone

The linking pass does not know where the parts of a page come from. It searches the text of a page
for mentions, and finds one in a fragment that was put into the page as it finds one anywhere else.

A fragment *stands apart* in a page (`StandsApart`) if no item is open where it begins
(`LeavesNoItem`), and no item is closed by what comes behind it (`ClosesNoItem`). So a mention that
begins in the fragment has its opening tag there, and one that ends there has its closing tag there.
If the fragment has no such tags, or no mention of the keyword, then a link is put before the
fragment or behind it, or around all of it, and it stands apart in the linked page as before
(`StandsApart.linkKeyword?`). A whole pass thus keeps every fragment that is spared by the keywords
of all targets (`StandsApart.injectFrom`).
-/

namespace StaticSite.Link

/-! ### Text before a fragment -/

/-- **A text leaves no item open**: what stands behind it ends in an item only if it does so
alone. -/
def LeavesNoItem (cs : List Char) : Prop :=
  ∀ more, EndsInItem (cs ++ more) → EndsInItem more

theorem LeavesNoItem.not_endsInItem {cs : List Char} (h : LeavesNoItem cs) : ¬ EndsInItem cs := by
  intro hends
  rw [← List.append_nil cs] at hends
  exact (h [] hends).ne_nil rfl

/-- An opening tag ends with its only `>`. -/
theorem IsOpeningTag.eq_nil {before after : List Char}
    (h : IsOpeningTag (before ++ '>' :: after)) : after = [] := by
  generalize htag : before ++ '>' :: after = tag at h
  cases h with
  | @mk name attributes last hname hbound hattrs =>
    rcases List.eq_nil_or_concat after with rfl | ⟨more, c, rfl⟩
    · rfl
    · have hinit : before ++ '>' :: more = '<' :: (name ++ attributes) := by
        rw [List.concat_eq_append, ← List.cons_append, ← List.append_assoc] at htag
        exact (List.append_inj' htag rfl).1
      have hmem : '>' ∈ '<' :: (name ++ attributes) := hinit ▸ by simp
      have hname' : '>' ∉ name := hname.notMem (by decide)
      simp [hname', hattrs] at hmem

/-- An opening tag does not reach beyond a `>`, nor does its text beyond a `<`. -/
theorem EndsInItem.behind {before after : List Char} (h : EndsInItem (before ++ '>' :: after))
    (hmem : '<' ∈ after) : EndsInItem after := by
  obtain ⟨lead, tag, text, htag, htext, heq⟩ := h
  rw [List.append_cons, ← List.append_assoc] at heq
  rcases List.append_eq_append_iff.mp heq with ⟨middle, hlead, rfl⟩ | ⟨middle, -, rfl⟩
  · rcases List.append_eq_append_iff.mp hlead with ⟨start, hstart, rfl⟩ | ⟨passed, -, rfl⟩
    -- If the opening tag begins before the `>`, then it ends there, and its text holds the `<`.
    · rcases List.eq_nil_or_concat start with rfl | ⟨start, c, rfl⟩
      · exact ⟨[], middle, text, htag, htext, rfl⟩
      · rw [List.concat_eq_append, ← List.append_assoc] at hstart
        obtain rfl : '>' = c := List.singleton_inj.mp (List.append_inj' hstart rfl).2
        rw [List.concat_eq_append, ← List.append_cons] at htag
        rw [htag.eq_nil] at hmem
        exact absurd hmem htext
    · exact ⟨passed, tag, text, htag, htext, List.append_assoc ..⟩
  · exact absurd (List.mem_append_right _ hmem) htext

/-- **A tag that is no opening tag of an item leaves none open**, whatever stands before the end of
the tag before it. -/
theorem LeavesNoItem.behind {before after : List Char} (h : LeavesNoItem after)
    (hmem : '<' ∈ after) : LeavesNoItem (before ++ '>' :: after) := by
  intro more hends
  rw [List.append_assoc, List.cons_append] at hends
  exact h more (hends.behind (List.mem_append_left _ hmem))

/-- A tag that is put into such a text, before a tag of it, changes nothing. -/
theorem LeavesNoItem.insert {before tag after : List Char} (h : LeavesNoItem (before ++ after))
    (hmem : '<' ∈ after) (htag : tag.getLast? = some '>') :
    LeavesNoItem (before ++ (tag ++ after)) := by
  obtain ⟨body, rfl⟩ := List.getLast?_eq_some_iff.mp htag
  intro more hends
  have htext : before ++ (body ++ ['>'] ++ after) ++ more =
      before ++ body ++ '>' :: (after ++ more) := by
    simp only [List.append_assoc, List.cons_append, List.nil_append]
  rw [htext] at hends
  have hafter : EndsInItem (after ++ more) := hends.behind (List.mem_append_left _ hmem)
  refine h more ?_
  rw [List.append_assoc]
  exact hafter.append_left before

/-! ### Text behind a fragment -/

/-- **A text closes no item**: an item is closed before it only if it is closed without it. -/
def ClosesNoItem (cs : List Char) : Prop :=
  ∀ before, isClosedNext (before ++ cs) = true → isClosedNext before = true

theorem isClosedNext_append {cs : List Char} (h : isClosedNext cs = true) (more : List Char) :
    isClosedNext (cs ++ more) = true := by
  obtain ⟨text, name, last, behind, htext, hname, rfl⟩ := isClosedNext_iff.mp h
  refine isClosedNext_iff.mpr ⟨text, name, last, behind ++ more, htext, hname, ?_⟩
  simp only [List.append_assoc, List.cons_append]

theorem isClosedNext_text_append {text : List Char} (h : '<' ∉ text) (cs : List Char) :
    isClosedNext (text ++ cs) = isClosedNext cs := by
  unfold isClosedNext
  rw [dropWhile_bne_append h]

/-- Whether a character stands in no closing tag of an item, unless it begins one. -/
def isForeign (c : Char) : Bool :=
  c != '/' && c != '>' && !isItemLetter c

theorem notMem_of_isForeign {c : Char} (h : isForeign c = true) {name : List Char} {last : Char}
    (hname : IsItemName name last) : c ∉ '/' :: (name ++ ['>']) := by
  simp only [isForeign, Bool.and_eq_true, bne_iff_ne, Bool.not_eq_true'] at h
  obtain ⟨⟨hslash, hend⟩, hletters⟩ := h
  simp [hslash, hend, hname.notMem hletters]

/-- A closing tag is not finished by a text that begins with a foreign character. -/
theorem isClosedNext_of_append {cs more : List Char} {c : Char} (hc : isForeign c = true)
    (hmore : isClosedNext (c :: more) = false) (h : isClosedNext (cs ++ c :: more) = true) :
    isClosedNext cs = true := by
  have hnot {text name behind : List Char} {last : Char} (htext : '<' ∉ text)
      (hname : IsItemName name last) : c :: more ≠ text ++ '<' :: '/' :: (name ++ '>' :: behind) :=
    fun heq => by
      rw [isClosedNext_iff.mpr ⟨text, name, last, behind, htext, hname, heq⟩] at hmore
      cases hmore
  obtain ⟨text, name, last, behind, htext, hname, heq⟩ := isClosedNext_iff.mp h
  rcases List.append_eq_append_iff.mp heq with ⟨passed, rfl, hmore'⟩ | ⟨start, rfl, hstart⟩
  · rw [List.mem_append, not_or] at htext
    exact absurd hmore' (hnot htext.2 hname)
  · cases start with
    | nil => exact absurd hstart.symm (hnot List.not_mem_nil hname)
    | cons d start =>
      rw [List.cons_append] at hstart
      obtain ⟨rfl, hrest⟩ := List.cons.inj hstart
      have htag : '/' :: (name ++ ['>']) ++ behind = start ++ c :: more := by
        rw [← hrest]
        simp only [List.append_assoc, List.cons_append, List.nil_append]
      -- The closing tag ends before `c`, which is none of its signs.
      obtain ⟨after, rfl⟩ : ∃ after, start = '/' :: (name ++ ['>']) ++ after := by
        rcases List.append_eq_append_iff.mp htag with ⟨after, hafter, -⟩ | ⟨signs, hsigns, hrest⟩
        · exact ⟨after, hafter⟩
        · cases signs with
          | nil => exact ⟨[], by rw [hsigns, List.append_nil, List.append_nil]⟩
          | cons e signs =>
            obtain rfl : c = e := (List.cons.inj hrest).1
            exact absurd (hsigns ▸ by simp) (notMem_of_isForeign hc hname)
      refine isClosedNext_iff.mpr ⟨text, name, last, after, htext, hname, ?_⟩
      simp only [List.append_assoc, List.cons_append, List.nil_append]

/-- **A text closes no item** if it begins with a foreign character, and its first tag closes
none. -/
theorem closesNoItem_of_isForeign {c : Char} {cs : List Char} (hc : isForeign c = true)
    (h : isClosedNext (c :: cs) = false) : ClosesNoItem (c :: cs) :=
  fun _ => isClosedNext_of_append hc h

/-- A tag that is put into such a text changes nothing, if it closes no item. -/
theorem ClosesNoItem.insert {before tag after : List Char} (h : ClosesNoItem (before ++ after))
    (hhead : tag.head? = some '<') (htag : isClosedNext (tag ++ after) = false) :
    ClosesNoItem (before ++ (tag ++ after)) := by
  obtain ⟨body, rfl⟩ := List.head?_eq_some_iff.mp hhead
  intro cs hclosed
  rw [← List.append_assoc] at hclosed
  have hbefore : isClosedNext (cs ++ before) = true :=
    isClosedNext_of_append (by decide) htag hclosed
  refine h cs ?_
  rw [← List.append_assoc]
  exact isClosedNext_append hbefore after

/-! ### Fragments -/

/-- **A fragment stands apart in a page**: no item is open where it begins, and what comes behind it
closes none. -/
def StandsApart (fragment page : List Char) : Prop :=
  ∃ before after, LeavesNoItem before ∧ ClosesNoItem after ∧ page = before ++ (fragment ++ after)

theorem StandsApart.isInfix {fragment page : List Char} (h : StandsApart fragment page) :
    fragment <:+: page := by
  obtain ⟨before, after, -, -, rfl⟩ := h
  exact ⟨before, after, List.append_assoc ..⟩

/-- A fragment holds no item: no tag in it opens or closes one. -/
def HoldsNoItem (fragment : List Char) : Prop :=
  ∀ cs ∈ fragment.tails, openingTag? cs = none ∧ isClosedNext cs = false

instance (fragment : List Char) : Decidable (HoldsNoItem fragment) :=
  inferInstanceAs (Decidable (∀ cs ∈ fragment.tails, _))

/-- **A keyword spares a fragment** if the fragment does not mention it. A keyword with a `<` in it
may begin or end in the fragment and not lie in it; it spares a fragment that holds no item. -/
def Spares (keyword fragment : List Char) : Prop :=
  ('<' ∉ keyword ∧ findMention keyword fragment = none) ∨ HoldsNoItem fragment

instance (keyword fragment : List Char) : Decidable (Spares keyword fragment) :=
  inferInstanceAs (Decidable (_ ∨ _))

/-- **A page spares a fragment** if all keywords that may lead to the page do. -/
def PageKeywords.Spares (target : PageKeywords) (fragment : List Char) : Prop :=
  ∀ keyword ∈ target.keywords, minKeywordLength ≤ keyword.length →
    Link.Spares keyword.toList fragment

instance (target : PageKeywords) (fragment : List Char) : Decidable (target.Spares fragment) :=
  inferInstanceAs (Decidable (∀ keyword ∈ target.keywords, _ → _))

namespace HoldsNoItem

variable {before after : List Char}

theorem not_endsInItem (h : HoldsNoItem (before ++ after)) : ¬ EndsInItem before := by
  rintro ⟨lead, tag, text, htag, -, rfl⟩
  have htails : tag ++ text ++ after ∈ (lead ++ (tag ++ text) ++ after).tails := by
    rw [List.mem_tails]
    exact ⟨lead, (List.append_assoc ..).symm⟩
  have hopen : openingTag? (tag ++ text ++ after) = some (tag, text ++ after) :=
    openingTag?_eq_some_iff.mpr ⟨htag, List.append_assoc ..⟩
  rw [(h _ htails).1] at hopen
  cases hopen

theorem isClosedNext_eq_false (h : HoldsNoItem (before ++ after)) : isClosedNext after = false :=
  (h after ((List.mem_tails _ _).mpr (List.suffix_append _ _))).2

end HoldsNoItem

/-! ### One link -/

/-- The tag that begins a link. -/
def linkStart (route : String) : List Char :=
  '<' :: ("a href=\"".toList ++ (esc route).text.toList ++ "\">".toList)

/-- The tag that ends a link. -/
def linkEnd : List Char := "</a>".toList

theorem linkTo_eq (route : String) (phrase : List Char) :
    linkTo route phrase = linkStart route ++ (phrase ++ linkEnd) := by
  unfold linkTo linkStart linkEnd
  simp only [List.append_assoc, List.cons_append]
  rfl

theorem getLast?_linkStart (route : String) : (linkStart route).getLast? = some '>' := by
  unfold linkStart
  rw [← List.cons_append, List.getLast?_append]
  rfl

theorem isClosedNext_linkStart (route : String) (more : List Char) :
    isClosedNext (linkStart route ++ more) = false := rfl

theorem isClosedNext_linkEnd (more : List Char) : isClosedNext (linkEnd ++ more) = false := by
  have hname : paragraphName? ('a' :: '>' :: more) = none := by
    unfold paragraphName?
    dsimp only
    rw [if_neg (by decide), if_neg (by decide)]
  have hdrop : (linkEnd ++ more).dropWhile (· != '<') = '<' :: '/' :: 'a' :: '>' :: more := rfl
  unfold isClosedNext
  rw [hdrop]
  split
  · next heq =>
    cases heq
    rw [hname]
  · rfl

section

variable {before phrase after : List Char} (route : String)

/-- A link before a tag of a text that leaves no item open. -/
theorem LeavesNoItem.link (h : LeavesNoItem (before ++ (phrase ++ after))) (hmem : '<' ∈ after) :
    LeavesNoItem (before ++ (linkTo route phrase ++ after)) := by
  rw [← List.append_assoc] at h
  have hend : LeavesNoItem (before ++ phrase ++ (linkEnd ++ after)) := h.insert hmem rfl
  rw [List.append_assoc] at hend
  have hmore : '<' ∈ phrase ++ (linkEnd ++ after) := by simp [hmem]
  rw [linkTo_eq]
  simpa only [List.append_assoc] using hend.insert hmore (getLast?_linkStart route)

/-- A link in a text that closes no item. -/
theorem ClosesNoItem.link (h : ClosesNoItem (before ++ (phrase ++ after))) :
    ClosesNoItem (before ++ (linkTo route phrase ++ after)) := by
  rw [← List.append_assoc] at h
  have hend : ClosesNoItem (before ++ phrase ++ (linkEnd ++ after)) :=
    h.insert rfl (isClosedNext_linkEnd after)
  rw [List.append_assoc] at hend
  rw [linkTo_eq]
  simpa only [List.append_assoc] using hend.insert rfl (isClosedNext_linkStart route _)

end

/-- A keyword without `<` has no mention with one. -/
theorem IsPhrase.notMem {keyword before phrase rest : List Char}
    (h : IsPhrase keyword before phrase rest) (hk : '<' ∉ keyword) : '<' ∉ phrase := by
  have hsame := h.sameLetters
  clear h
  induction hsame with
  | nil => exact List.not_mem_nil
  | cons hletter _ ih =>
    rw [List.mem_cons, not_or] at hk ⊢
    exact ⟨fun heq => hk.1 (Text.eq_of_sameLetter_lt (heq ▸ hletter)).symm, ih hk.2⟩

/-- A phrase stays one if what follows it is cut behind the closing tag. -/
theorem IsPhrase.of_append {keyword before phrase rest more : List Char}
    (h : IsPhrase keyword before phrase (rest ++ more)) (hclosed : isClosedNext rest = true) :
    IsPhrase keyword before phrase rest := by
  have hrest : rest ≠ [] := by
    rintro rfl
    exact absurd hclosed (by decide)
  have hall : phrase ++ rest ≠ [] := fun hnil => hrest (List.append_eq_nil_iff.mp hnil).2
  refine ⟨fun c hc => ?_, h.sameLetters, fun c hc => ?_, hclosed⟩
  · have hstarts := h.startsWord c hc
    rwa [← List.append_assoc, atBoundary_append hall] at hstarts
  · have hends := h.endsWord c hc
    rwa [atBoundary_append hrest] at hends

/-- Behind the text of an item, a text that leaves no item open has another tag. -/
theorem LeavesNoItem.mem_of_endsInItem {before after : List Char}
    (h : LeavesNoItem (before ++ after)) (hends : EndsInItem before) : '<' ∈ after := by
  by_contra hnot
  exact h.not_endsInItem (hends.append_text hnot)

namespace StandsApart

variable {keyword fragment before phrase rest : List Char}

/-- **A link around a mention of a keyword that the fragment does not mention.** No tag begins in
the phrase, so that it lies before the fragment, in it or behind it. -/
theorem link_of_findMention_eq_none (hm : IsMention keyword before phrase rest)
    (hk : '<' ∉ keyword) (hnone : findMention keyword fragment = none) (route : String)
    (h : StandsApart fragment (before ++ (phrase ++ rest))) :
    StandsApart fragment (before ++ (linkTo route phrase ++ rest)) := by
  have hphrase : '<' ∉ phrase := hm.notMem hk
  obtain ⟨left, right, hleft, hright, hpage⟩ := h
  rcases List.append_eq_append_iff.mp hpage with ⟨inner, rfl, hrest⟩ | ⟨inner, rfl, hrest⟩
  -- The phrase begins before the fragment, and ends before the next tag.
  · have hmem := hleft.mem_of_endsInItem hm.endsInItem
    rcases List.append_eq_append_iff.mp hrest with ⟨behind, rfl, rfl⟩ | ⟨_, rfl, -⟩
    · have hbehind : '<' ∈ behind := (List.mem_append.mp hmem).resolve_left hphrase
      exact ⟨_, right, hleft.link route hbehind, hright, by simp only [List.append_assoc]⟩
    · exact absurd (List.mem_append_left _ hmem) hphrase
  · rcases List.append_eq_append_iff.mp hrest with ⟨behind, rfl, rfl⟩ | ⟨start, rfl, hstart⟩
    -- The phrase begins behind the fragment.
    · exact ⟨left, _, hleft, hright.link route, by simp only [List.append_assoc]⟩
    -- It begins in the fragment, and so does its item, which must end there.
    · have hinner : EndsInItem inner := hleft inner hm.endsInItem
      rcases List.append_eq_append_iff.mp hstart with ⟨behind, rfl, rfl⟩ | ⟨more, rfl, rfl⟩
      · have hclosed : isClosedNext behind = true := hright behind hm.closesItem
        have hin : IsMention keyword inner phrase behind :=
          ⟨((isPhrase_append_left hinner.ne_nil left).mp hm.toIsPhrase).of_append hclosed, hinner⟩
        exact absurd hin (findMention_eq_none_iff.mp hnone inner phrase behind rfl)
      · have hclosed := hm.closesItem
        rw [List.mem_append, not_or] at hphrase
        rw [← isClosedNext_text_append hphrase.2] at hclosed
        exact absurd (hright [] hclosed) (by decide)

/-- **A link around a phrase on a page with a fragment that holds no item.** The phrase does not
begin or end in the fragment, but may have all of it in it. -/
theorem link_of_holdsNoItem (hm : IsMention keyword before phrase rest)
    (hnone : HoldsNoItem fragment) (route : String)
    (h : StandsApart fragment (before ++ (phrase ++ rest))) :
    StandsApart fragment (before ++ (linkTo route phrase ++ rest)) := by
  obtain ⟨left, right, hleft, hright, hpage⟩ := h
  -- The closing tag of the item does not stand in the fragment.
  have hclosing {inner behind : List Char} (heq : fragment = inner ++ behind) :
      isClosedNext (behind ++ right) ≠ true := fun hclosed => by
    subst heq
    have hbehind := hright behind hclosed
    rw [hnone.isClosedNext_eq_false] at hbehind
    cases hbehind
  rcases List.append_eq_append_iff.mp hpage with ⟨inner, rfl, hrest⟩ | ⟨inner, rfl, hrest⟩
  · have hmem := hleft.mem_of_endsInItem hm.endsInItem
    rcases List.append_eq_append_iff.mp hrest with ⟨behind, rfl, rfl⟩ | ⟨more, rfl, hmore⟩
    · have hbehind : '<' ∈ behind := by
        by_contra hnot
        have hclosed := hm.closesItem
        rw [isClosedNext_text_append hnot] at hclosed
        exact hclosing (List.nil_append fragment).symm hclosed
      exact ⟨_, right, hleft.link route hbehind, hright, by simp only [List.append_assoc]⟩
    · rcases List.append_eq_append_iff.mp hmore with ⟨behind, rfl, rfl⟩ | ⟨end_, hfragment, rfl⟩
      · refine ⟨before ++ (linkStart route ++ inner), behind ++ (linkEnd ++ rest),
          hleft.insert hmem (getLast?_linkStart route),
          hright.insert rfl (isClosedNext_linkEnd rest), ?_⟩
        rw [linkTo_eq]
        simp only [List.append_assoc]
      · exact absurd hm.closesItem (hclosing hfragment)
  · rcases List.append_eq_append_iff.mp hrest with ⟨behind, rfl, rfl⟩ | ⟨start, rfl, -⟩
    · exact ⟨left, _, hleft, hright.link route, by simp only [List.append_assoc]⟩
    · exact absurd (hleft inner hm.endsInItem) hnone.not_endsInItem

/-- **A keyword that spares a fragment leaves it apart.** -/
theorem linkKeyword? {route keyword : String} {fragment page linked : List Char}
    (hspares : Spares keyword.toList fragment) (h : StandsApart fragment page)
    (hlinked : Link.linkKeyword? route page keyword = some linked) :
    StandsApart fragment linked := by
  unfold Link.linkKeyword? at hlinked
  split at hlinked
  · cases hlinked
  · split at hlinked
    · next lead m hfind =>
      split at hlinked
      · cases hlinked
      · cases hlinked
        obtain ⟨rfl, hm⟩ := isMention_of_findMention hfind
        rw [List.append_assoc (lead ++ m.opening)]
        -- A fragment is spared because it has no mention of the keyword, or because it has no item
        -- at all.
        rcases hspares with ⟨hk, hnone⟩ | hnone
        · exact h.link_of_findMention_eq_none hm hk hnone route
        · exact h.link_of_holdsNoItem hm hnone route
    · cases hlinked

/-- **A pass over a page leaves a fragment apart** that is spared by the keywords of all other
pages. -/
theorem injectFrom {current : String} {targets : List PageKeywords} {fragment : List Char}
    (hspares : ∀ target ∈ targets, target.route ≠ current → target.Spares fragment)
    {page : List Char} (h : StandsApart fragment page) (linked : List String) :
    StandsApart fragment (Link.injectFrom current targets linked page) := by
  -- On the pages to link to; what is linked in the meantime still leaves the fragment apart.
  induction targets generalizing linked page with
  | nil => exact h
  | cons target targets ih =>
    rw [List.forall_mem_cons] at hspares
    rw [Link.injectFrom]
    split
    · exact h
    · split
      · exact ih hspares.2 h linked
      · next hother =>
        rw [Bool.or_eq_true, decide_eq_true_eq, not_or] at hother
        split
        · next page' hpage' =>
          obtain ⟨keyword, hkeyword, hlink⟩ := List.exists_of_findSome?_eq_some hpage'
          -- A keyword that is too short has linked nothing, so this one is long enough to be
          -- spared.
          have hlength : minKeywordLength ≤ keyword.length := by
            by_contra hshort
            rw [Link.linkKeyword?, if_pos (Nat.not_le.mp hshort)] at hlink
            cases hlink
          exact ih hspares.2 (h.linkKeyword? (hspares.1 hother.1 keyword hkeyword hlength) hlink) _
        · exact ih hspares.2 h linked

/-- **The linking pass leaves a fragment of a file apart** that is spared by all pages other than
the one in the file. -/
theorem linkFile {targets : List Target} {f : SiteFile} {fragment : List Char}
    (hspares : ∀ current, routeOf? targets f.path = some current →
      ∀ t ∈ targets, t.route ≠ current → t.keywords.Spares fragment)
    (h : StandsApart fragment f.content.toList) :
    StandsApart fragment (Link.linkFile targets f).content.toList := by
  unfold Link.linkFile
  split
  · exact h
  · split
    · exact h
    · next current hcurrent =>
      show StandsApart fragment
        (injectLinks f.content current (targets.map Target.keywords)).toList
      unfold injectLinks
      rw [String.toList_ofList]
      exact h.injectFrom (List.forall_mem_map.mpr (hspares current hcurrent)) []

end StandsApart

end StaticSite.Link
