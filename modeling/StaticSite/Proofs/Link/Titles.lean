import StaticSite.Proofs.Html.Brackets
import StaticSite.Proofs.Link.Fragments
import StaticSite.Proofs.Link.Insertion
import StaticSite.Proofs.Site.Route
import StaticSite.Proofs.Text.Case
import StaticSite.Proofs.Text.Find

/-!
# Links to pages that are named by their titles

A page that names another by its title has the title escaped, and the keywords for it are made from
the title itself: in small letters, without punctuation and years, and from the route. The search
finds a keyword where it is made of whole words.

* `IsWords` says that a phrase of a text is a keyword but for case, and made of whole words.
* `linksTitle_iff` says when a paragraph with the title of a page is linked to it: exactly if the
  text in it has a keyword as such a phrase, and no `href=` before.
* `ReadsAsKeyword` and `HasCore` are titles of which this is so.
-/

namespace StaticSite.Link

open Text (sameLetter isWordChar)

/-! ### Whole words -/

/-- Whether a text ends in a word. -/
def endsInWord (cs : List Char) : Bool := cs.getLast?.any isWordChar

/-- Whether a text begins with a word. -/
def beginsWithWord (cs : List Char) : Bool := cs.head?.any isWordChar

/-- **A phrase of a text is made of whole words**, and is a keyword but for case. -/
structure IsWords (keyword before phrase after : List Char) : Prop where
  sameLetters : List.Forall₂ (fun k c => sameLetter k c = true) keyword phrase
  startsWord : endsInWord before ≠ beginsWithWord (phrase ++ after)
  endsWord : endsInWord (before ++ phrase) ≠ beginsWithWord after

/-! ### Paragraphs -/

/-- A text between the tags of a paragraph. -/
def inParagraph (text : List Char) : List Char := "<p>".toList ++ (text ++ "</p>".toList)

theorem isOpeningTag_paragraph : IsOpeningTag "<p>".toList :=
  @IsOpeningTag.mk ['p'] [] 'p' (.paragraph (by decide)) (by decide) List.not_mem_nil

/-- The ends of a paragraph are ends of words. -/
theorem atBoundary_inParagraph {xs ys : List Char} :
    (∀ c ∈ ("<p>".toList ++ xs).getLast?, atBoundary c (ys ++ "</p>".toList) = true) ↔
      endsInWord xs ≠ beginsWithWord ys := by
  -- The tags of the paragraph begin and end with characters of no word.
  have hlast : ("<p>".toList ++ xs).getLast? = some (xs.getLastD '>') :=
    getLast?_append_getLastD isOpeningTag_paragraph.getLast? xs
  have hword : isWordChar (xs.getLastD '>') = endsInWord xs := by
    unfold endsInWord
    rw [List.getLastD_eq_getLast?]
    cases xs.getLast? with
    | none => decide
    | some c => rfl
  have hnext (c : Char) :
      atBoundary c (ys ++ "</p>".toList) = (isWordChar c != beginsWithWord ys) := by
    cases ys with
    | nil =>
      have hsign : isWordChar '<' = false := by decide
      show (isWordChar c != isWordChar '<') = _
      rw [hsign]
      rfl
    | cons d ys => rfl
  rw [hlast]
  simp only [Option.mem_def, Option.some.injEq, forall_eq', hnext, hword, bne_iff_ne]

section

variable {keyword before phrase after text : List Char}

theorem isPhrase_inParagraph_iff (hafter : '<' ∉ after) :
    IsPhrase keyword ("<p>".toList ++ before) phrase (after ++ "</p>".toList) ↔
      IsWords keyword before phrase after := by
  have hclosed : isClosedNext (after ++ "</p>".toList) = true := by
    rw [isClosedNext_text_append hafter]
    decide
  constructor
  · intro h
    refine ⟨h.sameLetters, atBoundary_inParagraph.mp ?_, atBoundary_inParagraph.mp ?_⟩
    · rw [List.append_assoc]
      exact h.startsWord
    · rw [← List.append_assoc]
      exact h.endsWord
  · intro h
    refine ⟨?_, h.sameLetters, ?_, hclosed⟩
    · rw [← List.append_assoc]
      exact atBoundary_inParagraph.mpr h.startsWord
    · rw [List.append_assoc]
      exact atBoundary_inParagraph.mpr h.endsWord

/-- A part of a paragraph that ends in an item has the opening tag. -/
theorem exists_of_endsInItem {rest : List Char} (hpage : inParagraph text = before ++ rest)
    (h : EndsInItem before) :
    ∃ passed, before = "<p>".toList ++ passed ∧ text ++ "</p>".toList = passed ++ rest := by
  obtain ⟨lead, last, -, hend, hlead⟩ := h.exists_last_tag
  have hstart : '>' ∈ before := by
    rw [hlead]
    simp [hend]
  rcases List.append_eq_append_iff.mp hpage with ⟨passed, hbefore, hrest⟩ | ⟨more, htag, hrest⟩
  · exact ⟨passed, hbefore, hrest⟩
  -- The opening tag ends with its only `>`.
  · have hmore : more = [] := by
      obtain ⟨xs, ys, hbefore, -⟩ := List.eq_append_cons_of_mem hstart
      have hopening := isOpeningTag_paragraph
      rw [htag, hbefore, List.append_assoc, List.cons_append] at hopening
      exact (List.append_eq_nil_iff.mp hopening.eq_nil).2
    rw [hmore, List.append_nil] at htag
    rw [hmore, List.nil_append] at hrest
    exact ⟨[], by rw [htag, List.append_nil], hrest.symm⟩

/-- A part of a paragraph that closes an item has the closing tag. -/
theorem exists_of_isClosedNext {passed rest : List Char}
    (htext : text ++ "</p>".toList = passed ++ rest) (h : isClosedNext rest = true) :
    ∃ after, rest = after ++ "</p>".toList ∧ text = passed ++ after := by
  have hrest : '<' ∈ rest := by
    obtain ⟨_, _, _, _, _, _, rfl⟩ := isClosedNext_iff.mp h
    simp
  rcases List.append_eq_append_iff.mp htext with ⟨more, rfl, hclosing⟩ | ⟨after, htext, hrest⟩
  · cases more with
    | nil => exact ⟨[], hclosing.symm, by rw [List.append_nil, List.append_nil]⟩
    -- Behind its `<` the closing tag has no other.
    | cons c more =>
      have htail : "/p>".toList = more ++ rest := (List.cons.inj hclosing).2
      have hmem : '<' ∈ "/p>".toList := htail ▸ List.mem_append_right more hrest
      exact absurd hmem (by decide)
  · exact ⟨after, hrest, htext⟩

/-- A mention in a paragraph stands between its tags. -/
theorem exists_of_isMention {rest : List Char}
    (hpage : inParagraph text = before ++ (phrase ++ rest))
    (h : IsMention keyword before phrase rest) :
    ∃ passed after, before = "<p>".toList ++ passed ∧ rest = after ++ "</p>".toList ∧
      text = passed ++ (phrase ++ after) := by
  obtain ⟨passed, hbefore, hpassed⟩ := exists_of_endsInItem hpage h.endsInItem
  rw [← List.append_assoc] at hpassed
  obtain ⟨after, hrest, htext⟩ := exists_of_isClosedNext hpassed h.closesItem
  exact ⟨passed, after, hbefore, hrest, by rw [htext, List.append_assoc]⟩

/-- What the search finds in a paragraph stands between its tags. -/
theorem exists_of_findInText {m : Mention}
    (h : findInText keyword '>' "<p>".toList.reverse (text ++ "</p>".toList) = some m) :
    ∃ passed after, m.opening = "<p>".toList ++ passed ∧ m.rest = after ++ "</p>".toList ∧
      text = passed ++ (m.phrase ++ after) ∧ IsPhrase keyword m.opening m.phrase m.rest := by
  obtain ⟨⟨skipped, hskipped, hopening, htext⟩, hphrase⟩ :=
    isIn_of_findInText isOpeningTag_paragraph.getLast? h
  have hmention : IsMention keyword m.opening m.phrase m.rest :=
    ⟨hphrase, [], "<p>".toList, skipped, isOpeningTag_paragraph, hskipped, hopening⟩
  have hpage : inParagraph text = m.opening ++ (m.phrase ++ m.rest) := by
    rw [inParagraph, htext, hopening, List.append_assoc]
  obtain ⟨passed, after, hpassed, hafter, heq⟩ := exists_of_isMention hpage hmention
  exact ⟨passed, after, hpassed, hafter, heq, hphrase⟩

/-- The search in a paragraph finds what it finds in the text of it. -/
theorem findMention_inParagraph (keyword text : List Char) (htext : '<' ∉ text) :
    findMention keyword (inParagraph text) =
      (findInText keyword '>' "<p>".toList.reverse (text ++ "</p>".toList)).map
        fun m => ([], m) := by
  have hopen : openingTag? (inParagraph text) = some ("<p>".toList, text ++ "</p>".toList) :=
    openingTag?_eq_some_iff.mpr ⟨isOpeningTag_paragraph, rfl⟩
  have hpage : inParagraph text = '<' :: ("p>".toList ++ (text ++ "</p>".toList)) := rfl
  rw [hpage, findMention, ← hpage, hopen]
  dsimp only
  cases hfind : findInText keyword '>' "<p>".toList.reverse (text ++ "</p>".toList) with
  | some m => rfl
  | none =>
    -- A mention further on would begin behind the opening tag, where the search in the text has
    -- found none.
    have hnone : findMention keyword ("p>".toList ++ (text ++ "</p>".toList)) = none := by
      refine findMention_eq_none_iff.mpr fun before phrase rest heq hmention => ?_
      have hmention' : IsMention keyword ('<' :: before) phrase rest :=
        ⟨(isPhrase_append_left hmention.endsInItem.ne_nil ['<']).mpr hmention.toIsPhrase,
          hmention.endsInItem.append_left ['<']⟩
      obtain ⟨passed, after, hpassed, rfl, rfl⟩ :=
        exists_of_isMention (hpage.trans (congrArg ('<' :: ·) heq)) hmention'
      rw [List.mem_append, not_or] at htext
      obtain ⟨m, hm, -⟩ := exists_findInText isOpeningTag_paragraph.getLast? htext.1
        (hpassed ▸ hmention'.toIsPhrase)
      simp only [List.append_assoc] at hfind
      rw [hfind] at hm
      cases hm
    rw [hnone]
    rfl

/-! ### One keyword -/

/-- Behind another character than its first, a pattern is found where it was. -/
theorem infix_cons_iff_of_ne {p c : Char} {ps cs : List Char} (h : p ≠ c) :
    p :: ps <:+: c :: cs ↔ p :: ps <:+: cs := by
  rw [List.infix_cons_iff, or_iff_right]
  rintro ⟨rest, hrest⟩
  exact h (List.cons.inj hrest).1

/-- A link that stands before a mention in a paragraph is an address. -/
theorem followsLink_iff {m : Mention} (hopening : m.opening = "<p>".toList ++ before)
    (hbefore : '<' ∉ before) : followsLink m = true ↔ "href=".toList <:+: before := by
  have hsplit : "<p>".toList ++ before = '<' :: 'p' :: '>' :: before := rfl
  have hlink : ¬ "<a ".toList <:+: m.opening := by
    rw [hopening, hsplit, List.infix_cons_iff]
    rintro (⟨rest, hrest⟩ | hinner)
    · exact absurd (List.cons.inj (List.cons.inj hrest).2).1 (by decide)
    · have hmem : '<' ∈ 'p' :: '>' :: before := hinner.subset List.mem_cons_self
      simp [hbefore] at hmem
  have haddress : "href=".toList <:+: m.opening ↔ "href=".toList <:+: before := by
    rw [hopening, hsplit]
    exact (infix_cons_iff_of_ne (by decide)).trans <|
      (infix_cons_iff_of_ne (by decide)).trans (infix_cons_iff_of_ne (by decide))
  unfold followsLink
  rw [Bool.or_eq_true, Text.containsList_iff, Text.containsList_iff, or_iff_right hlink, haddress]

/-- **The first mention in a paragraph is fit for a link** if one of them has no address before. -/
theorem exists_fit_iff (htext : '<' ∉ text) :
    (∃ m, findInText keyword '>' "<p>".toList.reverse (text ++ "</p>".toList) = some m ∧
      followsLink m = false) ↔
    ∃ before phrase after, text = before ++ (phrase ++ after) ∧
      IsWords keyword before phrase after ∧ ¬ "href=".toList <:+: before := by
  constructor
  · rintro ⟨m, hfind, hfit⟩
    obtain ⟨before, after, hopening, hrest, rfl, hphrase⟩ := exists_of_findInText hfind
    rw [List.mem_append, List.mem_append, not_or, not_or] at htext
    rw [hopening, hrest, isPhrase_inParagraph_iff htext.2.2] at hphrase
    rw [← Bool.not_eq_true, followsLink_iff hopening htext.1] at hfit
    exact ⟨before, m.phrase, after, rfl, hphrase, hfit⟩
  · rintro ⟨before, phrase, after, rfl, hwords, haddress⟩
    rw [List.mem_append, List.mem_append, not_or, not_or] at htext
    -- The search finds a mention, no further on than this one.
    obtain ⟨m, hm, hbegins⟩ := exists_findInText isOpeningTag_paragraph.getLast? htext.1
      ((isPhrase_inParagraph_iff htext.2.2).mpr hwords)
    have hfind : findInText keyword '>' "<p>".toList.reverse
        (before ++ (phrase ++ after) ++ "</p>".toList) = some m := by
      simpa only [List.append_assoc] using hm
    obtain ⟨passed, _, hopening, -, -, -⟩ := exists_of_findInText hfind
    rw [hopening, List.prefix_append_right_inj] at hbegins
    refine ⟨m, hfind, ?_⟩
    rw [← Bool.not_eq_true, followsLink_iff hopening fun hmem => htext.1 (hbegins.subset hmem)]
    exact fun h => haddress (h.trans hbegins.isInfix)

/-- **A keyword is linked in a paragraph** if it is long enough and the text has it in whole words,
with no address before. -/
theorem isSome_linkKeyword?_iff {route keyword : String} {text : List Char} (htext : '<' ∉ text) :
    (linkKeyword? route (inParagraph text) keyword).isSome = true ↔
      minKeywordLength ≤ keyword.length ∧
        ∃ before phrase after, text = before ++ (phrase ++ after) ∧
          IsWords keyword.toList before phrase after ∧ ¬ "href=".toList <:+: before := by
  unfold linkKeyword?
  rw [← exists_fit_iff htext, findMention_inParagraph _ _ htext]
  split
  · next hlength => exact ⟨fun h => (nomatch h), fun h => absurd hlength (Nat.not_lt.mpr h.1)⟩
  · next hlength =>
    rw [and_iff_right (Nat.not_lt.mp hlength)]
    cases findInText keyword.toList '>' "<p>".toList.reverse (text ++ "</p>".toList) with
    | none => simp
    | some m => cases hfit : followsLink m <;> simp [hfit]

end

/-! ### The title of a page -/

/-- A paragraph with a text. -/
def paragraph (text : String) : Markup := el "p" [] (esc text)

/-- **A page that names another by its title is linked to it**: one link is put into a paragraph
with the title, and it leads to the route. -/
def LinksTitle (title route current : String) : Prop :=
  ∃ i : Insertion, i.route = route ∧ i.page = (paragraph title).text.toList ∧
    i.linked = (injectLinks (paragraph title).text current [Target.keywords ⟨route, title⟩]).toList

theorem toList_paragraph (text : String) :
    (paragraph text).text.toList = inParagraph (esc text).text.toList := by
  have hstart : (startTag "p" []).text.toList = "<p>".toList := by decide
  have hend : (endTag "p").text.toList = "</p>".toList := by decide
  unfold paragraph el
  rw [Markup.toList_append, Markup.toList_append, hstart, hend, List.append_assoc]
  rfl

theorem Insertion.linked_ne_page (i : Insertion) : i.linked ≠ i.page := by
  intro h
  have hlength := congrArg List.length h
  unfold linked page linkTo at hlength
  simp only [List.length_append, String.length_toList] at hlength
  have htag : "<a href=\"".length = 9 := by decide
  omega

/-- With one target, the first of its keywords that is mentioned is linked. -/
theorem toList_injectLinks_singleton {page current : String} {target : PageKeywords}
    (h : target.route ≠ current) : (injectLinks page current [target]).toList =
      (target.keywords.findSome? (linkKeyword? target.route page.toList)).getD page.toList := by
  have hother : (decide (target.route = current) || [].contains target.route) = false := by
    simp [h]
  have hroom : ¬ maxLinks ≤ ([] : List String).length := by decide
  unfold injectLinks
  rw [String.toList_ofList, injectFrom, if_neg hroom, hother, if_neg Bool.false_ne_true]
  cases target.keywords.findSome? (linkKeyword? target.route page.toList) <;> rfl

section

variable {title route current keyword : String}

theorem linksTitle_iff_exists (hroute : route ≠ current) : LinksTitle title route current ↔
    ∃ keyword ∈ keywordsOf title route,
      (linkKeyword? route (paragraph title).text.toList keyword).isSome = true := by
  unfold LinksTitle Target.keywords
  rw [toList_injectLinks_singleton hroute]
  dsimp only
  cases hfind : (keywordsOf title route).findSome?
      (linkKeyword? route (paragraph title).text.toList) with
  | none =>
    refine ⟨fun ⟨i, _, hpage, hlinked⟩ => ?_, fun ⟨keyword, hkeyword, hsome⟩ => ?_⟩
    -- Without a keyword to link the page stays as it is, which no insertion leaves it.
    · exact absurd (hlinked.trans hpage.symm) i.linked_ne_page
    · rw [List.findSome?_eq_none_iff.mp hfind keyword hkeyword] at hsome
      cases hsome
  | some linked =>
    obtain ⟨keyword, hkeyword, hlink⟩ := List.exists_of_findSome?_eq_some hfind
    obtain ⟨i, hi, hpage, hlinked, -⟩ := exists_insertion_of_linkKeyword? hlink
    exact iff_of_true ⟨i, hi, hpage, hlinked⟩ ⟨keyword, hkeyword, by rw [hlink]; rfl⟩

/-! ### Titles that are linked -/

theorem lower_mem_keywordsOf (hne : title ≠ "") (route : String) :
    Text.lower title ∈ keywordsOf title route := by
  unfold keywordsOf titleKeywords
  rw [if_neg hne]
  refine List.mem_append_left _ ?_
  dsimp only
  split <;> exact List.mem_cons_self

theorem plainTitle_mem_keywordsOf (hne : title ≠ "") (hlength : 5 < (plainTitle title).length)
    (route : String) : plainTitle title ∈ keywordsOf title route := by
  unfold keywordsOf titleKeywords
  rw [if_neg hne]
  refine List.mem_append_left _ ?_
  dsimp only
  split
  · exact List.mem_cons_of_mem _ List.mem_cons_self
  · next h =>
    -- A title without marks is left out, since it is there as it is.
    rw [decide_eq_true hlength, Bool.true_and, bne_iff_ne, ne_eq, not_not] at h
    rw [h]
    exact List.mem_cons_self

end

section

variable {title route current : String} {phrase after : List Char}

/-- A text in small letters is made of whole words where the text is. -/
theorem isWords_lowerList (hletters : ∀ c ∈ phrase, c.toNat ≠ 0x130)
    (hstart : beginsWithWord phrase = true) (hend : endsInWord phrase = true)
    (hafter : beginsWithWord after = false) : IsWords (Text.lowerList phrase) [] phrase after where
  sameLetters := Text.forall₂_sameLetter_lowerList hletters
  startsWord := by
    have hfirst : beginsWithWord (phrase ++ after) = beginsWithWord phrase := by
      cases phrase with
      | nil => cases hstart
      | cons c cs => rfl
    rw [hfirst, hstart]
    decide
  endsWord := by
    rw [List.nil_append, hend, hafter]
    decide

/-- **A title is linked by the small letters of a phrase** that its text begins with. -/
theorem linksTitle_of_phrase (hroute : route ≠ current)
    (htext : (esc title).text.toList = phrase ++ after)
    (hkeyword : String.ofList (Text.lowerList phrase) ∈ keywordsOf title route)
    (hlength : minKeywordLength ≤ phrase.length) (hletters : ∀ c ∈ phrase, c.toNat ≠ 0x130)
    (hstart : beginsWithWord phrase = true) (hend : endsInWord phrase = true)
    (hafter : beginsWithWord after = false) : LinksTitle title route current := by
  have hwords := isWords_lowerList hletters hstart hend hafter
  refine (linksTitle_iff_exists hroute).mpr ⟨_, hkeyword, ?_⟩
  rw [toList_paragraph, isSome_linkKeyword?_iff (Markup.notMem_toList_esc title (by decide)),
    ← String.length_toList, String.toList_ofList, hwords.sameLetters.length_eq]
  exact ⟨hlength, [], phrase, after, htext, hwords, by decide⟩

/-- **A title reads as its keyword**: it has at least four characters, begins and ends in a word,
and no character of it is escaped or becomes two in small letters. -/
structure ReadsAsKeyword (title : String) : Prop where
  length : minKeywordLength ≤ title.length
  unescaped : ∀ c ∈ title.toList, Markup.escapeChar c = [c]
  letters : ∀ c ∈ title.toList, c.toNat ≠ 0x130
  startsWord : beginsWithWord title.toList = true
  endsWord : endsInWord title.toList = true

theorem ReadsAsKeyword.linksTitle (h : ReadsAsKeyword title) (hroute : route ≠ current) :
    LinksTitle title route current := by
  have hne : title ≠ "" := by
    rintro rfl
    exact absurd h.startsWord (by decide)
  have htext : (esc title).text.toList = title.toList ++ [] := by
    rw [text_esc_eq_self h.unescaped, List.append_nil]
  exact linksTitle_of_phrase hroute htext (lower_mem_keywordsOf hne route)
    (String.length_toList ▸ h.length) h.letters h.startsWord h.endsWord rfl

/-- **A title has a core** of letters, digits and blanks, and behind it nothing but marks, blanks
and years in parentheses. -/
structure HasCore (title : String) (core marks : List Char) : Prop where
  eq : title.toList = core ++ marks
  length : 5 < core.length
  plain : core.all isPlain = true
  head : core.head?.all Char.isAlphanum = true
  last : core.getLast?.all Char.isAlphanum = true
  apart : beginsWithWord marks = false
  marks : (dropYears 0 marks).any Char.isAlphanum = false

/-- Years are looked for behind an opening parenthesis. -/
theorem dropYears_append {xs : List Char} (h : '(' ∉ xs) (ys : List Char) :
    dropYears 0 (xs ++ ys) = xs ++ dropYears 0 ys := by
  induction xs with
  | nil => rfl
  | cons x xs ih =>
    rw [List.mem_cons, not_or] at h
    rw [List.cons_append, dropYears, ih h.2]
    · rfl
    · rintro _ _ _ _ _ rfl
      exact absurd rfl h.1

theorem isBlank_of_isAlphanum {c : Char} (h : c.isAlphanum = true) : Text.isBlank c = false := by
  have hcode := Text.toNat_of_isAlphanum h
  simp only [Text.isBlank, Bool.or_eq_false_iff, Bool.and_eq_false_iff, decide_eq_false_iff_not,
    beq_eq_false_iff_ne]
  omega

theorem isWordChar_of_isAlphanum {c : Char} (h : c.isAlphanum = true) : isWordChar c = true := by
  have hcode := Text.toNat_of_isAlphanum h
  rw [isWordChar, if_pos (by omega), h, Bool.true_or]

/-- A character that is kept in a title is not escaped, and no dotted capital I. -/
theorem escapeChar_of_isPlain {c : Char} (h : isPlain c = true) :
    Markup.escapeChar c = [c] ∧ c.toNat ≠ 0x130 := by
  have hne {d : Char} (hd : isPlain d = false) : (c == d) = false := by
    rw [beq_eq_false_iff_ne]
    rintro rfl
    rw [h] at hd
    cases hd
  refine ⟨?_, fun hcode => ?_⟩
  · unfold Markup.escapeChar
    rw [hne (by decide), hne (by decide), hne (by decide), hne (by decide), hne (by decide)]
    rfl
  · have hself : Char.ofNat 0x130 = c := by rw [← hcode, Char.ofNat_toNat]
    rw [← hself] at h
    exact absurd h (by decide)

/-- The marks of a title stay apart from its core when they are escaped. -/
theorem beginsWithWord_flatMap_escapeChar {cs : List Char} (h : beginsWithWord cs = false) :
    beginsWithWord (cs.flatMap Markup.escapeChar) = false := by
  cases cs with
  | nil => rfl
  | cons c cs =>
    have hchar : (Markup.escapeChar c).head? = some '&' ∨ Markup.escapeChar c = [c] := by
      unfold Markup.escapeChar
      repeat' split
      case isFalse => exact .inr rfl
      all_goals exact .inl (by decide)
    rw [List.flatMap_cons]
    rcases hchar with hchar | hchar
    · rw [beginsWithWord, List.head?_append, hchar]
      show isWordChar '&' = false
      decide
    · rw [hchar]
      exact h

namespace HasCore

variable {core marks : List Char} (h : HasCore title core marks)
include h

theorem ne_nil : core ≠ [] := List.length_pos_iff.mp (Nat.lt_of_le_of_lt (Nat.zero_le 5) h.length)

theorem isPlain_of_mem {c : Char} (hc : c ∈ core) : isPlain c = true :=
  List.all_eq_true.mp h.plain c hc

theorem isAlphanum_of_head? {c : Char} (hc : core.head? = some c) : c.isAlphanum = true :=
  Option.all_eq_true _ _ |>.mp h.head c hc

theorem isAlphanum_of_getLast? {c : Char} (hc : core.getLast? = some c) : c.isAlphanum = true :=
  Option.all_eq_true _ _ |>.mp h.last c hc

/-- **Without years and marks the core is left.** -/
theorem plainTitle_eq : plainTitle title = String.ofList (Text.lowerList core) := by
  have hparen : '(' ∉ core := fun hmem => absurd (h.isPlain_of_mem hmem) (by decide)
  have hcore : core.filter isPlain = core := List.filter_eq_self.mpr fun c hc => h.isPlain_of_mem hc
  -- Of the marks only blanks are kept, and these are cut off at the end.
  have hmarks : ∀ c ∈ (dropYears 0 marks).filter isPlain, Text.isBlank c = true := by
    intro c hc
    obtain ⟨hmem, hplain⟩ := List.mem_filter.mp hc
    have hmark : c.isAlphanum = false := by
      rw [← Bool.not_eq_true]
      exact List.any_eq_false.mp h.marks c hmem
    rw [isPlain, hmark, Bool.false_or] at hplain
    exact hplain
  have hstrip : Text.stripList (core ++ (dropYears 0 marks).filter isPlain) = core :=
    Text.stripChars_append h.ne_nil (fun c hc => isBlank_of_isAlphanum (h.isAlphanum_of_head? hc))
      (fun c hc => isBlank_of_isAlphanum (h.isAlphanum_of_getLast? hc)) hmarks
  unfold plainTitle Text.lower Text.strip
  rw [String.toList_ofList, String.toList_ofList, h.eq, dropYears_append hparen,
    List.filter_append, hcore, hstrip]

theorem linksTitle (hroute : route ≠ current) : LinksTitle title route current := by
  have hletters : ∀ c ∈ core, c.toNat ≠ 0x130 := fun c hc =>
    (escapeChar_of_isPlain (h.isPlain_of_mem hc)).2
  have hne : title ≠ "" := by
    rintro rfl
    exact h.ne_nil (List.append_eq_nil_iff.mp h.eq.symm).1
  -- Escaping leaves the letters of the title as they are; only the marks behind them may change.
  have htext : (esc title).text.toList = core ++ marks.flatMap Markup.escapeChar := by
    show (String.ofList (title.toList.flatMap Markup.escapeChar)).toList = _
    rw [String.toList_ofList, h.eq, List.flatMap_append,
      List.flatMap_congr fun c hc => (escapeChar_of_isPlain (h.isPlain_of_mem hc)).1,
      List.flatMap_singleton']
  have hlength : (plainTitle title).length = core.length := by
    rw [h.plainTitle_eq, ← String.length_toList, String.toList_ofList]
    exact (Text.forall₂_sameLetter_lowerList hletters).length_eq
  have hstart : beginsWithWord core = true := by
    have hc := List.head?_eq_some_head h.ne_nil
    rw [beginsWithWord, hc]
    exact isWordChar_of_isAlphanum (h.isAlphanum_of_head? hc)
  have hend : endsInWord core = true := by
    have hc := List.getLast?_eq_some_getLast h.ne_nil
    rw [endsInWord, hc]
    exact isWordChar_of_isAlphanum (h.isAlphanum_of_getLast? hc)
  refine linksTitle_of_phrase hroute htext ?_ ?_ hletters hstart hend
    (beginsWithWord_flatMap_escapeChar h.apart)
  · rw [← h.plainTitle_eq]
    exact plainTitle_mem_keywordsOf hne (hlength ▸ h.length) route
  · exact Nat.le_trans (by decide) (Nat.le_of_lt h.length)

end HasCore

/-- **A title is linked exactly if a keyword is read in it**: the text of the paragraph, in which
the title is escaped, has one of the keywords of the page in whole words, and no address before it.
This is so of titles that read as their keyword, and of those with nothing but marks and years
behind plain words. -/
theorem linksTitle_iff (hroute : route ≠ current) :
    (LinksTitle title route current ↔
      ∃ keyword ∈ keywordsOf title route, minKeywordLength ≤ keyword.length ∧
        ∃ before phrase after, (esc title).text.toList = before ++ (phrase ++ after) ∧
          IsWords keyword.toList before phrase after ∧ ¬ "href=".toList <:+: before) ∧
    (ReadsAsKeyword title → LinksTitle title route current) ∧
    (∀ core marks, HasCore title core marks → LinksTitle title route current) := by
  have htext : '<' ∉ (esc title).text.toList := Markup.notMem_toList_esc title (by decide)
  refine ⟨?_, fun h => h.linksTitle hroute, fun core marks h => h.linksTitle hroute⟩
  rw [linksTitle_iff_exists hroute]
  simp only [toList_paragraph, isSome_linkKeyword?_iff htext]

end

/-- The year behind a title does not keep it from being linked. -/
theorem yearly_title_is_linked :
    "/rates" ≠ "/" ∧ HasCore "Mortgage rates (2024)" "Mortgage rates".toList " (2024)".toList ∧
      LinksTitle "Mortgage rates (2024)" "/rates" "/" := by
  have hroute : "/rates" ≠ "/" := by decide
  have hcore : HasCore "Mortgage rates (2024)" "Mortgage rates".toList " (2024)".toList :=
    ⟨by decide, by decide, by decide, by decide, by decide, by decide, by decide⟩
  exact ⟨hroute, hcore, (linksTitle_iff hroute).2.2 _ _ hcore⟩

/-- A title is not linked if the paragraph stays as it is. -/
theorem not_linksTitle {title route current : String} {keywords : List String}
    (hkeywords : keywordsOf title route = keywords)
    (h : injectLinks (paragraph title).text current [⟨route, keywords⟩] = (paragraph title).text) :
    ¬ LinksTitle title route current := by
  rintro ⟨i, -, hpage, hlinked⟩
  unfold Target.keywords at hlinked
  rw [hkeywords, h] at hlinked
  exact i.linked_ne_page (hlinked.trans hpage.symm)

/-- **A title may go unlinked**: an ampersand in it is escaped in a text, and not in a keyword; and
no word ends behind a question mark, while a keyword without marks does not have the colon. -/
theorem titles_go_unlinked :
    (Route.isSafeRoute "/pricing" = true ∧ 4 ≤ (Text.squeeze "Costs & fees").length ∧
      "Costs & fees".toList.any Text.isLetter = true ∧ ¬ LinksTitle "Costs & fees" "/pricing" "/") ∧
    Route.isSafeRoute "/solar-guide" = true ∧
      4 ≤ (Text.squeeze "Solar panels: worth it?").length ∧
      "Solar panels: worth it?".toList.any Text.isLetter = true ∧
      ¬ LinksTitle "Solar panels: worth it?" "/solar-guide" "/" := by
  have hfees : (paragraph "Costs & fees").text = "<p>Costs &amp; fees</p>" := by decide +kernel
  have hsolar : (paragraph "Solar panels: worth it?").text = "<p>Solar panels: worth it?</p>" := by
    decide +kernel
  have hfees' : keywordsOf "Costs & fees" "/pricing" =
      ["costs & fees", "costs  fees", "pricing"] := by decide +kernel
  have hsolar' : keywordsOf "Solar panels: worth it?" "/solar-guide" =
      ["solar panels: worth it?", "solar panels worth it", "solar guide"] := by decide +kernel
  refine ⟨⟨by decide +kernel, by decide +kernel, by decide +kernel, not_linksTitle hfees' ?_⟩,
    by decide +kernel, by decide +kernel, by decide +kernel, not_linksTitle hsolar' ?_⟩
  · rw [hfees]
    decide +kernel
  · rw [hsolar]
    decide +kernel

end StaticSite.Link
