import Mathlib.Data.List.Forall2
import StaticSite.Link.Injection
import StaticSite.Proofs.Html.Tags
import StaticSite.Proofs.Text.Case

/-!
# Where mentions stand

The linking pass looks for the mentions of a keyword in paragraphs and list items, which are the
*items* here. `IsMention` says where a mention stands, without the search: the text before it ends
in an item, the phrase has the letters of the keyword and is made of whole words, and the next tag
closes an item.

The search finds mentions only (`isMention_of_findMention`), and it finds one where there is one
(`findMention_eq_none_iff`).
-/

namespace StaticSite.Link

open Text (sameLetter isWordChar)

/-! ### Items -/

/-- The name of a paragraph or of a list item, and its last character. -/
inductive IsItemName : List Char → Char → Prop
  | paragraph {a : Char} (ha : sameLetter 'p' a = true) : IsItemName [a] a
  | listItem {a b : Char} (ha : sameLetter 'l' a = true) (hb : sameLetter 'i' b = true) :
      IsItemName [a, b] b

theorem paragraphName?_eq_some_iff {cs more : List Char} {last : Char} :
    paragraphName? cs = some (last, more) ↔ ∃ name, IsItemName name last ∧ cs = name ++ more := by
  constructor
  · intro h
    cases cs with
    | nil => cases h
    | cons a rest =>
      -- One letter names a paragraph, and two of them an item of a list.
      unfold paragraphName? at h
      dsimp only at h
      split at h
      · next ha =>
        cases h
        exact ⟨[last], .paragraph ha, rfl⟩
      · cases rest with
        | nil => cases h
        | cons b rest =>
          dsimp only at h
          split at h
          · next hab =>
            cases h
            rw [Bool.and_eq_true] at hab
            exact ⟨[a, last], .listItem hab.1 hab.2, rfl⟩
          · cases h
  · rintro ⟨name, hname, rfl⟩
    cases hname with
    | paragraph ha =>
      show (if sameLetter 'p' last = true then some (last, more) else _) = _
      rw [if_pos ha]
    | @listItem a _ ha hb =>
      have hother : sameLetter 'p' a = false := by
        unfold sameLetter at ha ⊢
        rw [← eq_of_beq ha]
        decide
      show (if sameLetter 'p' a = true then some (a, last :: more)
        else if sameLetter 'l' a && sameLetter 'i' last then some (last, more) else none) = _
      rw [hother, ha, hb]
      rfl

/-- Whether a character may stand in the name of an item. -/
def isItemLetter (c : Char) : Bool := ['p', 'l', 'i'].any fun letter => sameLetter letter c

/-- No sign of a tag is part of the name of an item. -/
theorem IsItemName.notMem {name : List Char} {last : Char} (h : IsItemName name last) {c : Char}
    (hc : isItemLetter c = false) : c ∉ name := by
  rw [isItemLetter, List.any_eq_false] at hc
  have hne {letter a : Char} (hl : letter ∈ ['p', 'l', 'i']) (ha : sameLetter letter a = true) :
      c ≠ a := fun heq => hc letter hl (heq ▸ ha)
  cases h with
  | paragraph ha => exact List.not_mem_cons_of_ne_of_not_mem (hne (by decide) ha) List.not_mem_nil
  | listItem ha hb =>
    exact List.not_mem_cons_of_ne_of_not_mem (hne (by decide) ha) <|
      List.not_mem_cons_of_ne_of_not_mem (hne (by decide) hb) List.not_mem_nil

/-- **The opening tag of an item** ends with the first `>` behind its name. -/
inductive IsOpeningTag : List Char → Prop
  | mk {name attributes : List Char} {last : Char} (hname : IsItemName name last)
      (hbound : atBoundary last (attributes ++ ['>']) = true) (hattrs : '>' ∉ attributes) :
      IsOpeningTag ('<' :: (name ++ attributes) ++ ['>'])

theorem atBoundary_append {last : Char} {cs : List Char} (h : cs ≠ []) (more : List Char) :
    atBoundary last (cs ++ more) = atBoundary last cs := by
  cases cs with
  | nil => exact absurd rfl h
  | cons c cs => rfl

/-- A name at the start of a complete tag makes it an opening tag, unless the name goes on. -/
theorem openingTag?_name {name attributes : List Char} {last : Char} (hname : IsItemName name last)
    (hattrs : '>' ∉ attributes) (text : List Char) :
    openingTag? ('<' :: (name ++ (attributes ++ '>' :: text))) =
      if atBoundary last (attributes ++ ['>']) then
        some ('<' :: (name ++ attributes) ++ ['>'], text)
      else none := by
  have hread : paragraphName? (name ++ (attributes ++ '>' :: text)) =
      some (last, attributes ++ '>' :: text) := paragraphName?_eq_some_iff.mpr ⟨name, hname, rfl⟩
  have hbound : atBoundary last (attributes ++ '>' :: text) =
      atBoundary last (attributes ++ ['>']) := by
    have hne : attributes ++ ['>'] ≠ [] := by simp
    rw [← atBoundary_append hne text, List.append_assoc]
    rfl
  have hcontains : (attributes ++ '>' :: text).contains '>' = true := by simp
  have htake : (attributes ++ '>' :: text).takeWhile (· != '>') = attributes := by
    rw [takeWhile_bne_append hattrs]
    exact List.append_nil _
  have htag : '<' :: (name ++ (attributes ++ '>' :: text)) =
      '<' :: (name ++ attributes) ++ ['>'] ++ text := by
    simp only [List.append_assoc, List.cons_append, List.nil_append]
  -- As many characters are taken as stand up to the `>`, counted from the other end.
  have hlength : ('<' :: (name ++ (attributes ++ '>' :: text))).length -
      (attributes ++ '>' :: text).length + attributes.length + 1 =
        ('<' :: (name ++ attributes) ++ ['>']).length := by
    simp only [List.length_cons, List.length_append, List.length_nil]
    omega
  rw [openingTag?, hread]
  dsimp only
  rw [hbound, hcontains, Bool.and_true, htake, hlength, htag, List.take_left, List.drop_left]

/-- The opening tag at the start of a text is the same whatever follows it. -/
theorem openingTag?_eq_some_iff {cs tag text : List Char} :
    openingTag? cs = some (tag, text) ↔ IsOpeningTag tag ∧ cs = tag ++ text := by
  constructor
  · intro h
    have hcs := h
    unfold openingTag? at h
    split at h
    · next rest =>
      split at h
      · next last more hmore =>
        split at h
        · next hend =>
          rw [Bool.and_eq_true] at hend
          obtain ⟨name, hname, rfl⟩ := paragraphName?_eq_some_iff.mp hmore
          obtain ⟨attributes, behind, rfl, hattrs⟩ :=
            List.eq_append_cons_of_mem (List.contains_iff_mem.mp hend.2)
          -- Read again from its parts, the tag depends on the boundary behind its name alone.
          rw [openingTag?_name hname hattrs] at hcs
          split at hcs
          · next hbound =>
            cases hcs
            refine ⟨.mk hname hbound hattrs, ?_⟩
            simp only [List.append_assoc, List.cons_append, List.nil_append]
          · cases hcs
        · cases h
      · cases h
    · cases h
  · rintro ⟨htag, rfl⟩
    obtain ⟨hname, hbound, hattrs⟩ := htag
    rename_i name attributes last
    have hopen := openingTag?_name hname hattrs text
    rw [if_pos hbound] at hopen
    simpa only [List.append_assoc, List.cons_append, List.nil_append] using hopen

/-- **A text ends in an item**: behind the opening tag of one there is no other tag. -/
def EndsInItem (cs : List Char) : Prop :=
  ∃ lead tag text, IsOpeningTag tag ∧ '<' ∉ text ∧ cs = lead ++ (tag ++ text)

theorem EndsInItem.append_left {cs : List Char} (h : EndsInItem cs) (before : List Char) :
    EndsInItem (before ++ cs) := by
  obtain ⟨lead, tag, text, htag, htext, rfl⟩ := h
  exact ⟨before ++ lead, tag, text, htag, htext, (List.append_assoc ..).symm⟩

theorem EndsInItem.append_text {cs text : List Char} (h : EndsInItem cs) (ht : '<' ∉ text) :
    EndsInItem (cs ++ text) := by
  obtain ⟨lead, tag, passed, htag, hpassed, rfl⟩ := h
  refine ⟨lead, tag, passed ++ text, htag, ?_, by simp only [List.append_assoc]⟩
  rw [List.mem_append, not_or]
  exact ⟨hpassed, ht⟩

theorem EndsInItem.ne_nil {cs : List Char} (h : EndsInItem cs) : cs ≠ [] := by
  obtain ⟨lead, tag, text, ⟨-, -, -⟩, -, rfl⟩ := h
  simp

theorem isClosedNext_iff {cs : List Char} : isClosedNext cs = true ↔
    ∃ text name last more, '<' ∉ text ∧ IsItemName name last ∧
      cs = text ++ '<' :: '/' :: (name ++ '>' :: more) := by
  constructor
  · intro h
    have htext : '<' ∉ cs.takeWhile (· != '<') := fun hmem => by
      have hpassed := List.all_eq_true.mp List.all_takeWhile _ hmem
      exact absurd hpassed (by decide)
    have hcs := List.takeWhile_append_dropWhile (p := (· != '<')) (l := cs)
    unfold isClosedNext at h
    split at h
    · next rest hrest =>
      split at h
      · next last more hmore =>
        obtain ⟨name, hname, rfl⟩ := paragraphName?_eq_some_iff.mp hmore
        rw [hrest] at hcs
        exact ⟨_, name, last, more, htext, hname, hcs.symm⟩
      · cases h
    · cases h
  · rintro ⟨text, name, last, more, htext, hname, rfl⟩
    have hdrop : (text ++ '<' :: '/' :: (name ++ '>' :: more)).dropWhile (· != '<') =
        '<' :: '/' :: (name ++ '>' :: more) := dropWhile_bne_append htext _
    have hread : paragraphName? (name ++ '>' :: more) = some (last, '>' :: more) :=
      paragraphName?_eq_some_iff.mpr ⟨name, hname, rfl⟩
    unfold isClosedNext
    simp only [hdrop, hread]

/-! ### Mentions -/

theorem matchPhrase_eq_some_iff {keyword cs phrase rest : List Char} :
    matchPhrase keyword cs = some (phrase, rest) ↔
      cs = phrase ++ rest ∧ List.Forall₂ (fun k c => sameLetter k c = true) keyword phrase := by
  -- On the keyword, whose letters are matched one by one.
  induction keyword generalizing cs phrase with
  | nil =>
    rw [matchPhrase, List.forall₂_nil_left_iff]
    constructor
    · intro h
      cases h
      exact ⟨rfl, rfl⟩
    · rintro ⟨rfl, rfl⟩
      rfl
  | cons k ks ih =>
    rw [List.forall₂_cons_left_iff]
    cases cs with
    | nil =>
      refine ⟨fun h => (nomatch h), ?_⟩
      rintro ⟨hcs, c, phrase, -, -, rfl⟩
      cases hcs
    | cons c cs =>
      rw [matchPhrase]
      split
      · next hk =>
        rw [Option.map_eq_some_iff]
        constructor
        · rintro ⟨⟨phrase', rest'⟩, hmatch, heq⟩
          cases heq
          obtain ⟨rfl, hsame⟩ := ih.mp hmatch
          exact ⟨rfl, c, phrase', hk, hsame, rfl⟩
        · rintro ⟨hcs, d, phrase', -, hsame, rfl⟩
          cases hcs
          exact ⟨(phrase', rest), ih.mpr ⟨rfl, hsame⟩, rfl⟩
      · next hk =>
        refine ⟨fun h => (nomatch h), ?_⟩
        rintro ⟨hcs, d, phrase', hd, -, rfl⟩
        cases hcs
        exact absurd hd hk

/-- **A phrase stands between word boundaries**, is a keyword but for case, and the first tag behind
it closes an item. -/
structure IsPhrase (keyword before phrase rest : List Char) : Prop where
  startsWord : ∀ c ∈ before.getLast?, atBoundary c (phrase ++ rest) = true
  sameLetters : List.Forall₂ (fun k c => sameLetter k c = true) keyword phrase
  endsWord : ∀ c ∈ (before ++ phrase).getLast?, atBoundary c rest = true
  closesItem : isClosedNext rest = true

/-- **A mention of a keyword** is such a phrase in an item. -/
structure IsMention (keyword before phrase rest : List Char) : Prop extends
    IsPhrase keyword before phrase rest where
  endsInItem : EndsInItem before

theorem getLast?_append_getLastD {before : List Char} {last : Char}
    (h : before.getLast? = some last) (phrase : List Char) :
    (before ++ phrase).getLast? = some (phrase.getLastD last) := by
  rw [List.getLast?_append, h]
  cases phrase with
  | nil => rfl
  | cons c cs => simp [List.getLastD_eq_getLast?, List.getLast?_cons]

theorem mentionHere_eq_some_iff {keyword before cs : List Char} {last : Char} {m : Mention}
    (h : before.getLast? = some last) :
    mentionHere keyword last before.reverse cs = some m ↔
      m.opening = before ∧ cs = m.phrase ++ m.rest ∧ IsPhrase keyword before m.phrase m.rest := by
  -- There is a character before the place, so that both boundaries can be read off the text.
  have hstart {phrase rest : List Char} : (∀ c ∈ before.getLast?,
      atBoundary c (phrase ++ rest) = true) ↔ atBoundary last (phrase ++ rest) = true := by
    rw [h]
    simp
  have hend {phrase rest : List Char} : (∀ c ∈ (before ++ phrase).getLast?,
      atBoundary c rest = true) ↔ atBoundary (phrase.getLastD last) rest = true := by
    rw [getLast?_append_getLastD h]
    simp
  unfold mentionHere
  constructor
  · intro hm
    split at hm
    · next hstarts =>
      split at hm
      · next phrase rest hmatch =>
        obtain ⟨rfl, hsame⟩ := matchPhrase_eq_some_iff.mp hmatch
        split at hm
        · next hends =>
          cases hm
          rw [Bool.and_eq_true] at hends
          exact ⟨List.reverse_reverse _, rfl, hstart.mpr hstarts, hsame, hend.mpr hends.1, hends.2⟩
        · cases hm
      · cases hm
    · cases hm
  · rintro ⟨hopening, rfl, hphrase⟩
    have hmatch : matchPhrase keyword (m.phrase ++ m.rest) = some (m.phrase, m.rest) :=
      matchPhrase_eq_some_iff.mpr ⟨rfl, hphrase.sameLetters⟩
    rw [if_pos (hstart.mp hphrase.startsWord), hmatch]
    dsimp only
    rw [hend.mp hphrase.endsWord, hphrase.closesItem, List.reverse_reverse, ← hopening]
    rfl

/-- A phrase in a text is one wherever the text stands. -/
theorem isPhrase_append_left {keyword before phrase rest : List Char} (h : before ≠ [])
    (lead : List Char) :
    IsPhrase keyword (lead ++ before) phrase rest ↔ IsPhrase keyword before phrase rest := by
  have hend : before ++ phrase ≠ [] := fun hnil => h (List.append_eq_nil_iff.mp hnil).1
  have hlast : (lead ++ before).getLast? = before.getLast? :=
    List.getLast?_append_of_ne_nil lead h
  have hlast' : (lead ++ before ++ phrase).getLast? = (before ++ phrase).getLast? := by
    rw [List.append_assoc, List.getLast?_append_of_ne_nil lead hend]
  constructor
  · intro hphrase
    exact ⟨hlast ▸ hphrase.startsWord, hphrase.sameLetters, hlast' ▸ hphrase.endsWord,
      hphrase.closesItem⟩
  · intro hphrase
    exact ⟨hlast ▸ hphrase.startsWord, hphrase.sameLetters, hlast' ▸ hphrase.endsWord,
      hphrase.closesItem⟩

/-! ### The search -/

/-- A mention in a text behind `before`: no tag stands between the two. -/
structure Mention.IsIn (m : Mention) (keyword before cs : List Char) : Prop where
  exists_text : ∃ text, '<' ∉ text ∧ m.opening = before ++ text ∧ cs = text ++ (m.phrase ++ m.rest)
  isPhrase : IsPhrase keyword m.opening m.phrase m.rest

theorem isIn_of_mentionHere {keyword before cs : List Char} {last : Char} {m : Mention}
    (hlast : before.getLast? = some last)
    (h : mentionHere keyword last before.reverse cs = some m) : m.IsIn keyword before cs := by
  obtain ⟨hopening, hcs, hphrase⟩ := (mentionHere_eq_some_iff hlast).mp h
  exact ⟨⟨[], List.not_mem_nil, by rw [hopening, List.append_nil], hcs⟩, hopening ▸ hphrase⟩

theorem reverse_append_singleton (before : List Char) (c : Char) :
    (before ++ [c]).reverse = c :: before.reverse := List.reverse_append

theorem isIn_of_findInText {keyword before cs : List Char} {last : Char} {m : Mention}
    (hlast : before.getLast? = some last)
    (h : findInText keyword last before.reverse cs = some m) : m.IsIn keyword before cs := by
  induction cs generalizing before last with
  | nil => exact isIn_of_mentionHere hlast h
  | cons c cs ih =>
    rw [findInText] at h
    split at h
    · next m' hm =>
      cases h
      exact isIn_of_mentionHere hlast hm
    · split at h
      · cases h
      · next hc =>
        -- The search goes on behind `c`, which is no tag and joins the text that was passed.
        rw [← reverse_append_singleton] at h
        obtain ⟨⟨text, htext, hopening, rfl⟩, hphrase⟩ := ih List.getLast?_concat h
        refine ⟨⟨c :: text, ?_, ?_, rfl⟩, hphrase⟩
        · rw [List.mem_cons, not_or]
          exact ⟨fun heq => hc (by rw [← heq]; rfl), htext⟩
        · rw [hopening, List.append_assoc]
          rfl

/-- Where a phrase stands in a text without tags, the search finds one, no further on. -/
theorem exists_findInText {keyword before text phrase rest : List Char} {last : Char}
    (hlast : before.getLast? = some last) (htext : '<' ∉ text)
    (h : IsPhrase keyword (before ++ text) phrase rest) :
    ∃ m, findInText keyword last before.reverse (text ++ (phrase ++ rest)) = some m ∧
      m.opening <+: before ++ text := by
  induction text generalizing before last with
  | nil =>
    rw [List.append_nil] at h
    have hhere : mentionHere keyword last before.reverse (phrase ++ rest) =
        some ⟨before, phrase, rest⟩ := (mentionHere_eq_some_iff hlast).mpr ⟨rfl, rfl, h⟩
    rw [List.nil_append, List.append_nil]
    refine ⟨⟨before, phrase, rest⟩, ?_, List.prefix_refl before⟩
    cases hcs : phrase ++ rest with
    | nil => rw [findInText, ← hcs, hhere]
    | cons c cs => rw [findInText, ← hcs, hhere]
  | cons c text ih =>
    rw [List.mem_cons, not_or] at htext
    have hc : (c == '<') = false := beq_false_of_ne (Ne.symm htext.1)
    have hnext : IsPhrase keyword (before ++ [c] ++ text) phrase rest := by
      rwa [List.append_assoc]
    rw [List.cons_append, findInText, hc, ← reverse_append_singleton]
    -- There may be a mention here already; if not, the search goes on behind `c`.
    cases hhere : mentionHere keyword last before.reverse (c :: (text ++ (phrase ++ rest))) with
    | some m =>
      obtain ⟨hopening, -⟩ := (mentionHere_eq_some_iff hlast).mp hhere
      exact ⟨m, rfl, hopening ▸ List.prefix_append _ _⟩
    | none =>
      obtain ⟨m, hm, hbegins⟩ := ih List.getLast?_concat htext.2 hnext
      rw [List.append_assoc] at hbegins
      exact ⟨m, hm, hbegins⟩

theorem IsOpeningTag.getLast? {tag : List Char} (h : IsOpeningTag tag) :
    tag.getLast? = some '>' := by
  obtain ⟨-, -, -⟩ := h
  exact List.getLast?_concat

/-- **What the search finds is a mention.** -/
theorem isMention_of_findMention {keyword page lead : List Char} {m : Mention}
    (h : findMention keyword page = some (lead, m)) :
    page = lead ++ m.opening ++ (m.phrase ++ m.rest) ∧
      IsMention keyword (lead ++ m.opening) m.phrase m.rest := by
  induction page generalizing lead with
  | nil => cases h
  | cons c cs ih =>
    rw [findMention] at h
    split at h
    -- The opening tag stands here, or the search goes on behind `c`.
    · next m' hhere =>
      cases h
      split at hhere
      · next tag text hopen =>
        obtain ⟨htag, hcs⟩ := openingTag?_eq_some_iff.mp hopen
        obtain ⟨⟨passed, hpassed, hopening, htext⟩, hphrase⟩ :=
          isIn_of_findInText htag.getLast? hhere
        refine ⟨?_, hphrase, [], tag, passed, htag, hpassed, hopening⟩
        rw [hcs, htext, hopening, List.nil_append, List.append_assoc]
      · cases hhere
    · obtain ⟨⟨lead', m'⟩, hfind, heq⟩ := Option.map_eq_some_iff.mp h
      cases heq
      obtain ⟨rfl, hphrase, hends⟩ := ih hfind
      exact ⟨rfl, (isPhrase_append_left hends.ne_nil [c]).mpr hphrase, hends.append_left [c]⟩

theorem findMention_cons_eq_none_iff {keyword cs : List Char} {c : Char} :
    findMention keyword (c :: cs) = none ↔
      (∀ tag text, openingTag? (c :: cs) = some (tag, text) →
        findInText keyword '>' tag.reverse text = none) ∧ findMention keyword cs = none := by
  rw [findMention]
  cases openingTag? (c :: cs) with
  | none => simp
  | some r =>
    obtain ⟨tag, text⟩ := r
    dsimp only
    cases hfind : findInText keyword '>' tag.reverse text with
    | none => simp [hfind]
    | some m => simp [hfind]

/-- **Where there is a mention, the search finds one.** -/
theorem findMention_eq_none_iff {keyword page : List Char} : findMention keyword page = none ↔
    ∀ before phrase rest, page = before ++ (phrase ++ rest) →
      ¬ IsMention keyword before phrase rest := by
  constructor
  · rintro hnone before phrase rest rfl ⟨hphrase, lead, tag, text, htag, htext, rfl⟩
    -- On what stands before the tag of the item, for the search tries one place after the other.
    induction lead with
    | nil =>
      have hopen : openingTag? (tag ++ (text ++ (phrase ++ rest))) =
          some (tag, text ++ (phrase ++ rest)) := openingTag?_eq_some_iff.mpr ⟨htag, rfl⟩
      obtain ⟨m, hfound, -⟩ := exists_findInText htag.getLast? htext hphrase
      rw [List.nil_append, List.append_assoc] at hnone
      cases htag with
      | mk hname hbound hattrs =>
        rw [(findMention_cons_eq_none_iff.mp hnone).1 _ _ hopen] at hfound
        cases hfound
    | cons c lead ih =>
      have hne : lead ++ (tag ++ text) ≠ [] := EndsInItem.ne_nil ⟨lead, tag, text, htag, htext, rfl⟩
      exact ih (findMention_cons_eq_none_iff.mp hnone).2
        ((isPhrase_append_left hne [c]).mp hphrase)
  · intro h
    by_contra hsome
    obtain ⟨⟨lead, m⟩, hfind⟩ := Option.ne_none_iff_exists'.mp hsome
    obtain ⟨hpage, hmention⟩ := isMention_of_findMention hfind
    exact h _ _ _ hpage hmention

end StaticSite.Link
