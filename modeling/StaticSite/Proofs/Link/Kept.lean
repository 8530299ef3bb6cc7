import Mathlib.Data.List.Forall2
import StaticSite.Proofs.Html.Reading
import StaticSite.Proofs.Link.Insertion

/-!
# What linking keeps of a page

Pages are made first, and then the linking pass cuts their tags (`TagCut`). A cut of the first kind
lies behind the end of the tag that it cuts, and a cut of the second kind lies before a closing tag.
So a tag is safe from both if it shows all that it says up to its end and no closing tag comes next.

A `TagReader` reads values off tags, and none off the tags that the pass puts in.
`TagReader.HasValues` says that safe tags of a page show given values, one after the other, and
`HasValues.cuts` that linking keeps them. If `first` holds, these are the first values of the page:
it stands for what has to be assumed of text that is put into a page as it is.

`TagReader.ofTags` are the readers of the tags that begin elements.
-/

namespace StaticSite

open Link (TagCut TagCuts)

/-- **A way to read values off tags**, other than those of links. -/
structure TagReader (β : Type) where
  /-- The value of a tag, if it has one. -/
  value? : List Char → Option β
  /-- A tag shows its value before its end. -/
  Shows : β → List Char → Prop
  value?_of_shows {value : β} {tag : List Char} : Shows value tag → value? tag = some value
  shows_of_append {value : β} {kept moved : List Char} :
    '>' ∈ kept → Shows value (kept ++ moved) → Shows value kept
  value?_of_append {kept moved : List Char} :
    value? (kept ++ moved) = none → value? kept = none
  value?_of_head? {tag : List Char} :
    tag.head? = some 'a' ∨ tag.head? = some '/' → value? tag = none

/-- Tags of which the first is no closing tag. -/
def OpensNext (tags : List (List Char)) : Prop := ∃ next ∈ tags.head?, next.head? ≠ some '/'

/-- A cut makes no closing tag of a tag. -/
theorem OpensNext.insert {before after new : List (List Char)} {kept moved : List Char}
    (h : OpensNext (before ++ (kept ++ moved) :: after)) : OpensNext (before ++ kept :: new) := by
  cases before with
  | nil =>
    obtain ⟨next, hnext, hopen⟩ := h
    obtain rfl := Option.some.inj hnext
    refine ⟨kept, rfl, fun hkept => hopen ?_⟩
    rw [List.head?_append, hkept]
    rfl
  | cons tag before => exact h

namespace TagReader

variable {β : Type} {r : TagReader β} {first : Prop} {values : List β}
  {tags other : List (List Char)}

/-- **A page has values**: tags show them in this order, each before a tag that is no closing tag.
If `first` holds, no tag in between has a value. -/
inductive HasValues (r : TagReader β) (first : Prop) : List β → List (List Char) → Prop
  | nil {tags : List (List Char)} : HasValues r first [] tags
  | here {value : β} {values : List β} {tag : List Char} {rest : List (List Char)}
      (htag : r.Shows value tag) (hnext : OpensNext rest) (h : HasValues r first values rest) :
      HasValues r first (value :: values) (tag :: rest)
  | later {values : List β} {tag : List Char} {rest : List (List Char)}
      (hfirst : first → r.value? tag = none) (h : HasValues r first values rest) :
      HasValues r first values (tag :: rest)

namespace HasValues

theorem sublist_filterMap (h : r.HasValues first values tags) :
    values.Sublist (tags.filterMap r.value?) := by
  induction h with
  | nil => exact List.nil_sublist _
  | here htag hnext h ih =>
    rw [List.filterMap_cons_some (r.value?_of_shows htag)]
    exact ih.cons_cons _
  | @later values tag rest hfirst h ih =>
    exact ih.trans ((List.sublist_cons_self tag rest).filterMap _)

theorem prefix_filterMap (h : r.HasValues first values tags) (hfirst : first) :
    values <+: tags.filterMap r.value? := by
  induction h with
  | nil => exact List.nil_prefix
  | here htag hnext h ih =>
    rw [List.filterMap_cons_some (r.value?_of_shows htag), List.prefix_cons_inj]
    exact ih
  | later hnone h ih =>
    rw [List.filterMap_cons_none (hnone hfirst)]
    exact ih

/-- The first values may be claimed under a stronger condition only. -/
theorem imp {other : Prop} (himp : other → first) (h : r.HasValues first values tags) :
    r.HasValues other values tags := by
  induction h with
  | nil => exact .nil
  | here htag hnext h ih => exact .here htag hnext ih
  | later hfirst h ih => exact .later (fun ho => hfirst (himp ho)) ih

/-- Tags before the values do not matter, unless they have values themselves. -/
theorem append (before : List (List Char))
    (hbefore : first → ∀ tag ∈ before, r.value? tag = none) (h : r.HasValues first values tags) :
    r.HasValues first values (before ++ tags) := by
  induction before with
  | nil => exact h
  | cons tag before ih =>
    exact .later (fun hf => hbefore hf tag List.mem_cons_self)
      (ih fun hf tag' hmem => hbefore hf tag' (List.mem_cons_of_mem _ hmem))

/-- A new tag does no harm where it cuts a tag with a value behind its end, or not at all. -/
theorem insert {before after : List (List Char)} {kept moved tag : List Char}
    (htag : r.value? (tag ++ moved) = none)
    (hcut : OpensNext after → '>' ∈ kept ∧ (tag ++ moved).head? ≠ some '/')
    (h : r.HasValues first values (before ++ (kept ++ moved) :: after)) :
    r.HasValues first values (before ++ kept :: (tag ++ moved) :: after) := by
  -- The induction goes along the tags up to the cut; what comes behind it is as it was.
  induction before generalizing values with
  | nil =>
    rw [List.nil_append] at h ⊢
    cases h with
    | nil => exact .nil
    | here hshows hnext h =>
      obtain ⟨hkept, hopen⟩ := hcut hnext
      exact .here (r.shows_of_append hkept hshows) ⟨_, rfl, hopen⟩ (.later (fun _ => htag) h)
    | later hfirst h =>
      exact .later (fun hf => r.value?_of_append (hfirst hf)) (.later (fun _ => htag) h)
  | cons tag' before ih =>
    rw [List.cons_append] at h ⊢
    cases h with
    | nil => exact .nil
    | here hshows hnext h => exact .here hshows hnext.insert (ih h)
    | later hfirst h => exact .later hfirst (ih h)

/-- **A cut keeps the values of a page.** -/
theorem cut (h : r.HasValues first values tags) (hcut : TagCut tags other) :
    r.HasValues first values other := by
  cases hcut with
  | @opening before after kept moved tag hkept htag =>
    -- The cut is behind the end of its tag.
    have hhead : (tag ++ moved).head? = some 'a' := by
      rw [List.head?_append, htag]
      rfl
    refine insert (r.value?_of_head? (.inl hhead)) (fun _ => ⟨hkept, ?_⟩) h
    rw [hhead]
    decide
  | @closing before after kept moved next hnext =>
    -- A closing tag comes next, so that the tag of the cut shows none of the values.
    refine insert (r.value?_of_head? (.inr rfl)) (fun hopen => ?_) h
    obtain ⟨_, hmem, hother⟩ := hopen
    obtain rfl := Option.some.inj hmem
    exact absurd hnext hother

/-- **Linking keeps the values of a page.** -/
theorem cuts (h : r.HasValues first values tags) (hcuts : TagCuts tags other) :
    r.HasValues first values other := by
  induction hcuts with
  | refl => exact h
  | tail _ hcut ih => exact ih.cut hcut

end HasValues

/-! ### Tags that begin elements -/

/-- **The reader of the tags that begin elements**, but those whose names begin with an `a`. -/
def ofTags (w : WrittenTag → Option β) (hw : ∀ t, t.name.toList.head? = some 'a' → w t = none) :
    TagReader β where
  value? tag := (readTag? tag).bind w
  Shows value tag := (readTag? tag).bind w = some value
  value?_of_shows h := h
  shows_of_append hkept h := by rwa [readTag?_append hkept] at h
  value?_of_append {kept moved} h := by
    by_cases hkept : '>' ∈ kept
    · rwa [readTag?_append hkept] at h
    · rw [readTag?_eq_none hkept]
      rfl
  value?_of_head? {tag} h := by
    rw [Option.bind_eq_none_iff]
    intro t ht
    rcases h with h | h
    · exact hw t ((head?_name_of_readTag? ht).trans h)
    · obtain ⟨cs, rfl⟩ := List.head?_eq_some_iff.mp h
      rw [readTag?_of_isDeadTag rfl] at ht
      cases ht

variable {w : WrittenTag → Option β} {hw : ∀ t, t.name.toList.head? = some 'a' → w t = none}

theorem filterMap_ofTags (page : List Char) :
    (tagTexts page).filterMap (ofTags w hw).value? = (readTags page).filterMap w :=
  (List.filterMap_filterMap ..).symm

/-- Whole markup puts its tags before the others. -/
theorem exists_tagTexts_append {m : Markup} (h : m.IsWhole) (rest : List Char) :
    ∃ before, tagTexts (m.text.toList ++ rest) = before ++ tagTexts rest ∧
      before.filterMap readTag? = m.tags := by
  -- Whole markup adds nothing to the tags behind it, so that its own are all that stand before
  -- them.
  have hread (before : List (List Char))
      (hsplit : tagTexts (m.text.toList ++ rest) = before ++ tagTexts rest) :
      before.filterMap readTag? = m.tags := by
    have hrest := h rest
    unfold readTags at hrest
    rwa [hsplit, List.filterMap_append, List.append_left_inj] at hrest
  by_cases hm : '<' ∈ m.text.toList
  · obtain ⟨before, last, hlast, htext⟩ := exists_last_tag hm
    have hsplit : tagTexts (m.text.toList ++ rest) =
        (tagTexts before ++ [last ++ leadText rest]) ++ tagTexts rest := by
      rw [htext, tagTexts_append hlast, List.append_assoc, List.singleton_append]
    exact ⟨_, hsplit, hread _ hsplit⟩
  · exact ⟨[], tagTexts_text_append hm rest, hread [] (tagTexts_text_append hm rest)⟩

/-- Markup whose tags have no values may stand before those that have. -/
theorem HasValues.behind_markup {m : Markup} (hm : m.IsWhole)
    (hnone : first → ∀ t ∈ m.tags, w t = none) {rest : List Char}
    (h : (ofTags w hw).HasValues first values (tagTexts rest)) :
    (ofTags w hw).HasValues first values (tagTexts (m.text.toList ++ rest)) := by
  obtain ⟨before, hsplit, hread⟩ := exists_tagTexts_append hm rest
  rw [hsplit]
  refine h.append before fun hfirst tag htag => Option.bind_eq_none_iff.mpr fun t ht => ?_
  refine hnone hfirst t ?_
  rw [← hread]
  exact List.mem_filterMap.mpr ⟨tag, htag, ht⟩

end TagReader

/-! ### Lines with one tag -/

namespace Markup

/-- **Markup is a single tag** that begins an element, with text before it. -/
def IsTag (m : Markup) (t : WrittenTag) : Prop :=
  ∃ blank tag, m.text.toList = blank ++ '<' :: tag ∧ '<' ∉ blank ∧ '<' ∉ tag ∧ '>' ∈ tag ∧
    readTag? tag = some t

theorem isTag_startTag {name : String} {attrs : List Markup} (hname : isTagName name.toList = true)
    (hattrs : ∀ a ∈ attrs, a.IsAttribute) :
    (startTag name attrs).IsTag ⟨name, attrs.flatMap attributes⟩ := by
  have htext : (startTag name attrs).text.toList =
      '<' :: (name.toList ++ (concat attrs).text.toList ++ ['>']) := by
    have hopen : (html ("<" ++ name)).text.toList = '<' :: name.toList := String.toList_append
    unfold startTag
    rw [toList_append, toList_append, hopen]
    rfl
  have hletter : '<' ∉ name.toList := fun hmem => by
    cases isAlphanum_of_isTagName hname hmem
  have hopen : '<' ∉ name.toList ++ (concat attrs).text.toList ++ ['>'] := by
    rw [List.mem_append, List.mem_append, not_or, not_or]
    exact ⟨⟨hletter, notMem_toList_concat fun a ha =>
      bracket_notMem_of_isAttribute (hattrs a ha) (by decide)⟩, by decide⟩
  have hclose : '>' ∈ name.toList ++ (concat attrs).text.toList ++ ['>'] :=
    List.mem_append_right _ List.mem_cons_self
  -- The tag is read off the markup, which has no other.
  have hread := (isWhole_of_tag _ htext hopen hclose).2
  rw [tags_startTag hname hattrs] at hread
  refine ⟨[], _, htext, List.not_mem_nil, hopen, hclose, ?_⟩
  exact Option.toList_eq_singleton_iff.mp hread.symm

theorem IsTag.indent {m : Markup} {t : WrittenTag} (h : m.IsTag t) (n : Nat) :
    (Markup.indent n m).IsTag t := by
  obtain ⟨blank, tag, htext, hblank, hopen, hclose, hread⟩ := h
  refine ⟨List.replicate n ' ' ++ blank, tag, ?_, ?_, hopen, hclose, hread⟩
  · rw [toList_indent, htext, List.append_assoc]
  · rw [List.mem_append, not_or]
    exact ⟨fun hmem => absurd (List.eq_of_mem_replicate hmem) (by decide), hblank⟩

theorem IsTag.tagTexts_append {m : Markup} {t : WrittenTag} (h : m.IsTag t) (rest : List Char) :
    ∃ tag, readTag? tag = some t ∧ tagTexts (m.text.toList ++ rest) = tag :: tagTexts rest := by
  obtain ⟨blank, tag, htext, hblank, hopen, hclose, hread⟩ := h
  refine ⟨tag ++ leadText rest, by rw [readTag?_append hclose, hread], ?_⟩
  rw [htext, List.append_assoc, List.cons_append, tagTexts_text_append hblank, tagTexts_tag,
    leadText_append hopen, tagTexts_text_append hopen]

theorem IsTag.opensNext {m : Markup} {t : WrittenTag} (h : m.IsTag t) (rest : List Char) :
    OpensNext (tagTexts (m.text.toList ++ rest)) := by
  obtain ⟨tag, hread, htags⟩ := h.tagTexts_append rest
  rw [htags]
  refine ⟨tag, rfl, fun hhead => ?_⟩
  obtain ⟨cs, rfl⟩ := List.head?_eq_some_iff.mp hhead
  rw [readTag?_of_isDeadTag rfl] at hread
  cases hread

end Markup

/-- **Lines with one tag each** show their values, if a tag follows them that is no closing tag. -/
theorem TagReader.HasValues.rows {β : Type} {w : WrittenTag → Option β}
    {hw : ∀ t, t.name.toList.head? = some 'a' → w t = none} {first : Prop} {values : List β}
    {ms : List Markup} {ts : List WrittenTag} (hms : List.Forall₂ Markup.IsTag ms ts)
    {rest : List Char} (hnext : OpensNext (tagTexts rest))
    (h : (ofTags w hw).HasValues first values (tagTexts rest)) :
    (ofTags w hw).HasValues first (ts.filterMap w ++ values)
        (tagTexts ((Markup.rows ms).text.toList ++ rest)) ∧
      OpensNext (tagTexts ((Markup.rows ms).text.toList ++ rest)) := by
  -- On the lines. What is kept along is that the next tag opens something, for a value is shown
  -- only if no closing tag comes next.
  induction hms with
  | nil => exact ⟨h, hnext⟩
  | @cons m t ms ts hm hms ih =>
    have hbreak (cs : List Char) : tagTexts ('
' :: cs) = tagTexts cs := rfl
    rw [Markup.toList_rows_cons, List.append_assoc, List.cons_append]
    refine ⟨?_, hm.opensNext _⟩
    obtain ⟨tag, hread, htags⟩ := hm.tagTexts_append ('
' :: ((Markup.rows ms).text.toList ++ rest))
    rw [htags, hbreak]
    cases ht : w t with
    | none =>
      rw [List.filterMap_cons_none ht]
      refine .later (fun _ => ?_) ih.1
      show (readTag? tag).bind w = none
      rw [hread]
      exact ht
    | some value =>
      rw [List.filterMap_cons_some ht, List.cons_append]
      refine .here ?_ ih.2 ih.1
      show (readTag? tag).bind w = some value
      rw [hread]
      exact ht

end StaticSite
