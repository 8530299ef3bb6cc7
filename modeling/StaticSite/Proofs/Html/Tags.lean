import StaticSite.Html.Markup
import StaticSite.Proofs.Html.Brackets
import StaticSite.Text.Blank

/-!
# The tags of a page

A page is read as its text shows it: a `<` begins a tag, and what follows up to the next `<` is the
text of the tag, with the text between the two tags. `tagTexts` are the texts of the tags of a page,
in order. No text of a page can be mistaken for a tag, since a `<` in it is escaped.

Tags of a page that is put together are those of its parts, except that the last tag of one part
takes up the text that the next part begins with (`tagTexts_append`). So a tag that is put into a
page cuts one of its tags in two (`tagTexts_insert`) and leaves all others as they are.

A value stands in a tag behind a known opening, and ends where a known character comes, as the
address of a link ends with a quote. `valueAfter?` reads it off the text of a tag, and `valuesAfter`
off all tags of a page.

The rest of a page must not be taken for a value. A tag is another one than those with the opening
(`IsOtherTag`) if it differs from the opening before either ends, so that it does not matter what
text follows the tag. Markup with other tags only (`Markup.HasOtherTags`) adds no values to a page,
wherever it stands (`filterMap_valueAfter?_append`).
-/

namespace StaticSite

/-- The text at the beginning of a page, before its first tag. -/
def leadText (page : List Char) : List Char := page.takeWhile (· != '<')

/-- The texts of the tags of a page, each with the text that follows the tag. -/
def tagTexts : List Char → List (List Char)
  | [] => []
  | c :: cs => if c == '<' then leadText cs :: tagTexts cs else tagTexts cs

/-- Text without a character is taken whole, up to the character. -/
theorem takeWhile_bne_append {c : Char} {xs : List Char} (h : c ∉ xs) (ys : List Char) :
    (xs ++ ys).takeWhile (· != c) = xs ++ ys.takeWhile (· != c) :=
  List.takeWhile_append_of_pos fun d hd => by
    rw [bne_iff_ne]
    rintro rfl
    exact h hd

/-- Text without a character is dropped whole, up to the character. -/
theorem dropWhile_bne_append {c : Char} {xs : List Char} (h : c ∉ xs) (ys : List Char) :
    (xs ++ ys).dropWhile (· != c) = ys.dropWhile (· != c) :=
  List.dropWhile_append_of_pos fun d hd => by
    rw [bne_iff_ne]
    rintro rfl
    exact h hd

theorem leadText_append_tag (xs ys : List Char) :
    leadText (xs ++ '<' :: ys) = leadText xs := by
  induction xs with
  | nil => rfl
  | cons x xs ih =>
    unfold leadText at ih ⊢
    rw [List.cons_append, List.takeWhile_cons, List.takeWhile_cons, ih]

/-- Text before a page becomes part of the text it begins with. -/
theorem leadText_append {xs : List Char} (hx : '<' ∉ xs) (ys : List Char) :
    leadText (xs ++ ys) = xs ++ leadText ys :=
  takeWhile_bne_append hx ys

@[simp]
theorem tagTexts_tag (cs : List Char) : tagTexts ('<' :: cs) = leadText cs :: tagTexts cs := rfl

/-- Text before a page adds no tags. -/
theorem tagTexts_text_append {xs : List Char} (hx : '<' ∉ xs) (ys : List Char) :
    tagTexts (xs ++ ys) = tagTexts ys := by
  induction xs with
  | nil => rfl
  | cons x xs ih =>
    rw [List.mem_cons, not_or] at hx
    rw [List.cons_append, tagTexts, if_neg (by simpa using Ne.symm hx.1)]
    exact ih hx.2

theorem tagTexts_eq_nil {xs : List Char} (hx : '<' ∉ xs) : tagTexts xs = [] := by
  have h := tagTexts_text_append hx []
  rwa [List.append_nil] at h

/-- The tags of a page have no other characters than the page. -/
theorem mem_of_mem_tagTexts {page tag : List Char} (htag : tag ∈ tagTexts page) {c : Char}
    (hc : c ∈ tag) : c ∈ page := by
  induction page with
  | nil => exact absurd htag List.not_mem_nil
  | cons d page ih =>
    refine List.mem_cons_of_mem d ?_
    rw [tagTexts] at htag
    split at htag
    · rcases List.mem_cons.mp htag with rfl | htag
      · exact (List.takeWhile_prefix _).subset hc
      · exact ih htag
    · exact ih htag

/-- A page that goes on with a tag has the tags of both parts. -/
theorem tagTexts_append_tag (xs ys : List Char) :
    tagTexts (xs ++ '<' :: ys) = tagTexts xs ++ tagTexts ('<' :: ys) := by
  induction xs with
  | nil => rfl
  | cons x xs ih =>
    have hcons (cs : List Char) :
        tagTexts (x :: cs) = if x == '<' then leadText cs :: tagTexts cs else tagTexts cs := rfl
    rw [List.cons_append, hcons, hcons, leadText_append_tag, ih]
    split <;> rfl

/-- The last tag of a page takes up the text that is put behind the page. -/
theorem tagTexts_append {last : List Char} (hlast : '<' ∉ last) (xs ys : List Char) :
    tagTexts (xs ++ '<' :: last ++ ys) = tagTexts xs ++ (last ++ leadText ys) :: tagTexts ys := by
  rw [List.append_assoc, List.cons_append, tagTexts_append_tag, tagTexts_tag,
    leadText_append hlast, tagTexts_text_append hlast]

/-- **A tag that is put into a page cuts the tag before it in two**: what followed the cut follows
the new tag. -/
theorem tagTexts_insert {last tag : List Char} (hlast : '<' ∉ last) (htag : '<' ∉ tag)
    (xs ys : List Char) :
    tagTexts (xs ++ '<' :: last ++ ('<' :: tag ++ ys)) =
      tagTexts xs ++ last :: (tag ++ leadText ys) :: tagTexts ys := by
  have hlead : leadText ('<' :: (tag ++ ys)) = [] := rfl
  rw [tagTexts_append hlast, List.cons_append, hlead, List.append_nil, tagTexts_tag,
    leadText_append htag, tagTexts_text_append htag]

theorem tagTexts_append_last {last : List Char} (hlast : '<' ∉ last) (xs : List Char) :
    tagTexts (xs ++ '<' :: last) = tagTexts xs ++ [last] := by
  have h := tagTexts_append hlast xs []
  rwa [List.append_nil, leadText, List.takeWhile_nil, List.append_nil] at h

/-- A page with a tag ends with its last one. -/
theorem exists_last_tag {xs : List Char} (h : '<' ∈ xs) :
    ∃ before last, '<' ∉ last ∧ xs = before ++ '<' :: last := by
  induction xs with
  | nil => exact absurd h List.not_mem_nil
  | cons x xs ih =>
    by_cases hxs : '<' ∈ xs
    -- A tag further on is the last one; otherwise `x` begins it.
    · obtain ⟨before, last, hlast, rfl⟩ := ih hxs
      exact ⟨x :: before, last, hlast, rfl⟩
    · obtain rfl : '<' = x := (List.mem_cons.mp h).resolve_right hxs
      exact ⟨[], xs, hxs, rfl⟩

/-- What holds of the tags of two parts holds of the tags of both, if it holds of a tag of the first
part that takes up the text at the beginning of the second one. -/
theorem forall_tagTexts_append {P Q : List Char → Prop} {xs ys : List Char}
    (hxs : ∀ tag ∈ tagTexts xs, P tag) (hys : ∀ tag ∈ tagTexts ys, Q tag)
    (hkept : ∀ tag, P tag → Q tag) (hlast : ∀ tag, P tag → Q (tag ++ leadText ys)) :
    ∀ tag ∈ tagTexts (xs ++ ys), Q tag := by
  by_cases hx : '<' ∈ xs
  -- Of the tags of the first part only the last one changes.
  · obtain ⟨before, last, hnot, rfl⟩ := exists_last_tag hx
    rw [tagTexts_append_last hnot, List.forall_mem_append, List.forall_mem_singleton] at hxs
    rw [tagTexts_append hnot, List.forall_mem_append, List.forall_mem_cons]
    exact ⟨fun tag hmem => hkept tag (hxs.1 tag hmem), hlast last hxs.2, hys⟩
  · rwa [tagTexts_text_append hx]

/-! ### Lines -/

/-- What holds of lines and of line feeds holds of the lines put together, if it holds of any two
texts one after the other. -/
theorem Text.forall_unlines {P : List Char → Prop} (hnone : P []) (hbreak : P ['\n'])
    (happend : ∀ xs ys, P xs → P ys → P (xs ++ ys)) {ls : List String} (h : ∀ l ∈ ls, P l.toList) :
    P (Text.unlines ls).toList := by
  unfold Text.unlines
  rw [String.toList_intercalate]
  induction ls with
  | nil => exact hnone
  | cons l ls ih =>
    rw [List.forall_mem_cons] at h
    cases ls with
    | nil =>
      rw [List.map_singleton, List.intercalate_singleton]
      exact h.1
    | cons l' ls =>
      rw [List.map_cons, List.map_cons, List.intercalate_cons_cons]
      exact happend _ _ (happend _ _ h.1 hbreak) (ih h.2)

/-! ### The text of markup -/

namespace Markup

theorem toList_append (a b : Markup) : (a ++ b).text.toList = a.text.toList ++ b.text.toList :=
  String.toList_append

theorem html_append (s t : String) : html (s ++ t) = html s ++ html t := rfl

theorem concat_cons (m : Markup) (ms : List Markup) : concat (m :: ms) = m ++ concat ms :=
  congrArg Markup.mk String.join_cons

theorem toList_indent (n : Nat) (m : Markup) :
    (indent n m).text.toList = List.replicate n ' ' ++ m.text.toList := by
  unfold indent
  rw [toList_append]
  exact congrArg (· ++ m.text.toList) String.toList_ofList

theorem toList_rows_append (ms ns : List Markup) :
    (rows (ms ++ ns)).text.toList = (rows ms).text.toList ++ (rows ns).text.toList := by
  unfold rows concat
  rw [List.map_append, List.map_append, String.join_append, String.toList_append]

theorem toList_rows_cons (m : Markup) (ms : List Markup) :
    (rows (m :: ms)).text.toList = m.text.toList ++ '\n' :: (rows ms).text.toList := by
  have hrow : (m ++ html "\n").text.toList = m.text.toList ++ ['\n'] := toList_append m (html "\n")
  unfold rows concat
  rw [List.map_cons, List.map_cons, String.join_cons, String.toList_append, hrow,
    List.append_assoc]
  rfl

theorem joinWith_singleton (sep : String) (m : Markup) : joinWith sep [m] = m := by
  simp [joinWith]

/-- The first piece of markup that is joined is followed by the separator. -/
theorem toList_joinWith_cons_cons (sep : String) (m n : Markup) (ms : List Markup) :
    (joinWith sep (m :: n :: ms)).text.toList =
      m.text.toList ++ sep.toList ++ (joinWith sep (n :: ms)).text.toList := by
  have htext (ks : List Markup) : (joinWith sep ks).text.toList =
      (sep.intercalate (ks.map (·.text))).toList := rfl
  rw [htext, htext, String.toList_intercalate, String.toList_intercalate, List.map_cons,
    List.map_cons, List.map_cons, List.map_cons, List.intercalate_cons_cons, ← List.map_cons]

/-- Markup that is joined begins with its first piece. -/
theorem exists_toList_joinWith (sep : String) (m : Markup) (ms : List Markup) :
    ∃ rest, (joinWith sep (m :: ms)).text.toList = m.text.toList ++ rest := by
  cases ms with
  | nil => exact ⟨[], by rw [joinWith_singleton, List.append_nil]⟩
  | cons n ms =>
    rw [toList_joinWith_cons_cons, List.append_assoc]
    exact ⟨_, rfl⟩

/-! ### What holds of all tags -/

/-- **All tags of markup have a property.** -/
def HasTags (P : List Char → Prop) (m : Markup) : Prop := ∀ tag ∈ tagTexts m.text.toList, P tag

namespace HasTags

variable {P : List Char → Prop}

/-- Text has no tags. -/
theorem of_notMem {m : Markup} (h : '<' ∉ m.text.toList) : m.HasTags P := by
  unfold HasTags
  rw [tagTexts_eq_nil h]
  exact fun tag hmem => absurd hmem List.not_mem_nil

variable (hP : ∀ {tag}, P tag → ∀ more, P (tag ++ more))
include hP

/-- A property that shows in the beginning of a tag is kept when text follows the tag. -/
theorem append {a b : Markup} (ha : a.HasTags P) (hb : b.HasTags P) : (a ++ b).HasTags P := by
  unfold HasTags
  rw [toList_append]
  exact forall_tagTexts_append ha hb (fun _ h => h) fun _ h => hP h _

theorem concat {ms : List Markup} (h : ∀ m ∈ ms, m.HasTags P) : (concat ms).HasTags P := by
  induction ms with
  | nil => exact of_notMem (by decide)
  | cons m ms ih =>
    rw [List.forall_mem_cons] at h
    rw [concat_cons]
    exact append hP h.1 (ih h.2)

theorem rows {ms : List Markup} (h : ∀ m ∈ ms, m.HasTags P) : (rows ms).HasTags P :=
  concat hP (List.forall_mem_map.mpr fun m hm => append hP (h m hm) (of_notMem (by decide)))

theorem indent {m : Markup} (h : m.HasTags P) (n : Nat) : (indent n m).HasTags P := by
  refine append hP (of_notMem ?_) h
  show '<' ∉ (String.ofList (List.replicate n ' ')).toList
  rw [String.toList_ofList, List.mem_replicate, not_and]
  exact fun _ => by decide

theorem joinWith {sep : String} (hsep : '<' ∉ sep.toList) {ms : List Markup}
    (h : ∀ m ∈ ms, m.HasTags P) : (joinWith sep ms).HasTags P := by
  induction ms with
  | nil => exact of_notMem List.not_mem_nil
  | cons m ms ih =>
    rw [List.forall_mem_cons] at h
    cases ms with
    | nil =>
      rw [joinWith_singleton]
      exact h.1
    | cons n ms =>
      have hhead : (m ++ html sep).HasTags P := append hP h.1 (of_notMem hsep)
      have hall := append hP hhead (ih h.2)
      unfold HasTags at hall ⊢
      rw [toList_joinWith_cons_cons]
      rwa [toList_append, toList_append] at hall

end HasTags

end Markup

/-! ### Values in tags -/

variable {opening : List Char} {stop : Char}

/-- The value in a tag that begins with an opening: what follows, up to a character. -/
def valueAfter? (opening : List Char) (stop : Char) (tag : List Char) : Option String :=
  if opening <+: tag then some (String.ofList ((tag.drop opening.length).takeWhile (· != stop)))
  else none

/-- The values in the tags of a page that begin with an opening, in order. -/
def valuesAfter (opening : List Char) (stop : Char) (page : String) : List String :=
  (tagTexts page.toList).filterMap (valueAfter? opening stop)

theorem valueAfter?_eq_none_iff {tag : List Char} :
    valueAfter? opening stop tag = none ↔ ¬ opening <+: tag := by
  unfold valueAfter?
  split
  · next h => exact ⟨nofun, fun hnot => absurd h hnot⟩
  · next h => exact ⟨fun _ => h, fun _ => rfl⟩

/-- A value without the character is read as it is, if the character comes next or nothing does. -/
theorem valueAfter?_append {value : String} (hvalue : stop ∉ value.toList) {rest : List Char}
    (hrest : rest.takeWhile (· != stop) = []) :
    valueAfter? opening stop (opening ++ (value.toList ++ rest)) = some value := by
  have htake : (value.toList ++ rest).takeWhile (· != stop) = value.toList := by
    rw [takeWhile_bne_append hvalue, hrest, List.append_nil]
  unfold valueAfter?
  rw [if_pos (List.prefix_append _ _), List.drop_left, htake, String.ofList_toList]

/-- A tag that is cut has no value if it had none before. -/
theorem valueAfter?_of_append {kept moved : List Char}
    (h : valueAfter? opening stop (kept ++ moved) = none) :
    valueAfter? opening stop kept = none := by
  rw [valueAfter?_eq_none_iff] at h ⊢
  exact fun hkept => h (hkept.trans (List.prefix_append kept moved))

/-- A character that is not in the opening cannot complete it. -/
theorem valueAfter?_append_cons {tag : List Char} {c : Char} (hc : c ∉ opening)
    (h : valueAfter? opening stop tag = none) (more : List Char) :
    valueAfter? opening stop (tag ++ c :: more) = none := by
  rw [valueAfter?_eq_none_iff] at h ⊢
  intro hopening
  rcases List.prefix_or_prefix_of_prefix hopening (List.prefix_append tag (c :: more)) with ht | ht
  · exact h ht
  -- The opening is longer than the tag, so that it goes on with `c`.
  · obtain ⟨rest, rfl⟩ := ht
    rw [List.prefix_append_right_inj] at hopening
    cases rest with
    | nil =>
      rw [List.append_nil] at h
      exact h List.prefix_rfl
    | cons d rest =>
      obtain rfl : d = c := (List.cons_prefix_cons.mp hopening).1
      exact hc (List.mem_append_right _ List.mem_cons_self)

/-! ### Other tags -/

/-- **A tag is another one than those with an opening**, whatever follows it: neither begins with
the other. -/
def IsOtherTag (opening tag : List Char) : Prop := ¬ opening <+: tag ∧ ¬ tag <+: opening

instance (opening tag : List Char) : Decidable (IsOtherTag opening tag) :=
  inferInstanceAs (Decidable (_ ∧ _))

theorem IsOtherTag.append {tag : List Char} (h : IsOtherTag opening tag) (more : List Char) :
    IsOtherTag opening (tag ++ more) := by
  refine ⟨fun hopening => ?_, fun htag => h.2 ((List.prefix_append tag more).trans htag)⟩
  rcases List.prefix_or_prefix_of_prefix hopening (List.prefix_append tag more) with ht | ht
  · exact h.1 ht
  · exact h.2 ht

theorem IsOtherTag.valueAfter?_eq_none {tag : List Char} (h : IsOtherTag opening tag) :
    valueAfter? opening stop tag = none :=
  valueAfter?_eq_none_iff.mpr h.1

/-- **Markup has other tags** than those with an opening. -/
def Markup.HasOtherTags (opening : List Char) (m : Markup) : Prop :=
  ∀ tag ∈ tagTexts m.text.toList, IsOtherTag opening tag

namespace Markup.HasOtherTags

instance (m : Markup) : Decidable (m.HasOtherTags opening) :=
  inferInstanceAs (Decidable (∀ tag ∈ _, _))

theorem append {a b : Markup} (ha : a.HasOtherTags opening) (hb : b.HasOtherTags opening) :
    (a ++ b).HasOtherTags opening := HasTags.append IsOtherTag.append ha hb

theorem of_notMem {m : Markup} (h : '<' ∉ m.text.toList) : m.HasOtherTags opening :=
  HasTags.of_notMem h

theorem esc (s : String) : (esc s).HasOtherTags opening :=
  of_notMem (notMem_toList_esc s (by decide))

theorem concat {ms : List Markup} (h : ∀ m ∈ ms, m.HasOtherTags opening) :
    (concat ms).HasOtherTags opening := HasTags.concat IsOtherTag.append h

theorem rows {ms : List Markup} (h : ∀ m ∈ ms, m.HasOtherTags opening) :
    (rows ms).HasOtherTags opening := HasTags.rows IsOtherTag.append h

theorem indent {n : Nat} {m : Markup} (h : m.HasOtherTags opening) :
    (indent n m).HasOtherTags opening := HasTags.indent IsOtherTag.append h n

/-- The value of an attribute is escaped. -/
theorem attr {name : String} (hname : '<' ∉ name.toList) (value : String) :
    (attr name value).HasOtherTags opening := by
  refine ((of_notMem ?_).append (.esc value)).append (of_notMem (by decide))
  show '<' ∉ (" " ++ name ++ "=\"").toList
  rw [String.toList_append, String.toList_append, List.mem_append, List.mem_append, not_or, not_or]
  exact ⟨⟨by decide, hname⟩, by decide⟩

/-- An element is another one if its name shows it. -/
theorem startTag {name : String} {attrs : List Markup}
    (hname : (html ("<" ++ name)).HasOtherTags opening)
    (hattrs : ∀ m ∈ attrs, m.HasOtherTags opening) : (startTag name attrs).HasOtherTags opening :=
  (hname.append (concat hattrs)).append (of_notMem (by decide))

end Markup.HasOtherTags

/-- **Other tags add no values** to a page, whatever the page is. -/
theorem filterMap_valueAfter?_append {xs : List Char}
    (hxs : ∀ tag ∈ tagTexts xs, IsOtherTag opening tag) (ys : List Char) :
    (tagTexts (xs ++ ys)).filterMap (valueAfter? opening stop) =
      (tagTexts ys).filterMap (valueAfter? opening stop) := by
  by_cases hx : '<' ∈ xs
  · obtain ⟨before, last, hnot, rfl⟩ := exists_last_tag hx
    rw [tagTexts_append_last hnot, List.forall_mem_append, List.forall_mem_singleton] at hxs
    have hbefore : (tagTexts before).filterMap (valueAfter? opening stop) = [] :=
      List.filterMap_eq_nil_iff.mpr fun tag hmem => (hxs.1 tag hmem).valueAfter?_eq_none
    rw [tagTexts_append hnot, List.filterMap_append, hbefore, List.nil_append,
      List.filterMap_cons_none (hxs.2.append _).valueAfter?_eq_none]
  · rw [tagTexts_text_append hx]

/-- A tag with the opening gives its value, between those of what stands before and behind it. -/
theorem filterMap_valueAfter?_tag {before last after : List Char} {value : String}
    (hbefore : ∀ tag ∈ tagTexts before, IsOtherTag opening tag) (hvalue : stop ∉ value.toList)
    (hbracket : '<' ∉ opening ++ (value.toList ++ stop :: last)) :
    (tagTexts (before ++ '<' :: (opening ++ (value.toList ++ stop :: last)) ++ after)).filterMap
        (valueAfter? opening stop) =
      value :: (tagTexts after).filterMap (valueAfter? opening stop) := by
  have hnone : (tagTexts before).filterMap (valueAfter? opening stop) = [] :=
    List.filterMap_eq_nil_iff.mpr fun tag htag => (hbefore tag htag).valueAfter?_eq_none
  have hread : valueAfter? opening stop
      (opening ++ (value.toList ++ (stop :: (last ++ leadText after)))) = some value :=
    valueAfter?_append hvalue (by simp)
  rw [tagTexts_append hbracket, List.filterMap_append, hnone, List.nil_append,
    List.append_assoc, List.append_assoc, List.cons_append, List.filterMap_cons_some hread]

end StaticSite
