import StaticSite.Proofs.Html.Links
import StaticSite.Text.Blank

/-!
# Tags that begin elements

`readTags` are the tags of a page that begin elements, with their attributes. They are read as the
page shows them: a tag ends with its first `>`, its name ends with a space, a slash or the end of
the tag, and its values stand between double quotes, where the references for the five escaped
characters count as the characters (`Markup.unescape`). So the value of an attribute is read as it
was given to the tag, whatever it was (`Markup.attributes_attr`).

The code of a script may compare two numbers and hold a `<` that begins no tag. `IsInert` says so of
a text, whatever follows it.
-/

namespace StaticSite

/-! ### Values -/

/-- The text with the references for the escaped characters resolved. -/
def Markup.unescape : List Char → List Char
  | '&' :: 'a' :: 'm' :: 'p' :: ';' :: cs => '&' :: unescape cs
  | '&' :: 'l' :: 't' :: ';' :: cs => '<' :: unescape cs
  | '&' :: 'g' :: 't' :: ';' :: cs => '>' :: unescape cs
  | '&' :: '#' :: '3' :: '9' :: ';' :: cs => '\'' :: unescape cs
  | '&' :: '#' :: '3' :: '4' :: ';' :: cs => '"' :: unescape cs
  | c :: cs => c :: unescape cs
  | [] => []

namespace Markup

theorem unescape_cons {c : Char} (h : c ≠ '&') (cs : List Char) :
    unescape (c :: cs) = c :: unescape cs := by
  rw [unescape.eq_def]
  split <;> simp_all

/-- **Escaping is undone**, so that different texts are escaped differently. -/
theorem unescape_escape (s : List Char) : unescape (s.flatMap escapeChar) = s := by
  induction s with
  | nil => rfl
  | cons c s ih =>
    rw [List.flatMap_cons, escapeChar]
    -- One case for each reference; the last one is that of a character that is left as it is.
    split
    case isTrue h => rw [eq_of_beq h]; exact congrArg ('&' :: ·) ih
    split
    case isTrue h => rw [eq_of_beq h]; exact congrArg ('<' :: ·) ih
    split
    case isTrue h => rw [eq_of_beq h]; exact congrArg ('>' :: ·) ih
    split
    case isTrue h => rw [eq_of_beq h]; exact congrArg ('\'' :: ·) ih
    split
    case isTrue h => rw [eq_of_beq h]; exact congrArg ('"' :: ·) ih
    case isFalse hand _ _ _ _ =>
      rw [List.singleton_append, unescape_cons (by simpa using hand), ih]

theorem unescape_toList_esc (s : String) : unescape (esc s).text.toList = s.toList := by
  show unescape (String.ofList (s.toList.flatMap escapeChar)).toList = s.toList
  rw [String.toList_ofList, unescape_escape]

end Markup

/-! ### Tags -/

/-- A tag that begins an element: its name and its attributes with a value. -/
structure WrittenTag where
  name : String
  attributes : List (String × String)
deriving DecidableEq, Repr

/-- The attributes of a text that is cut at its quotes: a value stands behind each piece that ends
in a name and an equals sign. -/
def quotedAttributes : List (List Char) → List (String × String)
  | piece :: value :: pieces =>
    (String.ofList (lastWord piece).dropLast, String.ofList (Markup.unescape value)) ::
      quotedAttributes pieces
  | _ => []

/-- Whether a character goes on with the name of a tag. -/
def isNamePart (c : Char) : Bool := !([' ', '/', '>'].contains c)

/-- Whether a text is the name of a tag: a letter, and then letters and digits. -/
@[simp]
def isTagName : List Char → Bool
  | [] => false
  | c :: cs => c.isAlpha && cs.all Char.isAlphanum

theorem isAlphanum_of_isTagName {cs : List Char} (h : isTagName cs = true) {c : Char}
    (hc : c ∈ cs) : c.isAlphanum = true := by
  cases cs with
  | nil => cases hc
  | cons d cs =>
    rw [isTagName, Bool.and_eq_true, List.all_eq_true] at h
    rcases List.mem_cons.mp hc with rfl | hc
    · rw [Char.isAlphanum, h.1, Bool.true_or]
    · exact h.2 c hc

theorem isNamePart_of_isAlphanum {c : Char} (h : c.isAlphanum = true) : isNamePart c = true := by
  rw [isNamePart, Bool.not_eq_true', List.contains_eq_mem, decide_eq_false_iff_not]
  simp only [List.mem_cons, List.not_mem_nil, or_false]
  rintro (rfl | rfl | rfl) <;> cases h

/-- The tag with a text, if it begins an element and has an end. -/
def readTag? (tag : List Char) : Option WrittenTag :=
  let name := tag.takeWhile isNamePart
  if isTagName name && tag.contains '>' then
    some
      { name := String.ofList name
        attributes := quotedAttributes (Text.splitOnChar '"' (tag.takeWhile (· != '>'))) }
  else none

/-- The tags of a page that begin elements, in order. -/
def readTags (page : List Char) : List WrittenTag := (tagTexts page).filterMap readTag?

/-- The tags of markup that begin elements, in order. -/
def Markup.tags (m : Markup) : List WrittenTag := readTags m.text.toList

/-- The attributes of a part of a tag. -/
def Markup.attributes (m : Markup) : List (String × String) :=
  quotedAttributes (Text.splitOnChar '"' m.text.toList)

/-- Text is taken up to a character that ends it, whatever stands behind. -/
theorem takeWhile_append_stop {p : Char → Bool} {c : Char} (h : p c = false) (xs ys : List Char) :
    (xs ++ c :: ys).takeWhile p = xs.takeWhile p := by
  induction xs with
  | nil => rw [List.nil_append, List.takeWhile_cons_of_neg (by simp [h]), List.takeWhile_nil]
  | cons x xs ih => rw [List.cons_append, List.takeWhile_cons, List.takeWhile_cons, ih]

/-- What follows the end of a tag is no part of it. -/
theorem readTag?_append {tag : List Char} (h : '>' ∈ tag) (more : List Char) :
    readTag? (tag ++ more) = readTag? tag := by
  obtain ⟨body, rest, rfl, -⟩ := List.eq_append_cons_of_mem h
  have hcontains (cs : List Char) : (body ++ '>' :: cs).contains '>' = true := by simp
  unfold readTag?
  rw [List.append_assoc, List.cons_append, takeWhile_append_stop rfl, takeWhile_append_stop rfl,
    takeWhile_append_stop rfl, takeWhile_append_stop rfl, hcontains, hcontains]

theorem readTag?_eq_none {tag : List Char} (h : '>' ∉ tag) : readTag? tag = none := by
  have hcontains : tag.contains '>' = false := by simpa using h
  unfold readTag?
  dsimp only
  rw [hcontains, Bool.and_false, if_neg Bool.false_ne_true]

/-- The name of an element is what its tag begins with. -/
theorem head?_name_of_readTag? {tag : List Char} {t : WrittenTag} (h : readTag? tag = some t) :
    t.name.toList.head? = tag.head? := by
  unfold readTag? at h
  dsimp only at h
  split at h
  · next hname =>
    cases h
    rw [String.toList_ofList]
    cases tag with
    | nil => rfl
    | cons c cs =>
      rw [List.takeWhile_cons] at hname ⊢
      split at hname
      · next hc =>
        rw [if_pos hc]
        rfl
      · cases hname
  · cases h

theorem readTags_append_tag (xs ys : List Char) :
    readTags (xs ++ '<' :: ys) = readTags xs ++ readTags ('<' :: ys) := by
  unfold readTags
  rw [tagTexts_append_tag, List.filterMap_append]

/-- Text has no tags. -/
theorem readTags_text_append {xs : List Char} (h : '<' ∉ xs) (ys : List Char) :
    readTags (xs ++ ys) = readTags ys := by
  unfold readTags
  rw [tagTexts_text_append h]

/-! ### Signs that begin no tag -/

/-- Whether a text shows that it is no tag that begins an element, whatever follows it. -/
def isDeadTag : List Char → Bool
  | [] => false
  | c :: cs => !c.isAlpha || !((c :: cs).takeWhile isNamePart).all Char.isAlphanum

theorem isDeadTag_append {tag : List Char} (h : isDeadTag tag = true) (more : List Char) :
    isDeadTag (tag ++ more) = true := by
  cases tag with
  | nil => cases h
  | cons c cs =>
    rw [isDeadTag, Bool.or_eq_true] at h
    rw [List.cons_append, isDeadTag, Bool.or_eq_true]
    refine h.imp_right fun hall => ?_
    rw [Bool.not_eq_true', List.all_eq_false] at hall ⊢
    obtain ⟨d, hd, hother⟩ := hall
    refine ⟨d, ?_, hother⟩
    rw [← List.cons_append, List.takeWhile_append]
    split
    · exact List.mem_append_left _ ((List.takeWhile_prefix _).subset hd)
    · exact hd

theorem readTag?_of_isDeadTag {tag : List Char} (h : isDeadTag tag = true) :
    readTag? tag = none := by
  cases tag with
  | nil => cases h
  | cons c cs =>
    -- A tag is dead if it does not begin with a letter, or if its name has another character in it.
    have hname : isTagName ((c :: cs).takeWhile isNamePart) = false := by
      rw [isDeadTag, Bool.or_eq_true, Bool.not_eq_true', Bool.not_eq_true'] at h
      rw [List.takeWhile_cons] at h ⊢
      split at h
      · rename_i hc
        rw [if_pos hc, isTagName]
        rcases h with h | h
        · rw [h, Bool.false_and]
        · rw [List.all_cons] at h
          cases halpha : c.isAlpha with
          | false => rfl
          | true =>
            rw [Char.isAlphanum, halpha, Bool.true_or, Bool.true_and] at h
            rw [h, Bool.and_false]
      · rename_i hc
        rw [if_neg hc]
        rfl
    unfold readTag?
    dsimp only
    rw [hname, Bool.false_and, if_neg Bool.false_ne_true]

/-- **A text is inert** if no `<` in it begins a tag, whatever follows the text. -/
def IsInert (cs : List Char) : Prop := ∀ tag ∈ tagTexts cs, isDeadTag tag = true

instance (cs : List Char) : Decidable (IsInert cs) := inferInstanceAs (Decidable (∀ tag ∈ _, _))

theorem IsInert.of_notMem {cs : List Char} (h : '<' ∉ cs) : IsInert cs := by
  unfold IsInert
  rw [tagTexts_eq_nil h]
  exact fun tag hmem => absurd hmem List.not_mem_nil

@[simp]
theorem IsInert.append {xs ys : List Char} (hx : IsInert xs) (hy : IsInert ys) :
    IsInert (xs ++ ys) :=
  forall_tagTexts_append hx hy (fun _ h => h) fun _ h => isDeadTag_append h _

theorem IsInert.readTags_eq_nil {cs : List Char} (h : IsInert cs) : readTags cs = [] :=
  List.filterMap_eq_nil_iff.mpr fun tag htag => readTag?_of_isDeadTag (h tag htag)

/-- Lines put together are inert if each of them is. -/
theorem IsInert.unlines {ls : List String} (h : ∀ l ∈ ls, IsInert l.toList) :
    IsInert (Text.unlines ls).toList :=
  Text.forall_unlines (.of_notMem List.not_mem_nil) (.of_notMem (by decide))
    (fun _ _ => IsInert.append) h

/-! ### Attributes -/

attribute [simp] isMarkupName

namespace Markup

/-- **A part of a tag**: an attribute with a value or without one, or nothing. -/
inductive IsAttribute : Markup → Prop
  | attr {name : String} (h : isMarkupName name = true) (value : String) :
      IsAttribute (attr name value)
  | flag {name : String} (h : isMarkupName name = true) : IsAttribute (flag name)
  | none : IsAttribute .empty

@[simp]
theorem isAttribute_attr {name : String} (h : isMarkupName name = true) (value : String) :
    (StaticSite.attr name value).IsAttribute := .attr h value

@[simp]
theorem isAttribute_cls (className : String) : (cls className).IsAttribute := .attr rfl className

@[simp]
theorem isAttribute_flag {name : String} (h : isMarkupName name = true) :
    (StaticSite.flag name).IsAttribute := .flag h

@[simp]
theorem isAttribute_attr? {name : String} (h : isMarkupName name = true) (value : Option String) :
    (attr? name value).IsAttribute := by
  cases value with
  | none => exact .none
  | some v => exact .attr h v

/-- The first value of a text, which stands between its first two quotes. -/
theorem quotedAttributes_append {piece value : List Char} (hpiece : '"' ∉ piece)
    (hvalue : '"' ∉ value) (rest : List Char) :
    quotedAttributes (Text.splitOnChar '"' (piece ++ '"' :: (value ++ '"' :: rest))) =
      (String.ofList (lastWord piece).dropLast, String.ofList (unescape value)) ::
        quotedAttributes (Text.splitOnChar '"' rest) := by
  unfold Text.splitOnChar
  rw [List.splitOn_append_cons_self_of_not_mem hpiece,
    List.splitOn_append_cons_self_of_not_mem hvalue, quotedAttributes]

/-- An attribute is read off the text that it begins. -/
theorem quotedAttributes_attr {name : String} (hname : isMarkupName name = true) (value : String)
    {before : List Char} (hbefore : '"' ∉ before) (rest : List Char) :
    quotedAttributes (Text.splitOnChar '"'
      (before ++ (StaticSite.attr name value).text.toList ++ rest)) =
        (name, value) :: quotedAttributes (Text.splitOnChar '"' rest) := by
  have hblank : ' ' ∉ name.toList ++ ['='] := by
    rw [List.mem_append, not_or]
    exact ⟨notMem_of_isMarkupName hname (by decide), by decide⟩
  have hpiece : '"' ∉ before ++ ' ' :: (name.toList ++ ['=']) := by
    simp only [List.mem_append, List.mem_cons, not_or]
    exact ⟨hbefore, by decide, notMem_of_isMarkupName hname (by decide), by decide,
      List.not_mem_nil⟩
  have hvalue : '"' ∉ (StaticSite.esc value).text.toList := notMem_toList_esc value (by decide)
  -- The text up to the first quote, and the value up to the second.
  have htext : before ++ (StaticSite.attr name value).text.toList ++ rest =
      (before ++ ' ' :: (name.toList ++ ['='])) ++ '"' ::
        ((StaticSite.esc value).text.toList ++ '"' :: rest) := by
    rw [toList_attr]
    simp
  rw [htext, quotedAttributes_append hpiece hvalue, lastWord_append hblank,
    List.dropLast_concat, unescape_toList_esc, String.ofList_toList, String.ofList_toList]

theorem quotedAttributes_eq_nil {cs : List Char} (h : '"' ∉ cs) :
    quotedAttributes (Text.splitOnChar '"' cs) = [] := by
  rw [Text.splitOnChar, List.splitOn_eq_singleton h]
  rfl

/-- **An attribute is read as it was given.** -/
@[simp]
theorem attributes_attr {name : String} (hname : isMarkupName name = true) (value : String) :
    (StaticSite.attr name value).attributes = [(name, value)] := by
  have hread := quotedAttributes_attr hname value (List.not_mem_nil (a := '"')) []
  rwa [List.nil_append, List.append_nil, quotedAttributes_eq_nil List.not_mem_nil] at hread

@[simp]
theorem attributes_cls (className : String) :
    (cls className).attributes = [("class", className)] := attributes_attr rfl className

@[simp]
theorem attributes_flag {name : String} (hname : isMarkupName name = true) :
    (StaticSite.flag name).attributes = [] :=
  quotedAttributes_eq_nil (notMem_toList_flag hname '"' (by decide))

@[simp]
theorem attributes_empty : Markup.empty.attributes = [] :=
  quotedAttributes_eq_nil (by decide)

@[simp]
theorem attributes_attr? {name : String} (hname : isMarkupName name = true)
    (value : Option String) :
    (attr? name value).attributes = value.toList.map fun v => (name, v) := by
  cases value with
  | none => exact attributes_empty
  | some v => exact attributes_attr hname v

/-- The attributes of a tag, with text without quotes before and behind them. -/
theorem quotedAttributes_concat {attrs : List Markup} (h : ∀ a ∈ attrs, a.IsAttribute)
    {before after : List Char} (hbefore : '"' ∉ before) (hafter : '"' ∉ after) :
    quotedAttributes (Text.splitOnChar '"' (before ++ (concat attrs).text.toList ++ after)) =
      attrs.flatMap attributes := by
  induction attrs generalizing before with
  | nil =>
    refine quotedAttributes_eq_nil ?_
    rw [show (concat []).text.toList = [] from rfl, List.append_nil, List.mem_append, not_or]
    exact ⟨hbefore, hafter⟩
  | cons a attrs ih =>
    rw [List.forall_mem_cons] at h
    obtain ⟨ha, h⟩ := h
    rw [concat_cons, toList_append, List.flatMap_cons, ← List.append_assoc, List.append_assoc]
    cases ha with
    | attr hname value =>
      have hrest := ih h (List.not_mem_nil (a := '"'))
      rw [List.nil_append] at hrest
      rw [quotedAttributes_attr hname value hbefore, hrest, attributes_attr hname]
      rfl
    | @flag name hname =>
      -- An attribute without a value stands before the next one like a part of the name.
      have hflag : '"' ∉ before ++ (StaticSite.flag name).text.toList := by
        rw [List.mem_append, not_or]
        exact ⟨hbefore, notMem_toList_flag hname '"' (by decide)⟩
      rw [← List.append_assoc, ih h hflag, attributes_flag hname]
      rfl
    | none =>
      rw [show Markup.empty.text.toList = [] from rfl, List.append_nil, ← List.append_assoc,
        ih h hbefore, attributes_empty]
      rfl

theorem bracket_notMem_of_isAttribute {a : Markup} (h : a.IsAttribute) {c : Char}
    (hc : c ∈ ['<', '>']) : c ∉ a.text.toList := by
  cases h with
  | @attr name hname value =>
    have hattr : c ∉ attrText [(name, value)] :=
      bracket_notMem_attrText (List.forall_mem_singleton.mpr hname) hc
    rwa [attrText, attrList, List.map_singleton, concat_cons, toList_append,
      show (concat []).text.toList = [] from rfl, List.append_nil] at hattr
  | flag hname => exact notMem_toList_flag hname c (List.mem_cons_of_mem _ hc)
  | none => exact List.not_mem_nil

/-- A part of a tag begins with a space, unless it is empty. -/
theorem takeWhile_isNamePart_concat {attrs : List Markup} (h : ∀ a ∈ attrs, a.IsAttribute)
    {after : List Char} (hafter : after.takeWhile isNamePart = []) :
    ((concat attrs).text.toList ++ after).takeWhile isNamePart = [] := by
  induction attrs with
  | nil => exact hafter
  | cons a attrs ih =>
    rw [List.forall_mem_cons] at h
    obtain ⟨ha, h⟩ := h
    rw [concat_cons, toList_append, List.append_assoc]
    cases ha with
    | attr hname value => rw [toList_attr]; rfl
    | @flag name hname =>
      have hflag : (StaticSite.flag name).text.toList = ' ' :: name.toList := String.toList_append
      rw [hflag]
      rfl
    | none => exact ih h

end Markup

end StaticSite
