import StaticSite.Proofs.Html.Brackets
import StaticSite.Proofs.Html.Tags
import StaticSite.Text.Find

/-!
# Reading links off a page

A link of a page is the value of an attribute `href` in one of its tags, whatever the tag. A tag
ends with its first `>`, and its values stand between double quotes. `Markup.links` reads the links
off the text of markup in this way, in order.

The links of a page that is put together are not always those of its parts, since text behind a tag
without an end would be read as a part of that tag. `Markup.HasLinks` says what the links of markup
are wherever it stands, and there is one rule for each way to put markup together. An element needs
nothing of its contents (`HasLinks.el`): the tag that ends the element also ends the last tag in
them. So a fragment that comes from outside cannot hide the links of the page around it.
-/

namespace StaticSite

/-! ### Reading -/

/-- The last word of a text. -/
def lastWord (cs : List Char) : List Char := (cs.reverse.takeWhile (· != ' ')).reverse

/-- The links in a tag that is cut at its quotes: a value stands behind each piece that ends in the
name of its attribute. -/
def quotedLinks : List (List Char) → List String
  | piece :: value :: pieces =>
    if lastWord piece = "href=".toList then String.ofList value :: quotedLinks pieces
    else quotedLinks pieces
  | _ => []

/-- The links in a tag. -/
def tagLinks (tag : List Char) : List String :=
  quotedLinks (Text.splitOnChar '"' (tag.takeWhile (· != '>')))

/-- The links in the tags of a page, in order. -/
def pageLinks (page : List Char) : List String := (tagTexts page).flatMap tagLinks

/-- The links of markup, in order. -/
def Markup.links (m : Markup) : List String := pageLinks m.text.toList

/-- A link stands between quotes. -/
theorem pageLinks_eq_nil {page : List Char} (h : '"' ∉ page) : pageLinks page = [] := by
  refine List.flatMap_eq_nil_iff.mpr fun tag htag => ?_
  have hpiece : '"' ∉ tag.takeWhile (· != '>') := fun hmem =>
    h (mem_of_mem_tagTexts htag ((List.takeWhile_prefix _).subset hmem))
  rw [tagLinks, Text.splitOnChar, List.splitOn_eq_singleton hpiece]
  rfl

theorem pageLinks_append_tag (xs ys : List Char) :
    pageLinks (xs ++ '<' :: ys) = pageLinks xs ++ pageLinks ('<' :: ys) := by
  unfold pageLinks
  rw [tagTexts_append_tag, List.flatMap_append]

/-- What follows the end of a tag is none of its links. -/
theorem tagLinks_append {tag : List Char} (h : '>' ∈ tag) (more : List Char) :
    tagLinks (tag ++ more) = tagLinks tag := by
  obtain ⟨body, rest, rfl, hbody⟩ := List.eq_append_cons_of_mem h
  have htake (cs : List Char) : (body ++ '>' :: cs).takeWhile (· != '>') = body := by
    rw [takeWhile_bne_append hbody]
    exact List.append_nil _
  unfold tagLinks
  rw [List.append_assoc, List.cons_append, htake, htake]

theorem lastWord_append {word : List Char} (h : ' ' ∉ word) (before : List Char) :
    lastWord (before ++ ' ' :: word) = word := by
  unfold lastWord
  rw [List.reverse_append, List.reverse_cons, List.append_assoc,
    takeWhile_bne_append (mt List.mem_reverse.mp h)]
  simp

/-! ### Attributes -/

/-- Whether a text can name an element or an attribute. -/
def isMarkupName (name : String) : Bool :=
  name.toList.all fun c => !([' ', '"', '<', '>'].contains c)

theorem notMem_of_isMarkupName {name : String} (h : isMarkupName name = true) {c : Char}
    (hc : c ∈ [' ', '"', '<', '>']) : c ∉ name.toList := by
  intro hmem
  have hother := List.all_eq_true.mp h c hmem
  rw [List.contains_iff_mem.mpr hc] at hother
  cases hother

/-- Attributes, given by their names and values. -/
def attrList (pairs : List (String × String)) : List Markup := pairs.map fun a => attr a.1 a.2

/-- The links among attributes, as they are written. -/
def attrLinks (pairs : List (String × String)) : List String :=
  (pairs.filter fun a => a.1 = "href").map fun a => (esc a.2).text

theorem attrLinks_cons_of_ne {name : String} (h : name ≠ "href") (value : String)
    (pairs : List (String × String)) : attrLinks ((name, value) :: pairs) = attrLinks pairs := by
  unfold attrLinks
  rw [List.filter_cons_of_neg (by simpa using h)]

theorem attrLinks_href_cons (value : String) (pairs : List (String × String)) :
    attrLinks (("href", value) :: pairs) = (esc value).text :: attrLinks pairs := rfl

/-- Attributes as they stand in a tag, after one another. -/
def attrText (pairs : List (String × String)) : List Char :=
  (Markup.concat (attrList pairs)).text.toList

theorem toList_attr (name value : String) : (attr name value).text.toList =
    ' ' :: (name.toList ++ '=' :: '"' :: ((esc value).text.toList ++ ['"'])) := by
  have hopen : (html (" " ++ name ++ "=\"")).text.toList = ' ' :: (name.toList ++ ['=', '"']) := by
    show (" " ++ name ++ "=\"").toList = _
    rw [String.toList_append, String.toList_append]
    rfl
  unfold attr
  rw [Markup.toList_append, Markup.toList_append, hopen]
  simp [html]

theorem attrText_cons (name value : String) (pairs : List (String × String)) :
    attrText ((name, value) :: pairs) = ' ' :: (name.toList ++ '=' :: '"' ::
      ((esc value).text.toList ++ '"' :: attrText pairs)) := by
  unfold attrText attrList
  rw [List.map_cons, Markup.concat_cons, Markup.toList_append, toList_attr]
  simp

variable {pairs : List (String × String)}

/-- Attributes have no brackets. -/
theorem bracket_notMem_attrText (h : ∀ a ∈ pairs, isMarkupName a.1 = true) {c : Char}
    (hc : c ∈ ['<', '>']) : c ∉ attrText pairs := by
  -- Names have none by assumption, values because they are escaped, and the rest is three signs.
  have hother : c ≠ ' ' ∧ c ≠ '=' ∧ c ≠ '"' := by
    simp only [List.mem_cons, List.not_mem_nil, or_false] at hc
    rcases hc with rfl | rfl <;> decide
  induction pairs with
  | nil => exact List.not_mem_nil
  | cons a pairs ih =>
    rw [List.forall_mem_cons] at h
    have hname : c ∉ a.1.toList := notMem_of_isMarkupName h.1 (List.mem_of_mem_drop (i := 2) hc)
    have hvalue : c ∉ (esc a.2).text.toList :=
      Markup.notMem_toList_esc a.2 (List.mem_append_left ['"'] hc)
    rw [attrText_cons]
    simp only [List.mem_cons, List.mem_append, not_or]
    exact ⟨hother.1, hname, hother.2.1, hother.2.2, hvalue, hother.2.2, ih h.2⟩

/-- The links of a tag are those among its attributes. -/
theorem quotedLinks_attrText (h : ∀ a ∈ pairs, isMarkupName a.1 = true) {before after : List Char}
    (hbefore : '"' ∉ before) (hafter : '"' ∉ after) :
    quotedLinks (Text.splitOnChar '"' (before ++ attrText pairs ++ after)) = attrLinks pairs := by
  -- The text before the attributes is that of the tag's name at first, and then empty.
  induction pairs generalizing before with
  | nil =>
    have hnil : attrText [] = [] := rfl
    have hboth : '"' ∉ before ++ after := by
      rw [List.mem_append, not_or]
      exact ⟨hbefore, hafter⟩
    rw [hnil, List.append_nil, Text.splitOnChar, List.splitOn_eq_singleton hboth]
    rfl
  | cons a pairs ih =>
    obtain ⟨name, value⟩ := a
    rw [List.forall_mem_cons] at h
    have hquote : '"' ∉ name.toList := notMem_of_isMarkupName h.1 (by decide)
    have hblank : ' ' ∉ name.toList ++ ['='] := by
      rw [List.mem_append, not_or]
      exact ⟨notMem_of_isMarkupName h.1 (by decide), by decide⟩
    have hvalue : '"' ∉ (esc value).text.toList := Markup.notMem_toList_esc value (by decide)
    -- The text up to the first quote, and the value up to the second.
    have htext : before ++ attrText ((name, value) :: pairs) ++ after =
        (before ++ ' ' :: (name.toList ++ ['='])) ++ '"' ::
          ((esc value).text.toList ++ '"' :: ([] ++ attrText pairs ++ after)) := by
      rw [attrText_cons]
      simp
    have hpiece : '"' ∉ before ++ ' ' :: (name.toList ++ ['=']) := by
      simp only [List.mem_append, List.mem_cons, not_or]
      exact ⟨hbefore, by decide, hquote, by decide, List.not_mem_nil⟩
    have ih := ih h.2 (List.not_mem_nil (a := '"'))
    unfold Text.splitOnChar at ih ⊢
    have hname : name.toList ++ ['='] = "href=".toList ↔ name = "href" := by
      have hword : "href=".toList = "href".toList ++ ['='] := rfl
      rw [hword, List.append_left_inj, String.toList_inj]
    rw [htext, List.splitOn_append_cons_self_of_not_mem hpiece,
      List.splitOn_append_cons_self_of_not_mem hvalue, quotedLinks, lastWord_append hblank, ih,
      String.ofList_toList]
    by_cases hhref : name = "href"
    · rw [if_pos (hname.mpr hhref), hhref, attrLinks_href_cons]
    · rw [if_neg (mt hname.mp hhref), attrLinks_cons_of_ne hhref]

/-! ### Markup with links -/

/-- **Markup has links**, wherever it stands: they come before those of what follows it. -/
def Markup.HasLinks (m : Markup) (links : List String) : Prop :=
  ∀ rest, pageLinks (m.text.toList ++ rest) = links ++ pageLinks rest

/-- Markup begins with a tag. -/
def Markup.BeginsWithTag (m : Markup) : Prop := ∃ cs, m.text.toList = '<' :: cs

namespace Markup

variable {m n : Markup} {l k : List String}

theorem eq_of_toList_eq (h : m.text.toList = n.text.toList) : m = n :=
  congrArg Markup.mk (String.toList_inj.mp h)

theorem rows_append (ms ns : List Markup) : rows (ms ++ ns) = rows ms ++ rows ns :=
  eq_of_toList_eq ((toList_rows_append ms ns).trans (toList_append (rows ms) (rows ns)).symm)

theorem concat_append (ms ns : List Markup) : concat (ms ++ ns) = concat ms ++ concat ns := by
  refine eq_of_toList_eq ?_
  unfold concat
  rw [toList_append, List.map_append, String.join_append, String.toList_append]

theorem notMem_toList_concat {c : Char} {ms : List Markup} (h : ∀ m ∈ ms, c ∉ m.text.toList) :
    c ∉ (concat ms).text.toList := by
  induction ms with
  | nil => exact List.not_mem_nil
  | cons m ms ih =>
    rw [List.forall_mem_cons] at h
    rw [concat_cons, toList_append, List.mem_append, not_or]
    exact ⟨h.1, ih h.2⟩

/-- An attribute without a value has neither quotes nor brackets. -/
theorem notMem_toList_flag {name : String} (hname : isMarkupName name = true) :
    ∀ c ∈ ['"', '<', '>'], c ∉ (flag name).text.toList := by
  intro c hc
  have hblank : c ∉ " ".toList := by
    intro hmem
    rw [List.mem_singleton.mp hmem] at hc
    exact absurd hc (by decide)
  show c ∉ (" " ++ name).toList
  rw [String.toList_append, List.mem_append, not_or]
  exact ⟨hblank, notMem_of_isMarkupName hname (List.mem_cons_of_mem _ hc)⟩

theorem joinWith_cons_cons (sep : String) (m n : Markup) (ms : List Markup) :
    joinWith sep (m :: n :: ms) = m ++ html sep ++ joinWith sep (n :: ms) := by
  refine eq_of_toList_eq ?_
  rw [toList_joinWith_cons_cons, toList_append, toList_append]
  rfl

theorem toList_endTag (name : String) :
    (endTag name).text.toList = '<' :: ('/' :: name.toList ++ ['>']) := by
  show ("</" ++ name ++ ">").toList = _
  rw [String.toList_append, String.toList_append]
  rfl

theorem beginsWithTag_endTag (name : String) : (endTag name).BeginsWithTag :=
  ⟨_, toList_endTag name⟩

theorem BeginsWithTag.rows_cons (h : m.BeginsWithTag) (ms : List Markup) :
    (rows (m :: ms)).BeginsWithTag := by
  obtain ⟨cs, hcs⟩ := h
  exact ⟨_, by rw [toList_rows_cons, hcs, List.cons_append]⟩

theorem HasLinks.links_eq (h : m.HasLinks l) : m.links = l := by
  have hend := h []
  rwa [List.append_nil, show pageLinks [] = [] from rfl, List.append_nil] at hend

theorem HasLinks.links_append (hm : m.HasLinks l) (n : Markup) : (m ++ n).links = l ++ n.links := by
  unfold links
  rw [toList_append, hm]

/-- A tag ends the last tag of what stands before it, so that it does not matter what that is. -/
theorem HasLinks.behind (hn : n.HasLinks k) (htag : n.BeginsWithTag) (m : Markup) :
    (m ++ n).HasLinks (m.links ++ k) := by
  obtain ⟨cs, hcs⟩ := htag
  intro rest
  -- The bracket with which `n` begins is where the reader starts a new tag.
  have hrest := hn rest
  rw [hcs, List.cons_append] at hrest
  rw [toList_append, hcs, List.append_assoc, List.cons_append, pageLinks_append_tag, hrest,
    List.append_assoc]
  rfl

namespace HasLinks

theorem append (hm : m.HasLinks l) (hn : n.HasLinks k) : (m ++ n).HasLinks (l ++ k) := by
  intro rest
  rw [toList_append, List.append_assoc, hm, hn, List.append_assoc]

/-- Text has no links. -/
theorem of_notMem (h : '<' ∉ m.text.toList) : m.HasLinks [] := by
  intro rest
  unfold pageLinks
  rw [tagTexts_text_append h]
  rfl

theorem esc (s : String) : (esc s).HasLinks [] := of_notMem (notMem_toList_esc s (by decide))

/-- The links of a single tag that has an end. -/
theorem of_tag {tag : List Char} (htext : m.text.toList = '<' :: tag) (hopen : '<' ∉ tag)
    (hclose : '>' ∈ tag) : m.HasLinks (tagLinks tag) := by
  intro rest
  unfold pageLinks
  rw [htext, List.cons_append, tagTexts_tag, leadText_append hopen, tagTexts_text_append hopen,
    List.flatMap_cons, tagLinks_append hclose]

/-- **The tag that begins an element** has the links among its attributes. Text without quotes and
brackets may follow them, as attributes without a value do. -/
theorem startTag_append {name : String} (hname : isMarkupName name = true)
    (pairs : List (String × String)) (hpairs : pairs.all (fun a => isMarkupName a.1) = true)
    {more : List Markup} (hmore : ∀ m ∈ more, ∀ c ∈ ['"', '<', '>'], c ∉ m.text.toList) :
    (startTag name (attrList pairs ++ more)).HasLinks (attrLinks pairs) := by
  rw [List.all_eq_true] at hpairs
  have hconcat {c : Char} (hc : c ∈ ['"', '<', '>']) : c ∉ (Markup.concat more).text.toList :=
    notMem_toList_concat fun m hm => hmore m hm c hc
  have hbracket {c : Char} (hc : c ∈ ['<', '>']) :
      c ∉ name.toList ++ attrText pairs ++ (Markup.concat more).text.toList := by
    rw [List.mem_append, List.mem_append, not_or, not_or]
    exact ⟨⟨notMem_of_isMarkupName hname (List.mem_of_mem_drop (i := 2) hc),
      bracket_notMem_attrText hpairs hc⟩, hconcat (List.mem_cons_of_mem _ hc)⟩
  -- The tag is one bracket, its inner text and the closing bracket.
  have htext : (StaticSite.startTag name (attrList pairs ++ more)).text.toList =
      '<' :: (name.toList ++ attrText pairs ++ (Markup.concat more).text.toList ++ ['>']) := by
    have hopen : (html ("<" ++ name)).text.toList = '<' :: name.toList := String.toList_append
    unfold StaticSite.startTag attrText
    rw [concat_append, toList_append, toList_append, toList_append, hopen]
    simp [html]
  have htag := of_tag htext
    (by rw [List.mem_append, not_or]; exact ⟨hbracket (by decide), by decide⟩)
    (List.mem_append_right _ List.mem_cons_self)
  have htake : (name.toList ++ attrText pairs ++ (Markup.concat more).text.toList ++
      ['>']).takeWhile (· != '>') =
        name.toList ++ attrText pairs ++ (Markup.concat more).text.toList := by
    rw [takeWhile_bne_append (hbracket (by decide))]
    exact List.append_nil _
  -- The links of the tag are those of its quoted values, which are the values of the attributes.
  rwa [tagLinks, htake, quotedLinks_attrText hpairs (notMem_of_isMarkupName hname (by decide))
    (hconcat List.mem_cons_self)] at htag

theorem startTag {name : String} (hname : isMarkupName name = true)
    (pairs : List (String × String)) (hpairs : pairs.all (fun a => isMarkupName a.1) = true) :
    (startTag name (attrList pairs)).HasLinks (attrLinks pairs) := by
  have htag := startTag_append hname pairs hpairs fun _ hm => absurd hm List.not_mem_nil
  rwa [List.append_nil] at htag

theorem endTag {name : String} (hname : isMarkupName name = true) : (endTag name).HasLinks [] := by
  -- A tag without quotes is a single piece, and a link needs two.
  have hnot {c : Char} (hc : c ∈ [' ', '"', '<', '>']) (hslash : c ≠ '/') :
      c ∉ '/' :: name.toList := by
    rw [List.mem_cons, not_or]
    exact ⟨hslash, notMem_of_isMarkupName hname hc⟩
  have htag := of_tag (toList_endTag name)
    (by rw [List.mem_append, not_or]; exact ⟨hnot (by decide) (by decide), by decide⟩)
    (List.mem_append_right _ List.mem_cons_self)
  have htake : ('/' :: name.toList ++ ['>']).takeWhile (· != '>') = '/' :: name.toList := by
    rw [takeWhile_bne_append (hnot (by decide) (by decide))]
    exact List.append_nil _
  rwa [tagLinks, htake, Text.splitOnChar,
    List.splitOn_eq_singleton (hnot (by decide) (by decide))] at htag

/-- **An element** has the links of its tag and those of its contents, whatever these are. -/
theorem el {name : String} {attributes : List Markup} (hname : isMarkupName name = true)
    (hstart : (StaticSite.startTag name attributes).HasLinks l) (contents : Markup) :
    (el name attributes contents).HasLinks (l ++ contents.links) := by
  have hend := (endTag hname).behind (beginsWithTag_endTag name)
    (StaticSite.startTag name attributes ++ contents)
  rwa [List.append_nil, hstart.links_append] at hend

/-- An element whose contents are known to be closed. -/
theorem elWith {name : String} {attributes : List Markup} (hname : isMarkupName name = true)
    (hstart : (StaticSite.startTag name attributes).HasLinks l) (hcontents : m.HasLinks k) :
    (StaticSite.el name attributes m).HasLinks (l ++ k) := by
  have hel := el hname hstart m
  rwa [hcontents.links_eq] at hel

/-- A tag with a single attribute, which is not that of links, has no links. -/
theorem startTag_attr {name key : String} (hname : isMarkupName name = true)
    (hkey : isMarkupName key = true) (hother : key ≠ "href") (value : String) :
    (StaticSite.startTag name [attr key value]).HasLinks [] := by
  have htag := startTag hname [(key, value)] (by simp [hkey])
  rwa [attrLinks_cons_of_ne hother] at htag

/-- A tag with a class only has no links. -/
theorem startTag_cls {name : String} (hname : isMarkupName name = true) (className : String) :
    (StaticSite.startTag name [cls className]).HasLinks [] :=
  startTag_attr hname rfl (by decide) className

theorem startTag_nil {name : String} (hname : isMarkupName name = true) :
    (StaticSite.startTag name []).HasLinks [] := startTag hname [] rfl

/-- A text in an element without attributes. -/
theorem textEl {name : String} (hname : isMarkupName name = true) (text : String) :
    (StaticSite.el name [] (StaticSite.esc text)).HasLinks [] :=
  elWith hname (startTag_nil hname) (esc text)

/-- A text in an element with a class. -/
theorem textEl_cls {name : String} (hname : isMarkupName name = true) (className text : String) :
    (StaticSite.el name [cls className] (StaticSite.esc text)).HasLinks [] :=
  elWith hname (startTag_cls hname className) (esc text)

/-- Markup that is set in. -/
theorem indent (h : m.HasLinks l) (width : Nat) : (indent width m).HasLinks l := by
  have hblank : '<' ∉ (html (String.ofList (List.replicate width ' '))).text.toList := by
    show '<' ∉ (String.ofList (List.replicate width ' ')).toList
    rw [String.toList_ofList, List.mem_replicate, not_and]
    exact fun _ => by decide
  exact (of_notMem hblank).append h

theorem concat {α : Type} {f : α → Markup} {g : α → List String} {xs : List α}
    (h : ∀ x ∈ xs, (f x).HasLinks (g x)) : (concat (xs.map f)).HasLinks (xs.flatMap g) := by
  induction xs with
  | nil => exact of_notMem List.not_mem_nil
  | cons x xs ih =>
    rw [List.forall_mem_cons] at h
    rw [List.map_cons, concat_cons, List.flatMap_cons]
    exact h.1.append (ih h.2)

/-- Markup that is joined, with a separator that is text. -/
theorem joinWith {sep : String} (hsep : '<' ∉ sep.toList) {g : Markup → List String}
    {ms : List Markup} (h : ∀ m ∈ ms, m.HasLinks (g m)) :
    (joinWith sep ms).HasLinks (ms.flatMap g) := by
  have hsep' : (html sep).HasLinks [] := of_notMem hsep
  induction ms with
  | nil => exact of_notMem List.not_mem_nil
  | cons m ms ih =>
    rw [List.forall_mem_cons] at h
    have hrest := ih h.2
    rw [List.flatMap_cons]
    cases ms with
    | nil =>
      rw [joinWith_singleton, List.flatMap_nil, List.append_nil]
      exact h.1
    | cons n ms =>
      have hall := (h.1.append hsep').append hrest
      rwa [List.append_nil, ← joinWith_cons_cons] at hall

/-- Joining markup without links gives such markup. -/
theorem joinWith_none {sep : String} (hsep : '<' ∉ sep.toList) {ms : List Markup}
    (h : ∀ m ∈ ms, m.HasLinks []) : (Markup.joinWith sep ms).HasLinks [] := by
  have hall := joinWith (g := fun _ => []) hsep h
  rwa [List.flatMap_eq_nil_iff.mpr fun _ _ => rfl] at hall

/-! Lines are put together from their first one, or from two groups of them. -/

theorem rows_nil : (rows []).HasLinks [] := of_notMem (by decide)

theorem rows_cons {ms : List Markup} (hm : m.HasLinks l) (hms : (rows ms).HasLinks k) :
    (rows (m :: ms)).HasLinks (l ++ k) := by
  have hbreak : (html "\n").HasLinks [] := of_notMem (by decide)
  have hrow := (hm.append hbreak).append hms
  rw [List.append_nil] at hrow
  unfold rows at hrow ⊢
  rwa [List.map_cons, concat_cons]

/-- A line without links adds none. -/
theorem rows_cons_none {ms : List Markup} (hm : m.HasLinks []) (hms : (rows ms).HasLinks l) :
    (rows (m :: ms)).HasLinks l := rows_cons hm hms

theorem rows_singleton (hm : m.HasLinks l) : (rows [m]).HasLinks l := by
  have hrow := rows_cons hm rows_nil
  rwa [List.append_nil] at hrow

theorem rows_append {ms ns : List Markup} (hms : (rows ms).HasLinks l)
    (hns : (rows ns).HasLinks k) : (rows (ms ++ ns)).HasLinks (l ++ k) := by
  rw [Markup.rows_append]
  exact hms.append hns

theorem rows_map {α : Type} {f : α → Markup} {g : α → List String} {xs : List α}
    (h : ∀ x ∈ xs, (f x).HasLinks (g x)) : (rows (xs.map f)).HasLinks (xs.flatMap g) := by
  induction xs with
  | nil => exact rows_nil
  | cons x xs ih =>
    rw [List.forall_mem_cons] at h
    rw [List.map_cons, List.flatMap_cons]
    exact rows_cons h.1 (ih h.2)

end HasLinks

end Markup

end StaticSite
