import StaticSite.Html.Markup
import StaticSite.Html.Script

/-!
# The angle brackets of markup

Tags begin and end with angle brackets. `Markup.brackets` keeps of a piece of markup only these, in
order: two pieces with the same brackets differ in nothing that opens or closes a tag.

The brackets of markup that is put together are those of its parts, one after the other. An escaped
text has none (`Markup.brackets_esc`), and neither has data in a script
(`Markup.brackets_inScript`). An element has those of its tags, which do not depend on the values of
its attributes, and those of its contents (`Markup.brackets_el`).
-/

namespace StaticSite

/-- Whether a character begins or ends a tag. -/
def isBracket (c : Char) : Bool := c == '<' || c == '>'

namespace Markup

/-- The angle brackets of a piece of markup, in order. -/
def brackets (m : Markup) : List Char := m.text.toList.filter isBracket

/-! ### Pieces put together -/

@[simp]
theorem brackets_append (a b : Markup) : (a ++ b).brackets = a.brackets ++ b.brackets := by
  show (a.text ++ b.text).toList.filter isBracket = _
  rw [String.toList_append, List.filter_append]
  rfl

@[simp]
theorem brackets_concat (ms : List Markup) : (concat ms).brackets = ms.flatMap brackets := by
  unfold brackets concat
  rw [String.toList_join, List.flatMap_map, List.filter_flatMap]

/-- A separator without brackets adds none. -/
theorem brackets_joinWith {sep : String} (hsep : sep.toList.filter isBracket = [])
    (ms : List Markup) : (joinWith sep ms).brackets = ms.flatMap brackets := by
  unfold joinWith
  show (sep.intercalate (ms.map (·.text))).toList.filter isBracket = _
  rw [String.toList_intercalate, List.map_map]
  induction ms with
  | nil => rfl
  | cons m rest ih =>
    cases rest with
    | nil =>
      rw [List.flatMap_cons, List.flatMap_nil, List.append_nil]
      simp [brackets]
    | cons m' rest =>
      rw [List.flatMap_cons, ← ih, List.map_cons, List.map_cons, List.intercalate_cons_cons,
        List.filter_append, List.filter_append, hsep, List.append_nil]
      rfl

@[simp]
theorem brackets_lines (ms : List Markup) : (lines ms).brackets = ms.flatMap brackets :=
  brackets_joinWith rfl ms

@[simp]
theorem brackets_rows (ms : List Markup) : (rows ms).brackets = ms.flatMap brackets := by
  have hrow : (fun m : Markup => (m ++ html "\n").brackets) = brackets := by
    funext m
    rw [brackets_append]
    exact List.append_nil _
  unfold rows
  rw [brackets_concat, List.flatMap_map, hrow]

/-- Pieces without text, which are left out of a stack, have no brackets. -/
@[simp]
theorem brackets_stack (ms : List Markup) : (stack ms).brackets = ms.flatMap brackets := by
  unfold stack
  rw [brackets_lines]
  induction ms with
  | nil => rfl
  | cons m rest ih =>
    rw [List.flatMap_cons, ← ih]
    by_cases hm : m.isEmpty = true
    · have hempty : m.brackets = [] := by
        unfold brackets
        rw [String.isEmpty_iff.mp hm]
        rfl
      rw [List.filter_cons_of_neg (by simp [hm]), hempty, List.nil_append]
    · rw [List.filter_cons_of_pos (by simp [hm]), List.flatMap_cons]

@[simp]
theorem brackets_indent (n : Nat) (m : Markup) : (indent n m).brackets = m.brackets := by
  have hblank : (html (String.ofList (List.replicate n ' '))).brackets = [] := by
    show (String.ofList (List.replicate n ' ')).toList.filter isBracket = []
    rw [String.toList_ofList, List.filter_replicate_of_neg (by decide)]
  unfold indent
  rw [brackets_append, hblank, List.nil_append]

/-! ### Text and data -/

/-- An escaped text has neither brackets nor double quotes. -/
theorem notMem_toList_esc (s : String) {c : Char} (hc : c ∈ ['<', '>', '"']) :
    c ∉ (esc s).text.toList := by
  have hchar (a : Char) : (escapeChar a).all (fun x => !(['<', '>', '"'].contains x)) = true := by
    unfold escapeChar
    -- A character that is left as it is differs from those that have a reference.
    repeat' split
    all_goals first | rfl | simp_all
  show c ∉ (String.ofList (s.toList.flatMap escapeChar)).toList
  rw [String.toList_ofList, List.mem_flatMap]
  rintro ⟨a, -, ha⟩
  have hother := List.all_eq_true.mp (hchar a) c ha
  rw [List.contains_iff_mem.mpr hc] at hother
  cases hother

/-- A text has no brackets once it is escaped. -/
@[simp]
theorem brackets_esc (s : String) : (esc s).brackets = [] := by
  refine List.filter_eq_nil_iff.mpr fun c hc hbracket => ?_
  have hmem : c ∈ ['<', '>', '"'] := by
    rcases Bool.or_eq_true _ _ |>.mp hbracket with h | h <;> rw [eq_of_beq h] <;> decide
  exact notMem_toList_esc s hmem hc

/-- Data has no brackets once it stands in a script. -/
@[simp]
theorem brackets_inScript (json : String) : (Html.inScript json).brackets = [] := by
  have hchar (c : Char) : (Html.escapeInScript c).filter isBracket = [] := by
    unfold Html.escapeInScript
    repeat' split
    all_goals first | rfl | simp_all [isBracket]
  show (String.ofList (json.toList.flatMap Html.escapeInScript)).toList.filter isBracket = []
  rw [String.toList_ofList, List.filter_flatMap]
  exact List.flatMap_eq_nil_iff.mpr fun c _ => hchar c

/-- No tag begins in data that stands in a script. -/
theorem lt_notMem_inScript (json : String) : '<' ∉ (Html.inScript json).text.toList := by
  intro hmem
  have hnone := brackets_inScript json
  rw [brackets, List.filter_eq_nil_iff] at hnone
  exact hnone '<' hmem rfl

/-! ### Elements -/

/-- An attribute has the brackets of its name, whatever its value. -/
@[simp]
theorem brackets_attr (name value : String) :
    (attr name value).brackets = (html name).brackets := by
  unfold attr
  rw [brackets_append, brackets_append, brackets_esc, List.append_nil]
  show (" " ++ name ++ "=\"").toList.filter isBracket ++ [] = name.toList.filter isBracket
  rw [List.append_nil, String.toList_append, String.toList_append, List.filter_append,
    List.filter_append]
  exact List.append_nil _

/-- The tag that begins an element has the brackets of its name and its attributes between its
own. -/
@[simp]
theorem brackets_startTag (name : String) (attrs : List Markup) :
    (startTag name attrs).brackets =
      '<' :: ((html name).brackets ++ attrs.flatMap brackets ++ ['>']) := by
  have hopen : (html ("<" ++ name)).brackets = '<' :: (html name).brackets := by
    show ("<" ++ name).toList.filter isBracket = _
    rw [String.toList_append]
    rfl
  unfold startTag
  rw [brackets_append, brackets_append, brackets_concat, hopen]
  rfl

/-- An element has the brackets of its contents between those of its tags. -/
@[simp]
theorem brackets_el (name : String) (attrs : List Markup) (contents : Markup) :
    (el name attrs contents).brackets =
      (startTag name attrs).brackets ++ contents.brackets ++ (endTag name).brackets := by
  unfold el
  rw [brackets_append, brackets_append]

@[simp]
theorem brackets_leaf (name : String) (attrs : List Markup) :
    (leaf name attrs).brackets = (startTag name attrs).brackets := rfl

end Markup

end StaticSite
