import StaticSite.Proofs.Html.StartTags

/-!
# Reading the tags of markup

`Markup.tags` are the tags of markup that begin elements, and `Markup.read` is what a function reads
off them.

A text that does not end its last tag takes up what follows. Markup is *whole* if it does not
(`Markup.IsWhole`), and whole markup has the same tags wherever it stands. An element is whole and
has the tags of its contents, whatever these are: the tag that ends it also ends theirs
(`Markup.el_spec`). There is one rule for each way to put markup together, and all are tagged for
`simp`, so that what is read off a widget is computed from its definition.
-/

namespace StaticSite

namespace Markup

/-! ### Whole markup -/

/-- **Markup is whole**: its last tag is not changed by what follows. -/
def IsWhole (m : Markup) : Prop :=
  ∀ rest, readTags (m.text.toList ++ rest) = m.tags ++ readTags rest

/-- What stands before whole markup that begins with a tag does not matter. -/
theorem IsWhole.behind {m : Markup} (h : m.IsWhole) (htag : m.BeginsWithTag) (before : Markup) :
    (before ++ m).IsWhole ∧ (before ++ m).tags = before.tags ++ m.tags := by
  obtain ⟨cs, hcs⟩ := htag
  have htags : (before ++ m).tags = before.tags ++ m.tags := by
    unfold tags
    rw [toList_append, hcs, readTags_append_tag]
  refine ⟨fun rest => ?_, htags⟩
  have hrest := h rest
  rw [hcs, List.cons_append] at hrest
  rw [htags, toList_append, hcs, List.append_assoc, List.cons_append, readTags_append_tag, hrest,
    List.append_assoc]
  rfl

theorem tags_append {a b : Markup} (ha : a.IsWhole) : (a ++ b).tags = a.tags ++ b.tags := by
  unfold tags
  rw [toList_append, ha]
  rfl

theorem isWhole_append {a b : Markup} (ha : a.IsWhole) (hb : b.IsWhole) : (a ++ b).IsWhole := by
  intro rest
  rw [tags_append ha, toList_append, List.append_assoc, ha, hb, List.append_assoc]

/-- Text without tags is whole. -/
theorem isWhole_of_notMem {m : Markup} (h : '<' ∉ m.text.toList) : m.IsWhole := by
  have hnone : m.tags = [] := by
    have htext := readTags_text_append h []
    rwa [List.append_nil] at htext
  intro rest
  rw [hnone, readTags_text_append h]
  rfl

theorem tags_of_notMem {m : Markup} (h : '<' ∉ m.text.toList) : m.tags = [] := by
  have htext := readTags_text_append h []
  rwa [List.append_nil] at htext

/-- A single tag that has an end. -/
theorem isWhole_of_tag {m : Markup} (tag : List Char) (htext : m.text.toList = '<' :: tag)
    (hopen : '<' ∉ tag) (hclose : '>' ∈ tag) : m.IsWhole ∧ m.tags = (readTag? tag).toList := by
  have hread (rest : List Char) :
      readTags ('<' :: tag ++ rest) = (readTag? tag).toList ++ readTags rest := by
    unfold readTags
    rw [List.cons_append, tagTexts_tag, leadText_append hopen, tagTexts_text_append hopen,
      List.filterMap_cons, readTag?_append hclose]
    cases readTag? tag <;> rfl
  have htags : m.tags = (readTag? tag).toList := by
    have hend := hread []
    rwa [List.append_nil, ← htext, show readTags [] = [] from rfl, List.append_nil] at hend
  exact ⟨fun rest => by rw [htags, htext, hread], htags⟩

/-- A tag, with signs before its end that belong to no attribute. -/
theorem isWhole_of_text {m : Markup} (name : String) (hname : isTagName name.toList = true)
    {attrs : List Markup} (hattrs : ∀ a ∈ attrs, a.IsAttribute) (more : List Char)
    (hmore : ∀ c ∈ ['"', '<', '>'], c ∉ more) (hpart : more.takeWhile isNamePart = [])
    (htext : m.text.toList =
      '<' :: (name.toList ++ ((concat attrs).text.toList ++ (more ++ ['>'])))) :
    m.IsWhole ∧ m.tags = [⟨name, attrs.flatMap attributes⟩] := by
  have hletter {c : Char} (hc : c.isAlphanum = false) : c ∉ name.toList := fun hmem => by
    rw [isAlphanum_of_isTagName hname hmem] at hc
    cases hc
  have hbracket {c : Char} (hc : c ∈ ['<', '>']) (hnot : c.isAlphanum = false) :
      c ∉ name.toList ++ ((concat attrs).text.toList ++ more) := by
    simp only [List.mem_append, not_or]
    refine ⟨hletter hnot, notMem_toList_concat fun a ha => ?_, hmore c (List.mem_cons_of_mem _ hc)⟩
    exact bracket_notMem_of_isAttribute (hattrs a ha) hc
  have hbody : name.toList ++ ((concat attrs).text.toList ++ (more ++ ['>'])) =
      (name.toList ++ ((concat attrs).text.toList ++ more)) ++ ['>'] := by
    simp only [List.append_assoc]
  rw [hbody] at htext
  obtain ⟨hwhole, htags⟩ := isWhole_of_tag _ htext
    (by rw [List.mem_append, not_or]; exact ⟨hbracket (by decide) rfl, by decide⟩)
    (List.mem_append_right _ List.mem_cons_self)
  refine ⟨hwhole, ?_⟩
  -- The name ends where the attributes begin, and the text of the tag with its end.
  have htake : (name.toList ++ ((concat attrs).text.toList ++ more) ++ ['>']).takeWhile (· != '>') =
      name.toList ++ ((concat attrs).text.toList ++ more) := by
    rw [takeWhile_bne_append (hbracket (by decide) rfl)]
    exact List.append_nil _
  have hpart' :
      (name.toList ++ ((concat attrs).text.toList ++ more) ++ ['>']).takeWhile isNamePart =
        name.toList := by
    rw [takeWhile_append_stop rfl, List.takeWhile_append_of_pos fun c hc =>
      isNamePart_of_isAlphanum (isAlphanum_of_isTagName hname hc),
      takeWhile_isNamePart_concat hattrs hpart, List.append_nil]
  have hcontains : (name.toList ++ ((concat attrs).text.toList ++ more) ++ ['>']).contains '>' =
      true := by simp
  have hread := quotedAttributes_concat hattrs (hletter (c := '"') rfl) (hmore '"' (by decide))
  rw [List.append_assoc] at hread
  rw [htags, readTag?, htake, hpart', hcontains, hname, hread, String.ofList_toList]
  rfl

variable {name : String} {attrs : List Markup}

theorem startTag_spec (hname : isTagName name.toList = true) (hattrs : ∀ a ∈ attrs, a.IsAttribute) :
    (startTag name attrs).IsWhole ∧
      (startTag name attrs).tags = [⟨name, attrs.flatMap attributes⟩] := by
  refine isWhole_of_text name hname hattrs [] (fun _ _ => List.not_mem_nil) rfl ?_
  have hopen : (html ("<" ++ name)).text.toList = '<' :: name.toList := String.toList_append
  unfold startTag
  rw [toList_append, toList_append, hopen, List.append_assoc]
  rfl

@[simp]
theorem isWhole_startTag (hname : isTagName name.toList = true)
    (hattrs : ∀ a ∈ attrs, a.IsAttribute) : (startTag name attrs).IsWhole :=
  (startTag_spec hname hattrs).1

@[simp]
theorem tags_startTag (hname : isTagName name.toList = true)
    (hattrs : ∀ a ∈ attrs, a.IsAttribute) :
    (startTag name attrs).tags = [⟨name, attrs.flatMap attributes⟩] :=
  (startTag_spec hname hattrs).2

@[simp]
theorem isWhole_leaf (hname : isTagName name.toList = true)
    (hattrs : ∀ a ∈ attrs, a.IsAttribute) : (leaf name attrs).IsWhole :=
  isWhole_startTag hname hattrs

theorem endTag_spec (hname : isTagName name.toList = true) :
    (endTag name).IsWhole ∧ (endTag name).tags = [] := by
  have hopen : '<' ∉ '/' :: name.toList ++ ['>'] := by
    have hletter : '<' ∉ name.toList := fun hmem => by
      cases isAlphanum_of_isTagName hname hmem
    simp [hletter]
  obtain ⟨hwhole, htags⟩ := isWhole_of_tag _ (toList_endTag name) hopen
    (List.mem_append_right _ List.mem_cons_self)
  exact ⟨hwhole, htags.trans (by rw [readTag?_of_isDeadTag rfl]; rfl)⟩

@[simp]
theorem isWhole_endTag (hname : isTagName name.toList = true) : (endTag name).IsWhole :=
  (endTag_spec hname).1

@[simp]
theorem tags_endTag (hname : isTagName name.toList = true) : (endTag name).tags = [] :=
  (endTag_spec hname).2

/-- **An element** is whole and has its tag and those of its contents, whatever these are. -/
theorem el_spec (hname : isTagName name.toList = true) (hattrs : ∀ a ∈ attrs, a.IsAttribute)
    (contents : Markup) : (el name attrs contents).IsWhole ∧
      (el name attrs contents).tags =
        ⟨name, attrs.flatMap attributes⟩ :: contents.tags := by
  obtain ⟨hwhole, htags⟩ := (isWhole_endTag hname).behind (beginsWithTag_endTag name)
    (startTag name attrs ++ contents)
  rw [tags_append (isWhole_startTag hname hattrs), tags_startTag hname hattrs, tags_endTag hname,
    List.append_nil] at htags
  exact ⟨hwhole, htags⟩

@[simp]
theorem isWhole_el (hname : isTagName name.toList = true) (hattrs : ∀ a ∈ attrs, a.IsAttribute)
    (contents : Markup) : (el name attrs contents).IsWhole :=
  (el_spec hname hattrs contents).1

@[simp]
theorem tags_el (hname : isTagName name.toList = true) (hattrs : ∀ a ∈ attrs, a.IsAttribute)
    (contents : Markup) :
    (el name attrs contents).tags = ⟨name, attrs.flatMap attributes⟩ :: contents.tags :=
  (el_spec hname hattrs contents).2

/-! ### Text and scripts -/

@[simp]
theorem isWhole_esc (s : String) : (esc s).IsWhole :=
  isWhole_of_notMem (notMem_toList_esc s (by decide))

@[simp]
theorem tags_esc (s : String) : (esc s).tags = [] :=
  tags_of_notMem (notMem_toList_esc s (by decide))

@[simp]
theorem isWhole_empty : Markup.empty.IsWhole := isWhole_of_notMem List.not_mem_nil

@[simp]
theorem tags_empty : Markup.empty.tags = [] := tags_of_notMem List.not_mem_nil

@[simp]
theorem isWhole_html {s : String} (h : '<' ∉ s.toList) : (html s).IsWhole := isWhole_of_notMem h

@[simp]
theorem tags_html {s : String} (h : '<' ∉ s.toList) : (html s).tags = [] := tags_of_notMem h

@[simp]
theorem tags_inScript (json : String) : (Html.inScript json).tags = [] :=
  tags_of_notMem (lt_notMem_inScript json)

@[simp]
theorem isWhole_script (code : String) : (script code).IsWhole :=
  isWhole_el (by decide) (fun _ h => absurd h List.not_mem_nil) _

/-- **A script with inert code** has no tag but its own. -/
@[simp]
theorem tags_script {code : String} (h : IsInert code.toList) :
    (script code).tags = [⟨"script", []⟩] := by
  have hcode : (html ("\n(function()\x7b\n" ++ code ++ "\n\x7d)();\n")).tags = [] := by
    refine IsInert.readTags_eq_nil ?_
    show IsInert ("\n(function()\x7b\n" ++ code ++ "\n\x7d)();\n").toList
    rw [String.toList_append, String.toList_append]
    exact (IsInert.append (.of_notMem (by decide)) h).append (.of_notMem (by decide))
  unfold script
  rw [tags_el (by decide) (fun _ h => absurd h List.not_mem_nil), hcode]
  rfl

/-! ### Pieces put together -/

attribute [simp] isWhole_append

@[simp]
theorem isWhole_when {c : Bool} {m : Markup} :
    (Markup.when c m).IsWhole ↔ (c = true → m.IsWhole) := by
  cases c with
  | false => exact ⟨fun _ h => (Bool.false_ne_true h).elim, fun _ => isWhole_empty⟩
  | true => exact ⟨fun h _ => h, fun h => h rfl⟩

@[simp]
theorem tags_when (c : Bool) (m : Markup) :
    (Markup.when c m).tags = if c then m.tags else [] := by
  unfold Markup.when
  split
  · rfl
  · exact tags_empty

section

variable {α : Type} {f : α → Markup}

@[simp]
theorem isWhole_whenSome {o : Option α} :
    (whenSome o f).IsWhole ↔ ∀ a, o = some a → (f a).IsWhole := by
  cases o with
  | none => exact ⟨fun _ _ h => absurd h nofun, fun _ => isWhole_empty⟩
  | some a => exact ⟨fun h _ ha => Option.some.inj ha ▸ h, fun h => h a rfl⟩

@[simp]
theorem tags_whenSome (o : Option α) (f : α → Markup) :
    (whenSome o f).tags = o.toList.flatMap fun a => (f a).tags := by
  cases o with
  | none => exact tags_empty
  | some a => exact (List.append_nil _).symm

end

theorem readTags_indent (n : Nat) (m : Markup) (rest : List Char) :
    readTags ((indent n m).text.toList ++ rest) = readTags (m.text.toList ++ rest) := by
  have hblank : '<' ∉ List.replicate n ' ' := by
    rw [List.mem_replicate, not_and]
    exact fun _ => by decide
  rw [toList_indent, List.append_assoc, readTags_text_append hblank]

@[simp]
theorem tags_indent (n : Nat) (m : Markup) : (indent n m).tags = m.tags := by
  have hread := readTags_indent n m []
  rwa [List.append_nil, List.append_nil] at hread

@[simp]
theorem isWhole_indent {n : Nat} {m : Markup} : (indent n m).IsWhole ↔ m.IsWhole :=
  forall_congr' fun rest => by rw [readTags_indent, tags_indent]

@[simp]
theorem isWhole_concat {ms : List Markup} (h : ∀ m ∈ ms, m.IsWhole) : (concat ms).IsWhole := by
  induction ms with
  | nil => exact isWhole_of_notMem List.not_mem_nil
  | cons m ms ih =>
    rw [List.forall_mem_cons] at h
    rw [concat_cons]
    exact isWhole_append h.1 (ih h.2)

@[simp]
theorem tags_concat {ms : List Markup} (h : ∀ m ∈ ms, m.IsWhole) :
    (concat ms).tags = ms.flatMap tags := by
  induction ms with
  | nil => exact tags_of_notMem List.not_mem_nil
  | cons m ms ih =>
    rw [List.forall_mem_cons] at h
    rw [concat_cons, tags_append h.1, ih h.2, List.flatMap_cons]

section

variable {sep : String} (hsep : '<' ∉ sep.toList)
include hsep

@[simp]
theorem isWhole_joinWith {ms : List Markup} (h : ∀ m ∈ ms, m.IsWhole) :
    (joinWith sep ms).IsWhole := by
  induction ms with
  | nil => exact isWhole_of_notMem List.not_mem_nil
  | cons m ms ih =>
    rw [List.forall_mem_cons] at h
    cases ms with
    | nil =>
      rw [joinWith_singleton]
      exact h.1
    | cons n ms =>
      rw [joinWith_cons_cons]
      exact isWhole_append (isWhole_append h.1 (isWhole_html hsep)) (ih h.2)

/-- Markup that is joined, of which the last piece need not be whole. -/
theorem tags_joinWith_concat {ms : List Markup} (h : ∀ m ∈ ms, m.IsWhole) (last : Markup) :
    (joinWith sep (ms ++ [last])).tags = ms.flatMap tags ++ last.tags := by
  induction ms with
  | nil => rw [List.nil_append, joinWith_singleton]; rfl
  | cons m ms ih =>
    rw [List.forall_mem_cons] at h
    obtain ⟨n, ns, hcons⟩ : ∃ n ns, ms ++ [last] = n :: ns := by cases ms <;> exact ⟨_, _, rfl⟩
    rw [List.cons_append, hcons, joinWith_cons_cons,
      tags_append (isWhole_append h.1 (isWhole_html hsep)), tags_append h.1, tags_html hsep,
      List.append_nil, ← hcons, ih h.2, List.flatMap_cons, List.append_assoc]

@[simp]
theorem tags_joinWith {ms : List Markup} (h : ∀ m ∈ ms, m.IsWhole) :
    (joinWith sep ms).tags = ms.flatMap tags := by
  rcases List.eq_nil_or_concat ms with rfl | ⟨ms, last, rfl⟩
  · exact tags_of_notMem List.not_mem_nil
  · rw [List.concat_eq_append, List.forall_mem_append] at h
    rw [List.concat_eq_append, tags_joinWith_concat hsep h.1, List.flatMap_append,
      List.flatMap_singleton]

end

@[simp]
theorem isWhole_lines {ms : List Markup} (h : ∀ m ∈ ms, m.IsWhole) : (lines ms).IsWhole :=
  isWhole_joinWith (by decide) h

@[simp]
theorem tags_lines {ms : List Markup} (h : ∀ m ∈ ms, m.IsWhole) :
    (lines ms).tags = ms.flatMap tags :=
  tags_joinWith (by decide) h

/-- Text without the end of a tag adds nothing to the last tag before it. -/
theorem tags_append_html (m : Markup) {s : String} (h : ∀ c ∈ ['<', '>'], c ∉ s.toList) :
    (m ++ html s).tags = m.tags := by
  have hopen : '<' ∉ s.toList := h '<' (by decide)
  have hclose : '>' ∉ s.toList := h '>' (by decide)
  have hlast (tag : List Char) : readTag? (tag ++ s.toList) = readTag? tag := by
    by_cases htag : '>' ∈ tag
    · exact readTag?_append htag _
    · rw [readTag?_eq_none htag,
        readTag?_eq_none (by rw [List.mem_append, not_or]; exact ⟨htag, hclose⟩)]
  unfold tags readTags
  rw [toList_append, show (html s).text.toList = s.toList from rfl]
  -- The text follows the last tag, if there is any, and a tag reads the same with more text behind
  -- its end.
  by_cases hm : '<' ∈ m.text.toList
  · obtain ⟨before, last, hnot, htext⟩ := exists_last_tag hm
    have hlead : leadText s.toList = s.toList := by
      have htake := takeWhile_bne_append hopen []
      rwa [List.append_nil, List.takeWhile_nil, List.append_nil] at htake
    rw [htext, tagTexts_append hnot, tagTexts_append_last hnot, tagTexts_eq_nil hopen,
      List.filterMap_append, List.filterMap_append, hlead, List.filterMap_cons, hlast,
      List.filterMap_cons]
  · rw [tagTexts_text_append hm, tagTexts_eq_nil hopen, tagTexts_eq_nil hm]

/-- A row has the tags of its contents, even if these are not whole. -/
theorem tags_rows_singleton (m : Markup) : (rows [m]).tags = m.tags := by
  have hrow : rows [m] = m ++ html "\n" := by
    refine eq_of_toList_eq ?_
    rw [rows, List.map_singleton, concat_cons, toList_append]
    exact List.append_nil _
  rw [hrow, tags_append_html m (by simp)]

theorem joinWith_append_pair (sep : String) (ms : List Markup) (m n : Markup) :
    joinWith sep (ms ++ [m, n]) = joinWith sep (ms ++ [m]) ++ html sep ++ n := by
  induction ms with
  | nil => rw [List.nil_append, List.nil_append, joinWith_cons_cons, joinWith_singleton,
      joinWith_singleton]
  | cons k ms ih =>
    obtain ⟨l, ls, hone, htwo⟩ : ∃ l ls, ms ++ [m] = l :: ls ∧ ms ++ [m, n] = l :: (ls ++ [n]) := by
      cases ms with
      | nil => exact ⟨m, [], rfl, rfl⟩
      | cons l ls => exact ⟨l, ls ++ [m], rfl, by simp⟩
    rw [List.cons_append, List.cons_append, htwo, hone, joinWith_cons_cons, joinWith_cons_cons,
      ← htwo, ← hone, ih]
    refine eq_of_toList_eq ?_
    simp only [toList_append, List.append_assoc]

/-- **Lines around contents** that need not be whole: the tag in the last line ends them. -/
theorem lines_endTag_spec {ms : List Markup} (h : ∀ m ∈ ms, m.IsWhole) (contents : Markup)
    (hname : isTagName name.toList = true) :
    (lines (ms ++ [contents, endTag name])).IsWhole ∧
      (lines (ms ++ [contents, endTag name])).tags = ms.flatMap tags ++ contents.tags := by
  obtain ⟨hwhole, htags⟩ := (isWhole_endTag hname).behind (beginsWithTag_endTag name)
    (lines (ms ++ [contents]) ++ html "\n")
  have hcontents : (lines (ms ++ [contents])).tags = ms.flatMap tags ++ contents.tags :=
    tags_joinWith_concat (by decide) h contents
  rw [tags_endTag hname, List.append_nil, tags_append_html _ (by simp), hcontents] at htags
  unfold lines at hwhole htags ⊢
  rw [joinWith_append_pair]
  exact ⟨hwhole, htags⟩

@[simp]
theorem isWhole_rows {ms : List Markup} (h : ∀ m ∈ ms, m.IsWhole) : (rows ms).IsWhole :=
  isWhole_concat (List.forall_mem_map.mpr fun m hm =>
    isWhole_append (h m hm) (isWhole_html (by decide)))

@[simp]
theorem tags_rows {ms : List Markup} (h : ∀ m ∈ ms, m.IsWhole) :
    (rows ms).tags = ms.flatMap tags := by
  induction ms with
  | nil => exact tags_of_notMem List.not_mem_nil
  | cons m ms ih =>
    rw [List.forall_mem_cons] at h
    have hbreak : (html "\n").tags = [] := tags_html (by decide)
    have hrows : rows (m :: ms) = m ++ html "\n" ++ rows ms := by
      unfold rows
      rw [List.map_cons, concat_cons]
    rw [hrows, tags_append (isWhole_append h.1 (isWhole_html (by decide))), tags_append h.1,
      hbreak, List.append_nil, ih h.2, List.flatMap_cons]

@[simp]
theorem tags_stack {ms : List Markup} (h : ∀ m ∈ ms, m.IsWhole) :
    (stack ms).tags = ms.flatMap tags := by
  unfold stack
  rw [tags_lines fun m hm => h m (List.mem_filter.mp hm).1]
  induction ms with
  | nil => rfl
  | cons m rest ih =>
    rw [List.forall_mem_cons] at h
    rw [List.flatMap_cons, ← ih h.2]
    by_cases hm : m.isEmpty = true
    · have hempty : m.tags = [] := by
        unfold tags
        rw [String.isEmpty_iff.mp hm]
        rfl
      rw [List.filter_cons_of_neg (by simp [hm]), hempty, List.nil_append]
    · rw [List.filter_cons_of_pos (by simp [hm]), List.flatMap_cons]

/-- Pieces of two lists that are put together. -/
@[simp]
theorem forall_or_isWhole {p q : Markup → Prop} :
    (∀ m, p m ∨ q m → m.IsWhole) ↔ (∀ m, p m → m.IsWhole) ∧ ∀ m, q m → m.IsWhole := by
  simp only [or_imp, forall_and]

/-! Pieces that are made in one way, one for each entry of a list. -/

section

variable {α : Type} {xs : List α} {f : α → Markup} (h : ∀ x ∈ xs, (f x).IsWhole)
include h

@[simp]
theorem isWhole_concat_map : (concat (xs.map f)).IsWhole :=
  isWhole_concat (List.forall_mem_map.mpr h)

@[simp]
theorem isWhole_lines_map : (lines (xs.map f)).IsWhole :=
  isWhole_lines (List.forall_mem_map.mpr h)

end

/-! ### Reading something off each tag -/

section

variable {β : Type} {g : WrittenTag → List β}

/-- What is read off the tags of markup, one after the other. -/
def read (g : WrittenTag → List β) (m : Markup) : List β := m.tags.flatMap g

theorem read_append {a b : Markup} (ha : a.IsWhole) :
    (a ++ b).read g = a.read g ++ b.read g := by
  unfold read
  rw [tags_append ha, List.flatMap_append]

theorem read_of_tags_eq_nil {m : Markup} (h : m.tags = []) : m.read g = [] := by
  unfold read
  rw [h, List.flatMap_nil]

theorem forall_of_read {w : WrittenTag → Option β} {m : Markup}
    (h : m.read (fun t => (w t).toList) = []) : ∀ t ∈ m.tags, w t = none := fun t ht =>
  Option.toList_eq_nil_iff.mp (List.flatMap_eq_nil_iff.mp h t ht)

theorem read_of_tags_eq_flatMap {m : Markup} {ms : List Markup} (h : m.tags = ms.flatMap tags) :
    m.read g = ms.flatMap (read g) := by
  unfold read
  rw [h, List.flatMap_assoc]

@[simp]
theorem read_startTag (hname : isTagName name.toList = true)
    (hattrs : ∀ a ∈ attrs, a.IsAttribute) :
    (startTag name attrs).read g = g ⟨name, attrs.flatMap attributes⟩ := by
  unfold read
  rw [tags_startTag hname hattrs, List.flatMap_singleton]

@[simp]
theorem read_leaf (hname : isTagName name.toList = true) (hattrs : ∀ a ∈ attrs, a.IsAttribute) :
    (leaf name attrs).read g = g ⟨name, attrs.flatMap attributes⟩ :=
  read_startTag hname hattrs

@[simp]
theorem read_endTag (hname : isTagName name.toList = true) : (endTag name).read g = [] :=
  read_of_tags_eq_nil (tags_endTag hname)

@[simp]
theorem read_el (hname : isTagName name.toList = true) (hattrs : ∀ a ∈ attrs, a.IsAttribute)
    (contents : Markup) : (el name attrs contents).read g =
      g ⟨name, attrs.flatMap attributes⟩ ++ contents.read g := by
  unfold read
  rw [tags_el hname hattrs, List.flatMap_cons]

@[simp]
theorem read_esc (s : String) : (esc s).read g = [] := read_of_tags_eq_nil (tags_esc s)

@[simp]
theorem read_empty : Markup.empty.read g = [] := read_of_tags_eq_nil tags_empty

@[simp]
theorem read_html {s : String} (h : '<' ∉ s.toList) : (html s).read g = [] :=
  read_of_tags_eq_nil (tags_html h)

@[simp]
theorem read_inScript (json : String) : (Html.inScript json).read g = [] :=
  read_of_tags_eq_nil (tags_inScript json)

@[simp]
theorem read_script {code : String} (h : IsInert code.toList) :
    (script code).read g = g ⟨"script", []⟩ := by
  unfold read
  rw [tags_script h, List.flatMap_singleton]

@[simp]
theorem read_when (c : Bool) (m : Markup) :
    (Markup.when c m).read g = if c then m.read g else [] := by
  unfold read
  rw [tags_when]
  split <;> rfl

@[simp]
theorem read_whenSome {α : Type} (o : Option α) (f : α → Markup) :
    (whenSome o f).read g = o.toList.flatMap fun a => (f a).read g := by
  unfold read
  rw [tags_whenSome, List.flatMap_assoc]

@[simp]
theorem read_indent (n : Nat) (m : Markup) : (indent n m).read g = m.read g := by
  unfold read
  rw [tags_indent]

@[simp]
theorem read_concat {ms : List Markup} (h : ∀ m ∈ ms, m.IsWhole) :
    (concat ms).read g = ms.flatMap (read g) :=
  read_of_tags_eq_flatMap (tags_concat h)

@[simp]
theorem read_joinWith {sep : String} (hsep : '<' ∉ sep.toList) {ms : List Markup}
    (h : ∀ m ∈ ms, m.IsWhole) : (joinWith sep ms).read g = ms.flatMap (read g) :=
  read_of_tags_eq_flatMap (tags_joinWith hsep h)

@[simp]
theorem read_lines {ms : List Markup} (h : ∀ m ∈ ms, m.IsWhole) :
    (lines ms).read g = ms.flatMap (read g) :=
  read_of_tags_eq_flatMap (tags_lines h)

theorem read_lines_endTag {ms : List Markup} (h : ∀ m ∈ ms, m.IsWhole) (contents : Markup)
    (hname : isTagName name.toList = true) :
    (lines (ms ++ [contents, endTag name])).read g =
      ms.flatMap (read g) ++ contents.read g := by
  unfold read
  rw [(lines_endTag_spec h contents hname).2, List.flatMap_append, List.flatMap_assoc]

@[simp]
theorem read_rows {ms : List Markup} (h : ∀ m ∈ ms, m.IsWhole) :
    (rows ms).read g = ms.flatMap (read g) :=
  read_of_tags_eq_flatMap (tags_rows h)

@[simp]
theorem read_stack {ms : List Markup} (h : ∀ m ∈ ms, m.IsWhole) :
    (stack ms).read g = ms.flatMap (read g) :=
  read_of_tags_eq_flatMap (tags_stack h)

section

variable {α : Type} {xs : List α} {f : α → Markup} (h : ∀ x ∈ xs, (f x).IsWhole)
include h

@[simp]
theorem read_concat_map : (concat (xs.map f)).read g = xs.flatMap fun x => (f x).read g := by
  rw [read_concat (List.forall_mem_map.mpr h), List.flatMap_map]

@[simp]
theorem read_lines_map : (lines (xs.map f)).read g = xs.flatMap fun x => (f x).read g := by
  rw [read_lines (List.forall_mem_map.mpr h), List.flatMap_map]

end

end

end Markup

end StaticSite
