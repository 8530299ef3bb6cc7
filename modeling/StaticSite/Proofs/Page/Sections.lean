import StaticSite.Proofs.Text.Lines
import StaticSite.Widget.Checklist

/-!
# Sections of an article

A line begins a section if it reads as a heading (`Section.IsHeadingLine`). So the lines of an
article are cut in front of each such line, and each piece but the first one is a section
(`Section.ofAll_eq_map`).

`writeSections` writes sections below each other, behind a text that belongs to none of them. They
are found again, for either end of line (`sections_writeSections`). This holds of the sections that
can be the result of such a search: no line of theirs reads as another heading, and what the search
strips off is not there in the first place (`Section.IsPlain`).
-/

namespace StaticSite

/-! ### Cutting a list -/

variable {α : Type} {p : α → Bool}

/-- Cuts a list in front of each element of a class: what stands before the first of them, and each
of them with what follows up to the next. -/
def cutBefore (p : α → Bool) : List α → List α × List (α × List α)
  | [] => ([], [])
  | a :: as =>
    let (front, parts) := cutBefore p as
    if p a then ([], (a, front) :: parts) else (a :: front, parts)

theorem cutBefore_cons_of_pos {a : α} (ha : p a = true) (as : List α) :
    cutBefore p (a :: as) = ([], (a, (cutBefore p as).1) :: (cutBefore p as).2) := by
  rw [cutBefore]
  exact if_pos ha

theorem cutBefore_cons_of_neg {a : α} (ha : p a = false) (as : List α) :
    cutBefore p (a :: as) = (a :: (cutBefore p as).1, (cutBefore p as).2) := by
  rw [cutBefore]
  exact if_neg (by rw [ha]; exact Bool.false_ne_true)

/-- Each part begins with an element of the class. -/
theorem map_fst_cutBefore (as : List α) : (cutBefore p as).2.map Prod.fst = as.filter p := by
  induction as with
  | nil => rfl
  | cons a as ih =>
    by_cases ha : p a = true
    · rw [cutBefore_cons_of_pos ha, List.map_cons, ih, List.filter_cons_of_pos ha]
    · rw [cutBefore_cons_of_neg (Bool.eq_false_iff.mpr ha), ih, List.filter_cons_of_neg ha]

/-- No element of the class stands anywhere else. -/
theorem eq_false_of_mem_cutBefore (as : List α) : (∀ a ∈ (cutBefore p as).1, p a = false) ∧
    ∀ part ∈ (cutBefore p as).2, ∀ a ∈ part.2, p a = false := by
  induction as with
  | nil => exact ⟨fun a ha => absurd ha List.not_mem_nil, fun part h => absurd h List.not_mem_nil⟩
  | cons a as ih =>
    by_cases ha : p a = true
    · rw [cutBefore_cons_of_pos ha]
      exact ⟨fun a ha => absurd ha List.not_mem_nil, List.forall_mem_cons.mpr ih⟩
    · have ha := Bool.eq_false_iff.mpr ha
      rw [cutBefore_cons_of_neg ha]
      exact ⟨List.forall_mem_cons.mpr ⟨ha, ih.1⟩, ih.2⟩

/-- The elements of a part stand in the order of the list. -/
theorem sublist_of_mem_cutBefore {as : List α} {part : α × List α} (h : part ∈ (cutBefore p as).2) :
    (part.1 :: part.2).Sublist as := by
  have hall (as : List α) : (cutBefore p as).1.Sublist as ∧
      ∀ part ∈ (cutBefore p as).2, (part.1 :: part.2).Sublist as := by
    induction as with
    | nil => exact ⟨.slnil, fun part h => absurd h List.not_mem_nil⟩
    | cons a as ih =>
      by_cases ha : p a = true
      · rw [cutBefore_cons_of_pos ha]
        exact ⟨List.nil_sublist _, List.forall_mem_cons.mpr
          ⟨ih.1.cons_cons a, fun part hpart => (ih.2 part hpart).cons a⟩⟩
      · rw [cutBefore_cons_of_neg (Bool.eq_false_iff.mpr ha)]
        exact ⟨ih.1.cons_cons a, fun part hpart => (ih.2 part hpart).cons a⟩
  exact (hall as).2 part h

theorem cutBefore_map {β : Type} (f : β → α) (bs : List β) :
    cutBefore p (bs.map f) = ((cutBefore (p ∘ f) bs).1.map f,
      (cutBefore (p ∘ f) bs).2.map fun part => (f part.1, part.2.map f)) := by
  induction bs with
  | nil => rfl
  | cons b bs ih =>
    rw [List.map_cons]
    by_cases hb : p (f b) = true
    · have hcomp : (p ∘ f) b = true := hb
      rw [cutBefore_cons_of_pos hb, cutBefore_cons_of_pos hcomp, ih, List.map_cons, List.map_nil]
    · have hb := Bool.eq_false_iff.mpr hb
      have hcomp : (p ∘ f) b = false := hb
      rw [cutBefore_cons_of_neg hb, cutBefore_cons_of_neg hcomp, ih, List.map_cons]

/-- Elements outside the class are added to the piece that they stand in front of. -/
theorem cutBefore_append {as : List α} (h : ∀ a ∈ as, p a = false) (bs : List α) :
    cutBefore p (as ++ bs) = (as ++ (cutBefore p bs).1, (cutBefore p bs).2) := by
  induction as with
  | nil => rfl
  | cons a as ih =>
    obtain ⟨ha, has⟩ := List.forall_mem_cons.mp h
    rw [List.cons_append, cutBefore_cons_of_neg ha, ih has]
    rfl

/-- **Parts that are put together are cut apart again.** -/
theorem cutBefore_flatMap {front : List α} {parts : List (α × List α)}
    (hfront : ∀ a ∈ front, p a = false)
    (hparts : ∀ part ∈ parts, p part.1 = true ∧ ∀ a ∈ part.2, p a = false) :
    cutBefore p (front ++ parts.flatMap fun part => part.1 :: part.2) = (front, parts) := by
  have hrest : cutBefore p (parts.flatMap fun part => part.1 :: part.2) = ([], parts) := by
    induction parts with
    | nil => rfl
    | cons part parts ih =>
      obtain ⟨⟨hhead, hbelow⟩, hparts⟩ := List.forall_mem_cons.mp hparts
      rw [List.flatMap_cons, List.cons_append, cutBefore_cons_of_pos hhead, cutBefore_append hbelow,
        ih hparts, List.append_nil]
  rw [cutBefore_append hfront, hrest, List.append_nil]

/-- The pieces of a list that is cut so. -/
def cutPieces (p : α → Bool) (as : List α) : List (List α) :=
  (cutBefore p as).1 :: (cutBefore p as).2.map fun part => part.1 :: part.2

/-- An element in front makes one of the pieces longer, and the others stay. -/
theorem exists_cutPieces_cons {as piece : List α} (a : α) (h : piece ∈ cutPieces p as) :
    ∃ longer ∈ cutPieces p (a :: as), piece ⊆ longer := by
  unfold cutPieces
  by_cases ha : p a = true
  · rw [cutBefore_cons_of_pos ha]
    rcases List.mem_cons.mp h with rfl | h
    · exact ⟨_, List.mem_cons_of_mem _ List.mem_cons_self, List.subset_cons_self _ _⟩
    · exact ⟨piece, List.mem_cons_of_mem _ (List.mem_cons_of_mem _ h), List.Subset.refl _⟩
  · rw [cutBefore_cons_of_neg (Bool.eq_false_iff.mpr ha)]
    rcases List.mem_cons.mp h with rfl | h
    · exact ⟨_, List.mem_cons_self, List.subset_cons_self _ _⟩
    · exact ⟨piece, List.mem_cons_of_mem _ h, List.Subset.refl _⟩

namespace Section

/-! ### Headings -/

/-- Whether a line reads as the heading of a section: two number signs, blanks and a text. -/
def IsHeadingLine (line : List Char) : Prop :=
  ∃ gap text, gap ≠ [] ∧ (∀ c ∈ gap, Text.isBlank c = true) ∧ text ≠ [] ∧
    line = '#' :: '#' :: (gap ++ text)

variable {line : String} {blanks text : List Char}

/-- What `heading?` finds, by the blanks behind the number signs and what follows them. -/
theorem heading?_eq (hblanks : ∀ c ∈ blanks, Text.isBlank c = true)
    (htext : ∀ c ∈ text.head?, Text.isBlank c = false)
    (hline : line.toList = '#' :: '#' :: (blanks ++ text)) :
    heading? line = if blanks.isEmpty then none
      else if !text.isEmpty then some (String.ofList text)
      else if 2 ≤ blanks.length then some (String.ofList (blanks.drop (blanks.length - 1)))
      else none := by
  have hnone : text.takeWhile Text.isBlank = [] := by
    cases text with
    | nil => rfl
    | cons c text => exact List.takeWhile_cons_of_neg (by simp [htext c rfl])
  have htake : (blanks ++ text).takeWhile Text.isBlank = blanks := by
    rw [List.takeWhile_append_of_pos hblanks, hnone, List.append_nil]
  unfold heading?
  rw [hline]
  simp only [htake, List.drop_left]

/-- If nothing follows the blanks, the last of several is the text of the heading. -/
theorem isHeadingLine_iff (hblanks : ∀ c ∈ blanks, Text.isBlank c = true)
    (htext : ∀ c ∈ text.head?, Text.isBlank c = false) :
    IsHeadingLine ('#' :: '#' :: (blanks ++ text)) ↔
      blanks ≠ [] ∧ (text ≠ [] ∨ 2 ≤ blanks.length) := by
  constructor
  · rintro ⟨gap, rest, hgap, hgapBlank, hrest, hline⟩
    have hsplit : blanks ++ text = gap ++ rest := (List.cons.inj (List.cons.inj hline).2).2
    have hne : blanks ≠ [] := by
      rintro rfl
      obtain ⟨c, gap, rfl⟩ := List.exists_cons_of_ne_nil hgap
      have hhead := htext c (by rw [← List.nil_append text, hsplit]; rfl)
      rw [hgapBlank c List.mem_cons_self] at hhead
      cases hhead
    refine ⟨hne, or_iff_not_imp_left.mpr fun hnone => ?_⟩
    have hlength := congrArg List.length hsplit
    have hgapPos := List.length_pos_of_ne_nil hgap
    have hrestPos := List.length_pos_of_ne_nil hrest
    rw [not_not.mp hnone, List.append_nil, List.length_append] at hlength
    omega
  · rintro ⟨hne, hrest⟩
    by_cases hnone : text = []
    -- All blanks but the last one are the gap, and the last one is the text.
    · have hlength : 2 ≤ blanks.length := hrest.resolve_left (not_not.mpr hnone)
      refine ⟨blanks.take (blanks.length - 1), blanks.drop (blanks.length - 1), ?_,
        fun c hc => hblanks c (List.mem_of_mem_take hc), ?_, ?_⟩
      · rw [← List.length_pos_iff, List.length_take]
        omega
      · rw [← List.length_pos_iff, List.length_drop]
        omega
      · rw [List.take_append_drop, hnone, List.append_nil]
    · exact ⟨blanks, text, hne, hblanks, hnone, rfl⟩

theorem isSome_heading?_eq (hblanks : ∀ c ∈ blanks, Text.isBlank c = true)
    (htext : ∀ c ∈ text.head?, Text.isBlank c = false)
    (hline : line.toList = '#' :: '#' :: (blanks ++ text)) :
    (heading? line).isSome ↔ blanks ≠ [] ∧ (text ≠ [] ∨ 2 ≤ blanks.length) := by
  rw [heading?_eq hblanks htext hline]
  cases blanks with
  | nil => exact iff_of_false nofun fun h => h.1 rfl
  | cons b blanks =>
    cases text with
    | cons c text => exact iff_of_true rfl ⟨List.cons_ne_nil _ _, .inl (List.cons_ne_nil _ _)⟩
    | nil => simp

/-- **The lines with a heading are those that read as one.** -/
theorem isSome_heading?_iff (line : String) :
    (heading? line).isSome ↔ IsHeadingLine line.toList := by
  by_cases hsigns : ∃ rest, line.toList = '#' :: '#' :: rest
  · obtain ⟨rest, hline⟩ := hsigns
    have hblanks : ∀ c ∈ rest.takeWhile Text.isBlank, Text.isBlank c = true :=
      List.all_eq_true.mp List.all_takeWhile
    -- What follows the blanks does not begin with one.
    have htext : ∀ c ∈ (rest.dropWhile Text.isBlank).head?, Text.isBlank c = false := fun c hc =>
      Bool.eq_false_iff.mpr fun hblank => absurd hblank (by
        have hdrop := List.head?_dropWhile_not Text.isBlank rest
        rw [hc] at hdrop
        simpa using hdrop)
    rw [← List.takeWhile_append_dropWhile (p := Text.isBlank) (l := rest)] at hline
    rw [isSome_heading?_eq hblanks htext hline, hline, isHeadingLine_iff hblanks htext]
  · refine iff_of_false (fun h => ?_) fun ⟨gap, text, _, _, _, hline⟩ => hsigns ⟨_, hline⟩
    unfold heading? at h
    split at h
    · next rest hline => exact hsigns ⟨rest, hline⟩
    · cases h

instance : DecidablePred IsHeadingLine := fun line =>
  decidable_of_iff ((heading? (String.ofList line)).isSome = true) (by
    rw [isSome_heading?_iff, String.toList_ofList])

/-! ### Sections as parts of a text -/

/-- Whether a line has a heading. -/
def hasHeading (line : String) : Bool := (heading? line).isSome

/-- The section that a line with a heading begins. -/
def ofPart (part : String × List String) : Section := ofLines ((heading? part.1).getD "") part.2

/-- **The sections are the parts of the text.** -/
theorem ofAll_eq_map (ls : List String) : ofAll ls = (cutBefore hasHeading ls).2.map ofPart := by
  -- The lines of the section that is open are gathered in reverse, up to the next heading.
  have hcollect (heading : String) (body ls : List String) : collect heading body ls =
      ofLines heading (body.reverse ++ (cutBefore hasHeading ls).1) ::
        (cutBefore hasHeading ls).2.map ofPart := by
    induction ls generalizing heading body with
    | nil => rw [collect, cutBefore, List.append_nil]; rfl
    | cons line ls ih =>
      rw [collect]
      cases h : heading? line with
      | none =>
        have hline : hasHeading line = false := by rw [hasHeading, h]; rfl
        rw [cutBefore_cons_of_neg hline]
        simp only [ih, List.reverse_cons, List.append_assoc, List.singleton_append]
      | some next =>
        have hline : hasHeading line = true := by rw [hasHeading, h]; rfl
        rw [cutBefore_cons_of_pos hline, List.append_nil]
        simp only [ih, List.map_cons, ofPart, h, Option.getD_some, List.reverse_nil,
          List.nil_append]
  induction ls with
  | nil => rfl
  | cons line ls ih =>
    rw [ofAll]
    cases h : heading? line with
    | none =>
      have hline : hasHeading line = false := by rw [hasHeading, h]; rfl
      rw [cutBefore_cons_of_neg hline]
      exact ih
    | some heading =>
      have hline : hasHeading line = true := by rw [hasHeading, h]; rfl
      rw [cutBefore_cons_of_pos hline]
      simp only [hcollect, List.map_cons, ofPart, h, Option.getD_some, List.reverse_nil,
        List.nil_append]

/-! ### Writing sections -/

/-- Whether a section can be written and found again. Its heading is one line and does not begin
with a blank. Its body has nothing to strip off and no line breaks but line feeds, and none of its
lines reads as a heading. -/
structure IsPlain (s : Section) : Prop where
  heading_starts : ∃ c cs, s.heading.toList = c :: cs ∧ Text.isBlank c = false
  heading_line : ∀ c ∈ s.heading.toList, Text.isLineBreak c = false
  body_stripped : Text.strip s.body = s.body
  body_breaks : ∀ c ∈ s.body.toList, Text.isLineBreak c = true → c = '\n'
  body_lines : ∀ line ∈ s.body.toList.splitOn '\n', ¬ IsHeadingLine line

instance : DecidablePred IsPlain := fun s =>
  decidable_of_iff (s.heading.toList.head?.map Text.isBlank = some false ∧
      s.heading.toList.all (!Text.isLineBreak ·) = true ∧ Text.strip s.body = s.body ∧
      s.body.toList.all (fun c => !Text.isLineBreak c || c == '\n') = true ∧
      ∀ line ∈ s.body.toList.splitOn '\n', ¬ IsHeadingLine line) (by
    constructor
    · rintro ⟨hstarts, hheading, hbody, hbreaks, hlines⟩
      obtain ⟨c, hc, hblank⟩ := Option.map_eq_some_iff.mp hstarts
      obtain ⟨cs, hcs⟩ := List.head?_eq_some_iff.mp hc
      refine ⟨⟨c, cs, hcs, hblank⟩, fun c hc => ?_, hbody, fun c hc hbreak => ?_, hlines⟩
      · simpa using List.all_eq_true.mp hheading c hc
      · simpa [hbreak] using List.all_eq_true.mp hbreaks c hc
    · rintro ⟨⟨c, cs, hcs, hblank⟩, hheading, hbody, hbreaks, hlines⟩
      refine ⟨by rw [hcs, List.head?_cons, Option.map_some, hblank],
        List.all_eq_true.mpr fun c hc => ?_, hbody, List.all_eq_true.mpr fun c hc => ?_, hlines⟩
      · simp [hheading c hc]
      · simpa [Bool.or_eq_true, imp_iff_not_or] using hbreaks c hc)

/-- A section as it is written. -/
def written (s : Section) : String := "## " ++ s.heading ++ "\n" ++ s.body ++ "\n"

/-- The line with the heading of a section. -/
def headingLine (s : Section) : List Char := "## ".toList ++ s.heading.toList

/-- The lines of a section as it is written. -/
def lines (s : Section) : List (List Char) := s.headingLine :: s.body.toList.splitOn '\n'

variable {s : Section} {eol : List Char}

theorem IsPlain.heading?_headingLine (h : s.IsPlain) :
    heading? (String.ofList s.headingLine) = some s.heading := by
  obtain ⟨c, cs, hheading, hc⟩ := h.heading_starts
  have hline : (String.ofList s.headingLine).toList = '#' :: '#' :: ([' '] ++ c :: cs) := by
    rw [String.toList_ofList, headingLine, hheading]
    rfl
  rw [heading?_eq (List.forall_mem_singleton.mpr rfl) (by simpa using hc) hline, ← hheading,
    String.ofList_toList]
  simp [hheading]

/-- **A section is read off its lines.** -/
theorem IsPlain.ofPart_eq (h : s.IsPlain) :
    ofPart (String.ofList s.headingLine, (s.body.toList.splitOn '\n').map String.ofList) = s := by
  have hbody : Text.unlines ((s.body.toList.splitOn '\n').map String.ofList) = s.body := by
    rw [← String.toList_inj, Text.unlines, String.toList_intercalate, List.map_map]
    simp [Function.comp_def]
  rw [ofPart, h.heading?_headingLine, Option.getD_some, ofLines, hbody, h.body_stripped]

theorem IsPlain.isLineBreak_of_mem_lines (h : s.IsPlain) :
    ∀ line ∈ s.lines, ∀ c ∈ line, Text.isLineBreak c = false := by
  refine List.forall_mem_cons.mpr ⟨fun c hc => ?_, fun line hline c hc => ?_⟩
  · rcases List.mem_append.mp hc with hc | hc
    · have hsigns : "## ".toList.all (!Text.isLineBreak ·) = true := by decide
      simpa using List.all_eq_true.mp hsigns c hc
    · exact h.heading_line c hc
  · obtain ⟨hfeed, hsub⟩ := Text.of_mem_splitOn hline
    exact Bool.eq_false_iff.mpr fun hbreak =>
      hfeed (h.body_breaks c (hsub hc) hbreak ▸ hc)

/-- A section is written as its lines, each with an end behind it. -/
theorem IsPlain.withLineEnds_written (h : s.IsPlain) (eol : List Char) :
    Text.withLineEnds eol s.written.toList = s.lines.flatMap (· ++ eol) := by
  have hheading : '\n' ∉ s.headingLine := fun hmem =>
    absurd (h.isLineBreak_of_mem_lines _ List.mem_cons_self _ hmem) (by decide)
  have hwritten : s.written.toList = s.headingLine ++ '\n' :: (s.body.toList ++ ['\n']) := by
    simp [written, headingLine]
  rw [hwritten, Text.withLineEnds_append, Text.withLineEnds_of_notMem hheading,
    Text.withLineEnds_lineFeed_cons, Text.withLineEnds_append, Text.withLineEnds_lineFeed_cons,
    Text.withLineEnds_nil, List.append_nil, Text.withLineEnds_append_lineEnd, lines,
    List.flatMap_cons, List.append_assoc]

end Section

open Section

/-- Sections written below each other, behind a text that belongs to none of them. -/
def writeSections (preamble : String) (secs : List Section) : String :=
  preamble ++ "\n" ++ String.join (secs.map written)

/-- What is written is the text in front and the lines of the sections. -/
theorem withLineEnds_writeSections {preamble : String} {secs : List Section} {eol : List Char}
    (hsecs : ∀ s ∈ secs, s.IsPlain) :
    Text.withLineEnds eol (writeSections preamble secs).toList =
      Text.withLineEnds eol preamble.toList ++
        (eol ++ (secs.flatMap lines).flatMap (· ++ eol)) := by
  have hjoin : Text.withLineEnds eol (String.join (secs.map written)).toList =
      (secs.flatMap lines).flatMap (· ++ eol) := by
    induction secs with
    | nil => rfl
    | cons s secs ih =>
      obtain ⟨hs, hsecs⟩ := List.forall_mem_cons.mp hsecs
      have htext : (String.join ((s :: secs).map written)).toList =
          s.written.toList ++ (String.join (secs.map written)).toList := by
        simp [String.toList_join]
      rw [htext, Text.withLineEnds_append, hs.withLineEnds_written, ih hsecs, List.flatMap_cons,
        List.flatMap_append]
  have htext : (writeSections preamble secs).toList =
      preamble.toList ++ '\n' :: (String.join (secs.map written)).toList := by
    simp [writeSections]
  rw [htext, Text.withLineEnds_append, Text.withLineEnds_lineFeed_cons, hjoin]

/-- A section as a part of a text: the line with its heading, and its other lines. -/
def Section.toPart (s : Section) : String × List String :=
  (String.ofList s.headingLine, (s.body.toList.splitOn '\n').map String.ofList)

/-- **The lines of what is written** are those of the sections, behind lines that belong to none. -/
theorem exists_lines_writeSections {preamble : String} {secs : List Section} {eol : List Char}
    (heol : Text.IsLineEnd eol)
    (hpreamble : ∀ line ∈ Text.lines preamble, ¬ IsHeadingLine line.toList)
    (hsecs : ∀ s ∈ secs, s.IsPlain) :
    ∃ front, (∀ line ∈ front, hasHeading line = false) ∧
      Text.lines (String.ofList (Text.withLineEnds eol (writeSections preamble secs).toList)) =
        front ++ (secs.map toPart).flatMap fun part => part.1 :: part.2 := by
  have hbreaks : ∀ line ∈ secs.flatMap lines, ∀ c ∈ line, Text.isLineBreak c = false := by
    intro line hline
    obtain ⟨s, hs, hline⟩ := List.mem_flatMap.mp hline
    exact (hsecs s hs).isLineBreak_of_mem_lines line hline
  -- Lines of sections have no break inside, so that they are read as they were written.
  have hlines := Text.linesFrom_flatMap_append heol hbreaks []
  obtain ⟨front, hfront, hmem⟩ := Text.exists_linesFrom_append heol preamble.toList
    ((secs.flatMap lines).flatMap (· ++ eol)) []
  refine ⟨front.map String.ofList, fun line hline => ?_, ?_⟩
  · obtain ⟨cs, hcs, rfl⟩ := List.mem_map.mp hline
    rw [Section.hasHeading, Bool.eq_false_iff, Ne, isSome_heading?_iff, String.toList_ofList]
    rcases hmem cs hcs with hcs | rfl
    · have hline := hpreamble _ (List.mem_map_of_mem hcs)
      rwa [String.toList_ofList] at hline
    · rintro ⟨gap, text, -, -, -, hline⟩
      cases hline
  · rw [Text.lines, String.toList_ofList, withLineEnds_writeSections hsecs, hfront]
    rw [List.append_nil] at hlines
    rw [hlines, Text.linesFrom]
    simp [List.flatMap_map, List.map_flatMap, toPart, lines]

theorem sections_withLineEnds {preamble : String} {secs : List Section} {eol : List Char}
    (heol : Text.IsLineEnd eol)
    (hpreamble : ∀ line ∈ Text.lines preamble, ¬ IsHeadingLine line.toList)
    (hsecs : ∀ s ∈ secs, s.IsPlain) :
    sections (String.ofList (Text.withLineEnds eol (writeSections preamble secs).toList)) =
      secs := by
  obtain ⟨front, hfront, hlines⟩ := exists_lines_writeSections heol hpreamble hsecs
  -- Each section begins with its heading and has no other one, so that the cuts fall between
  -- sections.
  have hparts : ∀ part ∈ secs.map toPart, hasHeading part.1 = true ∧
      ∀ line ∈ part.2, hasHeading line = false := by
    intro part hpart
    obtain ⟨s, hs, rfl⟩ := List.mem_map.mp hpart
    refine ⟨?_, fun line hline => ?_⟩
    · rw [Section.hasHeading, toPart, (hsecs s hs).heading?_headingLine, Option.isSome_some]
    · obtain ⟨cs, hcs, rfl⟩ := List.mem_map.mp hline
      rw [Section.hasHeading, Bool.eq_false_iff, Ne, isSome_heading?_iff, String.toList_ofList]
      exact (hsecs s hs).body_lines cs hcs
  rw [sections, hlines, ofAll_eq_map, cutBefore_flatMap hfront hparts, List.map_map]
  exact (List.map_congr_left fun s hs => (hsecs s hs).ofPart_eq).trans (List.map_id secs)

/-- **Sections that are written below each other are found again**, in order and with nothing else,
whether lines end with a line feed alone or with a carriage return before it. -/
theorem sections_writeSections (preamble : String) (secs : List Section)
    (hpreamble : ∀ line ∈ Text.lines preamble, ¬ IsHeadingLine line.toList)
    (hsecs : ∀ s ∈ secs, s.IsPlain) :
    sections (writeSections preamble secs) = secs ∧
      sections (Text.replaceAll (writeSections preamble secs) "\n" "\r\n") = secs := by
  have hfeed := sections_withLineEnds (.inl rfl) hpreamble hsecs
  have hreturn := sections_withLineEnds (.inr rfl) hpreamble hsecs
  rw [Text.withLineEnds_lineFeed, String.ofList_toList] at hfeed
  refine ⟨hfeed, ?_⟩
  rw [Text.replaceAll]
  show sections (String.ofList (Text.replaceList ['\n'] ['\r', '\n'] _)) = secs
  rw [Text.replaceList_lineFeed, hreturn]

/-! ### An article with two steps -/

/-- Two steps, the second of them without a text. -/
def twoSteps : List Section := [⟨"First step", "Do this\n\n### Detail"⟩, ⟨"Second step ##", ""⟩]

theorem sections_writeSections_twoSteps :
    (∀ line ∈ Text.lines "Intro\n#One", ¬ IsHeadingLine line.toList) ∧
      (∀ s ∈ twoSteps, s.IsPlain) ∧
      sections (writeSections "Intro\n#One" twoSteps) = twoSteps ∧
      sections (Text.replaceAll (writeSections "Intro\n#One" twoSteps) "\n" "\r\n") = twoSteps := by
  have hpreamble : ∀ line ∈ Text.lines "Intro\n#One", ¬ IsHeadingLine line.toList := by decide
  have hsteps : ∀ s ∈ twoSteps, s.IsPlain := by decide
  exact ⟨hpreamble, hsteps, sections_writeSections "Intro\n#One" twoSteps hpreamble hsteps⟩

end StaticSite
