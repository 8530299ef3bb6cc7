import Mathlib.Data.List.Chain
import StaticSite.Proofs.Markdown.Fences
import StaticSite.Proofs.Page.Sections

/-!
# Sections and blocks of code

An article is read twice: as Markdown, where a block of fenced code is one piece, and line by line,
where each line that reads as a heading begins a section. A line within a block of code may read as
one, and then a section begins there and cuts the block in two.

`placedLines` gives each line with the text in front of it, which tells the number of the line of
Markdown that it stands in. `sections_start_outside_code_iff` says when all sections begin outside
of code: if no line within a block of code reads as a heading. Then, and only then, each block lies
in one piece of the article, that is in one section or in front of all of them.
-/

namespace StaticSite

open Markdown (EndsLine IsFenced IsLineBreak evenLineEnds)
open Section (hasHeading)

/-! ### Lines and their places -/

/-- A line of a text, with the text in front of it. -/
structure PlacedLine where
  before : List Char
  text : String
deriving DecidableEq

/-- The lines of the rest of a text behind `before`, `line` being the line in progress, its last
character first. -/
def placedLinesFrom (before : List Char) : List Char → List Char → List PlacedLine
  | [], line => if line.isEmpty then [] else [⟨before, String.ofList line.reverse⟩]
  | '\r' :: '\n' :: rest, line =>
    ⟨before, String.ofList line.reverse⟩ ::
      placedLinesFrom (before ++ line.reverse ++ ['\r', '\n']) rest []
  | c :: rest, line =>
    if Text.isLineBreak c then
      ⟨before, String.ofList line.reverse⟩ ::
        placedLinesFrom (before ++ line.reverse ++ [c]) rest []
    else placedLinesFrom before rest (c :: line)

/-- The lines of a text, each with the text in front of it. -/
def placedLines (text : String) : List PlacedLine := placedLinesFrom [] text.toList []

namespace PlacedLine

/-- The number of the line of Markdown that a line stands in. -/
def number (l : PlacedLine) : Nat := (evenLineEnds l.before).count '\n'

/-- Whether a line stands right below another one. -/
def IsBelow (a b : PlacedLine) : Prop :=
  (∀ c ∈ a.text.toList, Text.isLineBreak c = false) ∧
    ∃ eol, IsLineBreak eol ∧ b.before = a.before ++ a.text.toList ++ eol

variable {a b l : PlacedLine}

theorem IsBelow.length_lt (h : IsBelow a b) : a.before.length < b.before.length := by
  obtain ⟨-, eol, heol, hbefore⟩ := h
  have hpos : 0 < eol.length := by rcases heol with rfl | ⟨c, -, rfl⟩ <;> simp
  rw [hbefore, List.length_append, List.length_append]
  omega

/-- **The number grows by one at most**, and if it does, the line begins a line of Markdown. -/
theorem IsBelow.number_eq (h : IsBelow a b) :
    b.number = a.number ∨ b.number = a.number + 1 ∧ EndsLine (evenLineEnds b.before) := by
  obtain ⟨hline, eol, heol, hbefore⟩ := h
  unfold number
  rw [hbefore]
  exact Markdown.count_evenLineEnds_append hline heol a.before

end PlacedLine

open PlacedLine (IsBelow)

variable {before cs line : List Char} {l : PlacedLine} {text : String} {first last : Nat}

theorem map_text_placedLines (text : String) :
    (placedLines text).map PlacedLine.text = Text.lines text := by
  have hfrom (before cs line : List Char) : (placedLinesFrom before cs line).map PlacedLine.text =
      (Text.linesFrom cs line).map String.ofList := by
    fun_induction placedLinesFrom before cs line <;> simp_all [Text.linesFrom]
  exact hfrom [] text.toList []

/-- **Each line stands right below the one before it**, and the first one at the start. -/
theorem isChain_placedLinesFrom (hline : ∀ c ∈ line, Text.isLineBreak c = false) :
    (∀ l ∈ (placedLinesFrom before cs line).head?, l.before = before) ∧
      (placedLinesFrom before cs line).IsChain IsBelow := by
  -- On the text: a line ends at a carriage return with its line feed, at any other break, or not
  -- yet.
  fun_induction placedLinesFrom before cs line with
  | case1 => exact ⟨fun l hl => absurd hl (by simp), .nil⟩
  | case2 before line => exact ⟨fun l hl => by rw [← Option.some.inj hl], .singleton _⟩
  | case3 before rest line ih =>
    obtain ⟨hhead, hchain⟩ := ih (fun c hc => absurd hc List.not_mem_nil)
    refine ⟨fun l hl => by rw [← Option.some.inj hl],
      List.isChain_cons.mpr ⟨fun b hb => ?_, hchain⟩⟩
    refine ⟨by simpa using hline, ['\r', '\n'], .inl rfl, ?_⟩
    rw [hhead b hb, String.toList_ofList]
  | case4 before c rest line hreturn hbreak ih =>
    obtain ⟨hhead, hchain⟩ := ih (fun c hc => absurd hc List.not_mem_nil)
    refine ⟨fun l hl => by rw [← Option.some.inj hl],
      List.isChain_cons.mpr ⟨fun b hb => ?_, hchain⟩⟩
    refine ⟨by simpa using hline, [c], .inr ⟨c, hbreak, rfl⟩, ?_⟩
    rw [hhead b hb, String.toList_ofList]
  | case5 before c rest line hreturn hbreak ih =>
    exact ih (List.forall_mem_cons.mpr ⟨by simpa using hbreak, hline⟩)

theorem isChain_placedLines (text : String) : (placedLines text).IsChain IsBelow :=
  (isChain_placedLinesFrom fun _ hc => absurd hc List.not_mem_nil).2

/-- A line is a part of its text. -/
theorem exists_text_eq_append (h : l ∈ placedLines text) :
    ∃ rest, text.toList = l.before ++ l.text.toList ++ rest := by
  have hfrom (before cs line : List Char) (h : l ∈ placedLinesFrom before cs line) :
      ∃ rest, before ++ line.reverse ++ cs = l.before ++ l.text.toList ++ rest := by
    fun_induction placedLinesFrom before cs line with
    | case1 => exact absurd h List.not_mem_nil
    | case2 before line =>
      rw [List.mem_singleton.mp h]
      exact ⟨[], by rw [String.toList_ofList]⟩
    | case3 before rest line ih =>
      rcases List.mem_cons.mp h with rfl | h
      · exact ⟨'\r' :: '\n' :: rest, by rw [String.toList_ofList]⟩
      · simpa using ih h
    | case4 before c rest line hreturn hbreak ih =>
      rcases List.mem_cons.mp h with rfl | h
      · exact ⟨c :: rest, by rw [String.toList_ofList]⟩
      · simpa using ih h
    | case5 before c rest line hreturn hbreak ih => simpa using ih h
  exact hfrom [] text.toList [] h

theorem pairwise_length_lt (text : String) :
    (placedLines text).Pairwise fun a b => a.before.length < b.before.length :=
  ((isChain_placedLines text).imp fun _ _ => IsBelow.length_lt).pairwise

theorem pairwise_number_le (text : String) :
    (placedLines text).Pairwise fun a b => a.number ≤ b.number :=
  ((isChain_placedLines text).imp fun _ _ h => by rcases h.number_eq with h | h <;> omega).pairwise

/-- **Where a line of Markdown begins**: the numbers of the lines leave none out, so that the first
line with a number begins the line of Markdown with this number. -/
theorem exists_first_line (h : l ∈ placedLines text) (hfirst : first ≤ l.number) :
    ∃ front found back, placedLines text = front ++ found :: back ∧
      (∀ a ∈ front, a.number < first) ∧ found.number = first ∧
      EndsLine (evenLineEnds found.before) := by
  -- The first line whose number is not too small. The line before it has a smaller number, and
  -- numbers rise by one at most.
  obtain ⟨found, hfound⟩ : ∃ found, (placedLines text).find? (first ≤ ·.number) = some found :=
    Option.isSome_iff_exists.mp (List.find?_isSome.mpr ⟨l, h, by simpa using hfirst⟩)
  obtain ⟨hle, front, back, hsplit, hfront⟩ := List.find?_eq_some_iff_append.mp hfound
  have hle : first ≤ found.number := by simpa using hle
  have hfront : ∀ a ∈ front, a.number < first := by simpa using hfront
  refine ⟨front, found, back, hsplit, hfront, ?_⟩
  rcases List.eq_nil_or_concat front with rfl | ⟨front, a, rfl⟩
  · have hbefore : found.before = [] :=
      (isChain_placedLinesFrom fun _ hc => absurd hc List.not_mem_nil).1 found
        (show (placedLines text).head? = some found by rw [hsplit]; rfl)
    have hnumber : found.number = 0 := by rw [PlacedLine.number, hbefore]; rfl
    refine ⟨by omega, ?_⟩
    rw [hbefore]
    exact fun c hc => absurd hc (by simp [evenLineEnds, Markdown.plainLines])
  · have hbelow : IsBelow a found := by
      have hchain := isChain_placedLines text
      rw [hsplit, List.concat_eq_append, List.append_assoc] at hchain
      exact (List.isChain_append_cons_cons.mp hchain).2.1
    have hlt : a.number < first := hfront a (by simp)
    rcases hbelow.number_eq with heq | ⟨hnumber, hends⟩
    · omega
    · exact ⟨by omega, hends⟩

/-! ### Sections -/

/-- The lines of an article in front of its sections, and those of each section. -/
def outline (text : String) : List PlacedLine × List (PlacedLine × List PlacedLine) :=
  cutBefore (fun l => hasHeading l.text) (placedLines text)

/-- The pieces of an article: what stands in front of its sections, and each of them. -/
def pieces (text : String) : List (List PlacedLine) :=
  cutPieces (fun l => hasHeading l.text) (placedLines text)

/-- Whether the lines with the numbers from `first` to `last` lie in one piece of an article. -/
def LiesInOnePiece (text : String) (first last : Nat) : Prop :=
  ∃ piece ∈ pieces text, ∀ l ∈ placedLines text, first ≤ l.number → l.number ≤ last → l ∈ piece

/-- The section that the lines of a part are read as. -/
def Section.ofPlaced (part : PlacedLine × List PlacedLine) : Section :=
  ofPart (part.1.text, part.2.map PlacedLine.text)

/-- **The sections of an article** are the parts of its outline. -/
theorem sections_eq_map_outline (text : String) :
    sections text = (outline text).2.map Section.ofPlaced := by
  rw [sections, Section.ofAll_eq_map, ← map_text_placedLines, cutBefore_map, List.map_map]
  rfl

/-- Whether a line stands in a block of fenced code. -/
def IsInCode (text : String) (l : PlacedLine) : Prop :=
  ∃ first last, IsFenced text.toList first last ∧ first ≤ l.number ∧ l.number ≤ last

/-- **A block of code begins with no heading**: where a line with a heading begins a line of
Markdown, no block begins. -/
theorem not_isFenced_of_hasHeading (h : l ∈ placedLines text) (hheading : hasHeading l.text = true)
    (hends : EndsLine (evenLineEnds l.before)) : ¬ IsFenced text.toList l.number last := by
  intro hfenced
  obtain ⟨gap, title, -, -, -, hline⟩ := (Section.isSome_heading?_iff l.text).mp hheading
  obtain ⟨rest, htext⟩ := exists_text_eq_append h
  rw [hline, List.append_assoc, List.cons_append] at htext
  have heven : evenLineEnds text.toList = evenLineEnds l.before ++ '#' :: evenLineEnds
      ('#' :: (gap ++ title) ++ rest) := by
    rw [htext, Markdown.evenLineEnds_append_cons (by decide) (by decide)]
  obtain ⟨line, hfirst⟩ := Markdown.getElem?_zero_splitLines_cons (c := '#') (by decide)
    (evenLineEnds ('#' :: (gap ++ title) ++ rest))
  rw [← Markdown.getElem?_splitLines_append hends, ← heven] at hfirst
  -- The line begins with a number sign in what Markdown is read from, and a block with a fence.
  obtain ⟨_, hhash⟩ := Markdown.getElem?_splitLines_normalizeText (by decide) (by decide) hfirst
  obtain ⟨c, _, hc, hfence⟩ := hfenced.exists_fence
  obtain ⟨rfl, -⟩ := List.cons.inj (Option.some.inj (hhash.symm.trans hfence))
  rcases hc with hc | hc <;> exact absurd hc (by decide)

section

variable {p : PlacedLine → Bool} {ls : List PlacedLine}

theorem mem_front_of_number_le (hmono : ls.Pairwise fun a b => a.number ≤ b.number)
    (hfirst : ∀ l ∈ ls, first ≤ l.number)
    (h : ∀ l ∈ ls, first ≤ l.number → l.number ≤ last → p l = false) (hl : l ∈ ls)
    (hlast : l.number ≤ last) : l ∈ (cutBefore p ls).1 := by
  -- On the lines. Numbers do not fall, so that nothing is cut before `l`.
  induction ls with
  | nil => exact absurd hl List.not_mem_nil
  | cons a ls ih =>
    obtain ⟨hle, hmono⟩ := List.pairwise_cons.mp hmono
    obtain ⟨ha, hfirst⟩ := List.forall_mem_cons.mp hfirst
    obtain ⟨hpa, h⟩ := List.forall_mem_cons.mp h
    have hnumber : a.number ≤ l.number := by
      rcases List.mem_cons.mp hl with rfl | hl
      · exact Nat.le_refl _
      · exact hle l hl
    rw [cutBefore_cons_of_neg (hpa ha (hnumber.trans hlast))]
    rcases List.mem_cons.mp hl with rfl | hl
    · exact List.mem_cons_self
    · exact List.mem_cons_of_mem a (ih hmono hfirst h hl)

/-- **Lines of a range that has no heading lie in one piece.** -/
theorem exists_piece (hmono : ls.Pairwise fun a b => a.number ≤ b.number)
    (h : ∀ l ∈ ls, first ≤ l.number → l.number ≤ last → p l = false) :
    ∃ piece ∈ cutPieces p ls, ∀ l ∈ ls, first ≤ l.number → l.number ≤ last → l ∈ piece := by
  induction ls with
  | nil => exact ⟨[], List.mem_cons_self, fun l hl => absurd hl List.not_mem_nil⟩
  | cons a ls ih =>
    by_cases ha : first ≤ a.number
    · -- The range begins here or before, so that all of it lies in front of the next heading.
      have hfirst : ∀ l ∈ a :: ls, first ≤ l.number := List.forall_mem_cons.mpr
        ⟨ha, fun l hl => ha.trans ((List.pairwise_cons.mp hmono).1 l hl)⟩
      exact ⟨_, List.mem_cons_self,
        fun l hl _ hlast => mem_front_of_number_le hmono hfirst h hl hlast⟩
    · obtain ⟨piece, hpiece, hall⟩ := ih (List.pairwise_cons.mp hmono).2
        (List.forall_mem_cons.mp h).2
      obtain ⟨more, hmore, hsub⟩ := exists_cutPieces_cons a hpiece
      refine ⟨more, hmore, fun l hl hfirst hlast => hsub ?_⟩
      rcases List.mem_cons.mp hl with rfl | hl
      · exact absurd hfirst ha
      · exact hall l hl hfirst hlast

end

/-- **A line with a heading within a block of code cuts it in two.** -/
theorem not_liesInOnePiece (h : l ∈ placedLines text) (hheading : hasHeading l.text = true)
    (hfenced : IsFenced text.toList first last) (hfirst : first ≤ l.number)
    (hlast : l.number ≤ last) : ¬ LiesInOnePiece text first last := by
  rintro ⟨piece, hpiece, hall⟩
  obtain ⟨front, found, back, hsplit, hfront, rfl, hends⟩ := exists_first_line h hfirst
  have hmem : found ∈ placedLines text := by rw [hsplit]; simp
  have hne : l ≠ found := by
    rintro rfl
    exact not_isFenced_of_hasHeading h hheading hends hfenced
  -- The first line of the block stands in front of the heading.
  have hbefore : found.before.length < l.before.length := by
    have hpairwise := pairwise_length_lt text
    rw [hsplit] at h hpairwise
    rcases List.mem_append.mp h with h | h
    · exact absurd (hfront l h) (by omega)
    · exact (List.pairwise_cons.mp (List.pairwise_append.mp hpairwise).2.1).1 l
        ((List.mem_cons.mp h).resolve_left hne)
  obtain ⟨hnone, hnoneBelow⟩ :=
    eq_false_of_mem_cutBefore (p := fun l => hasHeading l.text) (placedLines text)
  have hl : l ∈ piece := hall l h hfirst hlast
  have hfound : found ∈ piece := hall found hmem (Nat.le_refl _) hfenced.first_le_last
  rcases List.mem_cons.mp hpiece with rfl | hpiece
  · exact absurd (hnone l hl) (by simp [hheading])
  · obtain ⟨part, hpart, rfl⟩ := List.mem_map.mp hpiece
    have hhead : l = part.1 := (List.mem_cons.mp hl).resolve_right fun hbelow =>
      absurd (hnoneBelow part hpart l hbelow) (by simp [hheading])
    have hbelow : found ∈ part.2 := (List.mem_cons.mp hfound).resolve_left (hhead ▸ Ne.symm hne)
    have hpairwise := (pairwise_length_lt text).sublist (sublist_of_mem_cutBefore hpart)
    have := (List.pairwise_cons.mp hpairwise).1 found hbelow
    rw [← hhead] at this
    omega

/-- **When sections begin outside of code.** The sections of an article are the parts of its
outline. They all begin outside of code exactly if no line in a block of code reads as a heading,
and exactly if each block of code lies in one piece of the article. -/
theorem sections_start_outside_code_iff (text : String) :
    sections text = (outline text).2.map Section.ofPlaced ∧
      ((∀ part ∈ (outline text).2, ¬ IsInCode text part.1) ↔
        ∀ l ∈ placedLines text, IsInCode text l → ¬ Section.IsHeadingLine l.text.toList) ∧
      ((∀ part ∈ (outline text).2, ¬ IsInCode text part.1) ↔
        ∀ first last, IsFenced text.toList first last → LiesInOnePiece text first last) := by
  -- A section begins with each heading, so that both other conditions are about headings in code.
  have hstarts : (∀ part ∈ (outline text).2, ¬ IsInCode text part.1) ↔
      ∀ l ∈ placedLines text, IsInCode text l → hasHeading l.text = false := by
    have hfst := map_fst_cutBefore (p := fun l => hasHeading l.text) (placedLines text)
    rw [← outline] at hfst
    rw [← List.forall_mem_map (f := Prod.fst) (P := fun l => ¬ IsInCode text l), hfst]
    constructor
    · intro h l hl hcode
      by_contra hheading
      exact h l (List.mem_filter.mpr ⟨hl, by simpa using hheading⟩) hcode
    · intro h l hl hcode
      obtain ⟨hl, hheading⟩ := List.mem_filter.mp hl
      exact absurd hheading (by simp [h l hl hcode])
  refine ⟨sections_eq_map_outline text, ?_, ?_⟩
  · rw [hstarts]
    simp only [← Section.isSome_heading?_iff, hasHeading, Bool.not_eq_true]
  · rw [hstarts]
    constructor
    · intro h first last hfenced
      exact exists_piece (pairwise_number_le text) fun l hl hfirst hlast =>
        h l hl ⟨first, last, hfenced, hfirst, hlast⟩
    · rintro h l hl ⟨first, last, hfenced, hfirst, hlast⟩
      by_contra hheading
      have hheading : hasHeading l.text = true := by simpa using hheading
      exact not_liesInOnePiece hl hheading hfenced hfirst hlast (h first last hfenced)

/-! ### A heading in a block of code -/

/-- An article with nothing but a block of code, in which a line reads as a heading. -/
def fencedHeading : String := "```\n## in code\n```"

/-- The line in the block begins a section. -/
theorem fencedHeading_starts_section : sections fencedHeading = [⟨"in code", "```"⟩] ∧
    ∃ part ∈ (outline fencedHeading).2, IsInCode fencedHeading part.1 := by
  refine ⟨by decide, (⟨"```\n".toList, "## in code"⟩, [⟨"```\n## in code\n".toList, "```"⟩]),
    by decide, 0, 2, ?_, by decide, by decide⟩
  have hnormal : Markdown.normalizeText fencedHeading.toList =
      Markdown.grave :: "``\n## in code\n```\n\n".toList := by decide
  have hfence : Markdown.afterFence? true (Markdown.normalizeText fencedHeading.toList) =
      some ['\n', '\n'] := by decide
  rw [hnormal] at hfence
  refine ⟨[], "```\n## in code\n```".toList, Text.stretches Markdown.afterFence? false ['\n', '\n'],
    ?_, rfl, by decide⟩
  rw [hnormal]
  exact Text.stretches_of_some hfence

end StaticSite
