import StaticSite.Markdown.Fence
import StaticSite.Markdown.LineSyntax
import StaticSite.Proofs.Text.Find
import StaticSite.Proofs.Text.Lines

/-!
# Blocks of fenced code by their lines

Before an article is read its line ends become line feeds, its tabs become spaces and its blank
lines become empty. This changes what stands in a line, but not which line it is: a line keeps its
number (`getElem?_splitLines_normalizeText`), and if it begins with a sign that is no space it still
does.

In the text that comes out of this, blocks of fenced code are replaced by marks. `fenceStretches` is
what this step meets, block by block (`fst_extractFences`), and `IsFenced` gives a block by the
numbers of its first and its last line. A block begins with its fence at the start of a line
(`IsFenced.exists_fence`).
-/

namespace StaticSite.Markdown

open Text (Stretch stretches endsAtStart flatMap_source_stretches exists_after?_of_cut
  splitOn_lineFeed_cons exists_splitOn_cons of_mem_splitOn)
open Text.Stretch

/-! ### The lines of a text -/

variable {cs ds line : List Char} {c : Char} {k : Nat}

theorem length_splitLines (cs : List Char) : (splitLines cs).length = cs.count '\n' + 1 := by
  show (cs.splitOn '\n').length = _
  induction cs with
  | nil => rfl
  | cons c cs ih =>
    by_cases hc : c = '\n'
    · rw [hc, splitOn_lineFeed_cons, List.length_cons, ih, List.count_cons_self]
    · obtain ⟨piece, pieces, hcs, hall⟩ := exists_splitOn_cons hc cs
      rw [hall, List.length_cons, List.count_cons_of_ne hc, ← ih, hcs, List.length_cons]

/-- Whether a text is empty or ends with a line feed, so that what follows it begins a line. -/
def EndsLine (cs : List Char) : Prop := ∀ c ∈ cs.getLast?, c = '\n'

/-- **What follows full lines** begins the line with their number. -/
theorem getElem?_splitLines_append (h : EndsLine cs) (ds : List Char) :
    (splitLines (cs ++ ds))[cs.count '\n']? = (splitLines ds)[0]? := by
  rcases List.eq_nil_or_concat cs with rfl | ⟨front, c, rfl⟩
  · rfl
  · obtain rfl : c = '\n' := h c (by simp)
    have hsplit : splitLines (front ++ ['\n'] ++ ds) = splitLines front ++ splitLines ds := by
      rw [List.append_assoc, List.singleton_append]
      exact List.splitOn_append_cons_self front ds
    rw [List.concat_eq_append, hsplit, List.count_append, List.count_singleton_self,
      ← length_splitLines, List.getElem?_append_right (Nat.le_refl _), Nat.sub_self]

theorem getElem?_zero_splitLines_cons (hc : c ≠ '\n') (cs : List Char) :
    ∃ line, (splitLines (c :: cs))[0]? = some (c :: line) := by
  obtain ⟨piece, pieces, -, hall⟩ := exists_splitOn_cons hc cs
  exact ⟨piece, by rw [splitLines, Text.splitOnChar, hall]; rfl⟩

/-! ### Preparing a text -/

theorem splitLines_replicate_append (n : Nat) (cs : List Char) :
    ∃ piece pieces, splitLines cs = piece :: pieces ∧
      splitLines (List.replicate n ' ' ++ cs) = (List.replicate n ' ' ++ piece) :: pieces := by
  induction n with
  | zero =>
    obtain ⟨piece, pieces, h⟩ := List.exists_cons_of_ne_nil (List.splitOn_ne_nil '\n' cs)
    exact ⟨piece, pieces, h, h⟩
  | succ n ih =>
    obtain ⟨piece, pieces, hcs, hall⟩ := ih
    obtain ⟨piece', pieces', hall', hmore⟩ :=
      exists_splitOn_cons (c := ' ') (by decide) (List.replicate n ' ' ++ cs)
    obtain ⟨rfl, rfl⟩ := List.cons.inj (hall'.symm.trans hall)
    exact ⟨piece, pieces', hcs, hmore⟩

/-- **Tabs are replaced line by line.** -/
theorem splitLines_expandTabs (column : Nat) (cs : List Char) :
    ∃ piece pieces, splitLines cs = piece :: pieces ∧
      splitLines (expandTabs column cs) = expandTabs column piece :: pieces.map (expandTabs 0) := by
  -- On the text, for any column: a tab goes on at the next stop, and an end of line at the first
  -- column.
  induction cs generalizing column with
  | nil => exact ⟨[], [], rfl, rfl⟩
  | cons c cs ih =>
    rw [expandTabs]
    by_cases htab : c = '\t'
    · obtain ⟨piece, pieces, hcs, hall⟩ := ih (column + (tabWidth - column % tabWidth))
      obtain ⟨piece', pieces', hcs', hsplit⟩ :=
        exists_splitOn_cons (c := c) (by rw [htab]; decide) cs
      obtain ⟨rfl, rfl⟩ := List.cons.inj (hcs'.symm.trans hcs)
      refine ⟨c :: piece', pieces', hsplit, ?_⟩
      rw [if_pos (by simpa using htab), expandTabs, if_pos (by simpa using htab)]
      obtain ⟨piece'', pieces'', hmore, hspaces⟩ := splitLines_replicate_append
        (tabWidth - column % tabWidth) (expandTabs (column + (tabWidth - column % tabWidth)) cs)
      obtain ⟨rfl, rfl⟩ := List.cons.inj (hmore.symm.trans hall)
      exact hspaces
    · rw [if_neg (by simpa using htab)]
      by_cases hc : c = '\n'
      · obtain ⟨piece, pieces, hcs, hall⟩ := ih 0
        refine ⟨[], splitLines cs, by rw [hc]; exact splitOn_lineFeed_cons cs, ?_⟩
        rw [if_pos (by simpa using hc), hc, hcs]
        exact (splitOn_lineFeed_cons _).trans (congrArg ([] :: ·) hall)
      · obtain ⟨piece, pieces, hcs, hall⟩ := ih (column + 1)
        obtain ⟨piece', pieces', hcs', hsplit⟩ := exists_splitOn_cons hc cs
        obtain ⟨rfl, rfl⟩ := List.cons.inj (hcs'.symm.trans hcs)
        refine ⟨c :: piece', pieces', hsplit, ?_⟩
        rw [if_neg (by simpa using hc), expandTabs, if_neg (by simpa using htab),
          if_neg (by simpa using hc)]
        obtain ⟨piece'', pieces'', hmore, hall'⟩ :=
          exists_splitOn_cons hc (expandTabs (column + 1) cs)
        obtain ⟨rfl, rfl⟩ := List.cons.inj (hmore.symm.trans hall)
        exact hall'

/-- Emptying blank lines leaves every other line as it is. -/
theorem getElem?_splitLines_emptyBlankLines (h : (splitLines cs)[k]? = some line)
    (hline : line.all (· == ' ') = false) : (splitLines (emptyBlankLines cs))[k]? = some line := by
  have hfeeds : ∀ l ∈ splitLines cs, '\n' ∉ l := fun l hl => (of_mem_splitOn hl).1
  unfold emptyBlankLines
  split
  · next hnil => exact absurd hnil (List.splitOn_ne_nil '\n' cs)
  · next first rest hcs =>
    rw [hcs] at h hfeeds
    dsimp only
    generalize hinner : rest.dropLast.map (fun l => if l.all (· == ' ') then [] else l) = inner
    have hlength : inner.length = rest.length - 1 := by
      rw [← hinner, List.length_map, List.length_dropLast]
    have hall : ∀ l ∈ first :: inner ++ rest.drop inner.length, '\n' ∉ l := by
      intro l hl
      rcases List.mem_append.mp hl with hl | hl
      · rcases List.mem_cons.mp hl with rfl | hl
        · exact hfeeds _ List.mem_cons_self
        · rw [← hinner] at hl
          obtain ⟨l', hl', rfl⟩ := List.mem_map.mp hl
          split
          · exact List.not_mem_nil
          · exact hfeeds l' (List.mem_cons_of_mem _ (List.dropLast_subset _ hl'))
      · exact hfeeds l (List.mem_cons_of_mem _ (List.mem_of_mem_drop hl))
    have hjoin : splitLines (joinLines (first :: inner ++ rest.drop inner.length)) =
        first :: inner ++ rest.drop inner.length :=
      List.splitOn_intercalate '\n' hall (List.cons_ne_nil _ _)
    rw [hjoin]
    cases k with
    | zero => exact h
    | succ k =>
      rw [List.getElem?_cons_succ] at h
      rw [List.cons_append, List.getElem?_cons_succ]
      by_cases hk : k < inner.length
      · -- A line in the midst stays because it is not blank.
        have hget : rest.dropLast[k]? = some line := by
          rw [List.getElem?_dropLast, if_pos (hlength ▸ hk), h]
        rw [List.getElem?_append_left hk, ← hinner, List.getElem?_map, hget, Option.map_some, hline,
          if_neg Bool.false_ne_true]
      · have hadd : inner.length + (k - inner.length) = k := by omega
        rw [List.getElem?_append_right (by omega), List.getElem?_drop, hadd, h]

/-! ### Ends of lines -/

/-- Whether a character is not taken for one of a mark. -/
def isNoMark (c : Char) : Bool := c != markStart && c != markEnd

/-- A text with its line ends as line feeds, by which its lines are counted. -/
def evenLineEnds (cs : List Char) : List Char := plainLines (cs.filter isNoMark)

theorem normalizeText_eq (cs : List Char) : normalizeText cs =
    emptyBlankLines (expandTabs 0 (evenLineEnds cs ++ ['\n', '\n'])) := rfl

/-- A line feed at the start of a text may belong to a carriage return in front of it. -/
theorem plainLines_append (h : ∀ c ∈ ds.head?, c ≠ '\n') (cs : List Char) :
    plainLines (cs ++ ds) = plainLines cs ++ plainLines ds := by
  fun_induction plainLines cs with
  | case1 cs ih => exact congrArg ('\n' :: ·) ih
  | case2 c cs hreturn ih =>
    have hreturn : ∀ rest, c = '\r' → cs ++ ds = '\n' :: rest → False := by
      intro rest hc hrest
      cases cs with
      | nil => exact h '\n' (by rw [show ds = _ from hrest]; rfl) rfl
      | cons d cs => exact hreturn cs hc (by rw [(List.cons.inj hrest).1])
    rw [List.cons_append, plainLines.eq_2 _ _ hreturn, ih, List.cons_append]
  | case3 => rfl

theorem plainLines_concat_lineFeed (cs : List Char) :
    plainLines (cs ++ ['\n']) = plainLines cs ∨
      plainLines (cs ++ ['\n']) = plainLines cs ++ ['\n'] := by
  fun_induction plainLines cs with
  | case1 cs ih => exact ih.imp (congrArg ('\n' :: ·)) (congrArg ('\n' :: ·))
  | case2 c cs hreturn ih =>
    -- Only a carriage return at the end of the text joins the line feed.
    by_cases hc : c = '\r' ∧ cs = []
    · obtain ⟨rfl, rfl⟩ := hc
      exact .inl rfl
    · have hreturn : ∀ rest, c = '\r' → cs ++ ['\n'] = '\n' :: rest → False := by
        intro rest hc' hrest
        cases cs with
        | nil => exact hc ⟨hc', rfl⟩
        | cons d cs => exact hreturn cs hc' (by rw [(List.cons.inj hrest).1])
      rw [List.cons_append, plainLines.eq_2 _ _ hreturn]
      exact ih.imp (congrArg (_ :: ·)) (congrArg (_ :: ·))
  | case3 => exact .inr rfl

theorem plainLines_cons_of_ne (hc : c ≠ '\r') (cs : List Char) :
    plainLines (c :: cs) = c :: plainLines cs := by
  rw [plainLines.eq_2 _ _ fun _ hreturn _ => hc hreturn, if_neg (by simpa using hc)]

theorem plainLines_eq_self (h : ∀ c ∈ cs, Text.isLineBreak c = false) : plainLines cs = cs := by
  induction cs with
  | nil => rfl
  | cons c cs ih =>
    obtain ⟨hc, hcs⟩ := List.forall_mem_cons.mp h
    have hreturn : c ≠ '\r' := by
      rintro rfl
      cases hc
    rw [plainLines_cons_of_ne hreturn, ih hcs]

/-- Whether characters are an end of line, of whatever kind. -/
def IsLineBreak (eol : List Char) : Prop :=
  eol = ['\r', '\n'] ∨ ∃ c, Text.isLineBreak c = true ∧ eol = [c]

/-- **An end of line adds at most one line**, and if it does, what follows begins this line. -/
theorem count_plainLines_append {eol : List Char} (hline : ∀ c ∈ line, Text.isLineBreak c = false)
    (heol : IsLineBreak eol) (cs : List Char) :
    (plainLines (cs ++ line ++ eol)).count '\n' = (plainLines cs).count '\n' ∨
      (plainLines (cs ++ line ++ eol)).count '\n' = (plainLines cs).count '\n' + 1 ∧
        EndsLine (plainLines (cs ++ line ++ eol)) := by
  have hfeed : '\n' ∉ line := fun hmem => absurd (hline _ hmem) (by decide)
  have hlines : plainLines (cs ++ line) = plainLines cs ++ line := by
    rw [plainLines_append fun c hc => ne_of_mem_of_not_mem (List.mem_of_mem_head? hc) hfeed,
      plainLines_eq_self hline]
  have hcount : (plainLines (cs ++ line)).count '\n' = (plainLines cs).count '\n' := by
    rw [hlines, List.count_append, List.count_eq_zero.mpr hfeed, Nat.add_zero]
  have hends (front : List Char) : EndsLine (front ++ ['\n']) := fun c hc => by simpa using hc.symm
  have hmore (h : plainLines (cs ++ line ++ eol) = plainLines (cs ++ line) ++ ['\n']) :
      (plainLines (cs ++ line ++ eol)).count '\n' = (plainLines cs).count '\n' + 1 ∧
        EndsLine (plainLines (cs ++ line ++ eol)) := by
    rw [h, List.count_append, hcount]
    exact ⟨rfl, hends _⟩
  -- A line feed adds no line if a carriage return stands before it.
  rcases heol with rfl | ⟨c, -, rfl⟩
  · exact .inr (hmore (plainLines_append (by simp) _))
  · by_cases hc : c = '\n'
    · subst hc
      exact (plainLines_concat_lineFeed (cs ++ line)).imp (fun h => by rw [h, hcount]) hmore
    · have happend : plainLines (cs ++ line ++ [c]) = plainLines (cs ++ line) ++ plainLines [c] :=
        plainLines_append (by simpa using hc) _
      by_cases hreturn : c = '\r'
      · subst hreturn
        exact .inr (hmore happend)
      · rw [happend, plainLines_cons_of_ne hreturn, List.count_append, hcount]
        rw [plainLines, List.count_singleton, if_neg (by simpa using hc), Nat.add_zero]
        exact .inl rfl

theorem count_evenLineEnds_append {eol : List Char} (hline : ∀ c ∈ line, Text.isLineBreak c = false)
    (heol : IsLineBreak eol) (cs : List Char) :
    (evenLineEnds (cs ++ line ++ eol)).count '\n' = (evenLineEnds cs).count '\n' ∨
      (evenLineEnds (cs ++ line ++ eol)).count '\n' = (evenLineEnds cs).count '\n' + 1 ∧
        EndsLine (evenLineEnds (cs ++ line ++ eol)) := by
  have hfilter : eol.filter isNoMark = eol := by
    rcases heol with rfl | ⟨c, hc, rfl⟩
    · rfl
    · refine List.filter_cons_of_pos (?_ : isNoMark c = true)
      have hmarks : c ≠ markStart ∧ c ≠ markEnd := by
        constructor <;> (rintro rfl; exact absurd hc (by decide))
      simp [isNoMark, hmarks]
  unfold evenLineEnds
  rw [List.filter_append, List.filter_append, hfilter]
  exact count_plainLines_append (fun c hc => hline c (List.mem_of_mem_filter hc)) heol _

theorem evenLineEnds_append_cons (hc : Text.isLineBreak c = false) (hmark : isNoMark c = true)
    (cs ds : List Char) :
    evenLineEnds (cs ++ c :: ds) = evenLineEnds cs ++ c :: evenLineEnds ds := by
  have hfeed : c ≠ '\n' := fun h => absurd hc (by rw [h]; decide)
  have hreturn : c ≠ '\r' := fun h => absurd hc (by rw [h]; decide)
  unfold evenLineEnds
  rw [List.filter_append, List.filter_cons_of_pos hmark, plainLines_append (by simpa using hfeed),
    plainLines_cons_of_ne hreturn]

/-- **A line keeps its number** when a text is prepared, and the sign that it begins with. -/
theorem getElem?_splitLines_normalizeText (hspace : c ≠ ' ') (htab : c ≠ '\t')
    (h : (splitLines (evenLineEnds cs))[k]? = some (c :: line)) :
    ∃ rest, (splitLines (normalizeText cs))[k]? = some (c :: rest) := by
  -- The line feeds that are added begin lines of their own, behind all others.
  have hends : (splitLines (evenLineEnds cs ++ ['\n', '\n']))[k]? = some (c :: line) := by
    have hsplit : splitLines (evenLineEnds cs ++ ['\n', '\n']) =
        splitLines (evenLineEnds cs) ++ splitLines ['\n'] :=
      List.splitOn_append_cons_self (evenLineEnds cs) ['\n']
    rw [hsplit, List.getElem?_append_left (List.getElem?_eq_some_iff.mp h).1, h]
  obtain ⟨piece, pieces, hsource, htabs⟩ :=
    splitLines_expandTabs 0 (evenLineEnds cs ++ ['\n', '\n'])
  have hexpanded : (splitLines (expandTabs 0 (evenLineEnds cs ++ ['\n', '\n'])))[k]? =
      some (expandTabs 0 (c :: line)) := by
    rw [htabs, ← List.map_cons, ← hsource, List.getElem?_map, hends]
    rfl
  rw [expandTabs, if_neg (by simpa using htab)] at hexpanded
  rw [normalizeText_eq]
  exact ⟨_, getElem?_splitLines_emptyBlankLines hexpanded (by simp [hspace])⟩

/-! ### Blocks of code -/

/-- What follows a block of code, where one begins at the start of a line. -/
def afterFence? (atStart : Bool) (cs : List Char) : Option (List Char) :=
  if atStart then (matchFence? cs).map (·.2) else none

/-- The stretches of a prepared text: its characters and its blocks of code. -/
def fenceStretches (cs : List Char) : List Stretch := stretches afterFence? true cs

/-- A text with a mark in the place of each run that is taken out of it. -/
def markCuts (count : Nat) : List Stretch → List Char
  | [] => []
  | kept c :: rest => c :: markCuts count rest
  | cut _ :: rest => ('\n' :: mark .raw count) ++ '\n' :: markCuts (count + 1) rest

theorem fst_extractFencesFrom (count : Nat) (atStart : Bool) (cs : List Char) :
    (extractFencesFrom count 0 atStart cs).1 =
      markCuts count (stretches afterFence? atStart cs) := by
  -- The extractor counts down the characters of a block, which amounts to going on behind it.
  have hskip (count n : Nat) (cs : List Char) :
      extractFencesFrom count n false cs = extractFencesFrom count 0 false (cs.drop n) := by
    induction cs generalizing n with
    | nil => rw [List.drop_nil, extractFencesFrom.eq_1, extractFencesFrom.eq_1]
    | cons c cs ih =>
      cases n with
      | zero => rfl
      | succ n => rw [extractFencesFrom, ih, List.drop_succ_cons]
  fun_induction stretches afterFence? atStart cs generalizing count with
  | case1 => simp [extractFencesFrom, markCuts]
  | case2 atStart c cs rest h ih =>
    unfold afterFence? at h
    split at h
    · next hstart =>
      obtain ⟨⟨code, rest⟩, hmatch, rfl⟩ := Option.map_eq_some_iff.mp h
      rw [extractFencesFrom, if_pos hstart, hmatch, markCuts, ← ih (count + 1), ← hskip]
    · cases h
  | case3 atStart c cs h ih =>
    unfold afterFence? at h
    rw [extractFencesFrom]
    split at h
    · next hstart =>
      rw [if_pos hstart, Option.map_eq_none_iff.mp h, markCuts, ← ih count]
    · next hstart =>
      rw [if_neg hstart, markCuts, ← ih count]

/-- **Blocks of code are replaced by marks**, and everything else stays. -/
theorem fst_extractFences (cs : List Char) :
    (extractFences cs).1 = markCuts 0 (fenceStretches cs) := fst_extractFencesFrom 0 true cs

/-- Whether the lines of an article with the numbers from `first` to `last` are a block of code. -/
def IsFenced (cs : List Char) (first last : Nat) : Prop :=
  ∃ before block after, fenceStretches (normalizeText cs) = before ++ cut block :: after ∧
    (before.flatMap source).count '\n' = first ∧
    (before.flatMap source ++ block).count '\n' = last

theorem IsFenced.first_le_last {first last : Nat} (h : IsFenced cs first last) : first ≤ last := by
  obtain ⟨before, block, after, -, rfl, rfl⟩ := h
  rw [List.count_append]
  exact Nat.le_add_right _ _

theorem endsLine_of_endsAtStart {before : List Stretch} (h : endsAtStart true before = true) :
    EndsLine (before.flatMap source) := by
  -- A kept line feed leads to a start, and a run that is cut never does.
  have hends (atStart : Bool) (before : List Stretch) (h : endsAtStart atStart before = true) :
      before = [] ∨ ∃ front, before.flatMap source = front ++ ['\n'] := by
    induction before generalizing atStart with
    | nil => exact .inl rfl
    | cons s before ih =>
      cases s with
      | kept c =>
        rcases ih (c == '\n') h with rfl | ⟨front, hfront⟩
        · obtain rfl : c = '\n' := by simpa [endsAtStart] using h
          exact .inr ⟨[], rfl⟩
        · exact .inr ⟨c :: front, by rw [List.flatMap_cons, hfront]; rfl⟩
      | cut run =>
        rcases ih false h with rfl | ⟨front, hfront⟩
        · cases h
        · exact .inr ⟨run ++ front, by rw [List.flatMap_cons, hfront, List.append_assoc]; rfl⟩
  rcases hends true before h with rfl | ⟨front, hfront⟩
  · rintro c ⟨⟩
  · intro c hc
    simpa [hfront] using hc.symm

theorem fence_of_matchFence? (h : (matchFence? (c :: cs)).isSome) : c = '~' ∨ c = grave := by
  unfold matchFence? at h
  dsimp only at h
  split at h
  · next hfence =>
    simp only [Bool.and_eq_true, Bool.or_eq_true, beq_iff_eq] at hfence
    exact hfence.1
  · cases h

/-- **A block of code begins with a fence**, a tilde or a grave accent at the start of its first
line. -/
theorem IsFenced.exists_fence {first last : Nat} (h : IsFenced cs first last) :
    ∃ c line, (c = '~' ∨ c = grave) ∧
      (splitLines (normalizeText cs))[first]? = some (c :: line) := by
  obtain ⟨before, block, after, hstretches, rfl, -⟩ := h
  have hsource : normalizeText cs = before.flatMap source ++ (block ++ after.flatMap source) := by
    rw [← flatMap_source_stretches afterFence? true (normalizeText cs), ← fenceStretches,
      hstretches, List.flatMap_append, List.flatMap_cons, source_cut]
  obtain ⟨rest, hne, hafter, -⟩ := exists_after?_of_cut hstretches
  obtain ⟨c, block, rfl⟩ := List.exists_cons_of_ne_nil hne
  -- A block that is cut is matched where it begins, at the start of a line.
  unfold afterFence? at hafter
  split at hafter
  · next hstart =>
    obtain ⟨found, hmatch, -⟩ := Option.map_eq_some_iff.mp hafter
    have hfence : c = '~' ∨ c = grave := fence_of_matchFence? (Option.isSome_of_mem hmatch)
    have hc : c ≠ '\n' := by rcases hfence with rfl | rfl <;> decide
    obtain ⟨line, hline⟩ := getElem?_zero_splitLines_cons hc (block ++ after.flatMap source)
    refine ⟨c, line, hfence, ?_⟩
    rw [hsource, getElem?_splitLines_append (endsLine_of_endsAtStart hstart), List.cons_append,
      hline]
  · cases hafter

end StaticSite.Markdown
