import Mathlib.Data.List.Basic
import StaticSite.Proofs.Text.Find
import StaticSite.Text.Blank

/-!
# Texts that are written line by line

A line is written with an end behind it, a line feed alone or with a carriage return before it.
Lines that are written so are found again (`linesFrom_flatMap_append`), and a text that is written
in front of them adds lines of its own and nothing else (`exists_linesFrom_append`).
-/

namespace StaticSite.Text

/-- Whether characters are an end of line that texts are written with. -/
def IsLineEnd (eol : List Char) : Prop := eol = ['\n'] ∨ eol = ['\r', '\n']

/-- A text whose line feeds are written as another end of line. -/
def withLineEnds (eol cs : List Char) : List Char :=
  cs.flatMap fun c => if c == '\n' then eol else [c]

variable {c : Char} {eol cs line run : List Char}

@[simp] theorem withLineEnds_nil (eol : List Char) : withLineEnds eol [] = [] := rfl

@[simp]
theorem withLineEnds_append (eol cs ds : List Char) :
    withLineEnds eol (cs ++ ds) = withLineEnds eol cs ++ withLineEnds eol ds := List.flatMap_append

theorem withLineEnds_cons_of_ne (hc : c ≠ '\n') (eol cs : List Char) :
    withLineEnds eol (c :: cs) = c :: withLineEnds eol cs := by
  rw [withLineEnds, List.flatMap_cons, if_neg (by simpa using hc)]
  rfl

@[simp]
theorem withLineEnds_lineFeed_cons (eol cs : List Char) :
    withLineEnds eol ('\n' :: cs) = eol ++ withLineEnds eol cs := rfl

theorem withLineEnds_of_notMem (h : '\n' ∉ cs) (eol : List Char) : withLineEnds eol cs = cs := by
  induction cs with
  | nil => rfl
  | cons c cs ih =>
    obtain ⟨hc, hcs⟩ := not_or.mp (mt List.mem_cons.mpr h)
    rw [withLineEnds_cons_of_ne (Ne.symm hc), ih hcs]

/-- Line feeds are what line feeds are written as. -/
@[simp]
theorem withLineEnds_lineFeed (cs : List Char) : withLineEnds ['\n'] cs = cs := by
  induction cs with
  | nil => rfl
  | cons c cs ih =>
    by_cases hc : c = '\n'
    · rw [hc, withLineEnds_lineFeed_cons, ih, List.singleton_append]
    · rw [withLineEnds_cons_of_ne hc, ih]

theorem replaceList_lineFeed (eol cs : List Char) :
    replaceList ['\n'] eol cs = withLineEnds eol cs := by
  show replaceFrom '\n' [] eol 0 cs = withLineEnds eol cs
  induction cs with
  | nil => rfl
  | cons c cs ih =>
    by_cases hc : c = '\n'
    · rw [hc, replaceFrom, withLineEnds_lineFeed_cons]
      exact congrArg (eol ++ ·) ih
    · have hno : ['\n'].isPrefixOf (c :: cs) = false := by
        rw [List.isPrefixOf, beq_false_of_ne (Ne.symm hc), Bool.false_and]
      rw [replaceFrom, hno, if_neg Bool.false_ne_true, withLineEnds_cons_of_ne hc, ih]

/-! ### Reading lines -/

theorem linesFrom_of_isLineEnd (h : IsLineEnd eol) (rest run : List Char) :
    linesFrom (eol ++ rest) run = run.reverse :: linesFrom rest [] := by
  rcases h with rfl | rfl <;> rfl

theorem linesFrom_cons (hc : isLineBreak c = false) (cs run : List Char) :
    linesFrom (c :: cs) run = linesFrom cs (c :: run) := by
  have hreturn : ∀ rest, c = '\r' → cs = '\n' :: rest → False := by
    rintro rest rfl -
    cases hc
  rw [linesFrom.eq_3 _ _ _ hreturn, if_neg (by rw [hc]; exact Bool.false_ne_true)]

/-- A line break that no line feed belongs to ends a line. -/
theorem linesFrom_lineBreak_cons (hc : isLineBreak c = true)
    (hreturn : c = '\r' → cs.head? ≠ some '\n') (run : List Char) :
    linesFrom (c :: cs) run = run.reverse :: linesFrom cs [] := by
  have hreturn : ∀ rest, c = '\r' → cs = '\n' :: rest → False := by
    rintro rest hc rfl
    exact hreturn hc rfl
  rw [linesFrom.eq_3 _ _ _ hreturn, if_pos hc]

/-- **A line is read up to its end.** -/
theorem linesFrom_line_append (heol : IsLineEnd eol) (hline : ∀ c ∈ line, isLineBreak c = false)
    (rest run : List Char) :
    linesFrom (line ++ (eol ++ rest)) run = (run.reverse ++ line) :: linesFrom rest [] := by
  induction line generalizing run with
  | nil => rw [List.nil_append, linesFrom_of_isLineEnd heol, List.append_nil]
  | cons c line ih =>
    obtain ⟨hc, hrest⟩ := List.forall_mem_cons.mp hline
    rw [List.cons_append, linesFrom_cons hc, ih hrest, List.reverse_cons, List.append_assoc,
      List.singleton_append]

/-- **Lines that are written one after the other are found again.** -/
theorem linesFrom_flatMap_append {ls : List (List Char)} (heol : IsLineEnd eol)
    (h : ∀ line ∈ ls, ∀ c ∈ line, isLineBreak c = false) (rest : List Char) :
    linesFrom (ls.flatMap (· ++ eol) ++ rest) [] = ls ++ linesFrom rest [] := by
  induction ls with
  | nil => rfl
  | cons line ls ih =>
    obtain ⟨hline, hls⟩ := List.forall_mem_cons.mp h
    rw [List.flatMap_cons, List.append_assoc, List.append_assoc, linesFrom_line_append heol hline,
      ih hls]
    rfl

/-! ### The pieces between line feeds -/

theorem splitOn_lineFeed_cons (cs : List Char) :
    ('\n' :: cs).splitOn '\n' = [] :: cs.splitOn '\n' := by
  rw [List.splitOn_cons_eq_if_modifyHead, if_pos (beq_self_eq_true _)]

/-- Another character belongs to the first piece. -/
theorem exists_splitOn_cons (hc : c ≠ '\n') (cs : List Char) :
    ∃ piece pieces, cs.splitOn '\n' = piece :: pieces ∧
      (c :: cs).splitOn '\n' = (c :: piece) :: pieces := by
  obtain ⟨piece, pieces, h⟩ := List.exists_cons_of_ne_nil (List.splitOn_ne_nil '\n' cs)
  refine ⟨piece, pieces, h, ?_⟩
  rw [List.splitOn_cons_eq_if_modifyHead, if_neg (by simpa using hc), h]
  rfl

theorem of_mem_splitOn (h : line ∈ cs.splitOn '\n') : '\n' ∉ line ∧ line ⊆ cs := by
  induction cs generalizing line with
  | nil =>
    rw [List.splitOn_nil, List.mem_singleton] at h
    rw [h]
    exact ⟨List.not_mem_nil, List.Subset.refl _⟩
  | cons c cs ih =>
    have hlater (line : List Char) (h : line ∈ cs.splitOn '\n') : '\n' ∉ line ∧ line ⊆ c :: cs :=
      (ih h).imp_right fun hsub => List.Subset.trans hsub (List.subset_cons_self c cs)
    by_cases hc : c = '\n'
    · rw [hc, splitOn_lineFeed_cons] at h
      rcases List.mem_cons.mp h with rfl | h
      · exact ⟨List.not_mem_nil, List.nil_subset _⟩
      · exact hlater line h
    · obtain ⟨piece, pieces, hcs, hall⟩ := exists_splitOn_cons hc cs
      rw [hall] at h
      rcases List.mem_cons.mp h with rfl | h
      · obtain ⟨hpiece, hsub⟩ := ih (hcs ▸ List.mem_cons_self)
        exact ⟨fun hmem => (List.mem_cons.mp hmem).elim (Ne.symm hc) hpiece,
          List.cons_subset_cons c hsub⟩
      · exact hlater line (hcs ▸ List.mem_cons_of_mem piece h)

/-- A text is written as its pieces between line feeds, with an end behind each. -/
theorem withLineEnds_append_lineEnd (eol cs : List Char) :
    withLineEnds eol cs ++ eol = (cs.splitOn '\n').flatMap (· ++ eol) := by
  induction cs with
  | nil => simp
  | cons c cs ih =>
    by_cases hc : c = '\n'
    · rw [hc, splitOn_lineFeed_cons, withLineEnds_lineFeed_cons, List.flatMap_cons,
        List.append_assoc, ih, List.nil_append]
    · obtain ⟨piece, pieces, hcs, hall⟩ := exists_splitOn_cons hc cs
      rw [hall, withLineEnds_cons_of_ne hc, List.cons_append, ih, hcs]
      rfl

/-! ### A text in front of others -/

/-- **A text in front of others adds lines of its own**, and perhaps empty ones. -/
theorem exists_linesFrom_append (heol : IsLineEnd eol) (cs rest run : List Char) :
    ∃ ls, linesFrom (withLineEnds eol cs ++ (eol ++ rest)) run = ls ++ linesFrom rest [] ∧
      ∀ line ∈ ls, line ∈ linesFrom cs run ∨ line = [] := by
  fun_induction linesFrom cs run with
  | case1 run hrun =>
    refine ⟨[run.reverse], linesFrom_of_isLineEnd heol rest run, ?_⟩
    simp [List.isEmpty_iff.mp hrun]
  | case2 run hrun =>
    exact ⟨[run.reverse], linesFrom_of_isLineEnd heol rest run, fun line hline => .inl hline⟩
  | case3 cs run ih =>
    obtain ⟨ls, hls, hmem⟩ := ih
    -- The carriage return of the text ends a line by itself if another one follows it.
    rcases heol with rfl | rfl
    · refine ⟨run.reverse :: ls, congrArg (run.reverse :: ·) hls, ?_⟩
      exact List.forall_mem_cons.mpr ⟨.inl List.mem_cons_self,
        fun line hline => (hmem line hline).imp_left (List.mem_cons_of_mem _)⟩
    · refine ⟨run.reverse :: [] :: ls, congrArg (run.reverse :: [] :: ·) hls, ?_⟩
      exact List.forall_mem_cons.mpr ⟨.inl List.mem_cons_self, List.forall_mem_cons.mpr
        ⟨.inr rfl, fun line hline => (hmem line hline).imp_left (List.mem_cons_of_mem _)⟩⟩
  | case4 c cs run hreturn hbreak ih =>
    obtain ⟨ls, hls, hmem⟩ := ih
    have hall : ∀ line ∈ run.reverse :: ls, line ∈ run.reverse :: linesFrom cs [] ∨ line = [] :=
      List.forall_mem_cons.mpr ⟨.inl List.mem_cons_self,
        fun line hline => (hmem line hline).imp_left (List.mem_cons_of_mem _)⟩
    by_cases hc : c = '\n'
    · refine ⟨run.reverse :: ls, ?_, hall⟩
      rw [hc, withLineEnds_lineFeed_cons, List.append_assoc, linesFrom_of_isLineEnd heol, hls]
      rfl
    · rw [withLineEnds_cons_of_ne hc, List.cons_append]
      by_cases hjoin : c = '\r' ∧ (withLineEnds eol cs ++ (eol ++ rest)).head? = some '\n'
      · -- A carriage return at the end of the text belongs to the line feed behind it.
        obtain ⟨rfl, hhead⟩ := hjoin
        cases cs with
        | nil =>
          rcases heol with rfl | rfl
          · exact ⟨[run.reverse], rfl, fun line hline =>
              .inl (List.mem_singleton.mp hline ▸ List.mem_cons_self)⟩
          · exact absurd (Option.some.inj hhead) (by decide)
        | cons d cs =>
          have hd : d ≠ '\n' := by
            rintro rfl
            exact hreturn cs rfl rfl
          rw [withLineEnds_cons_of_ne hd] at hhead
          exact absurd (Option.some.inj hhead) hd
      · refine ⟨run.reverse :: ls, ?_, hall⟩
        rw [linesFrom_lineBreak_cons hbreak fun hreturn hhead => hjoin ⟨hreturn, hhead⟩, hls]
        rfl
  | case5 c cs run hreturn hbreak ih =>
    obtain ⟨ls, hls, hmem⟩ := ih
    have hbreak : isLineBreak c = false := by simpa using hbreak
    refine ⟨ls, ?_, hmem⟩
    have hc : c ≠ '\n' := by
      rintro rfl
      cases hbreak
    rw [withLineEnds_cons_of_ne hc, List.cons_append, linesFrom_cons hbreak, hls]

end StaticSite.Text
