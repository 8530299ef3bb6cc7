import Mathlib.Data.List.Basic
import StaticSite.Text.Blank

/-!
# The words of a text

The words of a text are not empty and have no blanks (`isWord_of_mem_words`), and together they are
all of its characters that are not blank (`flatten_splitRuns`). A gap parts the runs before it from
those behind it (`splitRuns_append`), so words that are joined by spaces are found again
(`words_intercalate`), and such a text is squeezed already (`squeeze_intercalate`).

Parts that are joined by a sign have no other characters than this sign and their own
(`mem_intercalate`), and what they are joined to begins and ends with their own
(`head?_getLast?_intercalate`).
-/

namespace StaticSite.Text

variable {isGap : Char → Bool} {c : Char} {cs run w : List Char}

/-! ### Runs -/

-- `run` holds the characters of the run that is not closed yet, the last one first.
theorem flatten_go (isGap : Char → Bool) (cs run : List Char) :
    (splitRuns.go isGap cs run).flatten = run.reverse ++ cs.filter (!isGap ·) := by
  induction cs generalizing run with
  | nil =>
    rw [splitRuns.go]
    split
    · next hrun => rw [List.isEmpty_iff.mp hrun]; rfl
    · simp
  | cons c cs ih =>
    rw [splitRuns.go]
    split
    · next hgap =>
      rw [List.filter_cons_of_neg (by simp [hgap])]
      split
      · next hrun => rw [ih, List.isEmpty_iff.mp hrun]
      · rw [List.flatten_cons, ih, List.reverse_nil, List.nil_append]
    · next hgap =>
      rw [ih, List.filter_cons_of_pos (by simp [hgap]), List.reverse_cons, List.append_assoc]
      rfl

/-- **The runs of a text are its characters outside the gaps.** -/
theorem flatten_splitRuns (isGap : Char → Bool) (cs : List Char) :
    (splitRuns isGap cs).flatten = cs.filter (!isGap ·) := flatten_go isGap cs []

theorem ne_nil_of_mem_go (h : w ∈ splitRuns.go isGap cs run) : w ≠ [] := by
  induction cs generalizing run with
  | nil =>
    rw [splitRuns.go] at h
    split at h
    · cases h
    · next hrun =>
      rw [List.mem_singleton.mp h]
      simpa using hrun
  | cons c cs ih =>
    rw [splitRuns.go] at h
    split at h
    · split at h
      · exact ih h
      · next hrun =>
        rcases List.mem_cons.mp h with rfl | h
        · simpa using hrun
        · exact ih h
    · exact ih h

/-- A run is not empty and holds no character of a gap. -/
theorem of_mem_splitRuns (h : w ∈ splitRuns isGap cs) : w ≠ [] ∧ ∀ c ∈ w, isGap c = false := by
  refine ⟨ne_nil_of_mem_go h, fun c hc => ?_⟩
  have hmem : c ∈ (splitRuns isGap cs).flatten := List.mem_flatten.mpr ⟨w, h, hc⟩
  rw [flatten_splitRuns, List.mem_filter] at hmem
  simpa using hmem.2

theorem go_append (hc : isGap c = true) (cs rest run : List Char) :
    splitRuns.go isGap (cs ++ c :: rest) run =
      splitRuns.go isGap cs run ++ splitRuns.go isGap rest [] := by
  induction cs generalizing run with
  | nil =>
    -- The gap closes the run that is open, if it holds anything.
    have hgap : splitRuns.go isGap (c :: rest) run = if run.isEmpty then splitRuns.go isGap rest []
        else run.reverse :: splitRuns.go isGap rest [] := if_pos hc
    rw [List.nil_append, hgap, splitRuns.go]
    split <;> rfl
  | cons d cs ih =>
    rw [List.cons_append, splitRuns.go, splitRuns.go]
    split
    · split
      · exact ih []
      · rw [ih, List.cons_append]
    · exact ih (d :: run)

/-- **A gap parts the runs before it from those behind it.** -/
theorem splitRuns_append (hc : isGap c = true) (cs rest : List Char) :
    splitRuns isGap (cs ++ c :: rest) = splitRuns isGap cs ++ splitRuns isGap rest :=
  go_append hc cs rest []

theorem go_of_forall (h : ∀ c ∈ cs, isGap c = false) (hne : run.reverse ++ cs ≠ []) :
    splitRuns.go isGap cs run = [run.reverse ++ cs] := by
  induction cs generalizing run with
  | nil =>
    rw [List.append_nil] at hne ⊢
    exact if_neg (by simpa using hne)
  | cons c cs ih =>
    have hsplit : run.reverse ++ c :: cs = (c :: run).reverse ++ cs := by simp
    rw [splitRuns.go, if_neg (by simp [h c List.mem_cons_self]), hsplit]
    exact ih (fun d hd => h d (List.mem_cons_of_mem c hd)) (hsplit ▸ hne)

/-- A text without gaps is one run. -/
theorem splitRuns_of_forall (hne : cs ≠ []) (h : ∀ c ∈ cs, isGap c = false) :
    splitRuns isGap cs = [cs] := go_of_forall h hne

/-- **Runs that are joined by a gap are found again.** -/
theorem splitRuns_intercalate {runs : List (List Char)} (hc : isGap c = true)
    (h : ∀ w ∈ runs, w ≠ [] ∧ ∀ d ∈ w, isGap d = false) :
    splitRuns isGap ([c].intercalate runs) = runs := by
  induction runs with
  | nil => rfl
  | cons w runs ih =>
    obtain ⟨⟨hne, hw⟩, hrest⟩ := List.forall_mem_cons.mp h
    cases runs with
    | nil => rw [List.intercalate_singleton, splitRuns_of_forall hne hw]
    | cons v runs =>
      rw [List.intercalate_cons_cons, List.append_assoc, List.singleton_append,
        splitRuns_append hc, splitRuns_of_forall hne hw, ih hrest]
      rfl

/-! ### Joined parts -/

/-- The characters of joined parts are those of the parts and the sign between them. -/
theorem mem_intercalate {sign : Char} {parts : List (List Char)}
    (h : c ∈ [sign].intercalate parts) : c = sign ∨ ∃ part ∈ parts, c ∈ part := by
  induction parts with
  | nil => exact absurd h List.not_mem_nil
  | cons part rest ih =>
    cases rest with
    | nil =>
      rw [List.intercalate_singleton] at h
      exact .inr ⟨part, List.mem_cons_self, h⟩
    | cons next rest =>
      rw [List.intercalate_cons_cons, List.mem_append, List.mem_append, List.mem_singleton] at h
      rcases h with (h | h) | h
      · exact .inr ⟨part, List.mem_cons_self, h⟩
      · exact .inl h
      · exact (ih h).imp id fun ⟨p, hp, hc⟩ => ⟨p, List.mem_cons_of_mem _ hp, hc⟩

/-- Joined parts that are not empty begin and end with characters of parts. -/
theorem head?_getLast?_intercalate (sign : Char) {parts : List (List Char)}
    (h : ∀ part ∈ parts, part ≠ []) :
    (∀ c ∈ ([sign].intercalate parts).head?, ∃ part ∈ parts, c ∈ part) ∧
      ∀ c ∈ ([sign].intercalate parts).getLast?, ∃ part ∈ parts, c ∈ part := by
  -- On the parts: the first one gives the first character, and the last one the last.
  induction parts with
  | nil => exact ⟨nofun, nofun⟩
  | cons part rest ih =>
    obtain ⟨hne, hrest⟩ := List.forall_mem_cons.mp h
    cases rest with
    | nil =>
      rw [List.intercalate_singleton]
      exact ⟨fun c hc => ⟨part, List.mem_cons_self, List.mem_of_mem_head? hc⟩,
        fun c hc => ⟨part, List.mem_cons_self, List.mem_of_getLast? hc⟩⟩
    | cons next rest =>
      have hnext : [sign].intercalate (next :: rest) ≠ [] := by
        cases rest with
        | nil => simpa using hrest next List.mem_cons_self
        | cons => simp [List.intercalate_cons_cons]
      rw [List.intercalate_cons_cons, List.head?_append_of_ne_nil _ (by simp),
        List.head?_append_of_ne_nil _ hne, List.getLast?_append_of_ne_nil _ hnext]
      refine ⟨fun c hc => ⟨part, List.mem_cons_self, List.mem_of_mem_head? hc⟩, fun c hc => ?_⟩
      obtain ⟨p, hp, hcp⟩ := (ih hrest).2 c hc
      exact ⟨p, List.mem_cons_of_mem _ hp, hcp⟩

/-! ### Words -/

/-- Whether a text can be a word: it is not empty and has no blanks. -/
def IsWord (w : String) : Prop := w ≠ "" ∧ ∀ c ∈ w.toList, isBlank c = false

theorem isWord_of_mem_words {w s : String} (h : w ∈ words s) : IsWord w := by
  obtain ⟨cs, hcs, rfl⟩ := List.mem_map.mp h
  obtain ⟨hne, hblank⟩ := of_mem_splitRuns hcs
  exact ⟨by simpa using hne, by rwa [String.toList_ofList]⟩

theorem mem_of_mem_words {w s : String} (hw : w ∈ words s) (hc : c ∈ w.toList) : c ∈ s.toList := by
  obtain ⟨run, hrun, rfl⟩ := List.mem_map.mp hw
  rw [String.toList_ofList] at hc
  have hmem : c ∈ (splitRuns isBlank s.toList).flatten := List.mem_flatten.mpr ⟨run, hrun, hc⟩
  rw [flatten_splitRuns] at hmem
  exact List.mem_of_mem_filter hmem

/-- **Words that are joined by spaces are found again.** -/
theorem words_intercalate {ws : List String} (h : ∀ w ∈ ws, IsWord w) :
    words (" ".intercalate ws) = ws := by
  have hruns : ∀ w ∈ ws.map String.toList, w ≠ [] ∧ ∀ c ∈ w, isBlank c = false := by
    intro _ hmem
    obtain ⟨w, hw, rfl⟩ := List.mem_map.mp hmem
    exact ⟨mt String.toList_eq_nil_iff.mp (h w hw).1, (h w hw).2⟩
  rw [words, String.toList_intercalate]
  show (splitRuns isBlank ([' '].intercalate (ws.map String.toList))).map String.ofList = ws
  rw [splitRuns_intercalate (by decide) hruns, List.map_map]
  simp [Function.comp_def]

/-- Words that are joined by single spaces are squeezed already. -/
theorem squeeze_intercalate {ws : List String} (h : ∀ w ∈ ws, IsWord w) :
    squeeze (" ".intercalate ws) = " ".intercalate ws := by
  rw [squeeze, words_intercalate h]

end StaticSite.Text
