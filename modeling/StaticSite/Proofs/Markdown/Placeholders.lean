import StaticSite.Markdown.Placeholder
import StaticSite.Proofs.Text.Find

/-!
# What is left where placeholders were

A placeholder is a bracket, one of three words, and everything up to a closing bracket on the same
line (`IsPlaceholder`). Where one begins, a run is taken out up to the first closing bracket
(`afterPlaceholder?_eq_some_iff`), so a text without placeholders stays as it is, and only such a
text does.

What is left of a text can hold a placeholder that the text did not hold: if a run is taken out
between the bracket and the end of the word of another, the two parts of its beginning come to stand
side by side (`PartsPlaceholder`). There is no other way. Where bracket and word stand together in
the text, a closing bracket follows on the line: either the one that follows in what is left, or
that of the next run, which lies on the line too. So the placeholder was seen and taken out.
-/

namespace StaticSite.Markdown

open Text (Stretch stretches)
open Text.Stretch

/-- Whether a text is a placeholder. -/
def IsPlaceholder (m : List Char) : Prop :=
  ∃ word ∈ placeholderWords, ∃ note, '\n' ∉ note ∧ m = '[' :: (word ++ note ++ [']'])

/-- Whether a text holds a placeholder. -/
def HasPlaceholder (cs : List Char) : Prop := ∃ m, IsPlaceholder m ∧ m <:+: cs

/-! ### Where a placeholder begins -/

variable {cs rest : List Char}

theorem afterBracket?_eq_some_iff :
    afterBracket? cs = some rest ↔ ∃ note, '\n' ∉ note ∧ ']' ∉ note ∧ cs = note ++ ']' :: rest := by
  -- On the text. The search ends at the first bracket, and gives up at the end of the line.
  induction cs with
  | nil => exact iff_of_false nofun fun ⟨_, _, _, h⟩ => absurd h (by simp)
  | cons c cs ih =>
    rw [afterBracket?]
    by_cases hclose : c = ']'
    · subst hclose
      rw [if_pos (beq_self_eq_true _)]
      constructor
      · rintro ⟨rfl⟩
        exact ⟨[], List.not_mem_nil, List.not_mem_nil, rfl⟩
      · rintro ⟨note, -, hnote, h⟩
        cases note with
        | nil => exact congrArg some (List.cons.inj h).2
        | cons d note =>
          obtain ⟨rfl, -⟩ := List.cons.inj h
          exact absurd List.mem_cons_self hnote
    · rw [if_neg (by simpa using hclose)]
      by_cases hline : c = '\n'
      · subst hline
        rw [if_pos (beq_self_eq_true _)]
        refine iff_of_false nofun ?_
        rintro ⟨note, hnote, -, h⟩
        cases note with
        | nil => cases h
        | cons d note =>
          obtain ⟨rfl, -⟩ := List.cons.inj h
          exact hnote List.mem_cons_self
      · rw [if_neg (by simpa using hline), ih]
        constructor
        · rintro ⟨note, hnote, hopen, rfl⟩
          refine ⟨c :: note, ?_, ?_, rfl⟩
          · simp [hnote, Ne.symm hline]
          · simp [hopen, Ne.symm hclose]
        · rintro ⟨note, hnote, hopen, h⟩
          cases note with
          | nil => exact absurd (List.cons.inj h).1 hclose
          | cons d note =>
            obtain ⟨rfl, rfl⟩ := List.cons.inj h
            exact ⟨note, fun hd => hnote (List.mem_cons_of_mem _ hd),
              fun hd => hopen (List.mem_cons_of_mem _ hd), rfl⟩

/-- A closing bracket on the line is enough. -/
theorem isSome_afterBracket? {note : List Char} (h : '\n' ∉ note) (rest : List Char) :
    (afterBracket? (note ++ ']' :: rest)).isSome := by
  induction note with
  | nil => rfl
  | cons c note ih =>
    obtain ⟨hc, hnote⟩ := not_or.mp (mt List.mem_cons.mpr h)
    rw [List.cons_append, afterBracket?]
    split
    · rfl
    · rw [if_neg (by simpa using Ne.symm hc)]
      exact ih hnote

/-- **A placeholder is taken out up to the first closing bracket.** -/
theorem afterPlaceholder?_eq_some_iff :
    afterPlaceholder? cs = some rest ↔ ∃ word ∈ placeholderWords, ∃ note, '\n' ∉ note ∧
      ']' ∉ note ∧ cs = '[' :: (word ++ note ++ ']' :: rest) := by
  constructor
  · intro h
    unfold afterPlaceholder? at h
    split at h
    · next tail =>
      obtain ⟨behind, hfind, hafter⟩ := Option.bind_eq_some_iff.mp h
      obtain ⟨word, hword, hprefix⟩ := List.exists_of_findSome?_eq_some hfind
      obtain ⟨note, hnote, hopen, rfl⟩ := afterBracket?_eq_some_iff.mp hafter
      refine ⟨word, hword, note, hnote, hopen, ?_⟩
      rw [← List.append_eq_of_isPrefixOf?_eq_some hprefix, List.append_assoc]
    · cases h
  · rintro ⟨word, hword, note, hnote, hopen, rfl⟩
    have hafter : afterBracket? (note ++ ']' :: rest) = some rest :=
      afterBracket?_eq_some_iff.mpr ⟨note, hnote, hopen, rfl⟩
    -- No word begins with another one, so the search ends with this word.
    have hfind : (placeholderWords.findSome? fun w =>
        Text.stripPrefix? w (word ++ (note ++ ']' :: rest))) = some (note ++ ']' :: rest) := by
      simp only [placeholderWords, List.map_cons, List.map_nil, List.mem_cons, List.not_mem_nil,
        or_false] at hword
      rcases hword with rfl | rfl | rfl <;> rfl
    rw [List.append_assoc]
    show Option.bind _ afterBracket? = some rest
    rw [hfind, Option.bind_some, hafter]

/-- A placeholder begins where a bracket, a word and a closing bracket on the line stand. -/
theorem isSome_afterPlaceholder? {word note : List Char} (hword : word ∈ placeholderWords)
    (hnote : (afterBracket? note).isSome) :
    (afterPlaceholder? ('[' :: (word ++ note))).isSome := by
  obtain ⟨rest, hrest⟩ := Option.isSome_iff_exists.mp hnote
  obtain ⟨note, hline, hopen, rfl⟩ := afterBracket?_eq_some_iff.mp hrest
  rw [← List.append_assoc]
  exact Option.isSome_iff_exists.mpr
    ⟨rest, afterPlaceholder?_eq_some_iff.mpr ⟨word, hword, note, hline, hopen, rfl⟩⟩

/-! ### The stretches of a text -/

/-- The stretches of a text: its characters and its placeholders. -/
def placeholderStretches (cs : List Char) : List Stretch :=
  stretches (fun _ => afterPlaceholder?) true cs

variable {before after : List Stretch} {m : List Char}

/-- Removing the placeholders leaves what stays of the stretches. -/
theorem flatMap_left_stretches (atStart : Bool) (cs : List Char) :
    (stretches (fun _ => afterPlaceholder?) atStart cs).flatMap left = dropPlaceholders 0 cs := by
  -- Counting down the characters of a placeholder amounts to going on behind it.
  have hskip (n : Nat) (cs : List Char) :
      dropPlaceholders n cs = dropPlaceholders 0 (cs.drop n) := by
    induction cs generalizing n with
    | nil => cases n <;> simp [dropPlaceholders]
    | cons c cs ih =>
      cases n with
      | zero => rfl
      | succ n => rw [dropPlaceholders, ih, List.drop_succ_cons]
  fun_induction stretches (fun _ => afterPlaceholder?) atStart cs with
  | case1 => rfl
  | case2 _ c cs rest h ih =>
    rw [List.flatMap_cons, left_cut, List.nil_append, ih, dropPlaceholders, h]
    exact (hskip _ cs).symm
  | case3 _ c cs h ih =>
    rw [List.flatMap_cons, left_kept, List.singleton_append, ih, dropPlaceholders, h]

theorem toList_stripPlaceholders (text : String) :
    (stripPlaceholders text).toList = (placeholderStretches text.toList).flatMap left := by
  rw [stripPlaceholders, String.toList_ofList, placeholderStretches, flatMap_left_stretches]

/-- **What is taken out is a placeholder.** -/
theorem isPlaceholder_of_cut (h : placeholderStretches cs = before ++ cut m :: after) :
    IsPlaceholder m := by
  obtain ⟨rest, hne, hafter, hrest⟩ := Text.exists_after?_of_cut h
  obtain ⟨word, hword, note, hnote, -, hall⟩ := afterPlaceholder?_eq_some_iff.mp hafter
  have hbehind : rest = after.flatMap source := by
    refine hrest ?_
    rw [hall]
    exact ⟨word ++ note ++ [']'], by simp⟩
  refine ⟨word, hword, note, hnote, ?_⟩
  rw [hbehind] at hall
  exact List.append_cancel_right (hall.trans (by simp))

/-- Where a bracket stays, no placeholder begins. -/
theorem afterPlaceholder?_of_kept {c : Char}
    (h : placeholderStretches cs = before ++ kept c :: after) :
    afterPlaceholder? (c :: after.flatMap source) = none := by
  have hnone := Text.after?_eq_none_of_kept h
  exact hnone

/-! ### Texts with placeholders -/

theorem HasPlaceholder.of_append {before word note after : List Char}
    (hword : word ∈ placeholderWords) (hnote : '\n' ∉ note)
    (h : cs = before ++ '[' :: (word ++ note ++ ']' :: after)) : HasPlaceholder cs :=
  ⟨_, ⟨word, hword, note, hnote, rfl⟩, before, after, by simp [h]⟩

/-- **A text holds a placeholder exactly if one is taken out of it.** -/
theorem hasPlaceholder_iff : HasPlaceholder cs ↔ ∃ m, cut m ∈ placeholderStretches cs := by
  have hsource : (placeholderStretches cs).flatMap source = cs :=
    Text.flatMap_source_stretches _ _ cs
  constructor
  · rintro ⟨m, ⟨word, hword, note, hnote, rfl⟩, first, last, htext⟩
    by_contra hnone
    push Not at hnone
    -- If nothing is taken out, the bracket stays, and yet a placeholder begins there.
    have hleft : (placeholderStretches cs).flatMap left = cs :=
      ((Text.flatMap_left_eq_source_iff _).mpr fun run hrun => absurd hrun (hnone run)).trans
        hsource
    have hsplit : (placeholderStretches cs).flatMap left =
        first ++ '[' :: (word ++ (note ++ ']' :: last)) := by
      rw [hleft, ← htext]
      simp
    obtain ⟨before, after, hs, -, hafter⟩ := Text.exists_kept_of_flatMap_left hsplit
    have hall : after.flatMap source = after.flatMap left :=
      ((Text.flatMap_left_eq_source_iff after).mpr fun run hrun => absurd
        (hs ▸ List.mem_append_right _ (List.mem_cons_of_mem _ hrun)) (hnone run)).symm
    have hbegins := isSome_afterPlaceholder? hword (isSome_afterBracket? hnote last)
    rw [← hafter, ← hall, afterPlaceholder?_of_kept hs] at hbegins
    cases hbegins
  · rintro ⟨m, hm⟩
    obtain ⟨before, after, hs⟩ := List.append_of_mem hm
    refine ⟨m, isPlaceholder_of_cut hs, before.flatMap source, after.flatMap source, ?_⟩
    rw [← hsource, hs, List.flatMap_append, List.flatMap_cons, source_cut, List.append_assoc]

/-- Whether a run that is taken out parts the beginning of a placeholder: the bracket and the start
of a word stay before it, and behind it the rest of the word with a closing bracket on the line. -/
def PartsPlaceholder (cs : List Char) : Prop :=
  ∃ before m after start stop note, placeholderStretches cs = before ++ cut m :: after ∧
    start ++ stop ∈ placeholderWords ∧ stop ≠ [] ∧ '\n' ∉ note ∧
    ('[' :: start) <:+ before.flatMap left ∧ (stop ++ note ++ [']']) <+: after.flatMap left

/-- A closing bracket on the line in what is left follows on the line in the text as well, for each
run that is taken out in between lies on the line and ends with such a bracket. -/
theorem isSome_afterBracket?_source {s : List Stretch} {note behind : List Char}
    (hcut : ∀ m, cut m ∈ s → IsPlaceholder m) (hnote : '\n' ∉ note)
    (h : s.flatMap left = note ++ ']' :: behind) : (afterBracket? (s.flatMap source)).isSome := by
  -- On the stretches, up to the first one that is cut: it ends with a bracket by itself.
  induction s generalizing note with
  | nil => exact absurd h (by simp)
  | cons x s ih =>
    cases x with
    | cut m =>
      obtain ⟨word, hword, inner, hinner, rfl⟩ := hcut m List.mem_cons_self
      have hwords : ∀ w ∈ placeholderWords, '\n' ∉ '[' :: w := by decide
      have hline : '\n' ∉ '[' :: word ++ inner := fun hmem =>
        (List.mem_append.mp hmem).elim (hwords word hword) hinner
      have hsome := isSome_afterBracket? hline (s.flatMap source)
      simpa using hsome
    | kept c =>
      rw [List.flatMap_cons, left_kept, List.singleton_append] at h
      rw [List.flatMap_cons, source_kept, List.singleton_append]
      cases note with
      | nil =>
        obtain ⟨rfl, -⟩ := List.cons.inj h
        rfl
      | cons d note =>
        obtain ⟨rfl, hrest⟩ := List.cons.inj h
        obtain ⟨hc, hnote⟩ := not_or.mp (mt List.mem_cons.mpr hnote)
        rw [afterBracket?]
        split
        · rfl
        · rw [if_neg (by simpa using Ne.symm hc)]
          exact ih (fun m hm => hcut m (List.mem_cons_of_mem _ hm)) hnote hrest

/-- **A placeholder is left exactly if the beginning of one was parted.** -/
theorem hasPlaceholder_left_iff :
    HasPlaceholder ((placeholderStretches cs).flatMap left) ↔ PartsPlaceholder cs := by
  constructor
  · rintro ⟨m, ⟨word, hword, note, hnote, rfl⟩, first, last, htext⟩
    have hsplit : (placeholderStretches cs).flatMap left =
        first ++ '[' :: (word ++ (note ++ ']' :: last)) := by
      rw [← htext]
      simp
    obtain ⟨before, after, hs, hbefore, hafter⟩ := Text.exists_kept_of_flatMap_left hsplit
    have hcut : ∀ m, cut m ∈ after → IsPlaceholder m := fun m hm => by
      obtain ⟨first, last, hm⟩ := List.append_of_mem hm
      have hcuts : placeholderStretches cs = (before ++ kept '[' :: first) ++ cut m :: last := by
        rw [hs, hm]
        simp
      exact isPlaceholder_of_cut hcuts
    rcases Text.word_is_whole_or_parted hafter with
      ⟨behind, rfl, hbehind⟩ | ⟨start, stop, run, behind, rfl, hne, rfl, hbehind⟩
    · -- Bracket and word stand together, so the placeholder would have been taken out.
      have hclose := isSome_afterBracket?_source
        (fun m hm => hcut m (List.mem_append_right _ hm)) hnote hbehind
      have hbegins := isSome_afterPlaceholder? hword hclose
      have hstays := afterPlaceholder?_of_kept hs
      rw [List.flatMap_append, flatMap_source_map_kept] at hstays
      rw [hstays] at hbegins
      cases hbegins
    · refine ⟨before ++ kept '[' :: start.map kept, run, behind, start, stop, note, ?_, hword, hne,
        hnote, ?_, ?_⟩
      · rw [hs]
        simp
      · rw [List.flatMap_append, List.flatMap_cons, flatMap_left_map_kept, hbefore]
        exact List.suffix_append _ _
      · rw [hbehind]
        exact ⟨last, by simp⟩
  · rintro ⟨before, m, after, start, stop, note, hs, hword, -, hnote, ⟨first, hfirst⟩, last, hlast⟩
    have hleft : (placeholderStretches cs).flatMap left =
        first ++ '[' :: (start ++ stop ++ note ++ ']' :: last) := by
      rw [hs, List.flatMap_append, List.flatMap_cons, left_cut, List.nil_append, ← hfirst, ← hlast]
      simp
    exact HasPlaceholder.of_append hword hnote hleft

/-! ### Removing the placeholders of a text -/

theorem stripPlaceholders_eq_self_iff (text : String) :
    stripPlaceholders text = text ↔ ¬ HasPlaceholder text.toList := by
  have hsource : (placeholderStretches text.toList).flatMap source = text.toList :=
    Text.flatMap_source_stretches _ _ _
  have hsame := Text.flatMap_left_eq_source_iff (placeholderStretches text.toList)
  rw [hsource] at hsame
  rw [← String.toList_inj, toList_stripPlaceholders, hsame, hasPlaceholder_iff, not_exists]
  refine forall_congr' fun m => ⟨fun h hm => ?_, fun h hm => absurd hm h⟩
  -- What is taken out is a placeholder, so it is not empty.
  obtain ⟨before, after, hs⟩ := List.append_of_mem hm
  obtain ⟨word, -, note, -, rfl⟩ := isPlaceholder_of_cut hs
  exact List.cons_ne_nil _ _ (h hm)

theorem hasPlaceholder_stripPlaceholders_iff (text : String) :
    HasPlaceholder (stripPlaceholders text).toList ↔ PartsPlaceholder text.toList := by
  rw [toList_stripPlaceholders, hasPlaceholder_left_iff]

/-- **Removing the placeholders of a text** changes it exactly if it holds one. It leaves one, which
a second removal would take out, exactly if the beginning of one was parted by another. -/
theorem stripPlaceholders_leaves_one_iff (text : String) :
    (stripPlaceholders text = text ↔ ¬ HasPlaceholder text.toList) ∧
      (HasPlaceholder (stripPlaceholders text).toList ↔ PartsPlaceholder text.toList) ∧
      (stripPlaceholders (stripPlaceholders text) = stripPlaceholders text ↔
        ¬ PartsPlaceholder text.toList) :=
  ⟨stripPlaceholders_eq_self_iff text, hasPlaceholder_stripPlaceholders_iff text,
    (stripPlaceholders_eq_self_iff _).trans (not_congr (hasPlaceholder_stripPlaceholders_iff text))⟩

/-- A placeholder whose word is parted by another one comes to light when that one is removed. -/
theorem parted_placeholder_is_left :
    HasPlaceholder (stripPlaceholders "[IM[IMAGE x]AGE y]").toList ∧
      stripPlaceholders (stripPlaceholders "[IM[IMAGE x]AGE y]") ≠
        stripPlaceholders "[IM[IMAGE x]AGE y]" := by
  have hleft : stripPlaceholders "[IM[IMAGE x]AGE y]" = "[IMAGE y]" := by decide
  rw [hleft]
  refine ⟨⟨"[IMAGE y]".toList, ⟨"IMAGE".toList, by decide, " y".toList, by decide, by decide⟩,
    List.infix_rfl⟩, by decide⟩

end StaticSite.Markdown
