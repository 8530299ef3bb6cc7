import Mathlib.Algebra.Ring.Nat
import StaticSite.Title.Segmentation

/-!
# The fewest words

A text can be cut into words if its small letters are a row of words. `IsRow` says so of the lengths
of the words, which cut the text and its small letters alike; the small letters are those of the
whole text, since a capital sigma has another small letter at the end of a word. `IsSegmentation`
says so of the pieces of the text.

* `isRow_append_iff` cuts a row in two, and `isRow_reverse_cons_iff` takes the last word off.
* `exists_isRow_iff`: a text is a row of words exactly if it is put together of words.
* `longestMatch_spec` is what a search for the longest word at the start of a text finds.

`wordBreak` cuts a text into as few words of a dictionary as possible, and of several such ways
takes the one with the longest last word, then with the longest word before it, and so on
(`AtLeastAsGood`). It finds none only if there is none: `wordBreak_is_best`.

The segmentations of the beginnings of a text are kept in a table, the longest beginning first, each
as the lengths of its pieces, last one first (`Cuts`). Two lemmas carry the proof.

* `isBestOf_bestEnding`: the best segmentation of a beginning is found word by word, from its end;
  those that end in a word of `k` characters are the segmentations of what lies before it.
* `IsTable.step`: with it the table grows by one character.

No word is missed because the search looks no further back than the longest word reaches.
-/

namespace StaticSite.Title

section

variable {words : List (List Char)} {lowered text : List Char} {k n : Nat} {ks ms ns : List Nat}

/-! ### Words at the start of a text -/

/-- Whether a text in small letters begins with a word of `n` characters. The empty word counts
nowhere. -/
def BeginsWord (words : List (List Char)) (lowered : List Char) (n : Nat) : Prop :=
  0 < n ∧ n ≤ lowered.length ∧ lowered.take n ∈ words

instance : Decidable (BeginsWord words lowered n) :=
  inferInstanceAs (Decidable (0 < n ∧ n ≤ lowered.length ∧ lowered.take n ∈ words))

/-- The beginning of a text has the same words as the text, as far as it goes. -/
theorem beginsWord_take_iff (h : k ≤ n) :
    BeginsWord words (lowered.take n) k ↔ BeginsWord words lowered k := by
  unfold BeginsWord
  rw [List.length_take, List.take_take, Nat.min_eq_left h, Nat.le_min]
  exact ⟨fun ⟨hpos, hle, hmem⟩ => ⟨hpos, hle.2, hmem⟩,
    fun ⟨hpos, hle, hmem⟩ => ⟨hpos, ⟨h, hle⟩, hmem⟩⟩

/-- No word is longer than the longest one. -/
theorem length_le_longestWord {w : List Char} (h : w ∈ words) : w.length ≤ longestWord words := by
  -- The fold only grows, from any start.
  have hfold : ∀ (ws : List (List Char)) (n : Nat), n ≤ ws.foldl (fun n w => max n w.length) n ∧
      ∀ w ∈ ws, w.length ≤ ws.foldl (fun n w => max n w.length) n := by
    intro ws
    induction ws with
    | nil => exact fun n => ⟨Nat.le_refl n, fun w hw => absurd hw List.not_mem_nil⟩
    | cons v ws ih =>
      intro n
      obtain ⟨hstart, hrest⟩ := ih (max n v.length)
      refine ⟨Nat.le_trans (Nat.le_max_left n v.length) hstart, fun w hw => ?_⟩
      rcases List.mem_cons.mp hw with rfl | hw
      · exact Nat.le_trans (Nat.le_max_right n w.length) hstart
      · exact hrest w hw
  exact (hfold words 0).2 w h

theorem BeginsWord.le_longestWord (h : BeginsWord words lowered n) : n ≤ longestWord words := by
  obtain ⟨-, hle, hmem⟩ := h
  have hlength := length_le_longestWord hmem
  rwa [List.length_take, Nat.min_eq_left hle] at hlength

/-! ### Rows -/

/-- Whether a text in small letters is a row of words of the given lengths. -/
def IsRow (words : List (List Char)) : List Nat → List Char → Prop
  | [], lowered => lowered = []
  | n :: ns, lowered => BeginsWord words lowered n ∧ IsRow words ns (lowered.drop n)

instance decidableIsRow (words : List (List Char)) :
    ∀ (ns : List Nat) (lowered : List Char), Decidable (IsRow words ns lowered)
  | [], lowered => inferInstanceAs (Decidable (lowered = []))
  | n :: ns, lowered =>
    have := decidableIsRow words ns (lowered.drop n)
    inferInstanceAs (Decidable (BeginsWord words lowered n ∧ IsRow words ns (lowered.drop n)))

/-- **A segmentation of a text**: its pieces make up the text, and as long as they are, its small
letters are a row of words. -/
structure IsSegmentation (words : List (List Char)) (text : List Char)
    (pieces : List (List Char)) : Prop where
  flatten_eq : pieces.flatten = text
  isRow : IsRow words (pieces.map List.length) (Text.lowerList text)

theorem IsRow.sum_eq (h : IsRow words ns lowered) : ns.sum = lowered.length := by
  induction ns generalizing lowered with
  | nil => exact (congrArg List.length h).symm
  | cons n ns ih =>
    obtain ⟨⟨-, hle, -⟩, hrest⟩ := h
    rw [List.sum_cons, ih hrest, List.length_drop]
    exact Nat.add_sub_cancel' hle

theorem isRow_append_iff : IsRow words (ms ++ ns) lowered ↔
    IsRow words ms (lowered.take ms.sum) ∧ IsRow words ns (lowered.drop ms.sum) := by
  induction ms generalizing lowered with
  | nil => simp [IsRow]
  | cons m ms ih =>
    rw [List.cons_append, IsRow, IsRow, ih, List.sum_cons, List.drop_take, List.drop_drop,
      Nat.add_sub_cancel_left, beginsWord_take_iff (Nat.le_add_right m ms.sum), and_assoc]

/-- The last word of a row, of which text and lengths are given from the end. -/
theorem isRow_reverse_cons_iff {ending : List Char} :
    IsRow words (k :: ks).reverse ending.reverse ↔
      0 < k ∧ k ≤ ending.length ∧ (ending.take k).reverse ∈ words ∧
        IsRow words ks.reverse (ending.drop k).reverse := by
  rw [List.reverse_cons, isRow_append_iff, IsRow, IsRow, BeginsWord]
  constructor
  · rintro ⟨hrow, ⟨hpos, hle, hmem⟩, hend⟩
    -- The words before the last one take up what the last one leaves.
    have hsum : ks.reverse.sum + k = ending.length := by
      rw [List.length_drop, List.length_reverse] at hle
      rw [List.drop_drop, List.drop_eq_nil_iff, List.length_reverse] at hend
      omega
    have hrest : ending.length - ks.reverse.sum = k := by omega
    rw [List.take_reverse, hrest] at hrow
    rw [List.drop_reverse, hrest, List.take_of_length_le] at hmem
    · exact ⟨hpos, by omega, hmem, hrow⟩
    · rw [List.length_reverse, List.length_take]
      exact Nat.min_le_left k ending.length
  · rintro ⟨hpos, hle, hmem, hrow⟩
    have hsum : ks.reverse.sum = ending.length - k := by
      rw [hrow.sum_eq, List.length_reverse, List.length_drop]
    have hrest : ending.length - ks.reverse.sum = k := by omega
    have hlength : ((ending.take k).reverse).length = k := by simp [hle]
    rw [List.take_reverse, List.drop_reverse, hrest, hlength]
    refine ⟨hrow, ⟨hpos, Nat.le_refl k, ?_⟩, ?_⟩
    · rwa [List.take_of_length_le (Nat.le_of_eq hlength)]
    · exact List.drop_eq_nil_of_le (Nat.le_of_eq hlength)

/-- **A text is a row of words exactly if it is put together of words**: empty words add nothing. -/
theorem exists_isRow_iff : (∃ ns, IsRow words ns lowered) ↔
    ∃ parts : List (List Char), (∀ w ∈ parts, w ∈ words) ∧ parts.flatten = lowered := by
  constructor
  · rintro ⟨ns, h⟩
    induction ns generalizing lowered with
    | nil => exact ⟨[], fun w hw => absurd hw List.not_mem_nil, h.symm⟩
    | cons n ns ih =>
      obtain ⟨⟨-, -, hmem⟩, hrest⟩ := h
      obtain ⟨parts, hparts, hflatten⟩ := ih hrest
      refine ⟨lowered.take n :: parts, List.forall_mem_cons.mpr ⟨hmem, hparts⟩, ?_⟩
      rw [List.flatten_cons, hflatten, List.take_append_drop]
  · rintro ⟨parts, hparts, rfl⟩
    induction parts with
    | nil => exact ⟨[], rfl⟩
    | cons w parts ih =>
      obtain ⟨hw, hparts⟩ := List.forall_mem_cons.mp hparts
      obtain ⟨ns, hrow⟩ := ih hparts
      -- A row counts the lengths of words, in which empty words have no place.
      rcases Nat.eq_zero_or_pos w.length with hempty | hpos
      · rw [List.flatten_cons, List.eq_nil_of_length_eq_zero hempty]
        exact ⟨ns, hrow⟩
      · refine ⟨w.length :: ns, ⟨hpos, by simp, ?_⟩, ?_⟩
        · rwa [List.flatten_cons, List.take_left]
        · rwa [List.flatten_cons, List.drop_left]

/-! ### Pieces of given lengths -/

/-- A row of words in the small letters of a text cuts the text into pieces of these lengths. -/
theorem cut_spec (h : ns.sum = text.length) :
    (cut ns text).map List.length = ns ∧ (cut ns text).flatten = text := by
  induction ns generalizing text with
  | nil => exact ⟨rfl, (List.eq_nil_of_length_eq_zero h.symm).symm⟩
  | cons n ns ih =>
    rw [List.sum_cons] at h
    have hrest : ns.sum = (text.drop n).length := by
      rw [List.length_drop]
      omega
    obtain ⟨hlengths, hflatten⟩ := ih hrest
    rw [cut, List.map_cons, List.flatten_cons, hlengths, hflatten, List.length_take]
    exact ⟨by rw [Nat.min_eq_left (by omega)], List.take_append_drop n text⟩

/-! ### The longest word at the start of a text -/

/-- **The longest match** is a word at the start of the text, and no word of at most `k` characters
there is longer. It is zero if there is none. -/
theorem longestMatch_spec (words : List (List Char)) (h : k ≤ lowered.length) :
    (longestMatch words lowered k ≠ 0 → BeginsWord words lowered (longestMatch words lowered k)) ∧
      ∀ n ≤ k, BeginsWord words lowered n → n ≤ longestMatch words lowered k := by
  -- On the length that is tried, the greatest one first.
  induction k with
  | zero =>
    refine ⟨fun hne => absurd rfl hne, fun n hn _ => ?_⟩
    rwa [longestMatch]
  | succ k ih =>
    rw [longestMatch]
    split
    · next hmem =>
      exact ⟨fun _ => ⟨k.succ_pos, h, List.contains_iff_mem.mp hmem⟩, fun n hn _ => hn⟩
    · next hmem =>
      obtain ⟨hword, hlongest⟩ := ih (by omega)
      refine ⟨hword, fun n hn hbegins => hlongest n ?_ hbegins⟩
      have hne : n ≠ k + 1 := by
        rintro rfl
        exact hmem (List.contains_iff_mem.mpr hbegins.2.2)
      omega

end

variable {words : List (List Char)} {ending lowered text : List Char} {found : Option Pieces}
  {p q r : Pieces} {k : Nat} {kind added : Pieces → Prop}

/-! ### Which segmentation is better -/

/-- **Whether a segmentation is at least as good as another**, their lengths given last piece first:
it has fewer pieces, or as many and comes no earlier in the order of lists, in which the first
difference decides. -/
def AtLeastAsGood (p q : Pieces) : Prop :=
  p.length < q.length ∨ p.length = q.length ∧ ¬ List.Lex (· < ·) p q

theorem AtLeastAsGood.length_le (h : AtLeastAsGood p q) : p.length ≤ q.length := by
  rcases h with h | ⟨h, -⟩ <;> omega

theorem AtLeastAsGood.trans (hpq : AtLeastAsGood p q) (hqr : AtLeastAsGood q r) :
    AtLeastAsGood p r := by
  rcases hpq with hpq | ⟨hpq, hle⟩
  · exact .inl (Nat.lt_of_lt_of_le hpq hqr.length_le)
  · rcases hqr with hqr | ⟨hqr, hle'⟩
    · exact .inl (hpq ▸ hqr)
    · exact .inr ⟨hpq.trans hqr, List.le_trans hle' hle⟩

/-- The same last piece makes no difference. -/
theorem AtLeastAsGood.cons (h : AtLeastAsGood p q) (k : Nat) : AtLeastAsGood (k :: p) (k :: q) := by
  rcases h with h | ⟨h, hle⟩
  · exact .inl (Nat.succ_lt_succ h)
  · exact .inr ⟨congrArg Nat.succ h, List.cons_le_cons_iff.mpr (.inr ⟨rfl, hle⟩)⟩

/-- Among as many pieces, a longer last piece is better. -/
theorem atLeastAsGood_of_headD_lt (hlength : (k :: p).length ≤ q.length) (hhead : q.headD 0 < k) :
    AtLeastAsGood (k :: p) q := by
  cases q with
  | nil => cases hlength
  | cons j q =>
    rcases Nat.lt_or_eq_of_le hlength with hlt | heq
    · exact .inl hlt
    · exact .inr ⟨heq, List.cons_le_cons_iff.mpr (.inl hhead)⟩

/-- **What was found is the best segmentation of a kind**, and nothing was found only if there is
none. -/
structure IsBestOf (kind : Pieces → Prop) (found : Option Pieces) : Prop where
  isOfKind : ∀ p ∈ found, kind p
  isBest : ∀ q, kind q → ∃ p ∈ found, AtLeastAsGood p q

theorem isBestOf_none (h : ∀ q, ¬ kind q) : IsBestOf kind none :=
  ⟨fun _ hp => (nomatch hp), fun q hq => absurd hq (h q)⟩

/-- One more kind of segmentations, of which there are none. -/
theorem IsBestOf.of_forall_not (h : IsBestOf kind found) (hno : ∀ q, ¬ added q) :
    IsBestOf (fun q => kind q ∨ added q) found :=
  ⟨fun p hp => .inl (h.isOfKind p hp), fun q hq => h.isBest q (hq.resolve_right (hno q))⟩

/-- One more kind of segmentations, whose best one is preferred to those before that have as many
pieces. -/
theorem IsBestOf.better (h : IsBestOf kind found) (hp : added p)
    (hbest : ∀ q, added q → AtLeastAsGood p q)
    (htie : ∀ q, kind q → p.length ≤ q.length → AtLeastAsGood p q) :
    IsBestOf (fun q => kind q ∨ added q) (better found p) := by
  cases found with
  | none =>
    refine ⟨fun q hq => .inr (Option.some.inj hq ▸ hp), fun q hq => ⟨p, rfl, ?_⟩⟩
    rcases hq with hq | hq
    · obtain ⟨f, hf, -⟩ := h.isBest q hq
      cases hf
    · exact hbest q hq
  | some f =>
    have hf : kind f := h.isOfKind f rfl
    have hfbest (q : Pieces) (hq : kind q) : AtLeastAsGood f q := by
      obtain ⟨g, hg, hgood⟩ := h.isBest q hq
      exact Option.some.inj hg ▸ hgood
    have hchoice : Title.better (some f) p = if p.length ≤ f.length then some p else some f := rfl
    rw [hchoice]
    split
    · next hlength =>
      -- No longer than what was found, so it wins the tie against all that are no shorter.
      refine ⟨fun q hq => .inr (Option.some.inj hq ▸ hp), fun q hq => ⟨p, rfl, ?_⟩⟩
      exact hq.elim (fun hq => (htie f hf hlength).trans (hfbest q hq)) (hbest q)
    · next hlength =>
      refine ⟨fun q hq => .inl (Option.some.inj hq ▸ hf), fun q hq => ⟨f, rfl, ?_⟩⟩
      have hfewer : AtLeastAsGood f p := .inl (Nat.lt_of_not_le hlength)
      exact hq.elim (hfbest q) fun hq => hfewer.trans (hbest q hq)

/-! ### The ways to cut a beginning of a text -/

/-- Whether a beginning of a text, given from its end, is a row of words of lengths given from the
last one. -/
def Cuts (words : List (List Char)) (ending : List Char) (p : Pieces) : Prop :=
  IsRow words p.reverse ending.reverse

theorem cuts_cons_iff : Cuts words ending (k :: p) ↔
    0 < k ∧ k ≤ ending.length ∧ (ending.take k).reverse ∈ words ∧
      Cuts words (ending.drop k) p := isRow_reverse_cons_iff

theorem not_cuts_nil (hne : ending ≠ []) : ¬ Cuts words ending [] :=
  fun h => hne (List.reverse_eq_nil_iff.mp h)

theorem cuts_nil_iff : Cuts words [] p ↔ p = [] := by
  cases p with
  | nil => exact iff_of_true rfl rfl
  | cons k p =>
    refine iff_of_false (fun h => ?_) (List.cons_ne_nil k p)
    obtain ⟨hpos, hle, -⟩ := cuts_cons_iff.mp h
    exact absurd hle (Nat.not_le_of_gt hpos)

/-- The segmentations that end in a word of `k` characters. -/
theorem cuts_and_headD_eq_iff (hk : 0 < k) (hle : k ≤ ending.length) :
    Cuts words ending q ∧ q.headD 0 = k ↔
      (ending.take k).reverse ∈ words ∧
        ∃ rest, q = k :: rest ∧ Cuts words (ending.drop k) rest := by
  constructor
  · rintro ⟨hcuts, hhead⟩
    cases q with
    | nil => exact absurd hhead (Nat.ne_of_lt hk)
    | cons j q =>
      obtain rfl : j = k := hhead
      obtain ⟨-, -, hmem, hrest⟩ := cuts_cons_iff.mp hcuts
      exact ⟨hmem, q, rfl, hrest⟩
  · rintro ⟨hmem, rest, rfl, hrest⟩
    exact ⟨cuts_cons_iff.mpr ⟨hk, hle, hmem, hrest⟩, rfl⟩

/-- No segmentation ends in more than the longest word, or in more than the text. -/
theorem Cuts.headD_le (h : Cuts words ending q) :
    q.headD 0 ≤ longestWord words ∧ q.headD 0 ≤ ending.length := by
  cases q with
  | nil => exact ⟨Nat.zero_le _, Nat.zero_le _⟩
  | cons k q =>
    obtain ⟨-, hle, hmem, -⟩ := cuts_cons_iff.mp h
    have hlength := length_le_longestWord hmem
    rw [List.length_reverse, List.length_take, Nat.min_eq_left hle] at hlength
    exact ⟨hlength, hle⟩

/-! ### The table -/

/-- One step of the search for the last word: the word of `k` characters. -/
theorem IsBestOf.next {entry : Option Pieces} (hk : 0 < k) (hle : k ≤ ending.length)
    (hentry : IsBestOf (Cuts words (ending.drop k)) entry)
    (hfound : IsBestOf (fun q => Cuts words ending q ∧ q.headD 0 < k) found) :
    IsBestOf (fun q => Cuts words ending q ∧ q.headD 0 < k + 1)
      (bestEnding words ending k [entry] found) := by
  -- Segmentations that end in at most `k` characters end in fewer, or in just as many.
  have hkind : (fun q => Cuts words ending q ∧ q.headD 0 < k + 1) =
      fun q => (Cuts words ending q ∧ q.headD 0 < k) ∨ ((ending.take k).reverse ∈ words ∧
        ∃ rest, q = k :: rest ∧ Cuts words (ending.drop k) rest) := by
    funext q
    rw [← cuts_and_headD_eq_iff hk hle, ← and_or_left, Nat.lt_succ_iff_lt_or_eq]
  rw [hkind]
  cases entry with
  | none =>
    refine hfound.of_forall_not ?_
    rintro q ⟨-, rest, -, hrest⟩
    obtain ⟨p, hp, -⟩ := hentry.isBest rest hrest
    cases hp
  | some p =>
    dsimp only [bestEnding]
    split
    · next hmem =>
      have hword : (ending.take k).reverse ∈ words := List.contains_iff_mem.mp hmem
      refine hfound.better ⟨hword, p, rfl, hentry.isOfKind p rfl⟩ ?_ ?_
      · rintro q ⟨-, rest, rfl, hrest⟩
        obtain ⟨p', hp, hgood⟩ := hentry.isBest rest hrest
        obtain rfl := Option.some.inj hp
        exact hgood.cons k
      · exact fun q hq hlength => atLeastAsGood_of_headD_lt hlength hq.2
    · next hmem =>
      refine hfound.of_forall_not ?_
      rintro q ⟨hword, -⟩
      exact hmem (List.contains_iff_mem.mpr hword)

/-- **The search for the last word** looks at ever longer words, and what it has found is the best
segmentation that ends in one of those before. -/
theorem isBestOf_bestEnding (table : List (Option Pieces)) (hk : 0 < k)
    (hlength : k + table.length ≤ ending.length + 1)
    (htable : ∀ i entry, table[i]? = some entry →
      IsBestOf (Cuts words (ending.drop (k + i))) entry)
    (hfound : IsBestOf (fun q => Cuts words ending q ∧ q.headD 0 < k) found) :
    IsBestOf (fun q => Cuts words ending q ∧ q.headD 0 < k + table.length)
      (bestEnding words ending k table found) := by
  -- On the entries still to be looked at; `hfound` is the invariant.
  induction table generalizing k found with
  | nil => exact hfound
  | cons entry table ih =>
    rw [List.length_cons] at hlength ⊢
    have hnext : k + (table.length + 1) = k + 1 + table.length := by omega
    rw [hnext]
    refine ih k.succ_pos (by omega) (fun i e he => ?_) ?_
    · rw [Nat.add_right_comm]
      exact htable (i + 1) e he
    · have hle : k ≤ ending.length := by omega
      exact IsBestOf.next hk hle (htable 0 entry rfl) hfound

/-- **A table of best segmentations**: one for each beginning of the text up to `ending`, the
longest beginning first. -/
structure IsTable (words : List (List Char)) (ending : List Char)
    (table : List (Option Pieces)) : Prop where
  length_eq : table.length = ending.length + 1
  isBestOf : ∀ i entry, table[i]? = some entry → IsBestOf (Cuts words (ending.drop i)) entry

theorem isTable_nil (words : List (List Char)) : IsTable words [] [some []] where
  length_eq := rfl
  isBestOf i entry h := by
    cases i with
    | succ i => cases h
    | zero =>
      obtain rfl := Option.some.inj h
      refine ⟨fun p hp => Option.some.inj hp ▸ cuts_nil_iff.mpr rfl, fun q hq => ⟨[], rfl, ?_⟩⟩
      rw [cuts_nil_iff.mp hq]
      exact .inr ⟨rfl, List.le_refl []⟩

/-- One more character. -/
theorem IsTable.step {table : List (Option Pieces)} (h : IsTable words ending table) (c : Char) :
    IsTable words (c :: ending)
      (bestEnding words (c :: ending) 1 (table.take (longestWord words)) none :: table) where
  length_eq := congrArg Nat.succ h.length_eq
  isBestOf i entry hentry := by
    cases i with
    | succ i => exact h.isBestOf i entry hentry
    | zero =>
      obtain rfl := Option.some.inj hentry
      -- The search starts with nothing: there is text left, so the last word is not empty.
      have hnone : IsBestOf (fun q => Cuts words (c :: ending) q ∧ q.headD 0 < 1) none := by
        refine isBestOf_none fun q hq => ?_
        cases q with
        | nil => exact not_cuts_nil (List.cons_ne_nil c ending) hq.1
        | cons k q => exact absurd hq.2 (Nat.not_lt_of_ge (cuts_cons_iff.mp hq.1).1)
      have hbest := isBestOf_bestEnding (table.take (longestWord words)) Nat.one_pos
        (by rw [List.length_take, List.length_cons, h.length_eq]; omega)
        (fun i entry he => ?_) hnone
      · -- The words that the search looks at are all that fit, up to the longest one.
        have hall : (fun q => Cuts words (c :: ending) q ∧
            q.headD 0 < 1 + (table.take (longestWord words)).length) =
              Cuts words (c :: ending) := by
          funext q
          refine propext (and_iff_left_of_imp fun hq => ?_)
          obtain ⟨hlongest, hle⟩ := hq.headD_le
          rw [List.length_take, h.length_eq]
          rw [List.length_cons] at hle
          omega
        rwa [hall] at hbest
      · rw [Nat.add_comm, List.drop_succ_cons]
        refine h.isBestOf i entry ?_
        rw [List.getElem?_take] at he
        split at he
        · exact he
        · cases he

/-- The whole text. -/
theorem IsTable.breakTable {table : List (Option Pieces)} (h : IsTable words ending table)
    (rest : List Char) : IsTable words (rest.reverse ++ ending)
      (breakTable words (longestWord words) rest ending table) := by
  induction rest generalizing ending table with
  | nil => exact h
  | cons c rest ih =>
    rw [Title.breakTable, List.reverse_cons, List.append_assoc]
    exact ih (h.step c)

/-! ### Segmentations of a text -/

/-- The lengths of the pieces of a segmentation, last one first. -/
def lengthsFromLast (pieces : List (List Char)) : Pieces := (pieces.map List.length).reverse

theorem exists_breakLengths (words : List (List Char)) (lowered : List Char) :
    ∃ found, breakLengths words lowered = found.map List.reverse ∧
      IsBestOf (fun p => IsRow words p.reverse lowered) found := by
  have htable := (isTable_nil words).breakTable lowered
  refine ⟨_, rfl, ?_⟩
  -- The first entry of the table is the one of the whole text.
  cases hrows : breakTable words (longestWord words) lowered [] [some []] with
  | nil =>
    have hlength := htable.length_eq
    rw [hrows] at hlength
    cases hlength
  | cons entry table =>
    have hbest := htable.isBestOf 0 entry (by rw [hrows]; rfl)
    rw [List.append_nil, List.drop_zero] at hbest
    unfold Cuts at hbest
    rwa [List.reverse_reverse] at hbest

/-- A word break is a segmentation. -/
theorem isSegmentation_of_wordBreak {pieces : List (List Char)}
    (hlength : (Text.lowerList text).length = text.length)
    (h : wordBreak words text = some pieces) : IsSegmentation words text pieces := by
  obtain ⟨found, heq, hbest⟩ := exists_breakLengths words (Text.lowerList text)
  rw [wordBreak, heq, Option.map_map, Option.map_eq_some_iff] at h
  obtain ⟨p, hp, rfl⟩ := h
  have hrow := hbest.isOfKind p hp
  obtain ⟨hlengths, hflatten⟩ := cut_spec (hrow.sum_eq.trans hlength)
  exact ⟨hflatten, by rwa [Function.comp_apply, hlengths]⟩

/-- Whatever the segmentation, the word break is at least as good. -/
theorem exists_wordBreak_of_isRow {ns : List Nat}
    (hlength : (Text.lowerList text).length = text.length)
    (h : IsRow words ns (Text.lowerList text)) :
    ∃ pieces, wordBreak words text = some pieces ∧
      AtLeastAsGood (lengthsFromLast pieces) ns.reverse := by
  obtain ⟨found, heq, hbest⟩ := exists_breakLengths words (Text.lowerList text)
  obtain ⟨p, hp, hgood⟩ := hbest.isBest ns.reverse (by rwa [List.reverse_reverse])
  refine ⟨cut p.reverse text, ?_, ?_⟩
  · rw [wordBreak, heq, hp]
    rfl
  · have hsum := (hbest.isOfKind p hp).sum_eq.trans hlength
    rwa [lengthsFromLast, (cut_spec hsum).1, List.reverse_reverse]

/-- **A word break is the best segmentation**: there is none exactly if the small letters of the
text are not put together of words, and otherwise it is a segmentation at least as good as any
other. -/
theorem wordBreak_is_best (hlength : (Text.lowerList text).length = text.length) :
    (wordBreak words text = none ↔ ¬ ∃ parts : List (List Char),
      (∀ w ∈ parts, w ∈ words) ∧ parts.flatten = Text.lowerList text) ∧
    ∀ pieces, wordBreak words text = some pieces → IsSegmentation words text pieces ∧
      ∀ others, IsSegmentation words text others →
        AtLeastAsGood (lengthsFromLast pieces) (lengthsFromLast others) := by
  refine ⟨?_, fun pieces h => ⟨isSegmentation_of_wordBreak hlength h, fun others hothers => ?_⟩⟩
  · rw [← exists_isRow_iff]
    constructor
    -- A text has a segmentation exactly if it is a row of words, whether the best one is asked for
    -- or any.
    · rintro hnone ⟨ns, hrow⟩
      obtain ⟨pieces, hsome, -⟩ := exists_wordBreak_of_isRow hlength hrow
      rw [hnone] at hsome
      cases hsome
    · intro hno
      refine Option.eq_none_iff_forall_not_mem.mpr fun pieces h => hno ?_
      exact ⟨_, (isSegmentation_of_wordBreak hlength h).isRow⟩
  · obtain ⟨pieces', hsome, hgood⟩ := exists_wordBreak_of_isRow hlength hothers.isRow
    rw [h] at hsome
    obtain rfl := Option.some.inj hsome
    exact hgood

/-- Of the two ways to cut a text into two words, the one with the longer last word is taken. -/
theorem wordBreak_of_two_ways :
    (Text.lowerList ['A', 'b', 'c']).length = ['A', 'b', 'c'].length ∧
      wordBreak [['a'], ['a', 'b'], ['b', 'c'], ['c']] ['A', 'b', 'c'] = some [['A'], ['b', 'c']] ∧
      IsSegmentation [['a'], ['a', 'b'], ['b', 'c'], ['c']] ['A', 'b', 'c'] [['A', 'b'], ['c']] ∧
      AtLeastAsGood (lengthsFromLast [['A'], ['b', 'c']])
        (lengthsFromLast [['A', 'b'], ['c']]) := by
  have hlength : (Text.lowerList ['A', 'b', 'c']).length = ['A', 'b', 'c'].length := by decide
  have hother : IsSegmentation [['a'], ['a', 'b'], ['b', 'c'], ['c']] ['A', 'b', 'c']
      [['A', 'b'], ['c']] := ⟨rfl, by decide⟩
  have hbreak : wordBreak [['a'], ['a', 'b'], ['b', 'c'], ['c']] ['A', 'b', 'c'] =
      some [['A'], ['b', 'c']] := by decide
  exact ⟨hlength, hbreak, hother, ((wordBreak_is_best hlength).2 _ hbreak).2 _ hother⟩

end StaticSite.Title
