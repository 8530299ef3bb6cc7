import StaticSite.Proofs.Title.WordBreak

/-!
# The longest word at each place

`greedySegment` goes through a text once. Where a word begins it takes the longest one; a character
at which none begins joins the token before it, if that one is a word of at most three characters or
ends in such characters already, and otherwise opens a token of its own.

So nothing is lost, and every token is a word with a tail, or a tail alone (`IsToken`). `IsSound`
says so of the tokens made so far, and that the flag tells whether the last one has a tail; adding a
word or a character keeps it (`IsSound.addWord`, `IsSound.addChar`), and so does the whole run
(`isSound_greedyFrom`). If all tokens are words, they are a segmentation, and the word break has no
more pieces: `greedySegment_is_lossless`.
-/

namespace StaticSite.Title

variable {words : List (List Char)} {lowered small text token : List Char}
  {before : List (List Char)} {c : Char} {n k : Nat} {g : Greedy}

/-! ### Tokens -/

/-- Whether no word begins a text in small letters. -/
def BeginsNoWord (words : List (List Char)) (lowered : List Char) : Prop :=
  ∀ n, ¬ BeginsWord words lowered n

/-- Whether the longest word that begins a text in small letters has `n` characters. -/
def IsLongestWord (words : List (List Char)) (lowered : List Char) (n : Nat) : Prop :=
  BeginsWord words lowered n ∧ ∀ m, BeginsWord words lowered m → m ≤ n

/-- **What a token is**, by the small letters from its first character on: the longest word there,
of `n` characters, or no word if `n` is zero, and behind it a tail of `k` characters at which no
word begins. Only a word of at most three characters has a tail. -/
structure IsToken (words : List (List Char)) (lowered : List Char) (n k : Nat) : Prop where
  pos : 0 < n + k
  isLongestWord : n ≠ 0 → IsLongestWord words lowered n
  isShort : k ≠ 0 → n ≤ 3
  beginsNoWord : ∀ i, n ≤ i → i < n + k → BeginsNoWord words (lowered.drop i)

/-- **What a token behind others is.** A tail alone stands only at the start of the text or behind a
word of more than three characters. -/
structure IsTokenBehind (words : List (List Char)) (lowered : List Char)
    (before : List (List Char)) (token : List Char) (n k : Nat) : Prop where
  length_eq : token.length = n + k
  isToken : IsToken words (lowered.drop before.flatten.length) n k
  opens : n = 0 → ∀ earlier word, before = earlier ++ [word] →
    3 < word.length ∧ IsToken words (lowered.drop earlier.flatten.length) word.length 0

/-- The search for a word at a place finds the longest one. -/
theorem longestMatch_cases (words : List (List Char)) (lowered : List Char) :
    (longestMatch words lowered (min (longestWord words) lowered.length) = 0 ∧
      BeginsNoWord words lowered) ∨
    IsLongestWord words lowered
      (longestMatch words lowered (min (longestWord words) lowered.length)) := by
  obtain ⟨hword, hlongest⟩ :=
    longestMatch_spec words (Nat.min_le_right (longestWord words) lowered.length)
  have hall (m : Nat) (hm : BeginsWord words lowered m) :
      m ≤ longestMatch words lowered (min (longestWord words) lowered.length) :=
    hlongest m (Nat.le_min.mpr ⟨hm.le_longestWord, hm.2.1⟩) hm
  -- A length of zero stands for no word, for no word of the list is empty.
  by_cases hzero : longestMatch words lowered (min (longestWord words) lowered.length) = 0
  · refine .inl ⟨hzero, fun m hm => ?_⟩
    have hle := hall m hm
    have hpos := hm.1
    omega
  · exact .inr ⟨hword hzero, hall⟩

theorem isToken_of_isLongestWord (h : IsLongestWord words lowered n) :
    IsToken words lowered n 0 where
  pos := h.1.1
  isLongestWord _ := h
  isShort hne := absurd rfl hne
  beginsNoWord _ hle hlt := absurd hle (Nat.not_le_of_gt hlt)

theorem isToken_of_beginsNoWord (h : BeginsNoWord words lowered) : IsToken words lowered 0 1 where
  pos := Nat.one_pos
  isLongestWord hne := absurd rfl hne
  isShort _ := Nat.zero_le 3
  beginsNoWord i _ hlt := by
    obtain rfl : i = 0 := by omega
    exact h

/-- A tail grows by a character at which no word begins. -/
theorem IsToken.grow (h : IsToken words lowered n k) (hshort : n ≤ 3)
    (hnone : BeginsNoWord words (lowered.drop (n + k))) : IsToken words lowered n (k + 1) where
  pos := by omega
  isLongestWord := h.isLongestWord
  isShort _ := hshort
  beginsNoWord i hle hlt := by
    rcases Nat.lt_or_eq_of_le (Nat.le_of_lt_succ hlt) with hbefore | rfl
    · exact h.beginsNoWord i hle hbefore
    · exact hnone

/-! ### What one step keeps -/

/-- What a greedy segmentation has of the text. -/
def Greedy.read (g : Greedy) : List Char := g.tokens.reverse.flatten

theorem read_cons (token : List Char) (tokens : List (List Char)) (b : Bool) :
    Greedy.read ⟨token :: tokens, b⟩ = tokens.reverse.flatten ++ token := by
  simp [Greedy.read]

/-- **The tokens made so far are tokens**, and the flag says whether the last one has a tail. -/
structure IsSound (words : List (List Char)) (lowered : List Char) (g : Greedy) : Prop where
  isTokenBehind : ∀ token before, token :: before <:+ g.tokens →
    ∃ n k, IsTokenBehind words lowered before.reverse token n k
  hasTail : ∀ token before, g.tokens = token :: before →
    ∃ n k, IsTokenBehind words lowered before.reverse token n k ∧ (g.unmatched = true ↔ k ≠ 0)

theorem isSound_nil (words : List (List Char)) (lowered : List Char) :
    IsSound words lowered ⟨[], false⟩ :=
  ⟨fun _ _ h => absurd (List.suffix_nil.mp h) (List.cons_ne_nil _ _), fun _ _ h => (nomatch h)⟩

/-- One more token, or another last one. -/
theorem isSound_cons {tokens : List (List Char)} {unmatched : Bool}
    (hrest : ∀ token before, token :: before <:+ tokens →
      ∃ n k, IsTokenBehind words lowered before.reverse token n k)
    (htoken : IsTokenBehind words lowered tokens.reverse token n k)
    (htail : unmatched = true ↔ k ≠ 0) : IsSound words lowered ⟨token :: tokens, unmatched⟩ where
  isTokenBehind token' before h := by
    rcases List.suffix_cons_iff.mp h with heq | hsuffix
    · obtain ⟨rfl, rfl⟩ := List.cons.inj heq
      exact ⟨n, k, htoken⟩
    · exact hrest token' before hsuffix
  hasTail token' before h := by
    obtain ⟨rfl, rfl⟩ := List.cons.inj h
    exact ⟨n, k, htoken, htail⟩

/-- A word at the place that is reached. -/
theorem IsSound.addWord (h : IsSound words lowered g)
    (hword : IsLongestWord words (lowered.drop g.read.length) n) (hlength : token.length = n) :
    IsSound words lowered ⟨token :: g.tokens, false⟩ := by
  refine isSound_cons (n := n) (k := 0) h.isTokenBehind
    ⟨hlength, isToken_of_isLongestWord hword, ?_⟩ (by simp)
  exact fun hzero => absurd hzero (Nat.ne_of_gt hword.1.1)

/-- A character at which no word begins joins the last token, if that one is short: it has a tail,
or at most three characters. -/
theorem IsSound.join {last : List Char} {unmatched : Bool}
    (h : IsSound words lowered ⟨last :: before, unmatched⟩)
    (hnone : BeginsNoWord words
      (lowered.drop (Greedy.read ⟨last :: before, unmatched⟩).length))
    (hshort : unmatched = true ∨ last.length ≤ 3) :
    IsSound words lowered ⟨(last ++ [c]) :: before, true⟩ := by
  obtain ⟨n, k, hlast, htail⟩ := h.hasTail last before rfl
  have hbefore (token : List Char) (earlier : List (List Char))
      (hsuffix : token :: earlier <:+ before) :
      ∃ n k, IsTokenBehind words lowered earlier.reverse token n k :=
    h.isTokenBehind token earlier (hsuffix.trans (List.suffix_cons last before))
  rw [read_cons, List.length_append, ← List.drop_drop, hlast.length_eq] at hnone
  -- A token goes on only if its word is short, and it is by either reason.
  have hword : n ≤ 3 := by
    rcases hshort with hflag | hlength
    · exact hlast.isToken.isShort (htail.mp hflag)
    · exact Nat.le_trans (Nat.le_add_right n k) (hlast.length_eq ▸ hlength)
  have hlength : (last ++ [c]).length = n + (k + 1) := by
    rw [List.length_append, hlast.length_eq]
    rfl
  exact isSound_cons hbefore ⟨hlength, hlast.isToken.grow hword hnone, hlast.opens⟩
    (iff_of_true rfl k.succ_ne_zero)

/-- A character at which no word begins opens a token, at the start or behind a long word. -/
theorem IsSound.openTail (h : IsSound words lowered g)
    (hnone : BeginsNoWord words (lowered.drop g.read.length))
    (hlong : ∀ last before, g.tokens = last :: before → g.unmatched = false ∧ 3 < last.length) :
    IsSound words lowered ⟨[c] :: g.tokens, true⟩ := by
  refine isSound_cons (n := 0) (k := 1) h.isTokenBehind
    ⟨rfl, isToken_of_beginsNoWord hnone, ?_⟩ (iff_of_true rfl Nat.one_ne_zero)
  intro _ earlier word heq
  have htokens : g.tokens = word :: earlier.reverse := by
    rw [← List.reverse_inj, heq, List.reverse_cons, List.reverse_reverse]
  obtain ⟨n, k, hlast, htail⟩ := h.hasTail word earlier.reverse htokens
  obtain ⟨hflag, hlength⟩ := hlong word earlier.reverse htokens
  -- The last token has no tail, so it is a word.
  obtain rfl : k = 0 := by
    by_contra hne
    rw [htail.mpr hne] at hflag
    cases hflag
  refine ⟨hlength, ?_⟩
  rw [hlast.length_eq]
  exact List.reverse_reverse earlier ▸ hlast.isToken

/-- A character at which no word begins. -/
theorem IsSound.addChar (h : IsSound words lowered g)
    (hnone : BeginsNoWord words (lowered.drop g.read.length)) :
    IsSound words lowered (g.addChar c) := by
  obtain ⟨tokens, unmatched⟩ := g
  cases tokens with
  | nil => exact h.openTail hnone fun _ _ hnil => (nomatch hnil)
  | cons last before =>
    unfold Greedy.addChar
    dsimp only
    split
    · next hjoins =>
      rw [Bool.or_eq_true, decide_eq_true_eq] at hjoins
      exact h.join hnone hjoins
    · next hopens =>
      rw [Bool.or_eq_true, decide_eq_true_eq, not_or, Bool.not_eq_true, Nat.not_le] at hopens
      refine h.openTail hnone fun last' before' heq => ?_
      obtain ⟨rfl, rfl⟩ := List.cons.inj heq
      exact hopens

theorem read_addChar (g : Greedy) (c : Char) : (g.addChar c).read = g.read ++ [c] := by
  obtain ⟨tokens, unmatched⟩ := g
  cases tokens with
  | nil => rfl
  | cons last before =>
    unfold Greedy.addChar
    dsimp only
    split
    · rw [read_cons, read_cons, List.append_assoc]
    · rw [read_cons]
      rfl

/-! ### What a run keeps -/

/-- The place behind a token is reached when the text before it is read and then the token. -/
theorem drop_length_append {front small : List Char} (token : List Char)
    (hplace : small = lowered.drop front.length) :
    small.drop token.length = lowered.drop (front ++ token).length := by
  rw [hplace, List.drop_drop, List.length_append]

/-- **A run over the rest of a text** makes tokens and loses nothing; `skip` characters of the rest
belong to the last token already, and `small` are the small letters of the rest. -/
theorem isSound_greedyFrom {skip : Nat} {rest : List Char} (hskip : skip ≤ rest.length)
    (hsmall : small.length = rest.length) (hplace : small.drop skip = lowered.drop g.read.length)
    (h : IsSound words lowered g) :
    IsSound words lowered (greedyFrom words (longestWord words) skip rest small g) ∧
      (greedyFrom words (longestWord words) skip rest small g).read = g.read ++ rest.drop skip := by
  -- On the rest; `hplace` carries along where in the text the run stands.
  induction rest generalizing skip small g with
  | nil =>
    have hdone : greedyFrom words (longestWord words) skip [] small g = g := by
      cases skip <;> rfl
    rw [hdone, List.drop_nil, List.append_nil]
    exact ⟨h, rfl⟩
  | cons c rest ih =>
    have hdrop : (small.drop 1).length = rest.length := by
      rw [List.length_drop, hsmall, List.length_cons, Nat.add_sub_cancel]
    cases skip with
    | succ skip =>
      refine ih (Nat.le_of_succ_le_succ hskip) hdrop ?_ h
      rw [List.drop_drop, Nat.add_comm]
      exact hplace
    | zero =>
      rw [List.drop_zero] at hplace
      have hcases := longestMatch_cases words small
      rw [hsmall, List.length_cons] at hcases
      unfold greedyFrom
      dsimp only
      rcases hcases with ⟨hzero, hnone⟩ | hword
      · rw [if_pos hzero]
        have hread := read_addChar g c
        have hplace' : small.drop 1 = lowered.drop (g.addChar c).read.length :=
          hread ▸ drop_length_append [c] hplace
        obtain ⟨hsound, hrest⟩ :=
          ih (Nat.zero_le rest.length) hdrop hplace' (h.addChar (hplace ▸ hnone))
        refine ⟨hsound, ?_⟩
        rw [hrest, hread, List.append_assoc]
        rfl
      · generalize longestMatch words small (min (longestWord words) (rest.length + 1)) = n
          at hword ⊢
        obtain ⟨hpos, hle, -⟩ := hword.1
        rw [if_neg (Nat.ne_of_gt hpos)]
        have hlength : ((c :: rest).take n).length = n := by
          rw [List.length_take, ← hsmall, Nat.min_eq_left hle]
        have hread : Greedy.read ⟨(c :: rest).take n :: g.tokens, false⟩ =
            g.read ++ (c :: rest).take n := read_cons _ _ _
        -- The first character of the word is behind the run, the others are still to be skipped.
        obtain ⟨m, rfl⟩ := Nat.exists_eq_add_one.mpr hpos
        have hplace' : (small.drop 1).drop m =
            lowered.drop (Greedy.read ⟨(c :: rest).take (m + 1) :: g.tokens, false⟩).length := by
          rw [hread, ← drop_length_append _ hplace, hlength, List.drop_drop, Nat.add_comm]
        have hle' : m ≤ rest.length := by
          rw [hsmall] at hle
          exact Nat.le_of_succ_le_succ hle
        obtain ⟨hsound, hrest⟩ := ih hle' hdrop hplace' (h.addWord (hplace ▸ hword) hlength)
        refine ⟨hsound, ?_⟩
        rw [Nat.add_sub_cancel, hrest, hread, List.append_assoc, List.drop_zero,
          ← List.drop_succ_cons, List.take_append_drop]

/-- What the whole run makes of a text. -/
theorem isSound_greedySegment (words : List (List Char)) {text : List Char}
    (hlength : (Text.lowerList text).length = text.length) :
    IsSound words (Text.lowerList text)
        (greedyFrom words (longestWord words) 0 text (Text.lowerList text) ⟨[], false⟩) ∧
      (greedySegment words text).flatten = text :=
  isSound_greedyFrom (Nat.zero_le text.length) hlength rfl (isSound_nil words (Text.lowerList text))

/-- **The greedy segmentation loses nothing and never beats the word break.** Its tokens make up the
text; each is the longest word at its place with a tail, if it is short, of characters at which no
word begins, or such a tail alone; and if they are all words, then there is a word break, with no
more pieces than there are tokens. -/
theorem greedySegment_is_lossless (words : List (List Char))
    (hlength : (Text.lowerList text).length = text.length) :
    (greedySegment words text).flatten = text ∧
    (∀ before token after, greedySegment words text = before ++ token :: after →
      token ≠ [] ∧ ∃ n k, IsTokenBehind words (Text.lowerList text) before token n k) ∧
    (IsSegmentation words text (greedySegment words text) →
      ∃ pieces, wordBreak words text = some pieces ∧
        pieces.length ≤ (greedySegment words text).length) := by
  obtain ⟨hsound, hflatten⟩ := isSound_greedySegment words hlength
  refine ⟨hflatten, fun before token after heq => ?_, fun hwords => ?_⟩
  · -- The run keeps its tokens last one first.
    have htokens : (greedyFrom words (longestWord words) 0 text (Text.lowerList text)
        ⟨[], false⟩).tokens = after.reverse ++ token :: before.reverse := by
      rw [← List.reverse_inj]
      exact heq.trans (by simp)
    have hsuffix : token :: before.reverse <:+ (greedyFrom words (longestWord words) 0 text
        (Text.lowerList text) ⟨[], false⟩).tokens := ⟨after.reverse, htokens.symm⟩
    obtain ⟨n, k, hbehind⟩ := hsound.isTokenBehind token before.reverse hsuffix
    rw [List.reverse_reverse] at hbehind
    refine ⟨fun hnil => ?_, n, k, hbehind⟩
    have hpos := hbehind.isToken.pos
    rw [← hbehind.length_eq, hnil] at hpos
    cases hpos
  · -- The tokens are one of the segmentations that the word break is at least as good as.
    obtain ⟨pieces, hsome, hgood⟩ := exists_wordBreak_of_isRow hlength hwords.isRow
    have hle := hgood.length_le
    simp only [lengthsFromLast, List.length_reverse, List.length_map] at hle
    exact ⟨pieces, hsome, hle⟩

/-- A word of three characters has a tail, and one of five has none. -/
example : greedySegment ["cat".toList, "house".toList] "CatxyHousexy".toList =
    ["Catxy".toList, "House".toList, "xy".toList] := by decide

/-- The longest word at the start leaves two words to go where another one leaves one. -/
theorem greedySegment_of_three_words :
    (Text.lowerList ['a', 'b', 'c', 'd', 'e']).length = ['a', 'b', 'c', 'd', 'e'].length ∧
      greedySegment [['a', 'b', 'c'], ['d'], ['e'], ['a', 'b'], ['c', 'd', 'e']]
        ['a', 'b', 'c', 'd', 'e'] = [['a', 'b', 'c'], ['d'], ['e']] ∧
      ∃ pieces, wordBreak [['a', 'b', 'c'], ['d'], ['e'], ['a', 'b'], ['c', 'd', 'e']]
        ['a', 'b', 'c', 'd', 'e'] = some pieces ∧ pieces.length ≤ 3 := by
  have hlength : (Text.lowerList ['a', 'b', 'c', 'd', 'e']).length =
      ['a', 'b', 'c', 'd', 'e'].length := by decide
  have htokens : greedySegment [['a', 'b', 'c'], ['d'], ['e'], ['a', 'b'], ['c', 'd', 'e']]
      ['a', 'b', 'c', 'd', 'e'] = [['a', 'b', 'c'], ['d'], ['e']] := by decide
  have hlossless := greedySegment_is_lossless
    [['a', 'b', 'c'], ['d'], ['e'], ['a', 'b'], ['c', 'd', 'e']] hlength
  rw [htokens] at hlossless
  exact ⟨hlength, htokens, hlossless.2.2 ⟨rfl, by decide⟩⟩

end StaticSite.Title
