import StaticSite.Condition.Eval
import StaticSite.Proofs.Condition.Composition
import StaticSite.Proofs.Condition.Printing

/-!
# References of a condition

A reference is a path: parts of letters, digits and underscores with single points between them
(`IsPath`). The reader of words tells a path from other words by its points alone (`isPath_iff`),
but it does not look at what stands before the suffix of membership. So a reference that is no path
makes a text no condition if it stands for itself, and is let through if the suffix is written to it
(`references_are_paths_iff`).

`HasWord w cs` says that the steps through a text come to a word: the references of the text are
those of its words (`HasWord.tokens`, `IsCut.ref_cases`).

What a reference stands for is looked up under its whole name or, if there is no such answer, under
its first part. Answers that agree on these keys (`keysOf`) make a condition say the same
(`holds_eq_of_agreeOn`).
-/

namespace StaticSite.Condition

/-! ### Paths -/

/-- Whether a character may stand in a part of a path: ASCII letters, digits and the underscore. -/
def isPartChar (c : Char) : Bool := c.isAlphanum || c == '_'

/-- **A path**: one or more parts with single points between them, none of them empty. -/
def IsPath (name : List Char) : Prop :=
  ∃ parts : List (List Char), parts ≠ [] ∧ (∀ p ∈ parts, p ≠ [] ∧ p.all isPartChar = true) ∧
    name = ['.'].intercalate parts

theorem isNameChar_iff {c : Char} : isNameChar c = true ↔ isPartChar c = true ∨ c = '.' := by
  rw [isNameChar, isPartChar, Bool.or_eq_true, beq_iff_eq]

/-- A text without a point at its end and without two in a row is a path behind part of one, or if
it does not begin with a point. -/
theorem isPath_append {first cs : List Char} (hfirst : first.all isPartChar = true)
    (hcs : cs.all isNameChar = true) (hlast : cs.getLast? ≠ some '.')
    (hrow : ¬ ['.', '.'] <:+: cs) (hstart : first ≠ [] ∨ cs ≠ [] ∧ cs.head? ≠ some '.') :
    IsPath (first ++ cs) := by
  -- By induction on the text: a point ends the part in progress, and any other character joins it.
  induction cs generalizing first with
  | nil =>
    have hne : first ≠ [] := hstart.resolve_right fun h => h.1 rfl
    exact ⟨[first], List.cons_ne_nil _ _, List.forall_mem_singleton.mpr ⟨hne, hfirst⟩, by simp⟩
  | cons c cs ih =>
    rw [List.all_cons, Bool.and_eq_true] at hcs
    have hrow' : ¬ ['.', '.'] <:+: cs := fun h => hrow (h.trans (List.suffix_cons c cs).isInfix)
    have hlast' : cs.getLast? ≠ some '.' := by
      intro h
      rw [List.getLast?_cons, h] at hlast
      exact hlast rfl
    rcases isNameChar_iff.mp hcs.1 with hpart | rfl
    · have hfirst' : (first ++ [c]).all isPartChar = true := by
        rw [List.all_append, hfirst, List.all_cons, hpart]
        rfl
      rw [List.append_cons]
      exact ih hfirst' hcs.2 hlast' hrow' (.inl (List.concat_ne_nil _ _))
    · have hne : first ≠ [] := hstart.resolve_right fun h => h.2 rfl
      have hrest : cs ≠ [] ∧ cs.head? ≠ some '.' := by
        refine ⟨fun h => hlast (h ▸ rfl), fun h => hrow ?_⟩
        obtain ⟨rest, rfl⟩ := List.head?_eq_some_iff.mp h
        exact ⟨[], rest, rfl⟩
      obtain ⟨parts, hparts, hall, hjoin⟩ := @ih [] rfl hcs.2 hlast' hrow' (.inr hrest)
      obtain ⟨part, parts, rfl⟩ := List.exists_cons_of_ne_nil hparts
      refine ⟨first :: part :: parts, List.cons_ne_nil _ _,
        List.forall_mem_cons.mpr ⟨⟨hne, hfirst⟩, hall⟩, ?_⟩
      rw [List.intercalate_cons_cons, ← hjoin, List.nil_append, List.append_assoc]
      rfl

/-- **A path is known by its points**: none stands at an end, and no two stand in a row. -/
theorem isPath_iff {name : List Char} : IsPath name ↔
    name ≠ [] ∧ name.all isNameChar = true ∧
      name.head? ≠ some '.' ∧ name.getLast? ≠ some '.' ∧ ¬ ['.', '.'] <:+: name := by
  constructor
  · rintro ⟨parts, hne, hparts, hname⟩
    have hpoint : ∀ p ∈ parts, '.' ∉ p := fun p hp hmem =>
      absurd (List.all_eq_true.mp (hparts p hp).2 _ hmem) (by decide)
    -- The parts are those between the points, so that no part between two points is empty.
    have hsplit : name.splitOn '.' = parts := hname ▸ List.splitOn_intercalate '.' hpoint hne
    have hnil : [] ∉ name.splitOn '.' := fun hmem => (hparts [] (hsplit ▸ hmem)).1 rfl
    refine ⟨?_, ?_, ?_, ?_, ?_⟩
    · rintro rfl
      exact hnil List.mem_cons_self
    · rw [List.all_eq_true]
      intro c hc
      by_cases hdot : c = '.'
      · exact isNameChar_iff.mpr (.inr hdot)
      · obtain ⟨piece, hpiece, hmem⟩ := exists_mem_splitOn hc hdot
        rw [hsplit] at hpiece
        exact isNameChar_iff.mpr (.inl (List.all_eq_true.mp (hparts piece hpiece).2 c hmem))
    · intro hhead
      obtain ⟨after, rfl⟩ := List.head?_eq_some_iff.mp hhead
      have hnil' : [] ∉ ([] ++ '.' :: after).splitOn '.' := hnil
      exact (ne_nil_of_nil_notMem_splitOn hnil').1 rfl
    · intro hlast
      obtain ⟨before, rfl⟩ := List.getLast?_eq_some_iff.mp hlast
      exact (ne_nil_of_nil_notMem_splitOn hnil).2.1 rfl
    · rintro ⟨before, after, rfl⟩
      rw [List.append_assoc] at hnil
      exact (ne_nil_of_nil_notMem_splitOn hnil).2.2 after rfl
  · rintro ⟨hne, hchars, hhead, hlast, hrow⟩
    exact @isPath_append [] name rfl hchars hlast hrow (.inr ⟨hne, hhead⟩)

/-! ### Words -/

/-- **What a word stands for.** What comes before the suffix of membership is not looked at. -/
inductive StandsFor (w : List Char) : List Token → Prop
  | includes (hw : w = includesWord) : StandsFor w [.includes]
  | membership {name : List Char} (hne : name ≠ []) (hw : w = name ++ includesWord) :
      StandsFor w [.operand (.ref (String.ofList name)), .includes]
  | truth (b : Bool) : StandsFor w [.operand (.truth b)]
  | ref (hhead : w.head? ≠ some '.') (hlast : w.getLast? ≠ some '.')
      (hrow : ¬ ['.', '.'] <:+: w) : StandsFor w [.operand (.ref (String.ofList w))]

theorem stripSuffix?_eq_some_iff {pat cs rest : List Char} :
    Text.stripSuffix? pat cs = some rest ↔ rest ++ pat = cs := by
  rw [Text.stripSuffix?, Option.map_eq_some_iff, ← List.reverse_inj, List.reverse_append]
  constructor
  · rintro ⟨tser, hprefix, rfl⟩
    rw [List.reverse_reverse]
    exact List.isPrefixOf?_eq_some_iff_append_eq.mp hprefix
  · intro h
    exact ⟨_, List.isPrefixOf?_eq_some_iff_append_eq.mpr h, List.reverse_reverse rest⟩

theorem standsFor_of_wordTokens {w : List Char} {ts : List Token} (h : wordTokens w = .ok ts) :
    StandsFor w ts := by
  -- The cases are tried in the order of the definition: what is left in the last one is a name.
  unfold wordTokens at h
  split at h
  · cases h
    exact .includes ‹_›
  next hincludes =>
  split at h
  · next name hname =>
    cases h
    have hw := stripSuffix?_eq_some_iff.mp hname
    refine .membership ?_ hw.symm
    rintro rfl
    exact hincludes hw.symm
  · split at h
    · cases h
      exact .truth true
    · split at h
      · cases h
        exact .truth false
      · split at h
        · cases h
        · next hpoints =>
          cases h
          simp only [decide_eq_true_eq, Bool.or_eq_true, not_or] at hpoints
          obtain ⟨⟨hhead, hlast⟩, hrow⟩ := hpoints
          exact .ref hhead hlast (mt Text.containsList_iff.mpr hrow)

/-- Before the suffix of membership any name is let through. -/
theorem wordTokens_append_includesWord {name : List Char} (hne : name ≠ []) :
    wordTokens (name ++ includesWord) =
      .ok [.operand (.ref (String.ofList name)), .includes] := by
  have hincludes : name ++ includesWord ≠ includesWord := fun heq =>
    hne (List.append_left_eq_self.mp heq)
  rw [wordTokens, if_neg hincludes, stripSuffix?_eq_some_iff.mpr rfl]

/-- A word that is no path is refused, unless it ends in the suffix of membership. -/
theorem wordTokens_of_not_isPath {w : List Char} (hne : w ≠ []) (hchars : w.all isNameChar = true)
    (hsuffix : ¬ includesWord <:+ w) (hpath : ¬ IsPath w) :
    wordTokens w = .error (.reference (String.ofList w)) := by
  have hincludes : w ≠ includesWord := fun heq => hsuffix (heq ▸ List.suffix_refl _)
  have htruth : ∀ b ∈ ["true", "false"], w ≠ b.toList := by
    rintro b hb rfl
    refine hpath (isPath_iff.mpr ?_)
    simp only [List.mem_cons, List.not_mem_nil, or_false] at hb
    rcases hb with rfl | rfl <;> decide
  have hpoints : (decide (w.head? = some '.') || decide (w.getLast? = some '.') ||
      hasDoublePoint w) = true := by
    by_contra hno
    simp only [decide_eq_true_eq, Bool.or_eq_true, not_or] at hno
    obtain ⟨⟨hhead, hlast⟩, hrow⟩ := hno
    exact hpath (isPath_iff.mpr ⟨hne, hchars, hhead, hlast, mt Text.containsList_iff.mpr hrow⟩)
  rw [wordTokens, if_neg hincludes, stripSuffix?_eq_none hsuffix]
  simp only [if_neg (htruth "true" (by decide)), if_neg (htruth "false" (by decide)), hpoints,
    if_true]

/-- **A word stands in a text**: steps lead to a place where the readers that come before that of
words find nothing, and from there the word goes on as far as it can. -/
inductive HasWord (w : List Char) : List Char → Prop
  | here {c : Char} {rest : List Char} (hc : IsPlain c) (hnumber : scanNumber (c :: rest) = none)
      (hoperator : scanOperator (c :: rest) = none) (hne : w ≠ [])
      (hword : (c :: rest).takeWhile isNameChar = w) : HasWord w (c :: rest)
  | later {c : Char} {rest more : List Char} {ts : List Token} (h : Reads c rest ts more)
      (hmore : HasWord w more) : HasWord w (c :: rest)

/-- A step reads one thing. -/
theorem Reads.unique {c : Char} {rest more more' : List Char} {ts ts' : List Token}
    (h : Reads c rest ts more) (h' : Reads c rest ts' more') : ts = ts' ∧ more = more' := by
  have hstep : step 0 c rest = .ok (ts, more) := step_eq_ok_iff.mpr h
  rw [step_eq_ok_iff.mpr h'] at hstep
  cases hstep
  exact ⟨rfl, rfl⟩

namespace HasWord

variable {w cs : List Char} {ts : List Token}

theorem ne_nil (h : HasWord w cs) : w ≠ [] := by
  induction h with
  | here hc hnumber hoperator hne hword => exact hne
  | later h hmore ih => exact ih

theorem all_isNameChar (h : HasWord w cs) : w.all isNameChar = true := by
  induction h with
  | here hc hnumber hoperator hne hword =>
    rw [← hword]
    exact List.all_takeWhile
  | later h hmore ih => exact ih

/-- What a word stands for is among the tokens of the text. -/
theorem tokens (h : HasWord w cs) (hcut : IsCut cs ts) :
    ∃ us, wordTokens w = .ok us ∧ us ⊆ ts := by
  -- On where the word stands. The text is cut in one way only, so that the cut gets there as well.
  induction h generalizing ts with
  | @here c rest hc hnumber hoperator hne hword =>
    cases hcut with
    | @step _ _ more us vs hreads hmore =>
      obtain ⟨hsep, hquote⟩ := isPlain_iff.mp hc
      have hstep : step 0 c rest = .ok (us, more) := step_eq_ok_iff.mpr hreads
      simp only [step, hsep, hquote, hnumber, hoperator, hword, List.isEmpty_iff, hne,
        Bool.false_eq_true, if_false] at hstep
      split at hstep
      · next hus =>
        cases hstep
        exact ⟨us, hus, List.subset_append_left _ _⟩
      · cases hstep
  | later h hmore ih =>
    cases hcut with
    | step hreads hcut =>
      obtain ⟨rfl, rfl⟩ := h.unique hreads
      obtain ⟨us, hus, hsub⟩ := ih hcut
      exact ⟨us, hus, List.subset_append_of_subset_right _ hsub⟩

/-- A word that stands for nothing is where the cut of the text fails. -/
theorem tokenizeFrom_eq_error (h : HasWord w cs) {f : Fault} (hw : wordTokens w = .error f)
    {total fuel : Nat} (hf : cs.length ≤ fuel) : tokenizeFrom total fuel cs = .error f := by
  -- On where the word stands; a step before it takes characters, and so leaves enough fuel.
  induction h generalizing fuel with
  | @here c rest hc hnumber hoperator hne hword =>
    obtain ⟨hsep, hquote⟩ := isPlain_iff.mp hc
    obtain ⟨fuel, rfl⟩ : ∃ n, fuel = n + 1 := ⟨fuel - 1, by rw [List.length_cons] at hf; omega⟩
    have hstep : step total c rest = .error f := by
      simp only [step, hsep, hquote, hnumber, hoperator, hword, hw, List.isEmpty_iff, hne,
        Bool.false_eq_true, if_false]
    rw [tokenizeFrom, hstep]
  | later h hmore ih =>
    have hle := h.length_le
    rw [List.length_cons] at hf
    obtain ⟨fuel, rfl⟩ : ∃ n, fuel = n + 1 := ⟨fuel - 1, by omega⟩
    rw [tokenizeFrom, step_eq_ok_iff.mpr h]
    simp only [@ih fuel (by omega)]

end HasWord

/-! ### The references of a text -/

/-- A numeral is no reference. -/
theorem scanNumber_ne_ref {cs more : List Char} {o : Operand}
    (h : scanNumber cs = some (.ok o, more)) (name : String) : o ≠ .ref name := by
  have hnumeral {negative : Bool} {cs more : List Char} {o : Operand}
      (h : scanNumeral negative cs = some (.ok o, more)) : o ≠ .ref name := by
    rintro rfl
    unfold scanNumeral at h
    dsimp only at h
    repeat' split at h
    all_goals simp at h
  unfold scanNumber at h
  split at h <;> exact hnumeral h

theorem scanOperator_ne_operand {cs more : List Char} {t : Token}
    (h : scanOperator cs = some (t, more)) (o : Operand) : t ≠ .operand o := by
  rintro rfl
  unfold scanOperator at h
  split at h <;> cases h

/-- Only words are read as references. -/
theorem Reads.ref_cases {c : Char} {rest more : List Char} {us before after : List Token}
    {name : String} (h : Reads c rest us more)
    (hus : us = before ++ .operand (.ref name) :: after) :
    IsPath name.toList ∨ after = [.includes] ∧ name.toList ≠ [] ∧
      HasWord (name.toList ++ includesWord) (c :: rest) := by
  have hmem : .operand (.ref name) ∈ us := hus ▸ List.mem_append_right _ List.mem_cons_self
  -- The other steps give tokens that are no references; of words, names and the suffix do.
  cases h with
  | separator hc => cases hmem
  | text hq htext => exact absurd (List.mem_singleton.mp hmem) (by simp)
  | number hc hnumber =>
    exact absurd (Token.operand.inj (List.mem_singleton.mp hmem)).symm
      (scanNumber_ne_ref hnumber name)
  | operator hc hnumber hoperator =>
    exact absurd (List.mem_singleton.mp hmem).symm (scanOperator_ne_operand hoperator _)
  | word hc hnumber hoperator hne hword =>
    have hchars : ((c :: rest).takeWhile isNameChar).all isNameChar = true := List.all_takeWhile
    generalize hw : (c :: rest).takeWhile isNameChar = w at hne hword hchars
    cases standsFor_of_wordTokens hword with
    | includes => exact absurd (List.mem_singleton.mp hmem) (by simp)
    | truth b => exact absurd (List.mem_singleton.mp hmem) (by simp)
    | ref hhead hlast hrow =>
      obtain rfl : name = String.ofList w := by simpa using hmem
      rw [String.toList_ofList]
      exact .inl (isPath_iff.mpr ⟨hne, hchars, hhead, hlast, hrow⟩)
    | @membership before' hname hsuffix =>
      obtain rfl : name = String.ofList before' := by simpa using hmem
      have hafter : before = [] ∧ after = [.includes] := by
        cases before with
        | nil => exact ⟨rfl, (List.cons.inj hus).2.symm⟩
        | cons t before =>
          have htail := (List.cons.inj hus).2
          exact absurd htail (by simp [List.cons_eq_append_iff])
      rw [String.toList_ofList]
      exact .inr ⟨hafter.2, hname, .here hc hnumber hoperator (hsuffix ▸ hne) (hw.trans hsuffix)⟩

/-- **Where the references of a text come from.** A reference is a path, or it stands before a test
for membership and the text has the word that is made of both. -/
theorem IsCut.ref_cases {cs : List Char} {ts before after : List Token} {name : String}
    (h : IsCut cs ts) (hts : ts = before ++ .operand (.ref name) :: after) :
    IsPath name.toList ∨ after.head? = some .includes ∧ name.toList ≠ [] ∧
      HasWord (name.toList ++ includesWord) cs := by
  -- By induction on the steps: the reference belongs to the first step or to the later ones.
  induction h generalizing before with
  | nil => exact absurd hts (by simp)
  | @step c rest more us vs hreads hmore ih =>
    have hlater (before : List Token) (hvs : vs = before ++ .operand (.ref name) :: after) :
        IsPath name.toList ∨ after.head? = some .includes ∧ name.toList ≠ [] ∧
          HasWord (name.toList ++ includesWord) (c :: rest) :=
      (ih hvs).imp id fun ⟨hhead, hne, hword⟩ => ⟨hhead, hne, .later hreads hword⟩
    rcases List.append_eq_append_iff.mp hts with ⟨as, -, hvs⟩ | ⟨bs, hus, hafter⟩
    · exact hlater _ hvs
    · cases bs with
      | nil => exact hlater [] hafter.symm
      | cons t bs =>
        obtain ⟨rfl, rfl⟩ := List.cons.inj hafter
        refine (hreads.ref_cases hus).imp id fun ⟨hbs, hne, hword⟩ => ⟨?_, hne, hword⟩
        rw [hbs]
        rfl

/-- **Which references are paths.** A text that is cut into tokens has paths for references exactly
if it has no word that ends in the suffix of membership and is no path before it; other references
are paths in any case. A word without that suffix that is no path makes the text no condition. -/
theorem references_are_paths_iff (s : String) :
    (∀ ts, tokenize s = .ok ts →
      ((∀ name, .operand (.ref name) ∈ ts → IsPath name.toList) ↔
        ∀ name, name ≠ [] → HasWord (name ++ includesWord) s.toList → IsPath name) ∧
      ∀ before name after, ts = before ++ .operand (.ref name) :: after →
        after.head? ≠ some .includes → IsPath name.toList) ∧
    ∀ w, HasWord w s.toList → ¬ includesWord <:+ w → ¬ IsPath w →
      tokenize s = .error (.reference (String.ofList w)) ∧ isValid s = false ∧
        ∀ answers, holds s answers = false := by
  refine ⟨fun ts hts => ?_, fun w hword hsuffix hpath => ?_⟩
  · have hcut := tokenize_eq_ok_iff.mp hts
    refine ⟨⟨fun hall name hne hword => ?_, fun hall name hmem => ?_⟩,
      fun before name after h hno => ?_⟩
    -- The word that ends in the suffix is read as a reference to what stands before it.
    · obtain ⟨us, hus, hsub⟩ := hword.tokens hcut
      rw [wordTokens_append_includesWord hne] at hus
      cases hus
      have hpath := hall _ (hsub List.mem_cons_self)
      rwa [String.toList_ofList] at hpath
    · obtain ⟨before, after, h⟩ := List.append_of_mem hmem
      exact (hcut.ref_cases h).elim id fun ⟨_, hne, hword⟩ => hall _ hne hword
    · exact (hcut.ref_cases h).resolve_right fun h => hno h.1
  · have hbad := wordTokens_of_not_isPath hword.ne_nil hword.all_isNameChar hsuffix hpath
    have herror : tokenize s = .error (.reference (String.ofList w)) :=
      hword.tokenizeFrom_eq_error hbad (Nat.le_refl _)
    have hparse : parse s = .error (.reference (String.ofList w)) := by
      rw [parse, herror]
      rfl
    refine ⟨herror, ?_, fun answers => ?_⟩
    · rw [isValid, hparse]
      rfl
    · rw [holds, hparse]

/-- A name with two points in a row is let through before the suffix of membership. -/
theorem doubled_point_is_let_through :
    let s := "a..b.includes('x')"
    tokenize s = .ok [.operand (.ref "a..b"), .includes, .openParen, .operand (.text "x"),
      .closeParen] ∧
    ¬ IsPath "a..b".toList ∧ isValid s = true ∧ holds s [("a..b", .arr [.str "x"])] = true := by
  refine ⟨rfl, fun h => ?_, rfl, rfl⟩
  exact (isPath_iff.mp h).2.2.2.2 ⟨['a'], ['b'], rfl⟩

/-! ### The answers that are read -/

/-- The answers that a token may read: a reference is looked up under its whole name, and under its
first part. -/
def Token.keys : Token → List String
  | .operand (.ref name) => [name, (segments name).headD ""]
  | _ => []

/-- The answers that a condition may read; none if it is not cut into tokens. -/
def keysOf (s : String) : List String :=
  match tokenize s with
  | .ok ts => ts.flatMap Token.keys
  | .error _ => []

/-- **Answers agree on keys**: each of them is answered alike, or not at all. -/
def AgreeOn (keys : List String) (a b : Answers) : Prop := ∀ k ∈ keys, a.lookup k = b.lookup k

variable {a b : Answers}

theorem AgreeOn.mono {keys keys' : List String} (h : AgreeOn keys a b) (hsub : keys' ⊆ keys) :
    AgreeOn keys' a b := fun k hk => h k (hsub hk)

theorem exists_segments_eq_cons (name : String) :
    ∃ part parts, segments name = part :: parts := by
  obtain ⟨piece, pieces, hsplit⟩ :=
    List.exists_cons_of_ne_nil (List.splitOn_ne_nil '.' name.toList)
  exact ⟨_, _, by rw [segments, Text.splitOnChar, hsplit, List.map_cons]⟩

/-- A reference is looked up under its keys alone. -/
theorem resolve_eq_of_agreeOn {o : Operand} (h : AgreeOn (Token.keys (.operand o)) a b) :
    resolve a o = resolve b o := by
  cases o with
  | ref name =>
    have hwhole : a.lookup name = b.lookup name := h _ List.mem_cons_self
    have hfirst : a.lookup ((segments name).headD "") = b.lookup ((segments name).headD "") :=
      h _ (List.mem_cons_of_mem _ List.mem_cons_self)
    obtain ⟨part, parts, hsegments⟩ := exists_segments_eq_cons name
    rw [hsegments, List.headD_cons] at hfirst
    have hwalk : walk (segments name) (.obj a) = walk (segments name) (.obj b) := by
      rw [hsegments, walk, walk, Json.get?, Json.get?, hfirst]
    rw [resolve, resolve, lookup, lookup, hwhole, hwalk]
  | text | int | float | truth => rfl

theorem evalClause_eq_of_agreeOn {c : Clause} (h : AgreeOn (c.tokens.flatMap Token.keys) a b) :
    evalClause a c = evalClause b c := by
  have hresolve {o : Operand} (ho : .operand o ∈ c.tokens) : resolve a o = resolve b o :=
    resolve_eq_of_agreeOn (h.mono fun _ hk => List.mem_flatMap.mpr ⟨_, ho, hk⟩)
  cases c with
  | truthy o => rw [evalClause, evalClause, hresolve (by simp [Clause.tokens])]
  | compare l op r =>
    rw [evalClause, evalClause, hresolve (o := l) (by simp [Clause.tokens]),
      hresolve (o := r) (by simp [Clause.tokens])]
  | includes c i =>
    rw [evalClause, evalClause, hresolve (o := c) (by simp [Clause.tokens]),
      hresolve (o := i) (by simp [Clause.tokens])]

theorem evalTree_eq_of_agreeOn {t : Tree} (h : AgreeOn (t.tokens.flatMap Token.keys) a b) :
    evalTree a t = evalTree b t := by
  induction t with
  | clause c => exact evalClause_eq_of_agreeOn h
  | join k l r ihl ihr =>
    have hl : AgreeOn (l.tokens.flatMap Token.keys) a b := by
      refine h.mono ?_
      rw [Tree.tokens, List.flatMap_append]
      exact List.subset_append_left _ _
    have hr : AgreeOn (r.tokens.flatMap Token.keys) a b := by
      refine h.mono ?_
      rw [Tree.tokens, List.flatMap_append, List.flatMap_cons]
      exact List.subset_append_of_subset_right _ (List.subset_append_right _ _)
    rw [evalTree, evalTree, ihl hl, ihr hr]

/-- **A condition reads no other answers than its references name.** -/
theorem holds_eq_of_agreeOn {s : String} (h : AgreeOn (keysOf s) a b) :
    holds s a = holds s b := by
  cases hparse : parse s with
  | error f => rw [holds, holds, hparse]
  | ok t =>
    have hcut := (parse_eq_ok_iff.mp hparse).2
    rw [keysOf, tokenize_eq_ok_iff.mpr hcut] at h
    rw [holds, holds, hparse]
    simp only [evalTree_eq_of_agreeOn h]

end StaticSite.Condition
