import StaticSite.Condition.Eval
import StaticSite.Proofs.Condition.Cut
import StaticSite.Proofs.Condition.Grammar

/-!
# Conditions that are put together

A condition may be written by joining the texts of others. What it says is what its parts say: a
text `e`, joined by a connective to the text `c` of a single clause, is read as the tree of `e` with
that clause joined to it (`parse_joinTexts`). For the tokens of the text are those of its parts, and
the tree of a condition is known from its tokens (`parse_eq_ok_iff`).

`HasOutcome` says that a text is a condition whose evaluation ends with a truth value. A chain of
clauses then has the outcome that follows from those of its clauses, taken from the left, with no
connective before another (`HasOutcome.chain`).
-/

namespace StaticSite.Condition

/-! ### Texts of conditions -/

/-- **A text is read as a tree** exactly if the tree nests to the left and the text is cut into its
tokens. -/
theorem parse_eq_ok_iff {s : String} {t : Tree} :
    parse s = .ok t ↔ t.LeftNested ∧ IsCut s.toList t.tokens := by
  unfold parse
  constructor
  · intro h
    obtain ⟨ts, hts, h⟩ := exists_of_bind_eq_ok h
    obtain ⟨ht, rfl⟩ := parseTokens_eq_ok_iff.mp h
    exact ⟨ht, tokenize_eq_ok_iff.mp hts⟩
  · rintro ⟨ht, hcut⟩
    rw [tokenize_eq_ok_iff.mpr hcut]
    exact parseTokens_tokens ht

theorem isValid_iff {s : String} : isValid s = true ↔ ∃ t, parse s = .ok t := by
  unfold isValid
  cases parse s with
  | error f => exact ⟨fun h => (nomatch h), fun ⟨_, h⟩ => (nomatch h)⟩
  | ok t => exact ⟨fun _ => ⟨t, rfl⟩, fun _ => rfl⟩

/-- The text of a condition that is made of two with a connective between them. -/
def Connective.joinTexts (k : Connective) (e c : String) : String :=
  e ++ " " ++ k.symbol ++ " " ++ c

/-- **A clause that is written behind a condition is joined to its tree.** -/
theorem parse_joinTexts {e c : String} {t : Tree} {clause : Clause} (he : parse e = .ok t)
    (hc : parse c = .ok (.clause clause)) (k : Connective) :
    parse (k.joinTexts e c) = .ok (.join k t (.clause clause)) := by
  obtain ⟨ht, hecut⟩ := parse_eq_ok_iff.mp he
  obtain ⟨-, hccut⟩ := parse_eq_ok_iff.mp hc
  refine parse_eq_ok_iff.mpr ⟨.join k ht clause, ?_⟩
  have hcut := (hecut.spaced (isCut_symbol k)).spaced hccut
  have hblank : (" ").toList = [' '] := rfl
  simp only [Connective.joinTexts, String.toList_append, hblank]
  simpa [Tree.tokens] using hcut

/-! ### Outcomes -/

/-- What a connective makes of two truth values. -/
def Connective.apply : Connective → Bool → Bool → Bool
  | .all, a, b => a && b
  | .any, a, b => a || b

/-- **A text is a condition with an outcome**: its evaluation does not fail. -/
def HasOutcome (answers : Answers) (s : String) (b : Bool) : Prop :=
  ∃ t, parse s = .ok t ∧ evalTree answers t = .ok b

/-- The evaluation of a text does not fail, if the text is a condition. -/
def NeverFails (answers : Answers) (s : String) : Prop :=
  ∀ t, parse s = .ok t → ∃ b, evalTree answers t = .ok b

/-- A text is a condition of a single clause. -/
def IsSingle (s : String) : Prop := ∃ clause, parse s = .ok (.clause clause)

variable {answers : Answers} {e c : String} {a b : Bool}

theorem holds_eq_of_hasOutcome (h : HasOutcome answers e b) : holds e answers = b := by
  obtain ⟨t, ht, hb⟩ := h
  rw [holds, ht]
  simp only [hb]

/-- A condition whose evaluation does not fail has the outcome that it holds or not. -/
theorem hasOutcome_holds (he : isValid e = true) (h : NeverFails answers e) :
    HasOutcome answers e (holds e answers) := by
  obtain ⟨t, ht⟩ := isValid_iff.mp he
  obtain ⟨b, hb⟩ := h t ht
  have houtcome : HasOutcome answers e b := ⟨t, ht, hb⟩
  rwa [holds_eq_of_hasOutcome houtcome]

theorem IsSingle.isValid (h : IsSingle e) : isValid e = true :=
  isValid_iff.mpr (h.imp' Tree.clause fun _ => id)

/-- **The outcome of a condition with a clause joined to it** follows from the two outcomes. -/
theorem HasOutcome.joinTexts (he : HasOutcome answers e a) (hsingle : IsSingle c)
    (hc : HasOutcome answers c b) (k : Connective) :
    HasOutcome answers (k.joinTexts e c) (k.apply a b) := by
  obtain ⟨t, ht, ha⟩ := he
  obtain ⟨clause, hclause⟩ := hsingle
  obtain ⟨u, hu, hb⟩ := hc
  obtain rfl : Tree.clause clause = u := Except.ok.inj (hclause.symm.trans hu)
  refine ⟨_, parse_joinTexts ht hclause k, ?_⟩
  rw [evalTree, ha, hb]
  cases k <;> rfl

/-! ### Chains -/

/-- The text of a condition with further clauses behind it, each after a connective. -/
def chainText (e : String) (links : List (Connective × String)) : String :=
  links.foldl (fun text link => link.1.joinTexts text link.2) e

/-- The outcome of a chain, taken from the left: `b` is that of the part that was read already. -/
def chainOutcome (answers : Answers) (b : Bool) (links : List (Connective × String)) : Bool :=
  links.foldl (fun b link => link.1.apply b (holds link.2 answers)) b

/-- **A chain has the outcome that follows from its parts**, one after the other. -/
theorem HasOutcome.chain {links : List (Connective × String)} (he : HasOutcome answers e b)
    (hlinks : ∀ link ∈ links, IsSingle link.2 ∧ NeverFails answers link.2) :
    HasOutcome answers (chainText e links) (chainOutcome answers b links) := by
  induction links generalizing e b with
  | nil => exact he
  | cons link links ih =>
    rw [List.forall_mem_cons] at hlinks
    obtain ⟨⟨hsingle, hfails⟩, hlinks⟩ := hlinks
    exact ih (he.joinTexts hsingle (hasOutcome_holds hsingle.isValid hfails) link.1) hlinks

/-- **Conditions mean what their parts mean.** To a condition whose evaluation does not fail, a
condition of a single clause may be joined, if its evaluation does not fail either: with `&&` the
result holds if both do, and with `||` if one does. So a chain of clauses is evaluated from the
left, and its connectives bind equally strongly. -/
theorem evaluation_is_compositional (he : isValid e = true) (hfails : NeverFails answers e) :
    (∀ c, IsSingle c → NeverFails answers c →
      holds (e ++ " && " ++ c) answers = (holds e answers && holds c answers) ∧
        holds (e ++ " || " ++ c) answers = (holds e answers || holds c answers)) ∧
    ∀ links : List (Connective × String),
      (∀ link ∈ links, IsSingle link.2 ∧ NeverFails answers link.2) →
        holds (chainText e links) answers = chainOutcome answers (holds e answers) links := by
  have hchain (links : List (Connective × String))
      (hlinks : ∀ link ∈ links, IsSingle link.2 ∧ NeverFails answers link.2) :
      holds (chainText e links) answers = chainOutcome answers (holds e answers) links :=
    holds_eq_of_hasOutcome ((hasOutcome_holds he hfails).chain hlinks)
  refine ⟨fun c hsingle hc => ?_, hchain⟩
  -- A single clause is a chain of one link.
  have hlink (k : Connective) : holds (k.joinTexts e c) answers =
      k.apply (holds e answers) (holds c answers) :=
    hchain [(k, c)] (List.forall_mem_singleton.mpr ⟨hsingle, hc⟩)
  have htext (k : Connective) : k.joinTexts e c = e ++ (" " ++ k.symbol ++ " ") ++ c := by
    simp only [Connective.joinTexts, String.append_assoc]
  rw [← show Connective.all.joinTexts e c = e ++ " && " ++ c from htext .all,
    ← show Connective.any.joinTexts e c = e ++ " || " ++ c from htext .any]
  exact ⟨hlink .all, hlink .any⟩

/-- Of `a || b && n >= 2` the last clause decides, although `a` holds. -/
theorem last_link_decides :
    let answers : Answers := [("a", .bool true), ("n", .int 1)]
    let links : List (Connective × String) := [(.any, "b"), (.all, "n >= 2")]
    chainText "a" links = "a || b && n >= 2" ∧
      holds "a" answers = true ∧ holds "a || b" answers = true ∧
        holds (chainText "a" links) answers = false := by
  intro answers links
  have ha : parse "a" = .ok (.clause (.truthy (.ref "a"))) := rfl
  have hb : parse "b" = .ok (.clause (.truthy (.ref "b"))) := rfl
  have hn : parse "n >= 2" = .ok (.clause (.compare (.ref "n") .ge (.int 2))) := rfl
  -- No evaluation fails: the answers are a truth value, nothing, and a small number.
  have hfails {s : String} {t : Tree} {b : Bool} (hs : parse s = .ok t)
      (hb : evalTree answers t = .ok b) : NeverFails answers s := by
    intro u hu
    obtain rfl : t = u := Except.ok.inj (hs.symm.trans hu)
    exact ⟨b, hb⟩
  have hafails : NeverFails answers "a" := hfails ha (b := true) rfl
  have hbfails : NeverFails answers "b" := hfails hb (b := false) rfl
  have hnfails : NeverFails answers "n >= 2" := hfails hn (b := false) rfl
  have hlinks : ∀ link ∈ links, IsSingle link.2 ∧ NeverFails answers link.2 := by
    simp only [links, List.forall_mem_cons, List.not_mem_nil, false_imp_iff, implies_true, and_true]
    exact ⟨⟨⟨_, hb⟩, hbfails⟩, ⟨_, hn⟩, hnfails⟩
  obtain ⟨hpair, hchain⟩ := evaluation_is_compositional (isValid_iff.mpr ⟨_, ha⟩) hafails
  have hholds : holds "a" answers = true := by decide +kernel
  refine ⟨by decide +kernel, hholds, ?_, ?_⟩
  · rw [show "a || b" = "a" ++ " || " ++ "b" from rfl, (hpair "b" ⟨_, hb⟩ hbfails).2, hholds]
    rfl
  · rw [hchain links hlinks, hholds]
    decide +kernel

end StaticSite.Condition
