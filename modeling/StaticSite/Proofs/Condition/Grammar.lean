import StaticSite.Condition.Parser
import StaticSite.Proofs.Failure

/-!
# The grammar of conditions

The parser of conditions accepts the lists of tokens of a grammar, and no others. The grammar is
written here over lists of tokens, without trees:

* `IsClause` is a clause: an operand, a comparison of two operands, or the form that asks whether
  an operand includes another;
* `IsChain` is what follows the first clause: any number of connectives, each with a clause;
* `IsExpression` is a clause with a chain after it.

The trees that the parser builds nest to the left (`Tree.LeftNested`): the right side of a
connective is a single clause. Such a tree is its first clause, extended by the links of its chain
(`Tree.extend`), and the tokens of the chain are those of the links (`linkTokens`). Both directions
of the main result are stated about links:

* the parser reads `linkTokens links` after a tree `t` as `t.extend links`
  (`parseChain_linkTokens`);
* it reads nothing else (`exists_links_of_parseChain`).

The two meet in `parseTokens_eq_ok_iff`: the parser gives a tree exactly if the tree nests to the
left and its tokens, from left to right, are the input. Since a list of tokens has at most one
parse, it is the list of at most one tree that nests to the left.
-/

namespace StaticSite.Condition

/-! ### The grammar -/

/-- A clause of the grammar. -/
inductive IsClause : List Token → Prop where
  | operand (o : Operand) : IsClause [.operand o]
  | compare (left : Operand) (op : Operator) (right : Operand) :
      IsClause [.operand left, .compare op, .operand right]
  | includes (container item : Operand) :
      IsClause [.operand container, .includes, .openParen, .operand item, .closeParen]

/-- Any number of connectives, each with a clause after it. -/
inductive IsChain : List Token → Prop where
  | nil : IsChain []
  | cons (c : Connective) {us ts : List Token} (hu : IsClause us) (ht : IsChain ts) :
      IsChain (.connect c :: (us ++ ts))

/-- A clause with a chain after it. -/
inductive IsExpression : List Token → Prop where
  | mk {us ts : List Token} (hu : IsClause us) (ht : IsChain ts) : IsExpression (us ++ ts)

/-- **Nesting to the left.** The right side of every connective is a single clause. -/
inductive Tree.LeftNested : Tree → Prop where
  | clause (c : Clause) : LeftNested (.clause c)
  | join (k : Connective) {t : Tree} (ht : t.LeftNested) (c : Clause) :
      LeftNested (.join k t (.clause c))

/-! ### Chains of links -/

/-- The tokens of the links of a chain, each a connective and a clause. -/
def linkTokens : List (Connective × Clause) → List Token
  | [] => []
  | (k, c) :: links => .connect k :: (c.tokens ++ linkTokens links)

/-- A tree with links joined to it, one after the other. -/
def Tree.extend (t : Tree) (links : List (Connective × Clause)) : Tree :=
  links.foldl (fun t link => .join link.1 t (.clause link.2)) t

@[simp] theorem Tree.extend_nil (t : Tree) : t.extend [] = t := rfl

@[simp] theorem Tree.extend_cons (t : Tree) (k : Connective) (c : Clause)
    (links : List (Connective × Clause)) :
    t.extend ((k, c) :: links) = (Tree.join k t (.clause c)).extend links := rfl

theorem Tree.extend_concat (t : Tree) (links : List (Connective × Clause)) (k : Connective)
    (c : Clause) : t.extend (links ++ [(k, c)]) = .join k (t.extend links) (.clause c) := by
  unfold Tree.extend
  rw [List.foldl_append, List.foldl_cons, List.foldl_nil]

theorem Tree.tokens_extend (t : Tree) (links : List (Connective × Clause)) :
    (t.extend links).tokens = t.tokens ++ linkTokens links := by
  induction links generalizing t with
  | nil => rw [extend_nil, linkTokens, List.append_nil]
  | cons link links ih =>
    obtain ⟨k, c⟩ := link
    rw [extend_cons, ih, Tree.tokens, Tree.tokens, linkTokens, List.append_assoc,
      List.cons_append]

theorem Tree.LeftNested.extend {t : Tree} (ht : t.LeftNested)
    (links : List (Connective × Clause)) : (t.extend links).LeftNested := by
  induction links generalizing t with
  | nil => exact ht
  | cons link links ih => exact ih (.join link.1 ht link.2)

/-- A tree that nests to the left is its first clause, extended by links. -/
theorem Tree.LeftNested.exists_links {t : Tree} (ht : t.LeftNested) :
    ∃ c links, t = (Tree.clause c).extend links := by
  induction ht with
  | clause c => exact ⟨c, [], rfl⟩
  | join k _ c ih =>
    obtain ⟨first, links, rfl⟩ := ih
    exact ⟨first, links ++ [(k, c)], (Tree.extend_concat ..).symm⟩

/-! ### The grammar describes the trees that nest to the left -/

theorem isClause_iff {ts : List Token} : IsClause ts ↔ ∃ c : Clause, c.tokens = ts := by
  constructor
  · rintro (o | ⟨l, op, r⟩ | ⟨c, i⟩)
    · exact ⟨.truthy o, rfl⟩
    · exact ⟨.compare l op r, rfl⟩
    · exact ⟨.includes c i, rfl⟩
  · rintro ⟨o | ⟨l, op, r⟩ | ⟨c, i⟩, rfl⟩
    · exact .operand o
    · exact .compare l op r
    · exact .includes c i

theorem isChain_iff {ts : List Token} : IsChain ts ↔ ∃ links, linkTokens links = ts := by
  constructor
  · intro h
    induction h with
    | nil => exact ⟨[], rfl⟩
    | cons k hu _ ih =>
      obtain ⟨c, rfl⟩ := isClause_iff.mp hu
      obtain ⟨links, rfl⟩ := ih
      exact ⟨(k, c) :: links, rfl⟩
  · rintro ⟨links, rfl⟩
    induction links with
    | nil => exact .nil
    | cons link links ih => exact .cons link.1 (isClause_iff.mpr ⟨link.2, rfl⟩) ih

/-- The expressions of the grammar are the token lists of the trees that nest to the left. -/
theorem isExpression_iff {ts : List Token} :
    IsExpression ts ↔ ∃ t : Tree, t.LeftNested ∧ t.tokens = ts := by
  constructor
  · rintro ⟨hu, ht⟩
    obtain ⟨c, rfl⟩ := isClause_iff.mp hu
    obtain ⟨links, rfl⟩ := isChain_iff.mp ht
    exact ⟨_, (Tree.LeftNested.clause c).extend links, Tree.tokens_extend ..⟩
  · rintro ⟨t, ht, rfl⟩
    obtain ⟨c, links, rfl⟩ := ht.exists_links
    rw [Tree.tokens_extend]
    exact .mk (isClause_iff.mpr ⟨c, rfl⟩) (isChain_iff.mpr ⟨links, rfl⟩)

theorem not_isExpression_nil : ¬ IsExpression [] := by
  intro h
  obtain ⟨t, ht, hts⟩ := isExpression_iff.mp h
  obtain ⟨c, links, rfl⟩ := ht.exists_links
  rw [Tree.tokens_extend, Tree.tokens] at hts
  cases c <;> exact absurd hts (List.cons_ne_nil _ _)

/-! ### Every expression is read -/

/-- A clause is read to its end. What follows must not continue an operand, and a chain of links
begins with a connective if it is not empty. -/
theorem parseClause_tokens_append (c : Clause) (links : List (Connective × Clause)) :
    parseClause (c.tokens ++ linkTokens links) = .ok (c, linkTokens links) := by
  cases c with
  | truthy o => cases links <;> rfl
  | compare l op r => rfl
  | includes c i => rfl

theorem parseChain_linkTokens (links : List (Connective × Clause)) (t : Tree) (fuel : Nat)
    (hf : (linkTokens links).length ≤ fuel) :
    parseChain fuel t (linkTokens links) = .ok (t.extend links) := by
  induction links generalizing t fuel with
  | nil => cases fuel <;> rfl
  | cons link links ih =>
    obtain ⟨k, c⟩ := link
    -- A link takes at least one token, and so at most as much fuel as it has tokens.
    rw [linkTokens, List.length_cons, List.length_append] at hf
    obtain ⟨fuel, rfl⟩ : ∃ n, fuel = n + 1 := ⟨fuel - 1, by omega⟩
    rw [linkTokens, parseChain, parseClause_tokens_append]
    exact ih _ fuel (by omega)

/-- A tree that nests to the left is read off its own tokens. -/
theorem parseTokens_tokens {t : Tree} (ht : t.LeftNested) : parseTokens t.tokens = .ok t := by
  obtain ⟨c, links, rfl⟩ := ht.exists_links
  have hne : ((Tree.clause c).extend links).tokens.isEmpty = false := by
    rw [Tree.tokens_extend]
    cases c <;> rfl
  rw [parseTokens, hne, Tree.tokens_extend, Tree.tokens, if_neg Bool.false_ne_true,
    parseClause_tokens_append]
  exact parseChain_linkTokens links _ _ (Nat.le_refl _)

/-! ### Nothing else is read -/

theorem eq_of_parseOperand {ts rest : List Token} {o : Operand}
    (h : parseOperand ts = .ok (o, rest)) : ts = .operand o :: rest := by
  unfold parseOperand at h
  split at h
  · cases h
  · cases h; rfl
  · cases h

theorem eq_of_expect {t : Token} {kind : String} {ts rest : List Token}
    (h : expect t kind ts = .ok rest) : ts = t :: rest := by
  unfold expect at h
  split at h
  · cases h
  · split at h
    · next hu => cases h; rw [hu]
    · cases h

theorem eq_of_parseClause {ts rest : List Token} {c : Clause}
    (h : parseClause ts = .ok (c, rest)) : ts = c.tokens ++ rest := by
  unfold parseClause at h
  obtain ⟨⟨left, more⟩, ho, h⟩ := exists_of_bind_eq_ok h
  rw [eq_of_parseOperand ho]
  simp only at h
  -- The token behind the first operand decides which clause it is.
  split at h
  · cases h; rfl
  · cases h; rfl
  · next more _ =>
    obtain ⟨more₁, hopen, h⟩ := exists_of_bind_eq_ok h
    obtain ⟨⟨item, more₂⟩, hitem, h⟩ := exists_of_bind_eq_ok h
    obtain ⟨more₃, hclose, h⟩ := exists_of_bind_eq_ok h
    have hmore₂ : more₂ = .closeParen :: more₃ := eq_of_expect hclose
    rw [eq_of_expect hopen, eq_of_parseOperand hitem, hmore₂]
    cases h; rfl
  · next op more _ =>
    obtain ⟨⟨right, more₁⟩, hright, h⟩ := exists_of_bind_eq_ok h
    rw [eq_of_parseOperand hright]
    cases h; rfl
  · cases h

/-- Whatever a chain is read from, it is the tokens of links, and the links extend the tree. -/
theorem exists_links_of_parseChain {fuel : Nat} {ts : List Token} {t u : Tree}
    (hf : ts.length ≤ fuel) (h : parseChain fuel t ts = .ok u) :
    ∃ links, ts = linkTokens links ∧ u = t.extend links := by
  induction fuel generalizing t ts with
  | zero =>
    -- Without fuel the parser gives the tree and drops what is left, which is nothing.
    obtain rfl : ts = [] := List.eq_nil_of_length_eq_zero (Nat.le_zero.mp hf)
    cases h
    exact ⟨[], rfl, rfl⟩
  | succ fuel ih =>
    cases ts with
    | nil =>
      cases h
      exact ⟨[], rfl, rfl⟩
    | cons token rest =>
      cases token with
      | connect k =>
        obtain ⟨⟨c, more⟩, hc, h⟩ := exists_of_bind_eq_ok h
        have hrest := eq_of_parseClause hc
        rw [List.length_cons, hrest, List.length_append] at hf
        obtain ⟨links, hmore, hu⟩ := ih (by omega) h
        exact ⟨(k, c) :: links, by rw [linkTokens, hrest, hmore], hu⟩
      | operand | compare | includes | openParen | closeParen => cases h

/-- **The parser and the trees.** A list of tokens is read as a tree exactly if the tree nests to
the left and its tokens are the list. -/
theorem parseTokens_eq_ok_iff {ts : List Token} {t : Tree} :
    parseTokens ts = .ok t ↔ t.LeftNested ∧ t.tokens = ts := by
  constructor
  · intro h
    unfold parseTokens at h
    split at h
    · cases h
    · obtain ⟨⟨c, rest⟩, hc, h⟩ := exists_of_bind_eq_ok h
      obtain ⟨links, hrest, rfl⟩ := exists_links_of_parseChain (Nat.le_refl _) h
      refine ⟨(Tree.LeftNested.clause c).extend links, ?_⟩
      rw [Tree.tokens_extend, eq_of_parseClause hc, hrest, Tree.tokens]
  · rintro ⟨ht, rfl⟩
    exact parseTokens_tokens ht

/-- Two trees that nest to the left and have the same tokens are the same. -/
theorem Tree.LeftNested.eq_of_tokens_eq {t u : Tree} (ht : t.LeftNested) (hu : u.LeftNested)
    (h : t.tokens = u.tokens) : t = u := by
  -- Both are what the parser makes of these tokens.
  have hok : parseTokens u.tokens = .ok t := h ▸ parseTokens_tokens ht
  rw [parseTokens_tokens hu] at hok
  exact (Except.ok.inj hok).symm

/-- **The parser decides the grammar.** A list of tokens is read as a condition exactly if it is
not empty and an expression of the grammar. The tree is then the only one that nests to the left
and has the list for its tokens: none is dropped, moved or bound otherwise. -/
theorem parseTokens_decides_grammar (ts : List Token) :
    ((∃ t, parseTokens ts = .ok t) ↔ ts ≠ [] ∧ IsExpression ts) ∧
      ∀ t, parseTokens ts = .ok t →
        t.LeftNested ∧ t.tokens = ts ∧ ∀ u : Tree, u.LeftNested → u.tokens = ts → u = t := by
  refine ⟨⟨?_, ?_⟩, ?_⟩
  · rintro ⟨t, ht⟩
    have hexp : IsExpression ts := isExpression_iff.mpr ⟨t, parseTokens_eq_ok_iff.mp ht⟩
    refine ⟨?_, hexp⟩
    rintro rfl
    exact not_isExpression_nil hexp
  · rintro ⟨-, hexp⟩
    obtain ⟨t, ht⟩ := isExpression_iff.mp hexp
    exact ⟨t, parseTokens_eq_ok_iff.mpr ht⟩
  -- The tree nests to the left, and its tokens leave no choice about which one it is.
  · intro t h
    obtain ⟨ht, hts⟩ := parseTokens_eq_ok_iff.mp h
    exact ⟨ht, hts, fun u hu hus => hu.eq_of_tokens_eq ht (hus.trans hts.symm)⟩

/-- The three clauses of `a || b.includes('x') && 3 <= c` are bound from the left, and no other tree
that nests to the left has these tokens. -/
theorem parseTokens_decides_grammar_three_clauses :
    let member : Clause := .includes (.ref "b") (.text "x")
    let bound : Clause := .compare (.int 3) .le (.ref "c")
    let tree : Tree :=
      .join .all (.join .any (.clause (.truthy (.ref "a"))) (.clause member)) (.clause bound)
    let tokens : List Token :=
      [.operand (.ref "a"), .connect .any, .operand (.ref "b"), .includes, .openParen,
       .operand (.text "x"), .closeParen, .connect .all, .operand (.int 3), .compare .le,
       .operand (.ref "c")]
    parseTokens tokens = .ok tree ∧ tree.LeftNested ∧ tree.tokens = tokens ∧
      ∀ u : Tree, u.LeftNested → u.tokens = tokens → u = tree :=
  ⟨rfl, (parseTokens_decides_grammar _).2 _ rfl⟩

end StaticSite.Condition
