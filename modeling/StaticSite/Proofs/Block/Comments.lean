import Mathlib.Data.List.Chain
import StaticSite.Block.Render
import StaticSite.Proofs.Html.Brackets
import StaticSite.Proofs.Page.Places

/-!
# Comments in the place of blocks

A block of an unknown type, and one that cannot be rendered, leave a comment with the name of their
type. A comment ends at the first two hyphens with a bracket behind them, and what stands behind two
hyphens is read in ways that differ from reader to reader. So between its ends a comment should hold
neither (`IsComment`).

From the name all pairs of hyphens are removed. What stood on both sides of a pair is joined by
this, and yet no new pair arises (`apart_replaceList`): of a run of hyphens the pairs are taken from
the left, so at most its last hyphen is left, and next to it stands another character. Escaping
writes no hyphens of its own (`apart_flatMap`), and leaves no bracket.
-/

namespace StaticSite

namespace Text

variable {c : Char} {cs : List Char}

/-- Whether no two characters equal to `c` stand side by side. -/
def Apart (c : Char) (cs : List Char) : Prop := cs.IsChain fun a b => ¬ (a = c ∧ b = c)

instance : Decidable (Apart c cs) := inferInstanceAs (Decidable (cs.IsChain _))

theorem apart_iff : Apart c cs ↔ ¬ [c, c] <:+: cs := by
  rw [Apart, List.isChain_iff_forall_rel_of_append_cons_cons]
  constructor
  · rintro h ⟨before, after, hcs⟩
    have hsplit : cs = before ++ c :: c :: after := by
      rw [← hcs, List.append_assoc, List.cons_append, List.singleton_append]
    exact h hsplit ⟨rfl, rfl⟩
  · rintro h a b before after hcs ⟨rfl, rfl⟩
    exact h ⟨before, after, by rw [hcs, List.append_assoc, List.cons_append, List.singleton_append]⟩

theorem Apart.cons {d : Char} (h : Apart c cs) (hd : d = c → cs.head? ≠ some c) :
    Apart c (d :: cs) :=
  List.isChain_cons.mpr ⟨fun _ he hboth => hd hboth.1 (hboth.2 ▸ he), h⟩

/-- **Where pairs are removed, none is left.** -/
theorem apart_replaceList (c : Char) (cs : List Char) : Apart c (replaceList [c, c] [] cs) := by
  show Apart c (replaceFrom c [c] [] 0 cs)
  match cs with
  | [] => exact List.isChain_nil
  | [d] =>
    have hsingle : replaceFrom c [c] [] 0 [d] = [d] := by simp [replaceFrom]
    rw [hsingle]
    exact List.isChain_singleton d
  | d :: e :: rest =>
    rw [replaceFrom]
    split
    · -- Behind the pair the text begins anew.
      exact apart_replaceList c rest
    · next hpair =>
      refine (apart_replaceList c (e :: rest)).cons fun hd => ?_
      -- A single character `c` is followed by another one, which stays.
      have he : e ≠ c := fun he => hpair (by simp [hd, he])
      have hstays : replaceList [c, c] [] (e :: rest) = e :: replaceFrom c [c] [] 0 rest := by
        have hno : [c, c].isPrefixOf (e :: rest) = false := by
          rw [List.isPrefixOf, beq_false_of_ne he.symm, Bool.false_and]
        rw [replaceList, replaceFrom, hno, if_neg Bool.false_ne_true]
      rw [hstays]
      exact fun hhead => he (Option.some.inj hhead)
termination_by cs.length

/-- No pair arises where each character is replaced by some that hold `c` only in place of `c`. -/
theorem apart_flatMap {f : Char → List Char} (hself : f c = [c]) (hother : ∀ d, d ≠ c → c ∉ f d)
    (hne : ∀ d, f d ≠ []) (h : Apart c cs) : Apart c (cs.flatMap f) := by
  induction cs with
  | nil => exact List.isChain_nil
  | cons d cs ih =>
    -- What is put in place of a character is not empty, so that `c` begins the rest only where it
    -- did before.
    have hhead : (cs.flatMap f).head? = some c → cs.head? = some c := by
      cases cs with
      | nil => exact nofun
      | cons e cs =>
        rw [List.flatMap_cons, List.head?_append_of_ne_nil _ (hne e)]
        intro he
        by_contra hec
        exact hother e (fun h => hec (congrArg some h)) (List.mem_of_mem_head? he)
    rw [List.flatMap_cons]
    by_cases hd : d = c
    · rw [hd, hself, List.singleton_append]
      exact (ih h.tail).cons fun _ hc => (List.isChain_cons.mp h).1 c (hhead hc) ⟨hd, rfl⟩
    · refine List.IsChain.append ?_ (ih h.tail) fun a ha b _ hboth => ?_
      · refine apart_iff.mpr fun hpair => hother d hd ?_
        exact hpair.subset List.mem_cons_self
      · exact hother d hd (hboth.1 ▸ List.mem_of_mem_getLast? ha)

end Text

/-- Whether a text is one comment: between its ends stand neither two hyphens side by side nor a
bracket. -/
def IsComment (text : List Char) : Prop :=
  ∃ inner, text = "<!--".toList ++ inner ++ "-->".toList ∧ ¬ "--".toList <:+: inner ∧
    '<' ∉ inner ∧ '>' ∉ inner

namespace Block

/-- The name of a type is written without pairs of hyphens. -/
theorem apart_esc_commentName (type : String) :
    Text.Apart '-' (esc (commentName type)).text.toList := by
  have hname : Text.Apart '-' (commentName type).toList := by
    rw [commentName, Text.replaceAll, String.toList_ofList]
    exact Text.apart_replaceList '-' type.toList
  show Text.Apart '-' (String.ofList ((commentName type).toList.flatMap Markup.escapeChar)).toList
  rw [String.toList_ofList]
  refine Text.apart_flatMap rfl (fun d hd => ?_) (fun d => ?_) hname
  · unfold Markup.escapeChar
    repeat' split
    all_goals simp [hd.symm]
  · unfold Markup.escapeChar
    repeat' split
    all_goals exact List.cons_ne_nil _ _

/-- **A comment with the name of a type is one comment**, whatever the name. -/
theorem isComment_comment {reason : String} (hpairs : Text.Apart '-' reason.toList)
    (hless : '<' ∉ reason.toList) (hgreater : '>' ∉ reason.toList) (type : String) :
    IsComment (comment reason type).text.toList := by
  have hreason (c : Char) (hc : c ∈ ['<', '>']) : c ∉ reason.toList := by
    rcases List.mem_pair.mp hc with rfl | rfl
    · exact hless
    · exact hgreater
  have hesc (c : Char) (hc : c ∈ ['<', '>']) : c ∉ (esc (commentName type)).text.toList :=
    Markup.notMem_toList_esc _ (List.mem_append_left ['"'] hc)
  -- Blanks set the reason and the name apart from what stands next to them.
  have hblank (cs : List Char) (h : Text.Apart '-' cs) : Text.Apart '-' (' ' :: cs) :=
    h.cons fun hc => absurd hc (by decide)
  have hname : Text.Apart '-' ((esc (commentName type)).text.toList ++ [' ']) :=
    (apart_esc_commentName type).append (List.isChain_singleton ' ') fun _ _ _ hb hboth =>
      absurd (Option.some.inj hb |>.trans hboth.2) (by decide)
  have hinner : Text.Apart '-' (' ' :: (reason.toList ++
      ':' :: ' ' :: ((esc (commentName type)).text.toList ++ [' ']))) :=
    hblank _ (hpairs.append ((hblank _ hname).cons fun hc => absurd hc (by decide))
      fun _ _ _ hb hboth => absurd (Option.some.inj hb |>.trans hboth.2) (by decide))
  have hfree (c : Char) (hc : c ∈ ['<', '>']) : c ∉ ' ' :: (reason.toList ++
      ':' :: ' ' :: ((esc (commentName type)).text.toList ++ [' '])) := by
    simp only [List.mem_cons, List.mem_append, List.not_mem_nil, or_false, not_or]
    have hother : c ≠ ' ' ∧ c ≠ ':' := by
      rcases List.mem_pair.mp hc with rfl | rfl <;> decide
    exact ⟨hother.1, hreason c hc, hother.2, hother.1, hesc c hc, hother.1⟩
  refine ⟨_, ?_, Text.apart_iff.mp hinner, hfree '<' (by decide), hfree '>' (by decide)⟩
  simp [comment, Markup.toList_append, html]

/-- **No type breaks out of its comment**: a block whose type is unknown, or whose content cannot be
rendered, is one comment. -/
theorem unshown_is_comment (b : Block) (ctx : BlockContext)
    (h : ∀ kind, BlockKind.named? b.type = some kind → ∃ e, kind.render b ctx = .error e) :
    IsComment (b.markup ctx).text.toList := by
  unfold markup
  cases hkind : BlockKind.named? b.type with
  | none => exact isComment_comment (by decide) (by decide) (by decide) b.type
  | some kind =>
    obtain ⟨e, he⟩ := h kind hkind
    simp only [he]
    exact isComment_comment (by decide) (by decide) (by decide) b.type

/-- A block of a type that is written like the end of a comment. -/
def strayBlock : Block where
  id := "b1"
  type := "---><script>alert(1)</script>"
  variant := none
  content := []
  config := []

theorem strayBlock_is_comment :
    BlockKind.named? strayBlock.type = none ∧
      IsComment (strayBlock.markup plainContext).text.toList := by
  have hunknown : BlockKind.named? strayBlock.type = none := by decide
  exact ⟨hunknown, unshown_is_comment strayBlock plainContext fun kind hkind => by
    rw [hunknown] at hkind
    cases hkind⟩

end Block

end StaticSite
