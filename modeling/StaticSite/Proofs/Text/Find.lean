import Mathlib.Data.List.Basic
import StaticSite.Text.Blank
import StaticSite.Text.Find

/-!
# What a search finds and a cut removes

A pattern is found in a text exactly if the text holds it (`containsList_iff`). What is replaced
consists of what was there and of the replacement (`mem_of_mem_replaceList`), and a text without the
first character of the pattern stays as it is (`replaceList_eq_self`). What is cut off at the end of
a text belongs to the class that is cut off (`exists_eq_dropRightWhile_append`), and all of that
class behind the other characters is cut off (`stripChars_append`).

Some steps read a text from the left and take runs of characters out of it, each run as soon as it
begins. `stretches` lists what such a step meets, in order: the characters that stay, one by one,
and the runs that it takes out. So the text is what they were made of (`flatMap_source_stretches`),
and the result of the step is what is left of them. Nothing that stays began a run
(`after?_eq_none_of_kept`), and every run was seen where it began (`exists_after?_of_cut`).
-/

namespace StaticSite.Text

/-- **A search finds what is there.** -/
theorem containsList_iff {pat cs : List Char} : containsList pat cs = true ↔ pat <:+: cs := by
  -- On the text: what is searched for begins here or further on.
  unfold containsList
  induction cs with
  | nil =>
    cases pat with
    | nil => exact ⟨fun _ => List.infix_rfl, fun _ => rfl⟩
    | cons p ps => exact ⟨fun h => (nomatch h), fun h => (nomatch List.infix_nil.mp h)⟩
  | cons c cs ih =>
    rw [splitAt?, List.infix_cons_iff]
    cases hmatch : pat.isPrefixOf? (c :: cs) with
    | some rest =>
      exact ⟨fun _ => .inl ⟨rest, List.append_eq_of_isPrefixOf?_eq_some hmatch⟩, fun _ => rfl⟩
    | none =>
      show Option.isSome (Option.map _ _) = true ↔ _
      rw [Option.isSome_map, ih]
      refine ⟨.inr, fun h => h.resolve_left fun hprefix => ?_⟩
      have hsome := List.isSome_isPrefixOf?_eq_isPrefixOf pat (c :: cs)
      rw [hmatch, List.isPrefixOf_iff_prefix.mpr hprefix] at hsome
      cases hsome

theorem replaceFrom_eq_self {p : Char} {ps by_ cs : List Char} (h : p ∉ cs) :
    replaceFrom p ps by_ 0 cs = cs := by
  induction cs with
  | nil => rfl
  | cons c cs ih =>
    obtain ⟨hc, hcs⟩ := not_or.mp (mt List.mem_cons.mpr h)
    have hno : (p :: ps).isPrefixOf (c :: cs) = false := by
      rw [List.isPrefixOf, beq_false_of_ne hc, Bool.false_and]
    rw [replaceFrom, hno, if_neg Bool.false_ne_true, ih hcs]

/-- Without its first character in a text, no match of a pattern is replaced. -/
theorem replaceList_eq_self {p : Char} {ps by_ cs : List Char} (h : p ∉ cs) :
    replaceList (p :: ps) by_ cs = cs := replaceFrom_eq_self h

theorem mem_of_mem_replaceFrom {p c : Char} {ps by_ cs : List Char} {skip : Nat}
    (h : c ∈ replaceFrom p ps by_ skip cs) : c ∈ by_ ∨ c ∈ cs := by
  induction cs generalizing skip with
  | nil => cases skip <;> cases h
  | cons d cs ih =>
    have hnext : ∀ {n : Nat}, c ∈ replaceFrom p ps by_ n cs → c ∈ by_ ∨ c ∈ d :: cs :=
      fun hn => (ih hn).imp id (List.mem_cons_of_mem d)
    cases skip with
    | succ skip => exact hnext h
    | zero =>
      rw [replaceFrom] at h
      split at h
      · exact (List.mem_append.mp h).elim .inl hnext
      · rcases List.mem_cons.mp h with rfl | h
        · exact .inr List.mem_cons_self
        · exact hnext h

/-- Every character was there, or belongs to the replacement. -/
theorem mem_of_mem_replaceList {c : Char} {pat by_ cs : List Char}
    (h : c ∈ replaceList pat by_ cs) : c ∈ by_ ∨ c ∈ cs := by
  cases pat with
  | nil => exact .inr h
  | cons p ps => exact mem_of_mem_replaceFrom h

/-- A text is what is left of it, and characters of the class that is cut off. -/
theorem exists_eq_dropRightWhile_append (p : Char → Bool) (cs : List Char) :
    ∃ tail, (∀ c ∈ tail, p c = true) ∧ cs = dropRightWhile p cs ++ tail := by
  refine ⟨(cs.reverse.takeWhile p).reverse, fun c hc => ?_, ?_⟩
  · exact List.all_eq_true.mp List.all_takeWhile c (List.mem_reverse.mp hc)
  · rw [dropRightWhile, ← List.reverse_append, List.takeWhile_append_dropWhile,
      List.reverse_reverse]

/-- Nothing is cut off at the start of a text that begins with another character. -/
theorem dropWhile_eq_self {p : Char → Bool} {cs : List Char} (h : ∀ c ∈ cs.head?, p c = false) :
    cs.dropWhile p = cs := by
  cases cs with
  | nil => rfl
  | cons c cs => exact List.dropWhile_cons_of_neg (Bool.not_eq_true _ ▸ h c rfl)

/-- **What is cut off at the ends of a text** are the characters of the class behind the last other
one, if the text begins with another one. -/
theorem stripChars_append {p : Char → Bool} {cs tail : List Char} (hne : cs ≠ [])
    (hhead : ∀ c ∈ cs.head?, p c = false) (hlast : ∀ c ∈ cs.getLast?, p c = false)
    (htail : ∀ c ∈ tail, p c = true) : stripChars p (cs ++ tail) = cs := by
  have hstart : (cs ++ tail).dropWhile p = cs ++ tail := by
    refine dropWhile_eq_self ?_
    rwa [List.head?_append_of_ne_nil cs hne]
  have hend : cs.reverse.dropWhile p = cs.reverse := by
    refine dropWhile_eq_self ?_
    rwa [List.head?_reverse]
  have htail' : ∀ c ∈ tail.reverse, p c = true := fun c hc => htail c (List.mem_reverse.mp hc)
  rw [stripChars, hstart, dropRightWhile, List.reverse_append,
    List.dropWhile_append_of_pos htail', hend, List.reverse_reverse]

/-! ### Stretches -/

/-- A stretch of a text: a character that stays, or a run that is taken out. -/
inductive Stretch where
  | kept (c : Char)
  | cut (run : List Char)
deriving DecidableEq, Repr

namespace Stretch

/-- The characters of a stretch. -/
def source : Stretch → List Char
  | kept c => [c]
  | cut run => run

/-- The characters of a stretch that stay. -/
def left : Stretch → List Char
  | kept c => [c]
  | cut _ => []

@[simp] theorem source_kept (c : Char) : (kept c).source = [c] := rfl

@[simp] theorem source_cut (run : List Char) : (cut run).source = run := rfl

@[simp] theorem left_kept (c : Char) : (kept c).left = [c] := rfl

@[simp] theorem left_cut (run : List Char) : (cut run).left = [] := rfl

@[simp]
theorem flatMap_source_map_kept (cs : List Char) : (cs.map kept).flatMap source = cs := by
  induction cs with
  | nil => rfl
  | cons c cs ih => rw [List.map_cons, List.flatMap_cons, ih, source_kept, List.singleton_append]

@[simp]
theorem flatMap_left_map_kept (cs : List Char) : (cs.map kept).flatMap left = cs := by
  induction cs with
  | nil => rfl
  | cons c cs ih => rw [List.map_cons, List.flatMap_cons, ih, left_kept, List.singleton_append]

end Stretch

open Stretch

/-- The stretches of a text. `after? atStart cs` is what follows the run at the start of `cs`, if
one is taken out there; `atStart` tells whether `cs` stands at the start of a line, where what
follows a run never stands. -/
def stretches (after? : Bool → List Char → Option (List Char)) (atStart : Bool) :
    List Char → List Stretch
  | [] => []
  | c :: cs =>
    match after? atStart (c :: cs) with
    | some rest =>
      cut (c :: cs.take (cs.length - rest.length)) ::
        stretches after? false (cs.drop (cs.length - rest.length))
    | none => kept c :: stretches after? (c == '\n') cs
termination_by cs => cs.length

variable {after? : Bool → List Char → Option (List Char)} {atStart : Bool} {c : Char}
  {cs rest run : List Char} {before after : List Stretch}

@[simp] theorem stretches_nil : stretches after? atStart [] = [] := by rw [stretches]

theorem stretches_of_some (h : after? atStart (c :: cs) = some rest) :
    stretches after? atStart (c :: cs) = cut (c :: cs.take (cs.length - rest.length)) ::
      stretches after? false (cs.drop (cs.length - rest.length)) := by
  rw [stretches, h]

theorem stretches_of_none (h : after? atStart (c :: cs) = none) :
    stretches after? atStart (c :: cs) = kept c :: stretches after? (c == '\n') cs := by
  rw [stretches, h]

/-- **A text is made of its stretches.** -/
@[simp]
theorem flatMap_source_stretches (after? : Bool → List Char → Option (List Char)) (atStart : Bool)
    (cs : List Char) : (stretches after? atStart cs).flatMap source = cs := by
  fun_induction stretches after? atStart cs with
  | case1 => rfl
  | case2 _ c cs rest h ih =>
    rw [List.flatMap_cons, ih, source_cut, List.cons_append, List.take_append_drop]
  | case3 _ c cs h ih => rw [List.flatMap_cons, ih, source_kept, List.singleton_append]

/-- Whether what follows some stretches stands at the start of a line. -/
def endsAtStart (atStart : Bool) : List Stretch → Bool
  | [] => atStart
  | kept c :: rest => endsAtStart (c == '\n') rest
  | cut _ :: rest => endsAtStart false rest

/-- The stretches behind others are those of what follows. -/
theorem eq_stretches_of_append (h : stretches after? atStart cs = before ++ after) :
    after = stretches after? (endsAtStart atStart before) (after.flatMap source) := by
  -- On the stretches before; each of them is the first one of its text.
  induction before generalizing atStart cs with
  | nil =>
    have hcs := flatMap_source_stretches after? atStart cs
    rw [h] at hcs
    rw [List.nil_append] at h hcs
    rw [endsAtStart, hcs, h]
  | cons s before ih =>
    cases cs with
    | nil =>
      rw [stretches_nil] at h
      cases h
    | cons c cs =>
      cases hafter : after? atStart (c :: cs) with
      | some rest =>
        rw [stretches_of_some hafter, List.cons_append] at h
        obtain ⟨rfl, htail⟩ := List.cons.inj h
        exact ih htail
      | none =>
        rw [stretches_of_none hafter, List.cons_append] at h
        obtain ⟨rfl, htail⟩ := List.cons.inj h
        exact ih htail

/-- **Where a character stays, no run begins.** -/
theorem after?_eq_none_of_kept (h : stretches after? atStart cs = before ++ kept c :: after) :
    after? (endsAtStart atStart before) (c :: after.flatMap source) = none := by
  have htail := eq_stretches_of_append h
  rw [List.flatMap_cons, source_kept, List.singleton_append] at htail
  cases hafter : after? (endsAtStart atStart before) (c :: after.flatMap source) with
  | none => rfl
  | some rest =>
    rw [stretches_of_some hafter] at htail
    cases htail

/-- **Where a run is taken out, one begins**, and it is what lies before the text behind it. -/
theorem exists_after?_of_cut (h : stretches after? atStart cs = before ++ cut run :: after) :
    ∃ rest, run ≠ [] ∧
      after? (endsAtStart atStart before) (run ++ after.flatMap source) = some rest ∧
      (rest <:+ (run ++ after.flatMap source).tail → rest = after.flatMap source) := by
  have htail := eq_stretches_of_append h
  rw [List.flatMap_cons, source_cut] at htail
  -- The stretches from the run on are those of the text from there on.
  generalize hall : run ++ after.flatMap source = all at htail ⊢
  cases all with
  | nil =>
    rw [stretches_nil] at htail
    cases htail
  | cons c all =>
    cases hafter : after? (endsAtStart atStart before) (c :: all) with
    | none =>
      rw [stretches_of_none hafter] at htail
      cases htail
    | some rest =>
      rw [stretches_of_some hafter] at htail
      obtain ⟨hrun, hbehind⟩ := List.cons.inj htail
      have hrun : run = c :: all.take (all.length - rest.length) := Stretch.cut.inj hrun
      refine ⟨rest, hrun ▸ List.cons_ne_nil _ _, rfl, fun hsuffix => ?_⟩
      rw [hbehind, flatMap_source_stretches]
      exact List.suffix_iff_eq_drop.mp hsuffix

/-- What stays of some stretches is all of them exactly if nothing is taken out. -/
theorem flatMap_left_eq_source_iff (s : List Stretch) :
    s.flatMap left = s.flatMap source ↔ ∀ run, cut run ∈ s → run = [] := by
  -- What stays is no longer than all of it, so that no length is made up for further on.
  have hle (s : List Stretch) : (s.flatMap left).length ≤ (s.flatMap source).length := by
    induction s with
    | nil => exact Nat.le_refl 0
    | cons x s ih =>
      rw [List.flatMap_cons, List.flatMap_cons, List.length_append, List.length_append]
      have hx : x.left.length ≤ x.source.length := by cases x <;> simp
      omega
  induction s with
  | nil => simp
  | cons x s ih =>
    cases x with
    | kept c => simpa using ih
    | cut run =>
      simp only [List.flatMap_cons, left_cut, source_cut, List.nil_append, List.mem_cons,
        Stretch.cut.injEq]
      constructor
      · intro h
        have hlength := congrArg List.length h
        rw [List.length_append] at hlength
        have hrun : run = [] := List.eq_nil_of_length_eq_zero (by have := hle s; omega)
        subst hrun
        rintro run (rfl | hrun)
        · rfl
        · exact ih.mp h run hrun
      · intro h
        rw [h run (.inl rfl), List.nil_append]
        exact ih.mpr fun run hrun => h run (.inr hrun)

/-- A character of what is left is one of the stretches. -/
theorem exists_kept_of_flatMap_left {s : List Stretch} {left₁ left₂ : List Char}
    (h : s.flatMap left = left₁ ++ c :: left₂) :
    ∃ before after, s = before ++ kept c :: after ∧ before.flatMap left = left₁ ∧
      after.flatMap left = left₂ := by
  induction s generalizing left₁ with
  | nil => exact absurd h (by simp)
  | cons x s ih =>
    cases x with
    | cut run =>
      obtain ⟨before, after, rfl, hbefore, hafter⟩ := ih h
      exact ⟨cut run :: before, after, rfl, hbefore, hafter⟩
    | kept d =>
      cases left₁ with
      | nil =>
        obtain ⟨rfl, hrest⟩ := List.cons.inj h
        exact ⟨[], s, rfl, rfl, hrest⟩
      | cons e left₁ =>
        obtain ⟨rfl, hrest⟩ := List.cons.inj h
        obtain ⟨before, after, rfl, hbefore, hafter⟩ := ih hrest
        refine ⟨kept d :: before, after, rfl, ?_, hafter⟩
        rw [List.flatMap_cons, hbefore, left_kept, List.singleton_append]

/-- A word at the start of what is left stands in the text as it is, or a run is taken out of its
midst. -/
theorem word_is_whole_or_parted {s : List Stretch} {word rest : List Char}
    (h : s.flatMap left = word ++ rest) :
    (∃ after, s = word.map kept ++ after ∧ after.flatMap left = rest) ∨
      ∃ start stop run after, word = start ++ stop ∧ stop ≠ [] ∧
        s = start.map kept ++ cut run :: after ∧ after.flatMap left = stop ++ rest := by
  -- On the word, until it ends or a run is taken out before its next character.
  induction word generalizing s with
  | nil => exact .inl ⟨s, rfl, h⟩
  | cons c word ih =>
    cases s with
    | nil => exact absurd h (by simp)
    | cons x s =>
      cases x with
      | cut run => exact .inr ⟨[], c :: word, run, s, rfl, List.cons_ne_nil _ _, rfl, h⟩
      | kept d =>
        obtain ⟨rfl, hrest⟩ := List.cons.inj h
        rcases ih hrest with ⟨after, rfl, hafter⟩ | ⟨start, stop, run, after, rfl, hne, rfl, hafter⟩
        · exact .inl ⟨after, rfl, hafter⟩
        · exact .inr ⟨d :: start, stop, run, after, rfl, hne, rfl, hafter⟩

end StaticSite.Text
