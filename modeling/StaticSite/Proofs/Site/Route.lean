import Mathlib.Data.List.Basic
import Mathlib.Data.List.TakeWhile
import StaticSite.Proofs.Text.Words
import StaticSite.Site.ArticleSite
import StaticSite.Site.Route

/-!
# Slugs, routes and clean paths

Which strings are let through as slugs and routes, and which paths are made of them.

* `isSafeSlug_iff` and `isSafeRoute_iff` say that a safe slug or route has the form that is asked
  for, or that form with one line feed at its end.
* `IsCleanPath` is the form that a path of a site should have: relative, no empty part, no `.` or
  `..`, and no characters but those of slugs, points and underscores.
* `isCleanPath_filePath_iff` says when the file of a safe route has a clean path: exactly if the
  route does not end in a line feed. `isCleanPath_append_index_iff` says so for slugs.
* `filePath_eq_iff` says which safe routes have the same file: those that are the same but for a
  slash at the end.

* `text_esc_route` and `text_esc_of_isSafeRoute` say that links hold routes as they are: the
  address of a link is escaped, and no character of a safe route has a meaning in markup.

A route text is taken apart into slugs with single slashes between them (`IsJoin`). The file of a
route joins the same slugs, since trimming takes off the slashes at the ends and no more
(`trimSlashes_of_isJoin`).
-/

namespace StaticSite.Route

/-- Whether a text ends in a line feed. -/
def EndsInLineFeed (s : String) : Prop := s.toList.getLast? = some '\n'

instance : DecidablePred EndsInLineFeed := fun s =>
  inferInstanceAs (Decidable (s.toList.getLast? = some '\n'))

/-! ### Characters -/

theorem ne_slash_of_isSlugChar {c : Char} (h : isSlugChar c = true) : c ≠ '/' := by
  rintro rfl
  exact absurd h (by decide)

theorem ne_lineFeed_of_isSlugChar {c : Char} (h : isSlugChar c = true) : c ≠ '\n' := by
  rintro rfl
  exact absurd h (by decide)

theorem isSlugChar_of_isSlugStart {c : Char} (h : isSlugStart c = true) : isSlugChar c = true := by
  rw [isSlugChar, h, Bool.true_or]

theorem isSlugText_iff {cs : List Char} :
    isSlugText cs = true ↔
      ∃ c rest, cs = c :: rest ∧ isSlugStart c = true ∧ ∀ d ∈ rest, isSlugChar d = true := by
  cases cs with
  | nil => exact ⟨fun h => absurd h Bool.false_ne_true, fun ⟨_, _, h, _⟩ => absurd h (by simp)⟩
  | cons c rest =>
    rw [isSlugText, Bool.and_eq_true, List.all_eq_true]
    constructor
    · intro h
      exact ⟨c, rest, rfl, h⟩
    · rintro ⟨_, _, heq, h⟩
      cases heq
      exact h

theorem ne_nil_of_isSlugText {cs : List Char} (h : isSlugText cs = true) : cs ≠ [] := by
  rintro rfl
  exact absurd h Bool.false_ne_true

theorem isSlugChar_of_mem_of_isSlugText {cs : List Char} (h : isSlugText cs = true) {c : Char}
    (hc : c ∈ cs) : isSlugChar c = true := by
  obtain ⟨d, rest, rfl, hd, hrest⟩ := isSlugText_iff.mp h
  rcases List.mem_cons.mp hc with rfl | hc
  · exact isSlugChar_of_isSlugStart hd
  · exact hrest c hc

theorem slash_notMem_of_isSlugText {cs : List Char} (h : isSlugText cs = true) : '/' ∉ cs :=
  fun hc => ne_slash_of_isSlugChar (isSlugChar_of_mem_of_isSlugText h hc) rfl

/-- The characters of a route text are those of slugs, and slashes. -/
theorem isSlugChar_or_eq_slash_of_isRouteText {fresh : Bool} {cs : List Char}
    (h : isRouteText fresh cs = true) : ∀ c ∈ cs, isSlugChar c = true ∨ c = '/' := by
  induction cs generalizing fresh with
  | nil => exact fun c hc => absurd hc List.not_mem_nil
  | cons d rest ih =>
    rw [List.forall_mem_cons]
    cases fresh with
    | true =>
      rw [isRouteText, Bool.and_eq_true] at h
      exact ⟨.inl (isSlugChar_of_isSlugStart h.1), ih h.2⟩
    | false =>
      rw [isRouteText] at h
      split at h
      · next hd => exact ⟨.inr (beq_iff_eq.mp hd), ih h⟩
      · rw [Bool.and_eq_true] at h
        exact ⟨.inl h.1, ih h.2⟩

/-! ### The line feed at the end -/

/-- A text without its final line feed is the text, or lacks just that line feed. -/
theorem dropFinalNewline_cases (cs : List Char) :
    (dropFinalNewline cs = cs ∧ cs.getLast? ≠ some '\n') ∨ cs = dropFinalNewline cs ++ ['\n'] := by
  unfold dropFinalNewline
  split
  · next h =>
    obtain ⟨ds, rfl⟩ := List.getLast?_eq_some_iff.mp h
    exact .inr (by rw [List.dropLast_concat])
  · next h => exact .inl ⟨rfl, h⟩

theorem dropFinalNewline_concat (cs : List Char) : dropFinalNewline (cs ++ ['\n']) = cs := by
  rw [dropFinalNewline, if_pos List.getLast?_concat, List.dropLast_concat]

theorem dropFinalNewline_eq_self {cs : List Char} (h : '\n' ∉ cs) : dropFinalNewline cs = cs :=
  if_neg fun hl => h (List.mem_of_getLast? hl)

/-- A text that is `t`, perhaps with a line feed after it, is `t` if it does not end in one. -/
theorem eq_of_not_endsInLineFeed {s : String} {t : List Char}
    (h : s.toList = t ∨ s.toList = t ++ ['\n']) (hend : ¬ EndsInLineFeed s) : s.toList = t := by
  refine h.resolve_right fun hs => hend ?_
  rw [EndsInLineFeed, hs, List.getLast?_concat]

/-- A text without points has no two points in a row. -/
theorem hasParentStep_eq_false {cs : List Char} (h : '.' ∉ cs) : hasParentStep cs = false := by
  unfold hasParentStep Text.containsList
  induction cs with
  | nil => rfl
  | cons c cs ih =>
    rw [List.mem_cons, not_or] at h
    have hc : ('.' == c) = false := beq_false_of_ne h.1
    have hnone : ['.', '.'].isPrefixOf? (c :: cs) = none := by
      rw [List.isPrefixOf?, hc]
      rfl
    rw [Text.splitAt?, hnone, Option.isSome_map]
    exact ih h.2

/-! ### Safe slugs and routes -/

/-- **Safe slugs.** A slug is let through if it is a small letter or digit followed by such
characters and hyphens, with or without one line feed after it. -/
theorem isSafeSlug_iff {slug : String} :
    isSafeSlug slug = true ↔
      ∃ t, isSlugText t = true ∧ (slug.toList = t ∨ slug.toList = t ++ ['\n']) := by
  rw [isSafeSlug, Bool.and_eq_true, Bool.not_eq_true']
  constructor
  · rintro ⟨-, h⟩
    refine ⟨_, h, ?_⟩
    exact (dropFinalNewline_cases slug.toList).imp (fun hc => hc.1.symm) id
  -- A slug has no points, so that it never has the step to a parent either.
  · rintro ⟨t, ht, hs⟩
    have hpoint : '.' ∉ t := fun hc =>
      absurd (isSlugChar_of_mem_of_isSlugText ht hc) (by decide)
    have hfeed : '\n' ∉ t := fun hc =>
      ne_lineFeed_of_isSlugChar (isSlugChar_of_mem_of_isSlugText ht hc) rfl
    rcases hs with hs | hs
    · rw [hs, dropFinalNewline_eq_self hfeed]
      exact ⟨hasParentStep_eq_false hpoint, ht⟩
    · rw [hs, dropFinalNewline_concat]
      refine ⟨hasParentStep_eq_false ?_, ht⟩
      simpa using hpoint

theorem mem_routeText_of_isRouteText {fresh : Bool} {cs : List Char}
    (h : isRouteText fresh cs = true) : '.' ∉ cs ∧ '\n' ∉ cs := by
  constructor <;> intro hc <;>
    rcases isSlugChar_or_eq_slash_of_isRouteText h _ hc with hs | hs <;>
    exact absurd hs (by decide)

/-- **Safe routes.** A route is let through if it is a slash followed by a route text, with or
without one line feed after it. -/
theorem isSafeRoute_iff {route : String} :
    isSafeRoute route = true ↔
      ∃ t, isRouteText true t = true ∧
        (route.toList = '/' :: t ∨ route.toList = '/' :: t ++ ['\n']) := by
  rw [isSafeRoute, Bool.and_eq_true, Bool.not_eq_true']
  constructor
  · rintro ⟨-, h⟩
    split at h
    · next t ht =>
      refine ⟨t, h, ?_⟩
      rcases dropFinalNewline_cases route.toList with hc | hc
      · exact .inl (hc.1.symm.trans ht)
      · exact .inr (ht ▸ hc)
    · exact absurd h Bool.false_ne_true
  · rintro ⟨t, ht, hr⟩
    obtain ⟨hpoint, hfeed⟩ := mem_routeText_of_isRouteText ht
    rcases hr with hr | hr
    · rw [hr, dropFinalNewline_eq_self (by simpa using hfeed)]
      exact ⟨hasParentStep_eq_false (by simpa using hpoint), ht⟩
    · rw [hr, dropFinalNewline_concat]
      exact ⟨hasParentStep_eq_false (by simpa using hpoint), ht⟩

/-! ### Clean paths -/

/-- Whether a character may stand in a path, between slashes. -/
def isPathChar (c : Char) : Bool := isSlugChar c || c == '.' || c == '_'

/-- A part of a clean path: it is not empty, does not lead to the same or the parent directory, and
has no unusual characters. -/
def IsCleanPart (part : List Char) : Prop :=
  part ≠ [] ∧ part ≠ ['.'] ∧ part ≠ ['.', '.'] ∧ ∀ c ∈ part, isPathChar c = true

instance : DecidablePred IsCleanPart := fun part =>
  decidable_of_iff
    (part ≠ [] ∧ part ≠ ['.'] ∧ part ≠ ['.', '.'] ∧ part.all isPathChar = true)
    (by rw [IsCleanPart, List.all_eq_true])

/-- **Clean paths.** A path does not begin with a slash, and all parts between its slashes are
clean. -/
def IsCleanPath (path : String) : Prop :=
  path.toList.head? ≠ some '/' ∧ ∀ part ∈ Text.splitOnChar '/' path.toList, IsCleanPart part

instance : DecidablePred IsCleanPath := fun _ => inferInstanceAs (Decidable (_ ∧ _))

theorem isCleanPart_of_isSlugText {cs : List Char} (h : isSlugText cs = true) : IsCleanPart cs := by
  have hpoint : '.' ∉ cs := fun hc => absurd (isSlugChar_of_mem_of_isSlugText h hc) (by decide)
  refine ⟨ne_nil_of_isSlugText h, ?_, ?_, fun c hc => ?_⟩
  · rintro rfl
    exact hpoint List.mem_cons_self
  · rintro rfl
    exact hpoint List.mem_cons_self
  · rw [isPathChar, isSlugChar_of_mem_of_isSlugText h hc, Bool.true_or, Bool.true_or]

theorem slash_notMem_of_isCleanPart {part : List Char} (h : IsCleanPart part) : '/' ∉ part :=
  fun hc => absurd (h.2.2.2 _ hc) (by decide)

/-- Joined parts that are not empty and hold no slash neither begin nor end with one. -/
theorem head?_getLast?_intercalate_slash {parts : List (List Char)}
    (h : ∀ part ∈ parts, part ≠ [] ∧ '/' ∉ part) :
    (['/'].intercalate parts).head? ≠ some '/' ∧ (['/'].intercalate parts).getLast? ≠ some '/' := by
  have hmem : ¬ ∃ part ∈ parts, '/' ∈ part := fun ⟨part, hpart, hslash⟩ => (h part hpart).2 hslash
  obtain ⟨hhead, hlast⟩ :=
    Text.head?_getLast?_intercalate '/' fun part hpart => (h part hpart).1
  exact ⟨fun heq => hmem (hhead '/' heq), fun heq => hmem (hlast '/' heq)⟩

/-- Clean parts, joined by slashes, are a clean path. -/
theorem isCleanPath_of_parts {path : String} {parts : List (List Char)} (hne : parts ≠ [])
    (hparts : ∀ part ∈ parts, IsCleanPart part) (h : path.toList = ['/'].intercalate parts) :
    IsCleanPath path := by
  constructor
  · rw [h]
    exact (head?_getLast?_intercalate_slash fun part hp =>
      ⟨(hparts part hp).1, slash_notMem_of_isCleanPart (hparts part hp)⟩).1
  · rw [Text.splitOnChar, h, List.splitOn_intercalate '/'
      (fun part hp => slash_notMem_of_isCleanPart (hparts part hp)) hne]
    exact hparts

theorem lineFeed_notMem_of_isCleanPath {path : String} (h : IsCleanPath path) :
    '\n' ∉ path.toList := by
  intro hmem
  have hjoin : ['/'].intercalate (path.toList.splitOn '/') = path.toList :=
    List.intercalate_splitOn '/'
  rw [← hjoin] at hmem
  rcases Text.mem_intercalate hmem with hc | ⟨part, hp, hc⟩
  · exact absurd hc (by decide)
  · exact absurd ((h.2 part hp).2.2.2 _ hc) (by decide)

/-! ### The file of a route -/

/-- A text that joins parts by single slashes, with or without one at its end. -/
def IsJoin (parts : List (List Char)) (t : List Char) : Prop :=
  t = ['/'].intercalate parts ∨ t = ['/'].intercalate parts ++ ['/']

theorem IsJoin.cons_char {part : List Char} {parts : List (List Char)} {t : List Char}
    (h : IsJoin (part :: parts) t) (c : Char) : IsJoin ((c :: part) :: parts) (c :: t) := by
  rcases h with rfl | rfl
  · exact .inl List.intercalate_cons_cons_left.symm
  · exact .inr (by rw [List.intercalate_cons_cons_left, List.cons_append])

theorem IsJoin.cons_part {parts : List (List Char)} {t : List Char} (h : IsJoin parts t)
    (hne : parts ≠ []) : IsJoin ([] :: parts) ('/' :: t) := by
  have hcons : ['/'].intercalate ([] :: parts) = '/' :: ['/'].intercalate parts := by
    rw [List.intercalate_cons_of_ne_nil hne]
    rfl
  rcases h with rfl | rfl
  · exact .inl hcons.symm
  · exact .inr (by rw [hcons, List.cons_append])

/-- A route text joins slugs. Inside a slug, the text begins with the rest of that slug. -/
theorem exists_isJoin_of_isRouteText (t : List Char) :
    (isRouteText true t = true →
        t = [] ∨ ∃ parts, parts ≠ [] ∧ (∀ part ∈ parts, isSlugText part = true) ∧ IsJoin parts t) ∧
      (isRouteText false t = true →
        ∃ part parts, (∀ c ∈ part, isSlugChar c = true) ∧
          (∀ part ∈ parts, isSlugText part = true) ∧ IsJoin (part :: parts) t) := by
  -- Both states of the scan go through one induction: a slash leads from the second to the first,
  -- and the first character of a slug back.
  induction t with
  | nil =>
    exact ⟨fun _ => .inl rfl, fun _ => ⟨[], [], by simp, by simp, .inl rfl⟩⟩
  | cons c rest ih =>
    constructor
    · intro h
      rw [isRouteText, Bool.and_eq_true] at h
      obtain ⟨part, parts, hpart, hparts, hjoin⟩ := ih.2 h.2
      refine .inr ⟨(c :: part) :: parts, List.cons_ne_nil _ _, ?_, hjoin.cons_char c⟩
      rw [List.forall_mem_cons]
      exact ⟨isSlugText_iff.mpr ⟨c, part, rfl, h.1, hpart⟩, hparts⟩
    · intro h
      rw [isRouteText] at h
      split at h
      · next hc =>
        obtain rfl := beq_iff_eq.mp hc
        rcases ih.1 h with rfl | ⟨parts, hne, hparts, hjoin⟩
        -- The slash ends the route: no slug begins after it.
        · exact ⟨[], [], by simp, by simp, .inr rfl⟩
        · exact ⟨[], parts, by simp, hparts, hjoin.cons_part hne⟩
      · rw [Bool.and_eq_true] at h
        obtain ⟨part, parts, hpart, hparts, hjoin⟩ := ih.2 h.2
        refine ⟨c :: part, parts, ?_, hparts, hjoin.cons_char c⟩
        rw [List.forall_mem_cons]
        exact ⟨h.1, hpart⟩

/-- Trimming takes away no other character than slashes. -/
theorem mem_trimSlashes_iff {cs : List Char} {c : Char} (hc : c ≠ '/') :
    c ∈ trimSlashes cs ↔ c ∈ cs := by
  have hdrop : ∀ ds : List Char, c ∈ ds.dropWhile (· == '/') ↔ c ∈ ds := by
    intro ds
    have hsplit : ds.takeWhile (· == '/') ++ ds.dropWhile (· == '/') = ds :=
      List.takeWhile_append_dropWhile
    refine ⟨fun h => (List.dropWhile_suffix _).mem h, fun h => ?_⟩
    rw [← hsplit, List.mem_append] at h
    refine h.resolve_left fun ht => hc ?_
    have hslash : (c == '/') = true := List.mem_takeWhile_imp (p := (· == '/')) ht
    exact beq_iff_eq.mp hslash
  rw [trimSlashes, Text.stripChars, Text.dropRightWhile, List.mem_reverse, hdrop,
    List.mem_reverse, hdrop]

theorem dropWhile_slash_eq_self {cs : List Char} (h : cs.head? ≠ some '/') :
    cs.dropWhile (· == '/') = cs := by
  cases cs with
  | nil => rfl
  | cons c rest =>
    refine List.dropWhile_cons_of_neg fun hc => h ?_
    rw [List.head?_cons, beq_iff_eq.mp hc]

/-- Trimming a text that begins with a slash leaves what stands behind it, but for a slash at its
end. -/
theorem trimSlashes_slash_cons {core t : List Char} (hhead : core.head? ≠ some '/')
    (hlast : core.getLast? ≠ some '/') (h : t = core ∨ t = core ++ ['/']) :
    trimSlashes ('/' :: t) = core := by
  -- The right end is trimmed on the reversed list, so that `hlast` has to speak of its head.
  rw [← List.head?_reverse] at hlast
  rw [trimSlashes, Text.stripChars, List.dropWhile_cons_of_pos rfl, Text.dropRightWhile]
  rcases h with rfl | rfl
  · rw [dropWhile_slash_eq_self hhead, dropWhile_slash_eq_self hlast, List.reverse_reverse]
  · cases core with
    | nil => rfl
    | cons c rest =>
      have hhead' : ((c :: rest) ++ ['/']).head? ≠ some '/' := hhead
      rw [dropWhile_slash_eq_self hhead', List.reverse_concat, List.dropWhile_cons_of_pos rfl,
        dropWhile_slash_eq_self hlast, List.reverse_reverse]

/-- Trimming a route leaves its joined slugs. -/
theorem trimSlashes_of_isJoin {parts : List (List Char)} {t : List Char}
    (hparts : ∀ part ∈ parts, isSlugText part = true) (h : IsJoin parts t) :
    trimSlashes ('/' :: t) = ['/'].intercalate parts := by
  obtain ⟨hhead, hlast⟩ := head?_getLast?_intercalate_slash fun part hp =>
    ⟨ne_nil_of_isSlugText (hparts part hp), slash_notMem_of_isSlugText (hparts part hp)⟩
  exact trimSlashes_slash_cons hhead hlast h

/-- The file of a route that joins slugs lies below them. -/
theorem toList_filePath_of_isJoin {route : String} {parts : List (List Char)} {t : List Char}
    (hne : parts ≠ []) (hparts : ∀ part ∈ parts, isSlugText part = true) (h : IsJoin parts t)
    (hr : route.toList = '/' :: t) :
    (filePath route).toList = ['/'].intercalate (parts ++ ["index.html".toList]) := by
  have hroute : route ≠ "/" := by
    rintro rfl
    obtain rfl : t = [] := (List.cons.inj hr).2.symm
    rcases h with h | h
    · cases parts with
      | nil => exact hne rfl
      | cons part rest =>
        have hpart := ne_nil_of_isSlugText (hparts part List.mem_cons_self)
        cases rest <;> simp [List.intercalate_cons_cons, hpart] at h
    · simp at h
  have hindex : "/index.html".toList = '/' :: "index.html".toList := rfl
  rw [filePath, if_neg hroute, String.toList_append, String.toList_ofList, hr,
    trimSlashes_of_isJoin hparts h, hindex]
  -- What is left speaks of lists only.
  clear hparts h
  induction parts with
  | nil => exact absurd rfl hne
  | cons part rest ih =>
    cases rest with
    | nil => simp [List.intercalate_cons_cons]
    | cons next rest =>
      rw [List.cons_append, List.cons_append, List.intercalate_cons_cons,
        List.intercalate_cons_cons, ← List.cons_append, ← ih (List.cons_ne_nil _ _),
        List.append_assoc]

/-! ### Clean paths of files -/

/-- The characters of a safe slug are those of slugs exactly if it does not end in a line feed. -/
theorem forall_isSlugChar_iff {slug : String} (h : isSafeSlug slug = true) :
    (∀ c ∈ slug.toList, isSlugChar c = true) ↔ ¬ EndsInLineFeed slug := by
  obtain ⟨t, ht, hs⟩ := isSafeSlug_iff.mp h
  constructor
  · exact fun hall hend => ne_lineFeed_of_isSlugChar (hall _ (List.mem_of_getLast? hend)) rfl
  · intro hend
    rw [eq_of_not_endsInLineFeed hs hend]
    exact fun c => isSlugChar_of_mem_of_isSlugText ht

/-- The characters of a safe route are those of slugs and slashes exactly if it does not end in a
line feed. -/
theorem forall_isSlugChar_or_slash_iff {route : String} (h : isSafeRoute route = true) :
    (∀ c ∈ route.toList, isSlugChar c = true ∨ c = '/') ↔ ¬ EndsInLineFeed route := by
  obtain ⟨t, ht, hr⟩ := isSafeRoute_iff.mp h
  constructor
  · intro hall hend
    exact absurd (hall _ (List.mem_of_getLast? hend)) (by decide)
  · intro hend
    rw [eq_of_not_endsInLineFeed hr hend, List.forall_mem_cons]
    exact ⟨.inr rfl, isSlugChar_or_eq_slash_of_isRouteText ht⟩

/-- The page of a safe slug has a clean path exactly if the slug does not end in a line feed. -/
theorem isCleanPath_append_index_iff {slug : String} (h : isSafeSlug slug = true) :
    IsCleanPath (slug ++ "/index.html") ↔ ¬ EndsInLineFeed slug := by
  obtain ⟨t, ht, hs⟩ := isSafeSlug_iff.mp h
  constructor
  · intro hclean hend
    refine lineFeed_notMem_of_isCleanPath hclean ?_
    rw [String.toList_append]
    exact List.mem_append_left _ (List.mem_of_getLast? hend)
  · intro hend
    refine isCleanPath_of_parts (List.cons_ne_nil t ["index.html".toList]) ?_ ?_
    · rw [List.forall_mem_cons, List.forall_mem_singleton]
      exact ⟨isCleanPart_of_isSlugText ht, by decide⟩
    · rw [String.toList_append, eq_of_not_endsInLineFeed hs hend, List.intercalate_cons_cons,
        List.intercalate_singleton, List.append_assoc]
      rfl

/-- The embedded page of a safe slug has a clean path exactly if the slug does not end in a line
feed. -/
theorem isCleanPath_embed_iff {slug : String} (h : isSafeSlug slug = true) :
    IsCleanPath ("embed/" ++ slug ++ ".html") ↔ ¬ EndsInLineFeed slug := by
  obtain ⟨t, ht, hs⟩ := isSafeSlug_iff.mp h
  have htext : ("embed/" ++ slug ++ ".html").toList =
      "embed".toList ++ ['/'] ++ (slug.toList ++ ".html".toList) := by
    rw [String.toList_append, String.toList_append, List.append_assoc]
    rfl
  constructor
  · intro hclean hend
    refine lineFeed_notMem_of_isCleanPath hclean ?_
    rw [htext]
    exact List.mem_append_right _ (List.mem_append_left _ (List.mem_of_getLast? hend))
  · intro hend
    have hext : ∀ c ∈ ".html".toList, isPathChar c = true := List.all_eq_true.mp rfl
    -- The file is named for the slug and has an extension, so that it is neither empty nor made of
    -- points.
    have hlength : 5 ≤ (t ++ ".html".toList).length := by
      rw [List.length_append]
      exact Nat.le_add_left 5 t.length
    refine isCleanPath_of_parts (List.cons_ne_nil "embed".toList [t ++ ".html".toList]) ?_ ?_
    · rw [List.forall_mem_cons, List.forall_mem_singleton]
      refine ⟨by decide, ?_, ?_, ?_, fun c hc => ?_⟩
      · rintro hnil
        exact absurd (hnil ▸ hlength) (by decide)
      · rintro hpoint
        exact absurd (hpoint ▸ hlength) (by decide)
      · rintro hpoints
        exact absurd (hpoints ▸ hlength) (by decide)
      · rcases List.mem_append.mp hc with hc | hc
        · rw [isPathChar, isSlugChar_of_mem_of_isSlugText ht hc, Bool.true_or, Bool.true_or]
        · exact hext c hc
    · rw [htext, eq_of_not_endsInLineFeed hs hend, List.intercalate_cons_cons,
        List.intercalate_singleton]

/-- **The file of a safe route.** Its path is clean exactly if the route does not end in a line
feed. -/
theorem isCleanPath_filePath_iff {route : String} (h : isSafeRoute route = true) :
    IsCleanPath (filePath route) ↔ ¬ EndsInLineFeed route := by
  obtain ⟨t, ht, hr⟩ := isSafeRoute_iff.mp h
  constructor
  · intro hclean hend
    have hroute : route ≠ "/" := by
      rintro rfl
      exact absurd hend (by decide)
    refine lineFeed_notMem_of_isCleanPath hclean ?_
    rw [filePath, if_neg hroute, String.toList_append, String.toList_ofList, List.mem_append,
      mem_trimSlashes_iff (by decide)]
    exact .inl (List.mem_of_getLast? hend)
  · intro hend
    have hroute := eq_of_not_endsInLineFeed hr hend
    rcases (exists_isJoin_of_isRouteText t).1 ht with rfl | ⟨parts, hne, hparts, hjoin⟩
    -- The root has a file of its own, which does not come from trimming.
    · obtain rfl : route = "/" := String.toList_inj.mp hroute
      decide
    · refine isCleanPath_of_parts (List.append_ne_nil_of_left_ne_nil hne _) ?_
        (toList_filePath_of_isJoin hne hparts hjoin hroute)
      intro part hp
      rcases List.mem_append.mp hp with hp | hp
      · exact isCleanPart_of_isSlugText (hparts part hp)
      · obtain rfl := List.mem_singleton.mp hp
        decide

/-! ### Paths that differ -/

theorem slash_notMem_of_isSafeSlug {slug : String} (h : isSafeSlug slug = true) :
    '/' ∉ slug.toList := by
  obtain ⟨t, ht, hs⟩ := isSafeSlug_iff.mp h
  have hslash := slash_notMem_of_isSlugText ht
  rcases hs with hs | hs <;> rw [hs]
  · exact hslash
  · simpa using hslash

/-- Texts that begin with the same part up to the first slash have that part in common. -/
theorem eq_of_append_slash_eq {xs ys us vs : List Char} (hx : '/' ∉ xs) (hy : '/' ∉ ys)
    (h : xs ++ '/' :: us = ys ++ '/' :: vs) : xs = ys := by
  have hsplit := congrArg (List.splitOn '/') h
  rw [List.splitOn_append_cons_self_of_not_mem hx, List.splitOn_append_cons_self_of_not_mem hy]
    at hsplit
  exact (List.cons.inj hsplit).1

/-- The page of a slug that is not reserved is no page for embedding. -/
theorem append_index_ne_embed {slug : String} (h : isSafeSlug slug = true)
    (hr : isReserved slug = false) (other : String) :
    slug ++ "/index.html" ≠ "embed/" ++ other ++ ".html" := by
  intro heq
  have htext : slug.toList ++ '/' :: "index.html".toList =
      "embed".toList ++ '/' :: (other.toList ++ ".html".toList) := by
    have hlists := congrArg String.toList heq
    rw [String.toList_append, String.toList_append, String.toList_append, List.append_assoc]
      at hlists
    exact hlists
  have hembed := eq_of_append_slash_eq (slash_notMem_of_isSafeSlug h) (by decide) htext
  rw [String.toList_inj.mp hembed] at hr
  exact absurd hr (by decide)

/-- What lies below a directory begins with the first part of its path. -/
theorem headD_splitOn_of_prefix {dir cs rest : List Char} (hdir : '/' ∉ dir)
    (h : dir ++ ['/'] <+: cs ++ '/' :: rest) : (cs.splitOn '/').headD [] = dir := by
  obtain ⟨more, hmore⟩ := h
  rw [List.append_assoc] at hmore
  by_cases hslash : '/' ∈ cs
  · obtain ⟨part, parts, rfl, hpart⟩ := List.eq_append_cons_of_mem hslash
    rw [List.append_assoc] at hmore
    rw [List.splitOn_append_cons_self_of_not_mem hpart]
    exact (eq_of_append_slash_eq hdir hpart hmore).symm
  · rw [List.splitOn_eq_singleton hslash]
    exact (eq_of_append_slash_eq hdir hslash hmore).symm

theorem startsWith_embed_append_index {slug : String} (h : isSafeSlug slug = true)
    (hr : isReserved slug = false) : Text.startsWith (slug ++ "/index.html") "embed/" = false := by
  rw [← Bool.not_eq_true]
  intro hembed
  rw [Text.startsWith, List.isPrefixOf_iff_prefix, String.toList_append] at hembed
  have hhead := headD_splitOn_of_prefix (by decide : '/' ∉ "embed".toList) hembed
  rw [List.splitOn_eq_singleton (slash_notMem_of_isSafeSlug h), List.headD_cons] at hhead
  rw [String.toList_inj.mp hhead] at hr
  exact absurd hr (by decide)

/-- The page of a route that is not reserved is none for embedding. -/
theorem startsWith_embed_filePath {route : String} (hr : isReserved (root route) = false) :
    Text.startsWith (filePath route) "embed/" = false := by
  unfold filePath
  split
  · decide
  · rw [← Bool.not_eq_true]
    intro hembed
    rw [Text.startsWith, List.isPrefixOf_iff_prefix, String.toList_append,
      String.toList_ofList] at hembed
    have hhead := headD_splitOn_of_prefix (by decide : '/' ∉ "embed".toList) hembed
    rw [String.toList_ofList] at hhead
    rw [root, parts, Text.splitOnChar, hhead] at hr
    exact absurd hr (by decide)

/-- Trimming leaves what stands alone between two slashes, or behind one. -/
theorem trimSlashes_cons {cs : List Char} (h : '/' ∉ cs) :
    trimSlashes ('/' :: cs) = cs ∧ trimSlashes ('/' :: (cs ++ ['/'])) = cs := by
  have hhead : cs.head? ≠ some '/' := fun hmem => h (List.mem_of_head? hmem)
  have hlast : cs.getLast? ≠ some '/' := fun hmem => h (List.mem_of_getLast? hmem)
  exact ⟨trimSlashes_slash_cons hhead hlast (.inl rfl),
    trimSlashes_slash_cons hhead hlast (.inr rfl)⟩

theorem ne_empty_of_isSafeSlug {slug : String} (h : isSafeSlug slug = true) : slug ≠ "" := by
  rintro rfl
  exact absurd h (by decide)

/-- The file of a name that stands alone in a route, with or without a slash at its end. -/
theorem filePath_name {name : String} (hne : name ≠ "") (hslash : '/' ∉ name.toList) :
    filePath ("/" ++ name) = name ++ "/index.html" ∧
      filePath ("/" ++ name ++ "/") = name ++ "/index.html" := by
  have hopen : ("/" ++ name).toList = '/' :: name.toList := String.toList_append
  have hboth : ("/" ++ name ++ "/").toList = '/' :: (name.toList ++ ['/']) := by
    rw [String.toList_append, hopen]
    rfl
  have hroot (route : String) (cs : List Char) (hcs : name.toList ++ cs ≠ [])
      (h : route.toList = '/' :: (name.toList ++ cs)) : route ≠ "/" := by
    rintro rfl
    exact hcs (List.cons.inj h).2.symm
  have hname : name.toList ≠ [] := fun h => hne (String.toList_inj.mp h)
  constructor
  · have hroute := hroot ("/" ++ name) [] (by simpa using hname) (by rw [hopen, List.append_nil])
    rw [filePath, if_neg hroute, hopen, (trimSlashes_cons hslash).1, String.ofList_toList]
  · have hroute := hroot ("/" ++ name ++ "/") ['/'] (by simp) hboth
    rw [filePath, if_neg hroute, hboth, (trimSlashes_cons hslash).2, String.ofList_toList]

/-- Only the root has the home page as its file. -/
theorem filePath_eq_index_iff {route : String} : filePath route = "index.html" ↔ route = "/" := by
  unfold filePath
  split
  · next h => exact iff_of_true rfl h
  · next h =>
    refine iff_of_false (fun heq => ?_) h
    have hslash : '/' ∈ (String.ofList (trimSlashes route.toList) ++ "/index.html").toList := by
      rw [String.toList_append]
      exact List.mem_append_right _ List.mem_cons_self
    exact absurd (heq ▸ hslash) (by decide)

/-- The file of a route is the home page, or lies in a directory. -/
theorem filePath_eq_index_or_slash_mem (route : String) :
    filePath route = "index.html" ∨ '/' ∈ (filePath route).toList := by
  unfold filePath
  split
  · exact .inl rfl
  · rw [String.toList_append]
    exact .inr (List.mem_append_right _ List.mem_cons_self)

/-! ### Routes with the same file -/

/-- **The form of a safe route** other than the root: a slash, a text that neither begins nor ends
with one, and perhaps a slash at the end. -/
theorem exists_core_of_isSafeRoute {route : String} (h : isSafeRoute route = true)
    (hroot : route ≠ "/") :
    ∃ core, core ≠ [] ∧ core.head? ≠ some '/' ∧ core.getLast? ≠ some '/' ∧
      (route.toList = '/' :: core ∨ route.toList = '/' :: core ++ ['/']) := by
  obtain ⟨t, ht, hroute | hroute⟩ := isSafeRoute_iff.mp h
  · rcases (exists_isJoin_of_isRouteText t).1 ht with rfl | ⟨parts, hne, hparts, hjoin⟩
    · exact absurd (String.toList_inj.mp hroute) hroot
    · obtain ⟨hhead, hlast⟩ := head?_getLast?_intercalate_slash fun part hp =>
        ⟨ne_nil_of_isSlugText (hparts part hp), slash_notMem_of_isSlugText (hparts part hp)⟩
      refine ⟨_, fun hnil => ?_, hhead, hlast, hjoin.imp ?_ ?_⟩
      · rw [IsJoin, hnil] at hjoin
        rcases hjoin with rfl | rfl
        · exact hroot (String.toList_inj.mp hroute)
        · exact absurd ht (by decide)
      · rintro rfl
        exact hroute
      · rintro rfl
        exact hroute
  -- The line feed at the end keeps the slash before it.
  · refine ⟨t ++ ['\n'], by simp, ?_, by simp, .inl hroute⟩
    cases t with
    | nil => decide
    | cons c rest =>
      rw [isRouteText, Bool.and_eq_true] at ht
      have hc : c ≠ '/' := ne_slash_of_isSlugChar (isSlugChar_of_isSlugStart ht.1)
      simpa using hc

/-- The file of a route lies in the directory that is its text between the slashes at its ends. -/
theorem filePath_of_core {route : String} {core : List Char} (hne : core ≠ [])
    (hhead : core.head? ≠ some '/') (hlast : core.getLast? ≠ some '/')
    (h : route.toList = '/' :: core ∨ route.toList = '/' :: core ++ ['/']) :
    filePath route = String.ofList core ++ "/index.html" := by
  have hroot : route ≠ "/" := by
    rintro rfl
    rcases h with h | h
    · exact hne (List.cons.inj h).2.symm
    · exact List.append_ne_nil_of_right_ne_nil core (List.cons_ne_nil _ _) (List.cons.inj h).2.symm
  rw [filePath, if_neg hroot]
  rcases h with h | h
  · rw [h, trimSlashes_slash_cons hhead hlast (.inl rfl)]
  · rw [h, List.cons_append, trimSlashes_slash_cons hhead hlast (.inr rfl)]

/-- A safe route and the same one with a slash at its end have one file. -/
theorem filePath_append_slash {route : String} (h : isSafeRoute (route ++ "/") = true)
    (hne : route ≠ "") : filePath (route ++ "/") = filePath route := by
  have hslash : (route ++ "/").toList = route.toList ++ ['/'] := String.toList_append
  have hroot : route ++ "/" ≠ "/" := by
    intro heq
    have hnil : route.toList ++ ['/'] = [] ++ ['/'] := hslash ▸ congrArg String.toList heq
    exact hne (String.toList_inj.mp (List.append_cancel_right hnil))
  obtain ⟨core, hcore, hhead, hlast, hroute⟩ := exists_core_of_isSafeRoute h hroot
  have hshort : route.toList = '/' :: core := by
    rcases hroute with hroute | hroute
    -- A text that ends in a slash is not the slash before a core, which does not end in one.
    · refine absurd ?_ hlast
      obtain ⟨c, rest, rfl⟩ := List.exists_cons_of_ne_nil hcore
      rw [← List.getLast?_cons_cons, ← hroute, hslash, List.getLast?_concat]
    · exact List.append_cancel_right (hslash.symm.trans hroute)
  rw [filePath_of_core hcore hhead hlast hroute, filePath_of_core hcore hhead hlast (.inl hshort)]

/-- **Safe routes have the same file** exactly if they are the same but for a slash at the end. -/
theorem filePath_eq_iff {r s : String} (hr : isSafeRoute r = true) (hs : isSafeRoute s = true) :
    filePath r = filePath s ↔ r = s ∨ r = s ++ "/" ∨ s = r ++ "/" := by
  have hempty {t : String} (ht : isSafeRoute t = true) : t ≠ "" := by
    rintro rfl
    exact absurd ht (by decide)
  constructor
  · intro heq
    by_cases hroot : r = "/"
    · rw [hroot] at heq
      exact .inl (hroot.trans (filePath_eq_index_iff.mp heq.symm).symm)
    by_cases hroot' : s = "/"
    · rw [hroot'] at heq
      exact absurd (filePath_eq_index_iff.mp heq) hroot
    -- Apart from the root, a safe route is its core with a slash before it, and perhaps one behind
    -- it; the file is named for the core.
    obtain ⟨core, hne, hhead, hlast, hroute⟩ := exists_core_of_isSafeRoute hr hroot
    obtain ⟨core', hne', hhead', hlast', hroute'⟩ := exists_core_of_isSafeRoute hs hroot'
    rw [filePath_of_core hne hhead hlast hroute, filePath_of_core hne' hhead' hlast' hroute',
      String.append_left_inj, String.ofList_inj] at heq
    subst heq
    simp only [← String.toList_inj, String.toList_append]
    rcases hroute with hroute | hroute <;> rcases hroute' with hroute' | hroute' <;>
      rw [hroute, hroute'] <;> simp
  · rintro (rfl | rfl | rfl)
    · rfl
    · exact filePath_append_slash hr (hempty hs)
    · exact (filePath_append_slash hs (hempty hr)).symm

end StaticSite.Route

namespace StaticSite

/-! ### Routes as links hold them -/

/-- A text without special characters is written as it is. -/
theorem text_esc_eq_self {s : String} (h : ∀ c ∈ s.toList, Markup.escapeChar c = [c]) :
    (esc s).text = s := by
  show String.ofList (s.toList.flatMap Markup.escapeChar) = s
  rw [List.flatMap_congr h, List.flatMap_singleton', String.ofList_toList]

/-- The characters of slugs have no meaning in markup. -/
theorem escapeChar_of_isSlugChar {c : Char} (hc : Route.isSlugChar c = true) :
    Markup.escapeChar c = [c] := by
  unfold Markup.escapeChar
  -- Each character that is escaped is none of a slug.
  repeat' split
  case isFalse => rfl
  all_goals
    next heq =>
    rw [beq_iff_eq.mp heq] at hc
    exact absurd hc (by decide)

/-- The characters of a safe slug have no meaning in markup, and neither has a line feed. -/
theorem escapeChar_of_mem_slug {slug : String} (h : Route.isSafeSlug slug = true) :
    ∀ c ∈ slug.toList, Markup.escapeChar c = [c] := by
  obtain ⟨t, ht, hs⟩ := Route.isSafeSlug_iff.mp h
  have ht' : ∀ c ∈ t, Markup.escapeChar c = [c] := fun c hc =>
    escapeChar_of_isSlugChar (Route.isSlugChar_of_mem_of_isSlugText ht hc)
  rcases hs with hs | hs <;> rw [hs]
  · exact ht'
  · rw [List.forall_mem_append, List.forall_mem_singleton]
    exact ⟨ht', rfl⟩

/-- The route of an article is written as it is. -/
theorem text_esc_route {a : Article} (h : Route.isSafeSlug a.slug = true) :
    (esc a.route).text = a.route := by
  have hslash : ∀ c ∈ "/".toList, Markup.escapeChar c = [c] := List.forall_mem_singleton.mpr rfl
  refine text_esc_eq_self ?_
  rw [Article.route, String.toList_append, String.toList_append, List.forall_mem_append,
    List.forall_mem_append]
  exact ⟨⟨hslash, escapeChar_of_mem_slug h⟩, hslash⟩

/-- A safe route is written as it is. -/
theorem text_esc_of_isSafeRoute {route : String} (h : Route.isSafeRoute route = true) :
    (esc route).text = route := by
  obtain ⟨t, ht, hroute⟩ := Route.isSafeRoute_iff.mp h
  have ht' : ∀ c ∈ '/' :: t, Markup.escapeChar c = [c] := by
    rw [List.forall_mem_cons]
    refine ⟨rfl, fun c hc => ?_⟩
    rcases Route.isSlugChar_or_eq_slash_of_isRouteText ht c hc with hslug | rfl
    · exact escapeChar_of_isSlugChar hslug
    · rfl
  refine text_esc_eq_self ?_
  rcases hroute with hroute | hroute <;> rw [hroute]
  · exact ht'
  · rw [List.forall_mem_append, List.forall_mem_singleton]
    exact ⟨ht', rfl⟩

end StaticSite
