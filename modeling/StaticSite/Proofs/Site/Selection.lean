import Mathlib.Data.List.Induction
import StaticSite.Proofs.Site.Route
import StaticSite.Site.Selection

/-!
# What is published, as a selection

`liveArticles` and `publishedPages` filter the records of a request and keep the first record for
each place. The second step is `firstOfEach`, whose laws come first here:

* it keeps a sublist (`firstOfEach_sublist`), none of whose keys was seen before
  (`key_notMem_seen_of_mem_firstOfEach`);
* no two of the elements it keeps have the same key (`nodup_map_firstOfEach`);
* it keeps everything when there is nothing to leave out (`firstOfEach_eq_self`), and it keeps
  something as soon as there is something (`firstOfEach_eq_nil_iff`);
* after a filter it keeps what comes first (`firstOfEach_filter`): an element that passes the filter
  and whose key no element before it has that passes as well (`ComesFirst`).

From these follow the facts about either kind of record: what is published may be published, its
places are distinct, and a second selection changes nothing. A site is made of pages exactly if
there are published pages (`CompileRequest.mode_eq_pages_iff`), although the mode is chosen from
the filter alone, before the first page of each place is picked.

`selection_is_first_come` puts the selection of either kind in terms of the records of the request
alone, and says which routes are the same place.
-/

namespace StaticSite

/-! ### The first element for each key -/

section FirstOfEach

variable {α κ : Type} [BEq κ] [LawfulBEq κ] {key : α → κ}

omit [LawfulBEq κ] in
theorem firstOfEach_sublist (seen : List κ) (xs : List α) :
    (firstOfEach key seen xs).Sublist xs := by
  induction xs generalizing seen with
  | nil => exact List.Sublist.refl _
  | cons x xs ih =>
    unfold firstOfEach
    split
    · exact (ih seen).cons x
    · exact (ih _).cons_cons x

theorem key_notMem_seen_of_mem_firstOfEach {seen : List κ} {xs : List α} {x : α}
    (hx : x ∈ firstOfEach key seen xs) : key x ∉ seen := by
  induction xs generalizing seen with
  | nil => exact absurd hx List.not_mem_nil
  | cons y ys ih =>
    unfold firstOfEach at hx
    split at hx
    · exact ih hx
    · next hy =>
      rw [List.contains_iff_mem] at hy
      rcases List.mem_cons.mp hx with rfl | hx
      · exact hy
      · exact fun hs => ih hx (List.mem_cons_of_mem _ hs)

/-- No two elements that are kept have the same key. -/
theorem nodup_map_firstOfEach (seen : List κ) (xs : List α) :
    ((firstOfEach key seen xs).map key).Nodup := by
  induction xs generalizing seen with
  | nil => exact List.nodup_nil
  | cons x xs ih =>
    unfold firstOfEach
    split
    · exact ih seen
    · rw [List.map_cons, List.nodup_cons]
      refine ⟨fun hx => ?_, ih _⟩
      obtain ⟨y, hy, hyx⟩ := List.mem_map.mp hx
      exact key_notMem_seen_of_mem_firstOfEach hy (hyx ▸ List.mem_cons_self)

/-- Of the elements with a key that was not seen one is kept. -/
theorem exists_mem_firstOfEach {seen : List κ} {xs : List α} {x : α} (hx : x ∈ xs)
    (hseen : key x ∉ seen) : ∃ y ∈ firstOfEach key seen xs, key y = key x := by
  -- On the list: an element that is left out has a key that was seen, and so is not `x`.
  induction xs generalizing seen with
  | nil => exact absurd hx List.not_mem_nil
  | cons z zs ih =>
    unfold firstOfEach
    split
    · next hz =>
      rw [List.contains_iff_mem] at hz
      have hne : x ≠ z := fun heq => hseen (heq ▸ hz)
      exact ih ((List.mem_cons.mp hx).resolve_left hne) hseen
    · by_cases hkey : key x = key z
      · exact ⟨z, List.mem_cons_self, hkey.symm⟩
      · have hne : x ≠ z := fun heq => hkey (congrArg key heq)
        have hother : key x ∉ key z :: seen := List.not_mem_cons_of_ne_of_not_mem hkey hseen
        obtain ⟨y, hy, hyx⟩ := ih ((List.mem_cons.mp hx).resolve_left hne) hother
        exact ⟨y, List.mem_cons_of_mem _ hy, hyx⟩

/-- Elements with distinct keys that were not seen are all kept. -/
theorem firstOfEach_eq_self {seen : List κ} {xs : List α} (hn : (xs.map key).Nodup)
    (hs : ∀ x ∈ xs, key x ∉ seen) : firstOfEach key seen xs = xs := by
  induction xs generalizing seen with
  | nil => rfl
  | cons x xs ih =>
    rw [List.map_cons, List.nodup_cons] at hn
    rw [List.forall_mem_cons] at hs
    have hx : seen.contains (key x) = false := by
      rw [← Bool.not_eq_true, List.contains_iff_mem]
      exact hs.1
    rw [firstOfEach, hx, if_neg Bool.false_ne_true, ih hn.2]
    intro y hy hmem
    rcases List.mem_cons.mp hmem with hyx | hyx
    · exact hn.1 (hyx ▸ List.mem_map_of_mem hy)
    · exact hs.2 y hy hyx

omit [LawfulBEq κ] in
theorem firstOfEach_eq_nil_iff {xs : List α} : firstOfEach key [] xs = [] ↔ xs = [] := by
  cases xs with
  | nil => exact ⟨fun _ => rfl, fun _ => rfl⟩
  | cons x xs => exact ⟨fun h => (List.cons_ne_nil _ _ h).elim, fun h => by cases h⟩

/-- The last element is left out if its key is known. -/
theorem firstOfEach_concat_of_mem {seen : List κ} {xs : List α} {x : α}
    (h : key x ∈ seen ∨ key x ∈ xs.map key) :
    firstOfEach key seen (xs ++ [x]) = firstOfEach key seen xs := by
  induction xs generalizing seen with
  | nil =>
    exact if_pos (List.contains_iff_mem.mpr (h.resolve_right List.not_mem_nil))
  | cons y ys ih =>
    rw [List.map_cons, List.mem_cons] at h
    rw [List.cons_append, firstOfEach, firstOfEach]
    split
    · next hy =>
      rw [List.contains_iff_mem] at hy
      refine ih ?_
      rcases h with h | h | h
      · exact .inl h
      · exact .inl (h ▸ hy)
      · exact .inr h
    · rw [ih (by rwa [List.mem_cons, or_assoc, or_left_comm])]

/-- The last element is kept if its key is new. -/
theorem firstOfEach_concat_of_notMem {seen : List κ} {xs : List α} {x : α}
    (hseen : key x ∉ seen) (h : key x ∉ xs.map key) :
    firstOfEach key seen (xs ++ [x]) = firstOfEach key seen xs ++ [x] := by
  induction xs generalizing seen with
  | nil => exact if_neg (mt List.contains_iff_mem.mp hseen)
  | cons y ys ih =>
    rw [List.map_cons, List.mem_cons, not_or] at h
    rw [List.cons_append, firstOfEach, firstOfEach]
    split
    · exact ih hseen h.2
    · rw [ih (List.not_mem_cons_of_ne_of_not_mem h.1 hseen) h.2, List.cons_append]

end FirstOfEach

/-! ### The first element of each key, by what stands before it -/

section FirstsOf

variable {α κ : Type} [DecidableEq κ]

/-- **First come, first served.** An element comes first if it has a property and none of those
before it has both the property and the key of the element. -/
def ComesFirst (p : α → Prop) (key : α → κ) (before : List α) (x : α) : Prop :=
  p x ∧ ∀ y ∈ before, p y → key y ≠ key x

instance (p : α → Prop) [DecidablePred p] (key : α → κ) (before : List α) (x : α) :
    Decidable (ComesFirst p key before x) :=
  inferInstanceAs (Decidable (_ ∧ _))

/-- **The elements that come first**, in order. -/
def firstsOf (p : α → Prop) [DecidablePred p] (key : α → κ) (xs : List α) : List α :=
  (xs.zipIdx.filter fun e => ComesFirst p key (xs.take e.2) e.1).map Prod.fst

variable {p : α → Prop} [DecidablePred p] {key : α → κ}

theorem firstsOf_concat (xs : List α) (x : α) :
    firstsOf p key (xs ++ [x]) =
      firstsOf p key xs ++ if ComesFirst p key xs x then [x] else [] := by
  have hbefore : (xs.zipIdx.filter fun e => ComesFirst p key ((xs ++ [x]).take e.2) e.1) =
      xs.zipIdx.filter fun e => ComesFirst p key (xs.take e.2) e.1 := by
    refine List.filter_congr fun e he => ?_
    rw [List.take_append_of_le_length (Nat.le_of_lt (List.snd_lt_of_mem_zipIdx he))]
  unfold firstsOf
  rw [List.zipIdx_append, List.filter_append, List.map_append, hbefore]
  congr 1
  split <;> simp [*]

theorem firstOfEach_filter (q : α → Bool) (h : ∀ x, q x = true ↔ p x) (xs : List α) :
    firstOfEach key [] (xs.filter q) = firstsOf p key xs := by
  -- On the list from its end, since whether an element is the first of its key depends on those
  -- before it.
  induction xs using List.reverseRecOn with
  | nil => rfl
  | append_singleton xs x ih =>
    rw [List.filter_append, firstsOf_concat, ← ih]
    by_cases hx : q x = true
    · rw [List.filter_cons_of_pos hx, List.filter_nil]
      have hkey : key x ∈ (xs.filter q).map key ↔ ∃ y ∈ xs, p y ∧ key y = key x := by
        simp [h, and_assoc]
      by_cases hmem : key x ∈ (xs.filter q).map key
      · obtain ⟨y, hy, hp, heq⟩ := hkey.mp hmem
        rw [firstOfEach_concat_of_mem (.inr hmem), if_neg fun hc => hc.2 y hy hp heq,
          List.append_nil]
      · rw [firstOfEach_concat_of_notMem List.not_mem_nil hmem, if_pos]
        exact ⟨(h x).mp hx, fun y hy hp heq => hmem (hkey.mpr ⟨y, hy, hp, heq⟩)⟩
    · rw [List.filter_cons_of_neg hx, List.filter_nil, if_neg fun hc => hx ((h x).mpr hc.1)]
      simp

end FirstsOf

/-! ### Articles -/

theorem isPublishable_of_mem_liveArticles {articles : List Article} {a : Article}
    (h : a ∈ liveArticles articles) : a.isPublishable = true :=
  (List.mem_filter.mp ((firstOfEach_sublist _ _).mem h)).2

theorem isSafeSlug_of_mem_liveArticles {articles : List Article} {a : Article}
    (h : a ∈ liveArticles articles) : Route.isSafeSlug a.slug = true := by
  have hp := isPublishable_of_mem_liveArticles h
  rw [Article.isPublishable, Bool.and_eq_true, Bool.and_eq_true] at hp
  exact hp.1.2

theorem not_isReserved_of_mem_liveArticles {articles : List Article} {a : Article}
    (h : a ∈ liveArticles articles) : Route.isReserved a.slug = false := by
  have hp := isPublishable_of_mem_liveArticles h
  rw [Article.isPublishable, Bool.and_eq_true, Bool.not_eq_true'] at hp
  exact hp.2

theorem nodup_slug_liveArticles (articles : List Article) :
    ((liveArticles articles).map Article.slug).Nodup :=
  nodup_map_firstOfEach _ _

/-- A second selection of articles changes nothing. -/
theorem liveArticles_liveArticles (articles : List Article) :
    liveArticles (liveArticles articles) = liveArticles articles := by
  have hf : (liveArticles articles).filter Article.isPublishable = liveArticles articles :=
    List.filter_eq_self.mpr fun _ => isPublishable_of_mem_liveArticles
  rw [liveArticles, hf]
  exact firstOfEach_eq_self (nodup_slug_liveArticles articles) fun _ _ => List.not_mem_nil

/-! ### Pages -/

theorem isPublishable_of_mem_publishedPages {pages : List Page} {p : Page}
    (h : p ∈ publishedPages pages) : p.isPublishable = true :=
  (List.mem_filter.mp ((firstOfEach_sublist _ _).mem h)).2

theorem isSafeRoute_of_mem_publishedPages {pages : List Page} {p : Page}
    (h : p ∈ publishedPages pages) : Route.isSafeRoute p.route = true := by
  have hp := isPublishable_of_mem_publishedPages h
  rw [Page.isPublishable, Bool.and_eq_true, Bool.and_eq_true] at hp
  exact hp.1.2

theorem not_isReserved_of_mem_publishedPages {pages : List Page} {p : Page}
    (h : p ∈ publishedPages pages) : Route.isReserved (Route.root p.route) = false := by
  have hp := isPublishable_of_mem_publishedPages h
  rw [Page.isPublishable, Bool.and_eq_true, Bool.not_eq_true'] at hp
  exact hp.2

theorem nodup_filePath_publishedPages (pages : List Page) :
    ((publishedPages pages).map fun p => Route.filePath p.route).Nodup :=
  nodup_map_firstOfEach _ _

/-- A page that may be published has its file, perhaps with another page in it. -/
theorem exists_publishedPage_of_isPublishable {pages : List Page} {q : Page} (hq : q ∈ pages)
    (h : q.isPublishable = true) :
    ∃ p ∈ publishedPages pages, Route.filePath p.route = Route.filePath q.route :=
  exists_mem_firstOfEach (List.mem_filter.mpr ⟨hq, h⟩) List.not_mem_nil

theorem mem_of_mem_publishedPages {pages : List Page} {p : Page} (h : p ∈ publishedPages pages) :
    p ∈ pages :=
  (List.mem_filter.mp ((firstOfEach_sublist _ _).mem h)).1

/-- A second selection of pages changes nothing. -/
theorem publishedPages_publishedPages (pages : List Page) :
    publishedPages (publishedPages pages) = publishedPages pages := by
  have hf : (publishedPages pages).filter Page.isPublishable = publishedPages pages :=
    List.filter_eq_self.mpr fun _ => isPublishable_of_mem_publishedPages
  rw [publishedPages, hf]
  exact firstOfEach_eq_self (nodup_filePath_publishedPages pages) fun _ _ => List.not_mem_nil

theorem publishedPages_eq_nil_iff {pages : List Page} :
    publishedPages pages = [] ↔ ∀ p ∈ pages, p.isPublishable = false := by
  rw [publishedPages, firstOfEach_eq_nil_iff, List.filter_eq_nil_iff]
  exact forall₂_congr fun _ _ => iff_of_eq (Bool.not_eq_true _)

/-! ### The mode of a request -/

/-- **The mode and the published pages.** The test on single pages by which the mode is chosen
finds a page exactly if some page is published. -/
theorem CompileRequest.mode_eq_pages_iff (r : CompileRequest) :
    r.mode = .pages ↔ publishedPages r.pages ≠ [] := by
  rw [ne_eq, publishedPages_eq_nil_iff, CompileRequest.mode]
  split
  · next h =>
    obtain ⟨p, hp, hpub⟩ := List.any_eq_true.mp h
    exact iff_of_true rfl fun hall => Bool.false_ne_true ((hall p hp).symm.trans hpub)
  · next h =>
    refine iff_of_false SiteMode.noConfusion fun hsome => hsome fun p hp => ?_
    exact (Bool.not_eq_true _).mp fun hpub => h (List.any_eq_true.mpr ⟨p, hp, hpub⟩)

theorem CompileRequest.mode_eq_articles_iff (r : CompileRequest) :
    r.mode = .articles ↔ publishedPages r.pages = [] := by
  have h := r.mode_eq_pages_iff
  cases hm : r.mode with
  | articles => simpa [hm] using h
  | pages => simpa [hm] using h

/-! ### First come, first served -/

/-- **What an article has to meet** to be published: it is marked so and not deleted, and its slug
is safe and not reserved. -/
def Article.Qualifies (a : Article) : Prop :=
  a.status = .published ∧ a.times.deleted = none ∧ Route.isSafeSlug a.slug = true ∧
    a.slug ∉ Route.reserved

instance : DecidablePred Article.Qualifies := fun _ =>
  inferInstanceAs (Decidable (_ ∧ _ = none ∧ _ ∧ _))

/-- **What a page has to meet** to be published: it is marked so, its route is safe, and the first
part of the route is not reserved. -/
def Page.Qualifies (p : Page) : Prop :=
  p.isPublished = true ∧ Route.isSafeRoute p.route = true ∧ Route.root p.route ∉ Route.reserved

instance : DecidablePred Page.Qualifies := fun _ => inferInstanceAs (Decidable (_ ∧ _ ∧ _))

theorem Route.isReserved_iff {root : String} : isReserved root = true ↔ root ∈ reserved :=
  List.contains_iff_mem

theorem Article.isPublishable_iff (a : Article) : a.isPublishable = true ↔ a.Qualifies := by
  rw [isPublishable, isLive, Bool.and_eq_true, Bool.and_eq_true, Bool.and_eq_true, beq_iff_eq,
    Option.isNone_iff_eq_none, Bool.not_eq_true', ← Bool.not_eq_true, Route.isReserved_iff,
    and_assoc, and_assoc]
  exact Iff.rfl

theorem Page.isPublishable_iff (p : Page) : p.isPublishable = true ↔ p.Qualifies := by
  rw [isPublishable, Bool.and_eq_true, Bool.and_eq_true, Bool.not_eq_true', ← Bool.not_eq_true,
    Route.isReserved_iff, and_assoc]
  exact Iff.rfl

/-- **First come, first served.** The published articles are those that qualify and whose slug no
qualifying article before them has, in order; the published pages are those that qualify and whose
file no qualifying page before them has, in order. What does not qualify takes no place. Two safe
routes have the same file exactly if they are the same but for a slash at the end. -/
theorem selection_is_first_come :
    (∀ articles, liveArticles articles = firstsOf Article.Qualifies Article.slug articles) ∧
    (∀ pages, publishedPages pages =
      firstsOf Page.Qualifies (fun p => Route.filePath p.route) pages) ∧
    ∀ r s, Route.isSafeRoute r = true → Route.isSafeRoute s = true →
      (Route.filePath r = Route.filePath s ↔ r = s ∨ r = s ++ "/" ∨ s = r ++ "/") :=
  ⟨fun articles => firstOfEach_filter _ Article.isPublishable_iff articles,
    fun pages => firstOfEach_filter _ Page.isPublishable_iff pages,
    fun _ _ => Route.filePath_eq_iff⟩

/-- A route and the same one with a slash at its end are one place. -/
theorem guide_with_slash_is_one_place :
    Route.isSafeRoute "/guide/roof" = true ∧ Route.isSafeRoute "/guide/roof/" = true ∧
      Route.filePath "/guide/roof" = Route.filePath "/guide/roof/" :=
  have hroute : Route.isSafeRoute "/guide/roof" = true := by decide
  have hslash : Route.isSafeRoute "/guide/roof/" = true := by decide
  ⟨hroute, hslash,
    (selection_is_first_come.2.2 _ _ hroute hslash).mpr (.inr (.inr (by decide)))⟩

end StaticSite
