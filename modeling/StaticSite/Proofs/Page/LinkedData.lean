import StaticSite.Proofs.Page.Addresses
import StaticSite.Proofs.Page.Fragments
import StaticSite.Proofs.Json.InScript
import StaticSite.Proofs.Widget.Infographic

/-!
# The linked data of articles

The page of an article describes it to machines by an object (`linkedObjects`). What the type of the
article gives for this object, besides the members about its subject, is published
(`further_data_is_published`), with one exception: a map gives the names of its regions, but counts
as a text, and of a text no further data is taken (`regions_of_texas_are_left_out`).

An object is read back from the page because its values are plain and its names differ
(`Json.IsPlain`); every type of article sees to that (`ArticleParts.GivesData`). That there is no
other object on a page is shown by counting the tags that begin one (`length_linkedObjects_le`).
-/

namespace StaticSite

variable {name : String} {value : Json} {fields extra : List (String × Json)} {m : String × Json}

/-! ### Objects whose fields are set -/

namespace Json

theorem names_setField : (setField name value fields).map Prod.fst =
    if name ∈ fields.map Prod.fst then fields.map Prod.fst else fields.map Prod.fst ++ [name] := by
  induction fields with
  | nil => rfl
  | cons f fields ih =>
    obtain ⟨n, v⟩ := f
    rw [setField]
    by_cases hn : n = name
    · rw [if_pos hn, if_pos (by simp [hn])]
      rfl
    · rw [if_neg hn, List.map_cons, ih]
      simp only [List.map_cons, List.mem_cons, Ne.symm hn, false_or]
      split <;> rfl

theorem nodup_setField (name : String) (value : Json) (h : (fields.map Prod.fst).Nodup) :
    ((setField name value fields).map Prod.fst).Nodup := by
  rw [names_setField]
  split
  · exact h
  · next hnot =>
    refine List.nodup_append.mpr ⟨h, by simp, fun n hn _ hname => ?_⟩
    rintro rfl
    exact hnot (List.mem_singleton.mp hname ▸ hn)

/-- A field that is set takes the place of the one with its name. -/
theorem mem_setField_iff (h : (fields.map Prod.fst).Nodup) :
    m ∈ setField name value fields ↔ m = (name, value) ∨ m ∈ fields ∧ m.1 ≠ name := by
  induction fields with
  | nil => simp [setField]
  | cons f fields ih =>
    obtain ⟨n, v⟩ := f
    obtain ⟨hnot, hrest⟩ := List.nodup_cons.mp h
    rw [setField]
    by_cases hn : n = name
    · -- The names of the fields behind are other ones.
      have hother : m ∈ fields → m.1 ≠ name := fun hm heq =>
        hnot (List.mem_map.mpr ⟨m, hm, heq.trans hn.symm⟩)
      rw [if_pos hn, List.mem_cons, List.mem_cons, hn]
      constructor
      · rintro (rfl | hm)
        · exact .inl rfl
        · exact .inr ⟨.inr hm, hother hm⟩
      · rintro (rfl | ⟨rfl | hm, hne⟩)
        · exact .inl rfl
        · exact absurd rfl hne
        · exact .inr hm
    · rw [if_neg hn, List.mem_cons, List.mem_cons, ih hrest]
      constructor
      · rintro (rfl | rfl | ⟨hm, hne⟩)
        · exact .inr ⟨.inl rfl, hn⟩
        · exact .inl rfl
        · exact .inr ⟨.inr hm, hne⟩
      · rintro (rfl | ⟨rfl | hm, hne⟩)
        · exact .inr (.inl rfl)
        · exact .inl rfl
        · exact .inr (.inr ⟨hm, hne⟩)

/-- Fields that are set one after the other, no two of one name. -/
theorem foldl_setField_spec (hextra : (extra.map Prod.fst).Nodup)
    (h : (fields.map Prod.fst).Nodup) :
    let all := extra.foldl (fun fs f => setField f.1 f.2 fs) fields
    (all.map Prod.fst).Nodup ∧
      ∀ m, m ∈ all ↔ m ∈ extra ∨ m ∈ fields ∧ m.1 ∉ extra.map Prod.fst := by
  -- On the fields that are set: each one takes the place of one with its name, if there is any.
  induction extra generalizing fields with
  | nil => exact ⟨h, by simp⟩
  | cons f extra ih =>
    obtain ⟨n, v⟩ := f
    obtain ⟨hnot, hrest⟩ := List.nodup_cons.mp hextra
    obtain ⟨hnodup, hmem⟩ := ih hrest (nodup_setField n v h)
    refine ⟨hnodup, fun m => ?_⟩
    rw [List.foldl_cons, hmem, mem_setField_iff h, List.mem_cons, List.map_cons, List.mem_cons,
      not_or]
    constructor
    · rintro (hm | ⟨rfl | ⟨hm, hne⟩, hother⟩)
      · exact .inl (.inr hm)
      · exact .inl (.inl rfl)
      · exact .inr ⟨hm, hne, hother⟩
    · rintro ((rfl | hm) | ⟨hm, hne, hother⟩)
      · exact .inr ⟨.inl rfl, hnot⟩
      · exact .inl hm
      · exact .inr ⟨.inr ⟨hm, hne⟩, hother⟩

end Json

/-! ### Linked data on a page -/

/-- What the tag of linked data begins with, up to its text. -/
def linkedDataOpening : List Char := "script type=\"application/ld+json\">".toList

/-- The members of the object that a text of linked data is. -/
def linkedObject? (text : String) : Option (List (String × Json)) :=
  match Json.parse text with
  | .ok (.obj members) => some members
  | _ => none

/-- **The objects of the linked data on a page**, in order: the texts of its elements, as a machine
reads them. -/
def linkedObjects (page : String) : List (List (String × Json)) :=
  (valuesAfter linkedDataOpening '<' page).filterMap linkedObject?

/-- The members that linked data has: those with a value. -/
def givenMembers (members : List (String × Json)) : List (String × Json) :=
  members.filter fun (_, v) => v != .null

theorem mem_givenMembers {members : List (String × Json)} :
    m ∈ givenMembers members ↔ m ∈ members ∧ m.2 ≠ .null := by
  have hnull (v : Json) : (v != .null) = true ↔ v ≠ .null := by
    cases v with
    | null => exact iff_of_false (by decide) (not_not_intro rfl)
    | _ => exact iff_of_true rfl nofun
  exact List.mem_filter.trans (and_congr_right' (hnull m.2))

theorem linkedObject?_inScript (h : (Json.obj fields).IsPlain) :
    linkedObject? (Html.inScript ((Json.obj fields).render .unicode)).text = some fields := by
  rw [linkedObject?, h.parse_scripted]

/-- An element with linked data is read wherever it stands. -/
theorem mem_valuesAfter_of_isInfix {contents : Markup} {page : String}
    (hcontents : '<' ∉ contents.text.toList)
    (h : (el "script" [attr "type" "application/ld+json"] contents).text.toList <:+:
      page.toList) : contents.text ∈ valuesAfter linkedDataOpening '<' page := by
  obtain ⟨before, after, hpage⟩ := h
  -- Both tags of the element, as they are written.
  have hstart : (startTag "script" [attr "type" "application/ld+json"]).text.toList =
      '<' :: linkedDataOpening := by decide +kernel
  have hend : (endTag "script").text.toList = '<' :: "/script>".toList := by decide
  -- The text of the tag goes on to the next one, which is the end of the element.
  have hvalue : '<' ∉ linkedDataOpening ++ contents.text.toList := by
    rw [List.mem_append, not_or]
    exact ⟨by decide, hcontents⟩
  have hlead (rest : List Char) :
      leadText (linkedDataOpening ++ contents.text.toList ++ '<' :: rest) =
        linkedDataOpening ++ (contents.text.toList ++ []) := by
    rw [leadText_append_tag, List.append_nil, ← List.append_nil (_ ++ _), leadText_append hvalue]
    rfl
  rw [el, Markup.toList_append, Markup.toList_append, hstart, hend] at hpage
  refine List.mem_filterMap.mpr ⟨linkedDataOpening ++ (contents.text.toList ++ []), ?_,
    valueAfter?_append hcontents rfl⟩
  rw [← hpage, ← hlead ("/script>".toList ++ after)]
  simp only [List.append_assoc, List.cons_append]
  rw [tagTexts_append_tag, tagTexts_tag]
  exact List.mem_append_right _ List.mem_cons_self

/-- **Linked data is read back** from the page that it stands on. -/
theorem givenMembers_mem_linkedObjects {members : List (String × Json)} {page : String}
    (hnames : (members.map Prod.fst).Nodup) (hplain : ∀ m ∈ members, m.2.IsPlain)
    (h : (linkedData members).text.toList <:+: page.toList) :
    givenMembers members ∈ linkedObjects page := by
  have hobject : (Json.obj (givenMembers members)).IsPlain :=
    .obj (hnames.sublist (List.filter_sublist.map Prod.fst)) fun m hm =>
      hplain m (mem_givenMembers.mp hm).1
  exact List.mem_filterMap.mpr
    ⟨_, mem_valuesAfter_of_isInfix (Markup.lt_notMem_inScript _) h,
      linkedObject?_inScript hobject⟩

/-! ### The members about a subject -/

theorem isPlain_ofText? (s : Option String) : (Json.ofText? s).IsPlain := by
  cases s with
  | none => exact .null
  | some s => exact .str s

/-- An object with two texts. -/
theorem isPlain_obj_pair {n n' : String} (h : n ≠ n') (s s' : String) :
    (Json.obj [(n, .str s), (n', .str s')]).IsPlain := by
  refine .obj (List.nodup_cons.mpr ⟨mt List.mem_singleton.mp h, by simp⟩) ?_
  simp only [List.forall_mem_cons]
  exact ⟨.str _, .str _, nofun⟩

theorem isPlain_subjectMembers (a : Article) (domain : String) (subject : Subject) :
    ∀ m ∈ subjectMembers a domain subject, m.2.IsPlain := by
  have hcount : ((a.wordCount?.map fun n => Json.int n).getD .null).IsPlain := by
    cases a.wordCount? with
    | none => exact .null
    | some n => exact .int n
  unfold subjectMembers
  cases subject with
  | article =>
    simp only [List.forall_mem_cons]
    exact ⟨.str _, .str _, .str _, isPlain_obj_pair (by decide) _ _, isPlain_ofText? _,
      isPlain_ofText? _, .str _, hcount, isPlain_obj_pair (by decide) _ _,
      isPlain_obj_pair (by decide) _ _, nofun⟩
  | application =>
    simp only [List.forall_mem_cons]
    exact ⟨.str _, .str _, .str _, .str _, .str _, nofun⟩
  | list =>
    simp only [List.forall_mem_cons]
    exact ⟨.str _, .str _, .str _, nofun⟩
  | questions =>
    simp only [List.forall_mem_cons]
    exact ⟨.str _, .str _, nofun⟩
  | other className => exact nofun

namespace ArticleParts

variable {a : Article} {ctx : ArticleContext} {p : ArticleParts} {type : ContentType}
  {page : Markup}

/-- The members that describe the subject of an article. -/
def ownMembers (p : ArticleParts) (a : Article) (domain : String) : List (String × Json) :=
  vocabularyMember :: classMember p.subject.className :: subjectMembers a domain p.subject

/-- The names of these members differ, and no subject has a member by which it says what it is
about. -/
theorem names_ownMembers (p : ArticleParts) (a : Article) (domain : String) :
    ((p.ownMembers a domain).map Prod.fst).Nodup ∧
      "about" ∉ (p.ownMembers a domain).map Prod.fst := by
  unfold ownMembers
  cases p.subject <;> exact ⟨by simp [vocabularyMember, classMember, subjectMembers],
    by simp [vocabularyMember, classMember, subjectMembers]⟩

theorem isPlain_ownMembers (p : ArticleParts) (a : Article) (domain : String) :
    ∀ m ∈ p.ownMembers a domain, m.2.IsPlain := by
  unfold ownMembers
  simp only [List.forall_mem_cons]
  exact ⟨.str _, .str _, isPlain_subjectMembers a domain p.subject⟩

theorem isInfix_articleData (h : p.page a ctx = .ok page) :
    (articleData a ctx.domain p.subject p.extra).text.toList <:+: page.text.toList := by
  unfold ArticleParts.page at h
  split at h
  · cases h
  · next shell _ =>
    cases Except.ok.inj h
    have hbody : (articleData a ctx.domain p.subject p.extra).text.toList <:+:
        (p.body a ctx).text.toList := Markup.isInfix_stack (by simp)
    exact hbody.trans (shell.isInfix_contents _ _)

/-! ### What types of articles give -/

/-- **The further data that a type of article gives** for the linked data of its page. Its members
have names of their own and values, and only a map gives any about the subject `article`. -/
structure GivesData (p : ArticleParts) (type : ContentType) : Prop where
  nodup : (p.extra.map Prod.fst).Nodup
  given : ∀ m ∈ p.extra, m.2.IsPlain ∧ m.2 ≠ .null
  of_article : p.subject = .article → p.extra ≠ [] → type = .map
  of_map : type = .map → p.subject = .article ∧ ∀ m ∈ p.extra, m.1 = "about"

namespace GivesData

theorem of_nil (hextra : p.extra = []) (htype : type ≠ .map) : p.GivesData type where
  nodup := by rw [hextra]; exact List.nodup_nil
  given := by rw [hextra]; exact nofun
  of_article _ hne := absurd hextra hne
  of_map h := absurd h htype

theorem of_subject (hnodup : (p.extra.map Prod.fst).Nodup)
    (hgiven : ∀ m ∈ p.extra, m.2.IsPlain ∧ m.2 ≠ .null) (hsubject : p.subject ≠ .article)
    (htype : type ≠ .map) : p.GivesData type where
  nodup := hnodup
  given := hgiven
  of_article h := absurd h hsubject
  of_map h := absurd h htype

/-- **What linked data takes of the further members**: all of them, but for those of a map. -/
theorem mem_taken_iff (hp : p.GivesData type) :
    m ∈ (if p.subject = .article then [] else p.extra) ↔ m ∈ p.extra ∧ type ≠ .map := by
  split
  · next hsubject =>
    refine iff_of_false List.not_mem_nil fun ⟨hm, htype⟩ => htype ?_
    exact hp.of_article hsubject (List.ne_nil_of_mem hm)
  · next hsubject =>
    exact (and_iff_left fun htype => hsubject (hp.of_map htype).1).symm

/-- A member about the subject gives way to a further one that is taken, that is to any. -/
theorem notMem_taken_iff (hp : p.GivesData type) {domain : String}
    (hm : m ∈ p.ownMembers a domain) :
    m.1 ∉ (if p.subject = .article then [] else p.extra).map Prod.fst ↔
      m.1 ∉ p.extra.map Prod.fst := by
  obtain ⟨-, habout⟩ := p.names_ownMembers a domain
  -- What is not taken is that of a map, and it has the name of no member about a subject.
  refine not_congr ⟨fun h => ?_, fun h => ?_⟩
  · obtain ⟨f, hf, heq⟩ := List.mem_map.mp h
    exact List.mem_map.mpr ⟨f, (hp.mem_taken_iff.mp hf).1, heq⟩
  · obtain ⟨f, hf, heq⟩ := List.mem_map.mp h
    refine List.mem_map.mpr ⟨f, hp.mem_taken_iff.mpr ⟨hf, fun htype => habout ?_⟩, heq⟩
    rw [← (hp.of_map htype).2 f hf, heq]
    exact List.mem_map_of_mem hm

/-- The object about an article on its page: the further members, unless the article is a map, and
those about its subject that are not replaced. -/
theorem exists_linkedObject (hp : p.GivesData a.contentType) (h : p.page a ctx = .ok page) :
    ∃ fields ∈ linkedObjects page.text, (fields.map Prod.fst).Nodup ∧
      ∀ m, m ∈ fields ↔ (m ∈ p.extra ∧ a.contentType ≠ .map) ∨
        (m ∈ p.ownMembers a ctx.domain ∧ m.2 ≠ .null ∧ m.1 ∉ p.extra.map Prod.fst) := by
  obtain ⟨hown, -⟩ := p.names_ownMembers a ctx.domain
  have hnodup : ((if p.subject = .article then [] else p.extra).map Prod.fst).Nodup := by
    split
    · exact List.nodup_nil
    · exact hp.nodup
  -- The members before those without a value are left out, which no further one is.
  obtain ⟨hnames, hmem⟩ := Json.foldl_setField_spec hnodup hown
  refine ⟨_, givenMembers_mem_linkedObjects hnames (fun m hm => ?_) (isInfix_articleData h),
    hnames.sublist (List.filter_sublist.map Prod.fst), fun m => ?_⟩
  · rcases (hmem m).mp hm with hm | ⟨hm, -⟩
    · exact (hp.given m (hp.mem_taken_iff.mp hm).1).1
    · exact p.isPlain_ownMembers a ctx.domain m hm
  · rw [mem_givenMembers, hmem, hp.mem_taken_iff]
    constructor
    · rintro ⟨hm | ⟨hm, hother⟩, hnull⟩
      · exact .inl hm
      · exact .inr ⟨hm, hnull, (hp.notMem_taken_iff hm).mp hother⟩
    · rintro (hm | ⟨hm, hnull, hother⟩)
      · exact ⟨.inl hm, (hp.given m hm.1).2⟩
      · exact ⟨.inr ⟨hm, (hp.notMem_taken_iff hm).mpr hother⟩, hnull⟩

end GivesData

/-- A thing in a list, which may have a further text. -/
theorem isPlain_listed (position : Int) (name : String) (more : List (String × Json))
    (hmore : more = [] ∨ ∃ n s, n ∉ ["@type", "position", "name"] ∧ more = [(n, .str s)]) :
    (Json.obj ([("@type", .str "ListItem"), ("position", .int position), ("name", .str name)] ++
      more)).IsPlain := by
  rcases hmore with rfl | ⟨n, s, hn, rfl⟩
  · refine .obj (by simp) ?_
    simp only [List.append_nil, List.forall_mem_cons]
    exact ⟨.str _, .int _, .str _, nofun⟩
  · simp only [List.mem_cons, List.not_mem_nil, or_false, not_or] at hn
    refine .obj (by simp [Ne.symm hn.1, Ne.symm hn.2.1, Ne.symm hn.2.2]) ?_
    simp only [List.cons_append, List.nil_append, List.forall_mem_cons]
    exact ⟨.str _, .int _, .str _, .str _, nofun⟩

theorem isPlain_arr_mapIdx {α : Type} {f : Nat → α → Json} (h : ∀ i x, (f i x).IsPlain)
    (xs : List α) : (Json.arr (xs.mapIdx f)).IsPlain := by
  refine .arr fun v hv => ?_
  obtain ⟨i, hi, rfl⟩ := List.mem_mapIdx.mp hv
  exact h _ _

theorem isPlain_questionData (heading answer : String) :
    (questionData heading answer).IsPlain := by
  refine .obj (by simp) ?_
  simp only [List.forall_mem_cons]
  exact ⟨.str _, .str _, isPlain_obj_pair (by decide) _ _, nofun⟩

theorem givesData_comparison (h : comparison a ctx = .ok p) : p.GivesData .comparison := by
  obtain ⟨table, -, h⟩ := exists_of_bind_eq_ok h
  obtain ⟨text, -, h⟩ := exists_of_bind_eq_ok h
  cases Except.ok.inj h
  refine .of_subject (by simp) ?_ nofun nofun
  simp only [List.forall_mem_cons]
  refine ⟨⟨isPlain_arr_mapIdx (fun i o => ?_) _, nofun⟩, ⟨.int _, nofun⟩, nofun⟩
  refine isPlain_listed _ o.name _ ?_
  cases o.url? with
  | none => exact .inl rfl
  | some url => exact .inr ⟨"url", url, by decide, rfl⟩

theorem givesData_calculator (h : calculator a ctx = .ok p) : p.GivesData .calculator := by
  obtain ⟨text, -, h⟩ := exists_of_bind_eq_ok h
  cases Except.ok.inj h
  refine .of_subject (by simp) ?_ nofun nofun
  simp only [List.forall_mem_cons]
  exact ⟨⟨.str _, nofun⟩, nofun⟩

theorem givesData_questions (h : questions a ctx = .ok p) : p.GivesData .faq := by
  obtain ⟨answers, -, h⟩ := exists_of_bind_eq_ok h
  have hdata (data : Section → Json) (hplain : ∀ s, (data s).IsPlain) (contents : Markup) :
      ({ contents, subject := .questions,
         extra := [("mainEntity", .arr ((sections a.contentMarkdown).map data))] } :
        ArticleParts).GivesData .faq := by
    refine .of_subject (by simp) ?_ nofun nofun
    exact List.forall_mem_singleton.mpr
      ⟨.arr (List.forall_mem_map.mpr fun s _ => hplain s), nofun⟩
  dsimp only at h
  split at h
  · obtain ⟨text, -, h⟩ := exists_of_bind_eq_ok h
    exact Except.ok.inj h ▸ hdata _ (fun s => isPlain_questionData _ _) text
  · exact Except.ok.inj h ▸ hdata _ (fun s => isPlain_questionData _ _) _

theorem givesData_infographic (h : infographic a ctx = .ok p) : p.GivesData .infographic := by
  unfold infographic at h
  dsimp only at h
  split at h
  · obtain ⟨text, -, h⟩ := exists_of_bind_eq_ok h
    cases Except.ok.inj h
    exact .of_nil rfl nofun
  · cases Except.ok.inj h
    refine .of_subject (by simp) ?_ nofun nofun
    simp only [List.forall_mem_cons]
    exact ⟨⟨.int _, nofun⟩,
      ⟨isPlain_arr_mapIdx (fun i (item : InfographicItem) =>
        isPlain_listed _ item.title [] (.inl rfl)) _, nofun⟩, nofun⟩

theorem givesData_map (h : map a ctx = .ok p) : p.GivesData .map := by
  unfold map at h
  dsimp only at h
  split at h
  · obtain ⟨text, -, h⟩ := exists_of_bind_eq_ok h
    cases Except.ok.inj h
    exact ⟨List.nodup_nil, nofun, fun _ _ => rfl, fun _ => ⟨rfl, nofun⟩⟩
  · next m _ =>
    obtain ⟨text, -, h⟩ := exists_of_bind_eq_ok h
    cases Except.ok.inj h
    have hlabels : (Json.arr (m.entries.map fun e => .str e.label)).IsPlain :=
      .arr (List.forall_mem_map.mpr fun e _ => .str e.label)
    exact ⟨by simp, List.forall_mem_singleton.mpr ⟨hlabels, nofun⟩, fun _ _ => rfl,
      fun _ => ⟨rfl, List.forall_mem_singleton.mpr rfl⟩⟩

/-! The other types give no further data. -/

theorem extra_plain {notice : Markup} (h : plain a ctx notice = .ok p) : p.extra = [] := by
  obtain ⟨text, -, h⟩ := exists_of_bind_eq_ok h
  exact Except.ok.inj h ▸ rfl

theorem extra_review (h : review a ctx = .ok p) : p.extra = [] := by
  obtain ⟨cards, -, h⟩ := exists_of_bind_eq_ok h
  obtain ⟨text, -, h⟩ := exists_of_bind_eq_ok h
  exact Except.ok.inj h ▸ rfl

theorem extra_costGuide (h : costGuide a ctx = .ok p) : p.extra = [] := by
  obtain ⟨data, -, h⟩ := exists_of_bind_eq_ok h
  obtain ⟨text, -, h⟩ := exists_of_bind_eq_ok h
  exact Except.ok.inj h ▸ rfl

theorem extra_leadCapture (h : leadCapture a ctx = .ok p) : p.extra = [] := by
  obtain ⟨text, -, h⟩ := exists_of_bind_eq_ok h
  exact Except.ok.inj h ▸ rfl

theorem extra_checklist (h : checklist a ctx = .ok p) : p.extra = [] := by
  unfold checklist at h
  dsimp only at h
  split at h
  · obtain ⟨text, -, h⟩ := exists_of_bind_eq_ok h
    exact Except.ok.inj h ▸ rfl
  · obtain ⟨texts, -, h⟩ := exists_of_bind_eq_ok h
    exact Except.ok.inj h ▸ rfl

theorem extra_wizard {mode : Wizard.Mode} (h : wizard a ctx mode = .ok p) : p.extra = [] := by
  unfold wizard at h
  split at h
  · exact Except.ok.inj h ▸ rfl
  · obtain ⟨text, -, h⟩ := exists_of_bind_eq_ok h
    exact Except.ok.inj h ▸ rfl

theorem givesData_of_ofArticle (h : ofArticle a ctx = .ok p) : p.GivesData a.contentType := by
  unfold ofArticle at h
  cases htype : a.contentType <;> rw [htype] at h <;> dsimp only at h
  case article | healthDecision => exact .of_nil (extra_plain h) nofun
  case comparison => exact givesData_comparison h
  case calculator => exact givesData_calculator h
  case costGuide => exact .of_nil (extra_costGuide h) nofun
  case leadCapture => exact .of_nil (extra_leadCapture h) nofun
  case checklist => exact .of_nil (extra_checklist h) nofun
  case faq => exact givesData_questions h
  case review => exact .of_nil (extra_review h) nofun
  case infographic => exact givesData_infographic h
  case map => exact givesData_map h
  all_goals exact .of_nil (extra_wizard h) nofun

end ArticleParts

/-! ### What is published -/

/-- **The further data of an article is published** in the object about it on its page, together
with the data about its subject, unless the article is a map: what this gives is left out. -/
theorem further_data_is_published {a : Article} {ctx : ArticleContext} {page : Markup}
    (h : articlePage a ctx = .ok page) :
    ∃ p, ArticleParts.ofArticle a ctx = .ok p ∧ ∃ fields ∈ linkedObjects page.text,
      (fields.map Prod.fst).Nodup ∧
      ∀ m, m ∈ fields ↔ (m ∈ p.extra ∧ a.contentType ≠ .map) ∨
        (m ∈ p.ownMembers a ctx.domain ∧ m.2 ≠ .null ∧ m.1 ∉ p.extra.map Prod.fst) := by
  obtain ⟨p, hp, hpage⟩ := exists_of_bind_eq_ok h
  exact ⟨p, hp, (ArticleParts.givesData_of_ofArticle hp).exists_linkedObject hpage⟩

/-- What the page of an article needs at least. -/
def sparseContext : ArticleContext where
  domain := "example.com"
  shell := some (.build plainFrame)
  policy := plainContext.policy
  now := plainContext.now

/-- An infographic of three plans. -/
def plansArticle : Article :=
  { bareWizard "plans" with
    contentType := .infographic
    payloads :=
      { (bareWizard "plans").payloads with comparison := some InfographicItem.namesakes } }

/-- The page of an infographic says which plans it shows. -/
theorem further_data_is_published_of_plans :
    ∃ page, articlePage plansArticle sparseContext = .ok page ∧
      ∃ fields ∈ linkedObjects page.text,
        ("@type", .str "ItemList") ∈ fields ∧ ("numberOfItems", .int 3) ∈ fields ∧
        ("itemListElement", .arr ((infographicItems plansArticle).mapIdx
          ArticleParts.listedItem)) ∈ fields := by
  obtain ⟨page, hpage⟩ : ∃ page, articlePage plansArticle sparseContext = .ok page := ⟨_, rfl⟩
  obtain ⟨p, hp, fields, hfields, -, hmem⟩ := further_data_is_published hpage
  cases Except.ok.inj hp
  refine ⟨page, hpage, fields, hfields, (hmem _).mpr (.inr ⟨?_, nofun, ?_⟩),
    (hmem _).mpr (.inl ⟨List.mem_cons_self, nofun⟩),
    (hmem _).mpr (.inl ⟨List.mem_cons_of_mem _ List.mem_cons_self, nofun⟩)⟩
  · exact List.mem_cons_of_mem _ List.mem_cons_self
  · show "@type" ∉ ["numberOfItems", "itemListElement"]
    decide

/-! ### Counting the objects of a page -/

/-- The tag that begins linked data. -/
def dataTag : WrittenTag := ⟨"script", [("type", "application/ld+json")]⟩

/-- Marks the tags that begin linked data, so that these are what is read off markup. -/
def markData (t : WrittenTag) : List WrittenTag := if t = dataTag then [t] else []

@[simp]
theorem markData_of_ne {name : String} (h : name ≠ "script") (attrs : List (String × String)) :
    markData ⟨name, attrs⟩ = [] :=
  if_neg fun heq => h (congrArg WrittenTag.name heq)

theorem readTag?_of_valueAfter? {tag : List Char} {text : String}
    (h : valueAfter? linkedDataOpening '<' tag = some text) : readTag? tag = some dataTag := by
  have hprefix : linkedDataOpening <+: tag := by
    by_contra hnot
    rw [valueAfter?_eq_none_iff.mpr hnot] at h
    cases h
  obtain ⟨rest, rfl⟩ := hprefix
  rw [readTag?_append (by decide)]
  decide +kernel

/-- **A page has no more objects than tags that begin one.** -/
theorem length_linkedObjects_le (m : Markup) :
    (linkedObjects m.text).length ≤ (m.read markData).length := by
  refine (List.length_filterMap_le _ _).trans ?_
  -- Along the tags of the page: one with a text of linked data is also read as a tag of it.
  unfold valuesAfter Markup.read Markup.tags readTags
  induction tagTexts m.text.toList with
  | nil => exact Nat.le_refl 0
  | cons tag tags ih =>
    rw [List.filterMap_cons, List.filterMap_cons]
    cases hvalue : valueAfter? linkedDataOpening '<' tag with
    | none =>
      refine ih.trans ?_
      cases readTag? tag with
      | none => exact Nat.le_refl _
      | some t =>
        rw [List.flatMap_cons, List.length_append]
        exact Nat.le_add_left _ _
    | some text =>
      rw [readTag?_of_valueAfter? hvalue]
      dsimp only
      rw [List.flatMap_cons, List.length_append, List.length_cons, Nat.add_comm]
      exact Nat.add_le_add_left ih 1

theorem read_linkedData (members : List (String × Json)) :
    (linkedData members).read markData = [dataTag] := by
  unfold linkedData
  simp (disch := simp (disch := simp)) [markData, dataTag]

/-! The frame of a page holds no linked data. -/

namespace Frame

variable (f : Frame)

theorem read_header : f.header.read markData = [] := by
  unfold header
  dsimp only
  generalize NavLink.home :: trustLinks f.settings = links
  split <;> simp (disch := simp (disch := simp)) [NavLink.anchor]

theorem read_linkColumns : f.linkColumns.read markData = [] := by
  unfold linkColumns linkColumn NavLink.items NavLink.item NavLink.anchor
  dsimp only
  split <;> simp (disch := simp (disch := simp))

theorem read_disclaimerLine : f.disclaimerLine.read markData = [] := by
  unfold disclaimerLine
  simp (disch := simp (disch := simp))

theorem read_footer : f.footer.read markData = [] := by
  have hcolumns := f.read_linkColumns
  have hdisclaimer := f.read_disclaimerLine
  unfold footer footerParts footerEnd invitation subscription copyrightLine mailField
  cases f.layout.footer <;>
    simp (disch := simp (disch := simp)) [hcolumns, hdisclaimer, Markup.read_append]

theorem read_sidebar : f.sidebar.read markData = [] := by
  unfold sidebar sidebarSection NavLink.items NavLink.item NavLink.anchor
  dsimp only
  generalize f.links.take maxSidebarLinks = links
  split <;> simp (disch := simp (disch := simp))

end Frame

namespace PageShell

theorem read_columns (f : Frame) (contents : Markup) :
    ((build f).columns contents).read markData = contents.read markData := by
  have hsidebar := f.read_sidebar
  unfold columns build
  dsimp only
  cases f.layout.hasSidebar <;>
    simp (disch := simp (disch := simp)) [Markup.read_append, hsidebar, Markup.when]

/-- **The linked data of a page** is what the page adds to the head and what it holds, if there is
no provider of advertisements. -/
theorem read_wrap {f : Frame} (hf : f.monetization = none) {head : PageHead}
    (hextra : head.extra.IsWhole) (contents : Markup) :
    ((build f).wrap head contents).read markData =
      head.extra.read markData ++ contents.read markData := by
  have hscripts : (build f).headScripts = .empty ∧ (build f).bodyScripts = .empty := by
    unfold build
    rw [hf]
    exact ⟨rfl, rfl⟩
  have hdoctype : (html "<!DOCTYPE html>").IsWhole ∧
      (html "<!DOCTYPE html>").read markData = [] :=
    ⟨doctype_spec.1, Markup.read_of_tags_eq_nil doctype_spec.2⟩
  have hheader : (build f).header.IsWhole ∧ (build f).header.read markData = [] :=
    ⟨f.hasAnchors_header.1, f.read_header⟩
  have hfooter : (build f).footer.IsWhole ∧ (build f).footer.read markData = [] :=
    ⟨f.hasAnchors_footer.1, f.read_footer⟩
  have hcolumns : ((build f).columns contents).IsWhole ∧
      ((build f).columns contents).read markData = contents.read markData :=
    ⟨(hasAnchors_columns f contents).1, read_columns f contents⟩
  unfold wrap headStart stylesheetLink iconLink
  simp (disch := simp (disch := simp) [hscripts, hdoctype, hheader, hfooter, hcolumns, hextra])
    [hscripts, hdoctype, hheader, hfooter, hcolumns]

end PageShell

/-- A map has the linked data of its texts. -/
theorem RegionMap.read_markup {m : RegionMap}
    (hentries : ∀ e ∈ m.entries, e.content.read markData = [])
    (hfallback : (Html.sanitize m.fallback).read markData = []) :
    m.markup.read markData = [] := by
  have hpanels : ∀ e ∈ m.entries, e.panel.read markData = [] := by
    intro e he
    unfold MapEntry.panel
    simp (disch := simp (disch := simp)) [hentries e he]
  have htiles : m.tiles.read markData = [] := by
    unfold tiles MapEntry.tile
    simp (disch := simp (disch := simp))
  have hlist : m.list.read markData = [] := by
    unfold list MapEntry.choice
    simp (disch := simp (disch := simp)) [Markup.read_append]
  have hcode : markData ⟨"script", []⟩ = [] := rfl
  unfold markup fallbackPanel MapEntry.button
  dsimp only
  split <;> simp (disch := simp (disch := simp)) [hfallback, htiles, hlist, hcode] <;>
    exact hpanels

/-! ### The regions of a map -/

/-- A map of a single region, without texts. -/
def texasArticle : Article :=
  { bareWizard "map" with
    contentType := .map
    payloads :=
      { (bareWizard "map").payloads with
        geo := some { regions := [("tx", ⟨"", some "Texas"⟩)], fallback := "" } } }

/-- The map of the article. -/
def texasMap : RegionMap where
  first := ⟨"tx", "Texas", Html.sanitize ""⟩
  others := []
  fallback := ""

/-- What the article contributes, with its text. -/
def texasParts (text : Markup) : ArticleParts where
  contents := Markup.lines [texasMap.markup, text]
  extra := [("about", .arr [.str "Texas"])]

/-- The way to the page of the article. -/
def texasWay : List (String × Json) :=
  [vocabularyMember, classMember "BreadcrumbList",
   ("itemListElement", .arr [breadcrumb 1 "Home" (homeUrl "example.com"),
     breadcrumb 2 "map" (articleUrl "example.com" "map")])]

theorem read_texasParts {text : Markup} (htext : text.text = "") :
    (texasParts text).contents.read markData = [] := by
  have hempty {m : Markup} (h : m.text = "") : m.IsWhole ∧ m.read markData = [] := by
    have hnot : '<' ∉ m.text.toList := by
      rw [h]
      exact List.not_mem_nil
    exact ⟨Markup.isWhole_of_notMem hnot,
      Markup.read_of_tags_eq_nil (Markup.tags_of_notMem hnot)⟩
  have hsanitized : (Html.sanitize "").read markData = [] := (hempty rfl).2
  have hmap : texasMap.markup.read markData = [] :=
    RegionMap.read_markup (List.forall_mem_singleton.mpr hsanitized) hsanitized
  have hwhole := (RegionMap.hasAnchors_markup texasMap).1
  unfold texasParts
  simp (disch := simp [hwhole, hempty htext]) [hmap, hempty htext]

theorem read_texasBody {text : Markup} (htext : text.text = "") :
    ((texasParts text).body texasArticle sparseContext).read markData = [dataTag] := by
  have hdata : (articleData texasArticle sparseContext.domain (texasParts text).subject
      (texasParts text).extra).IsWhole ∧ (articleData texasArticle sparseContext.domain
        (texasParts text).subject (texasParts text).extra).read markData = [dataTag] :=
    ⟨(Block.hasAnchors_linkedData _).1, read_linkedData _⟩
  have hbutton : (printButton texasArticle.contentType).read markData = [] := by
    unfold printButton
    simp (disch := simp (disch := simp))
  have hstart : ∀ m ∈ [startTag "article" [], el "h1" [] (esc texasArticle.title)],
      m.IsWhole ∧ m.read markData = [] := by
    simp (disch := simp (disch := simp))
  have hwhole m hm := (hstart m hm).1
  have harticle : (Markup.lines [startTag "article" [], el "h1" [] (esc texasArticle.title),
      (texasParts text).contents, endTag "article"]).IsWhole :=
    (Markup.lines_endTag_spec hwhole (texasParts text).contents (by decide)).1
  have hread : (Markup.lines [startTag "article" [], el "h1" [] (esc texasArticle.title),
      (texasParts text).contents, endTag "article"]).read markData = [] := by
    refine (Markup.read_lines_endTag hwhole (texasParts text).contents (by decide)).trans ?_
    rw [List.flatMap_eq_nil_iff.mpr fun m hm => (hstart m hm).2, read_texasParts htext]
    rfl
  -- The context gives nothing else to show, so that the rest of the article is empty.
  have htrust : trustSection texasArticle sparseContext.settings sparseContext.citations =
      Markup.lines [] := by
    simp [trustSection, sparseContext, sourceList]
  unfold ArticleParts.body
  rw [show freshnessBadge sparseContext.now texasArticle sparseContext.datasets = .empty from rfl,
    show dataSources sparseContext.datasets = .empty from rfl,
    show disclaimer texasArticle sparseContext.settings = .empty from rfl,
    show (texasParts text).notice = .empty from rfl, show (texasParts text).code = .empty from rfl,
    htrust]
  simp (disch := simp (disch := simp) [hdata, harticle])
    [hdata, hread, hbutton, Markup.read_append]

theorem breadcrumbData_texas : breadcrumbData "example.com" texasArticle.title
    (articleUrl "example.com" texasArticle.slug) = linkedData texasWay := by
  have hurl : (articleUrl "example.com" texasArticle.slug).isEmpty = false := rfl
  have htitle : texasArticle.title.isEmpty = false := rfl
  unfold breadcrumbData
  simp only [Option.filter, hurl, htitle]
  rfl

theorem read_texasShareTags : (shareTags texasArticle "example.com").read markData = [dataTag] := by
  have hway := read_linkedData texasWay
  have hwhole : (linkedData texasWay).IsWhole := (Block.hasAnchors_linkedData _).1
  have htimes (property : String) : timeTags property none = [] := rfl
  unfold shareTags propertyTag nameTag
  dsimp only
  rw [breadcrumbData_texas, show texasArticle.times.published = none from rfl,
    show texasArticle.times.updated = none from rfl]
  simp (disch := simp (disch := simp) [hwhole]) [htimes, hway]

theorem isInfix_texasWay :
    (linkedData texasWay).text.toList <:+: (shareTags texasArticle "example.com").text.toList := by
  unfold shareTags
  dsimp only
  rw [breadcrumbData_texas]
  exact Markup.isInfix_joinWith (List.mem_append_right _ List.mem_cons_self) _

theorem isPlain_texasWay : ∀ m ∈ texasWay, m.2.IsPlain := by
  have hstep (position : Nat) (name url : String) : (breadcrumb position name url).IsPlain := by
    refine .obj (by simp [classMember]) ?_
    simp only [List.forall_mem_cons]
    exact ⟨.str _, .int _, .str _, .str _, nofun⟩
  unfold texasWay
  simp only [List.forall_mem_cons]
  refine ⟨.str _, .str _, .arr ?_, nofun⟩
  simp only [List.forall_mem_cons]
  exact ⟨hstep _ _ _, hstep _ _ _, nofun⟩

/-- What the page of the article has in its head. -/
def texasHead : PageShell.PageHead where
  title := texasArticle.title
  description := texasArticle.description
  extra := shareTags texasArticle "example.com"

/-- The page of the article, with its text. -/
def texasPage (text : Markup) : Markup :=
  (PageShell.build plainFrame).wrap texasHead ((texasParts text).body texasArticle sparseContext)

theorem page_texasParts (text : Markup) :
    (texasParts text).page texasArticle sparseContext = .ok (texasPage text) := rfl

theorem articleData_texas (text : Markup) :
    articleData texasArticle sparseContext.domain (texasParts text).subject
        (texasParts text).extra =
      linkedData ((texasParts text).ownMembers texasArticle sparseContext.domain) := by
  unfold articleData
  rw [if_pos (show (texasParts text).subject = .article from rfl)]
  rfl

theorem isInfix_texasWay_page (text : Markup) :
    (linkedData texasWay).text.toList <:+: (texasPage text).text.toList :=
  isInfix_texasWay.trans (PageShell.isInfix_extra (.build plainFrame) texasHead _)

theorem isInfix_texasData (text : Markup) :
    (linkedData ((texasParts text).ownMembers texasArticle sparseContext.domain)).text.toList <:+:
      (texasPage text).text.toList := by
  rw [← articleData_texas]
  exact ArticleParts.isInfix_articleData (page_texasParts text)

theorem length_linkedObjects_texas {text : Markup} (htext : text.text = "") :
    (linkedObjects (texasPage text).text).length ≤ 2 := by
  have hextra : texasHead.extra.IsWhole := (hasAnchors_shareTags texasArticle "example.com").1
  have hhead : texasHead.extra.read markData = [dataTag] := read_texasShareTags
  have hpage := PageShell.read_wrap (f := plainFrame) rfl hextra
    ((texasParts text).body texasArticle sparseContext)
  rw [hhead, read_texasBody htext] at hpage
  exact (length_linkedObjects_le _).trans_eq (congrArg List.length hpage)

theorem eq_or_eq_of_length_le_two {α : Type} {x y z : α} {xs : List α} (hlength : xs.length ≤ 2)
    (hx : x ∈ xs) (hy : y ∈ xs) (hne : x ≠ y) (hz : z ∈ xs) : z = x ∨ z = y := by
  have hnodup : [x, y].Nodup := by simp [hne]
  have hsub : [x, y] ⊆ xs := by simp [hx, hy]
  have hperm := (List.subperm_of_subset hnodup hsub).perm_of_length_le hlength
  simpa using hperm.mem_iff.mpr hz

/-- The objects on the page are those of the way to it and of the article. -/
theorem eq_or_eq_of_mem_linkedObjects_texas {text : Markup} (htext : text.text = "")
    (h : fields ∈ linkedObjects (texasPage text).text) :
    fields = givenMembers texasWay ∨
      fields = givenMembers ((texasParts text).ownMembers texasArticle sparseContext.domain) := by
  obtain ⟨hnames, -⟩ := (texasParts text).names_ownMembers texasArticle sparseContext.domain
  have hway := givenMembers_mem_linkedObjects
    (by simp [texasWay, vocabularyMember, classMember]) isPlain_texasWay
    (isInfix_texasWay_page text)
  have hown := givenMembers_mem_linkedObjects hnames ((texasParts text).isPlain_ownMembers _ _)
    (isInfix_texasData text)
  refine eq_or_eq_of_length_le_two (length_linkedObjects_texas htext) hway hown (fun heq => ?_) h
  -- They differ, since only the way is of its class.
  have hclass : classMember "BreadcrumbList" ∈ givenMembers texasWay :=
    mem_givenMembers.mpr ⟨List.mem_cons_of_mem _ List.mem_cons_self, nofun⟩
  rw [heq, mem_givenMembers] at hclass
  have hother : classMember "BreadcrumbList" ∉
      (texasParts text).ownMembers texasArticle sparseContext.domain := by
    simp [ArticleParts.ownMembers, classMember, vocabularyMember, subjectMembers, texasParts,
      Subject.className]
  exact hother hclass.1

/-- **The regions of a map are left out** of all the linked data on its page. -/
theorem regions_of_texas_are_left_out :
    ∃ p page, ArticleParts.ofArticle texasArticle sparseContext = .ok p ∧
      articlePage texasArticle sparseContext = .ok page ∧
      ("about", .arr [.str "Texas"]) ∈ p.extra ∧
      ∀ fields ∈ linkedObjects page.text, "about" ∉ fields.map Prod.fst := by
  obtain ⟨text, htext, hp⟩ : ∃ text, text.text = "" ∧
      ArticleParts.ofArticle texasArticle sparseContext = .ok (texasParts text) := ⟨_, rfl, rfl⟩
  refine ⟨texasParts text, texasPage text, hp, ?_, List.mem_cons_self, fun fields hfields => ?_⟩
  · unfold articlePage
    rw [hp]
    exact page_texasParts text
  -- Members without a value are left out, which adds no name.
  have hnames {members : List (String × Json)} (h : "about" ∉ members.map Prod.fst) :
      "about" ∉ (givenMembers members).map Prod.fst := fun hmem =>
    h ((List.filter_sublist.map Prod.fst).subset hmem)
  rcases eq_or_eq_of_mem_linkedObjects_texas htext hfields with rfl | rfl
  · exact hnames (by decide)
  · exact hnames ((texasParts text).names_ownMembers texasArticle sparseContext.domain).2

end StaticSite
