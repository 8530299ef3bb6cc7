import Mathlib.Data.List.Forall2
import StaticSite.Proofs.Schema.Reader
import StaticSite.Site.Compile

/-!
# Payloads that do not fit

A payload of an article that does not fit its type counts as absent. So an article is read alike
from its record and from a record in which such payloads are null, or are left out: with the same
outcome, whether it is an article or the list of the problems of the other fields.

Two records differ in malformed payloads only (`Fields.Clears`) if every field is found alike in
both, or holds a malformed payload in the one and nothing in the other. What is read of the fields
of an article does not tell such records apart (`Article.read_of_clears`): every field is looked up
by its name, and a payload shows its own problems to nobody. From there it goes to lists of articles
(`itemsFrom_congr`) and to requests (`CompileRequest.read_setArticles`);
`malformed_payloads_leave_no_trace` puts it together.
-/

namespace StaticSite

open Schema

/-! ### Malformed payloads -/

/-- Whether a value fits a field that may be null. -/
def Schema.fits {α : Type} (r : Reader α) (v : Json) : Bool := (nullable r v).toOption.isSome

/-- The fields that hold the payloads of an article, and what fits them. -/
def Payloads.fields : List (String × (Json → Bool)) :=
  [("calculator_config", fits Calculator.read), ("wizard_config", fits Wizard.read),
   ("comparison_data", fits Comparison.read), ("cost_guide_data", fits CostGuide.read),
   ("research_data", fits Research.read), ("geo_data", fits GeoGuide.read),
   ("cta_config", fits CallToAction.read), ("lead_gen_config", fits LeadForm.read)]

namespace Fields

/-- **A field holds a malformed payload**: a value that does not fit the payload of its name. -/
def HasMalformed (fs : Fields) (name : String) : Prop :=
  ∃ fits ∈ Payloads.fields.lookup name, ∃ v ∈ fs.lookup name, fits v = false

instance (fs : Fields) (name : String) : Decidable (fs.HasMalformed name) :=
  inferInstanceAs (Decidable
    (∃ fits ∈ Payloads.fields.lookup name, ∃ v ∈ fs.lookup name, fits v = false))

/-- The fields with those of some names set to null. -/
def nullify (fs : Fields) (names : List String) : Fields :=
  fs.map fun f => if f.1 ∈ names then (f.1, .null) else f

/-- The fields without those of some names. -/
def dropAll (fs : Fields) (names : List String) : Fields := fs.filter fun f => f.1 ∉ names

theorem lookup_nullify (fs : Fields) (names : List String) (name : String) :
    (fs.nullify names).lookup name =
      if name ∈ names then (fs.lookup name).map fun _ => .null else fs.lookup name := by
  induction fs with
  | nil => split <;> rfl
  | cons f fs ih =>
    obtain ⟨n, v⟩ := f
    have hcons : Fields.nullify ((n, v) :: fs) names =
        (n, if n ∈ names then .null else v) :: Fields.nullify fs names := by
      unfold nullify
      rw [List.map_cons]
      split <;> rfl
    rw [hcons, List.lookup_cons, List.lookup_cons, ih]
    by_cases hn : name = n
    · subst hn
      simp only [beq_self_eq_true]
      split <;> rfl
    · rw [beq_false_of_ne hn]

theorem lookup_dropAll (fs : Fields) (names : List String) (name : String) :
    (fs.dropAll names).lookup name = if name ∈ names then none else fs.lookup name := by
  induction fs with
  | nil => split <;> rfl
  | cons f fs ih =>
    obtain ⟨n, v⟩ := f
    by_cases hmem : n ∈ names
    · have hdrop : Fields.dropAll ((n, v) :: fs) names = Fields.dropAll fs names :=
        List.filter_cons_of_neg (by simpa using hmem)
      rw [hdrop, ih, List.lookup_cons]
      by_cases hn : name = n
      · rw [if_pos (hn ▸ hmem), if_pos (hn ▸ hmem)]
      · rw [beq_false_of_ne hn]
    · have hkeep : Fields.dropAll ((n, v) :: fs) names = (n, v) :: Fields.dropAll fs names :=
        List.filter_cons_of_pos (by simpa using hmem)
      rw [hkeep, List.lookup_cons, List.lookup_cons, ih]
      by_cases hn : name = n
      · subst hn
        simp only [beq_self_eq_true, if_neg hmem]
      · rw [beq_false_of_ne hn]

/-- **Two records differ in malformed payloads only**, which are null or missing in the second
one. -/
def Clears (fs gs : Fields) : Prop :=
  ∀ name, gs.lookup name = fs.lookup name ∨
    fs.HasMalformed name ∧ (gs.lookup name = none ∨ gs.lookup name = some .null)

variable {fs gs : Fields} {names : List String}

theorem clears_nullify (h : ∀ n ∈ names, fs.HasMalformed n) : fs.Clears (fs.nullify names) := by
  intro name
  rw [lookup_nullify]
  split
  · next hname =>
    obtain ⟨_, _, v, hv, _⟩ := h name hname
    refine .inr ⟨h name hname, .inr ?_⟩
    rw [hv, Option.map_some]
  · exact .inl rfl

theorem clears_dropAll (h : ∀ n ∈ names, fs.HasMalformed n) : fs.Clears (fs.dropAll names) := by
  intro name
  rw [lookup_dropAll]
  split
  · next hname => exact .inr ⟨h name hname, .inl rfl⟩
  · exact .inl rfl

/-- A field that is no payload is found alike. -/
theorem Clears.lookup_eq (h : fs.Clears gs) {name : String}
    (hname : Payloads.fields.lookup name = none) : gs.lookup name = fs.lookup name := by
  refine (h name).resolve_right ?_
  rintro ⟨⟨fits, hfits, -⟩, -⟩
  rw [hname] at hfits
  cases hfits

/-- **A payload is read alike**: one that is malformed is none. -/
theorem Clears.payload_eq (h : fs.Clears gs) {α : Type} {name : String} {r : Reader α}
    (hname : Payloads.fields.lookup name = some (fits r)) (hnull : (r .null).toOption = none) :
    payload gs name r = payload fs name r := by
  unfold payload
  rcases h name with heq | ⟨⟨fit, hfit, v, hv, hbad⟩, hclear⟩
  · rw [heq]
  · obtain rfl := Option.some.inj (hname.symm.trans hfit)
    have hnone : (r v).toOption = none := by
      unfold fits nullable at hbad
      -- A value that is null would fit.
      split at hbad
      · cases hbad
      · cases hr : r v with
        | ok a =>
          rw [hr] at hbad
          cases hbad
        | bad ps => rfl
    rw [hv]
    show _ = (r v).toOption
    rcases hclear with hgs | hgs <;> rw [hgs, hnone]
    exact hnull

theorem Clears.payloads_eq (h : fs.Clears gs) : Payloads.ofFields gs = Payloads.ofFields fs := by
  unfold Payloads.ofFields
  rw [h.payload_eq rfl rfl, h.payload_eq rfl rfl, h.payload_eq rfl rfl, h.payload_eq rfl rfl,
    h.payload_eq rfl rfl, h.payload_eq rfl rfl, h.payload_eq rfl rfl, h.payload_eq rfl rfl]

/-! ### Articles -/

/-- A field of a record that has one name and is no payload is found alike. -/
theorem Clears.find?_eq (h : fs.Clears gs) {name : String}
    (hname : Payloads.fields.lookup name = none) : Name.find? name gs = Name.find? name fs := by
  unfold Name.find?
  rw [h.lookup_eq hname]
  rfl

end Fields

section

variable {fs gs : Fields}

theorem ArticleTimes.ofFields_of_clears (h : fs.Clears gs) :
    ArticleTimes.ofFields gs = ArticleTimes.ofFields fs := by
  unfold ArticleTimes.ofFields
  rw [optionalField_congr (h.find?_eq rfl), optionalField_congr (h.find?_eq rfl),
    optionalField_congr (h.find?_eq rfl), optionalField_congr (h.find?_eq rfl),
    optionalField_congr (h.find?_eq rfl)]

/-- **An article is read alike** from records that differ in malformed payloads only. -/
theorem Article.read_of_clears (h : fs.Clears gs) :
    Article.read (.obj gs) = Article.read (.obj fs) := by
  unfold Article.read record
  dsimp only
  rw [h.payloads_eq, ArticleTimes.ofFields_of_clears h, requiredField_congr (h.find?_eq rfl),
    requiredField_congr (h.find?_eq rfl), requiredField_congr (h.find?_eq rfl),
    optionalField_congr (h.find?_eq rfl), optionalField_congr (h.find?_eq rfl),
    optionalField_congr (h.find?_eq rfl), defaultField_congr (h.find?_eq rfl),
    defaultField_congr (h.find?_eq rfl), defaultField_congr (h.find?_eq rfl),
    defaultField_congr (h.find?_eq rfl)]

end

/-! ### Problems of an article -/

namespace Schema.Checked

variable {α β : Type} {fs : Fields} {n : Name} {r : Reader α}

/-- **An outcome spares payloads**: none of its problems lies in a field with a payload. -/
def SparesPayloads (c : Checked α) : Prop :=
  ∀ ps, c = .bad ps → ∀ p ∈ ps, ∀ name, p.place.head? = some (.field name) →
    Payloads.fields.lookup name = none

theorem sparesPayloads_ok (a : α) : SparesPayloads (.ok a) := fun _ h => nomatch h

theorem sparesPayloads_under {name : String} (hname : Payloads.fields.lookup name = none)
    (c : Checked α) : SparesPayloads (c.under (.field name)) := by
  cases c with
  | ok a => exact sparesPayloads_ok a
  | bad qs =>
    rintro _ ⟨⟩ p hp other hother
    obtain ⟨q, -, rfl⟩ := List.mem_map.mp hp
    cases hother
    exact hname

theorem SparesPayloads.map {c : Checked α} (h : c.SparesPayloads) (f : α → β) :
    SparesPayloads (f <$> c) := by
  cases c with
  | ok a => exact sparesPayloads_ok (f a)
  | bad qs => rintro _ ⟨⟩; exact h qs rfl

/-- The problems of both outcomes count. -/
theorem SparesPayloads.seq {f : Checked (α → β)} {c : Checked α} (hf : f.SparesPayloads)
    (hc : c.SparesPayloads) : SparesPayloads (f <*> c) := by
  cases f with
  | ok g =>
    cases c with
    | ok a => exact sparesPayloads_ok (g a)
    | bad qs => rintro _ ⟨⟩; exact hc qs rfl
  | bad ps =>
    cases c with
    | ok a => rintro _ ⟨⟩; exact hf ps rfl
    | bad qs =>
      rintro _ ⟨⟩ p hp
      exact (List.mem_append.mp hp).elim (hf ps rfl p) (hc qs rfl p)

theorem sparesPayloads_requiredField (hn : Payloads.fields.lookup n.main = none) :
    (requiredField fs n r).SparesPayloads := by
  unfold requiredField
  split
  · exact sparesPayloads_under hn _
  · rintro _ ⟨⟩ p hp name hname
    cases List.mem_singleton.mp hp
    cases hname
    exact hn

theorem sparesPayloads_defaultField {default : α} (hn : Payloads.fields.lookup n.main = none) :
    (defaultField fs n default r).SparesPayloads := by
  unfold defaultField
  split
  · exact sparesPayloads_under hn _
  · exact sparesPayloads_ok default

end Schema.Checked

open Schema.Checked in
/-- **The problems of an article lie in its other fields.** -/
theorem Article.sparesPayloads_read (v : Json) : (Article.read v).SparesPayloads := by
  unfold Article.read record
  split
  · next fs =>
    have htimes : (ArticleTimes.ofFields fs).SparesPayloads := by
      unfold ArticleTimes.ofFields optionalField
      refine SparesPayloads.seq (.seq (.seq (.seq (.map ?_ _) ?_) ?_) ?_) ?_ <;>
        exact sparesPayloads_defaultField rfl
    unfold optionalField
    refine SparesPayloads.seq (.seq ?_ htimes) (sparesPayloads_ok _)
    refine .seq (.seq (.seq (.seq (.seq (.seq (.seq (.seq (.seq (.map ?_ _) ?_) ?_) ?_) ?_) ?_) ?_)
      ?_) ?_) ?_
    all_goals
      first
      | exact sparesPayloads_requiredField rfl
      | exact sparesPayloads_defaultField rfl
  · -- What is no object has one problem, in no field at all.
    rintro _ ⟨⟩ p hp name hname
    cases List.mem_singleton.mp hp
    cases hname

/-! ### Lists of articles and requests -/

/-- **A record has lost malformed payloads**: it is as it was, or some of them are null, or some of
them are left out. -/
inductive Article.Cleared : Json → Json → Prop
  | same (v : Json) : Cleared v v
  | null {fs : Fields} {names : List String} (h : ∀ n ∈ names, fs.HasMalformed n) :
      Cleared (.obj fs) (.obj (fs.nullify names))
  | removed {fs : Fields} {names : List String} (h : ∀ n ∈ names, fs.HasMalformed n) :
      Cleared (.obj fs) (.obj (fs.dropAll names))

theorem Article.Cleared.read_eq {v w : Json} (h : Article.Cleared v w) :
    Article.read w = Article.read v := by
  cases h with
  | same => rfl
  | null h => exact Article.read_of_clears (Fields.clears_nullify h)
  | removed h => exact Article.read_of_clears (Fields.clears_dropAll h)

/-- Lists whose items are read alike are read alike, with their problems at the same places. -/
theorem Schema.itemsFrom_congr {α : Type} {r : Reader α} {vs ws : List Json}
    (h : List.Forall₂ (fun v w => r w = r v) vs ws) (n : Nat) :
    itemsFrom r n ws = itemsFrom r n vs := by
  induction h generalizing n with
  | nil => rfl
  | cons hhead _ ih => rw [itemsFrom, itemsFrom, hhead, ih]

/-- **A request is read alike** with other articles, if the list of these is read alike. -/
theorem CompileRequest.read_setArticles {fs : Fields} {vs ws : List Json}
    (hvs : fs.lookup "articles" = some (.arr vs))
    (h : itemsFrom Article.read 0 ws = itemsFrom Article.read 0 vs) :
    CompileRequest.read (.obj (Json.setField "articles" (.arr ws) fs)) =
      CompileRequest.read (.obj fs) := by
  have hagree := Fields.agreeBut_setField fs "articles" (.arr ws)
  have hfind : ∀ name : String, name ≠ "articles" →
      Name.find? name (Json.setField "articles" (.arr ws) fs) = Name.find? name fs :=
    fun name hne => hagree.find?_eq hne fun _ ho => by cases ho
  have harticles : listField (Json.setField "articles" (.arr ws) fs) "articles" Article.read =
      listField fs "articles" Article.read := by
    unfold listField defaultField Name.find?
    rw [Fields.lookup_setField_self, hvs]
    exact congrArg (Checked.under (.field "articles")) h
  unfold CompileRequest.read record
  dsimp only
  rw [harticles, optionalField_congr (hfind "domain" (by decide)),
    listField_congr (hfind "page_definitions" (by decide)),
    defaultField_congr (hfind "datasets" (by decide)),
    defaultField_congr (hfind "citations" (by decide)),
    optionalField_congr (hfind "disclosure" (by decide)),
    optionalField_congr (hfind "monetization" (by decide)),
    listField_congr (hfind "portfolio_hostnames" (by decide))]

/-- **Malformed payloads leave no trace.** If some payloads of a record do not fit their types, then
the record reads like the one in which they are null, and like the one without them: as the same
article, or with the same problems, none of which lies in a payload. A request reads the same, and
so compiles to the same files, if any of its articles lose malformed payloads. -/
theorem malformed_payloads_leave_no_trace :
    (∀ (fs : Fields) (names : List String), (∀ n ∈ names, fs.HasMalformed n) →
      Article.read (.obj (fs.nullify names)) = Article.read (.obj fs) ∧
      Article.read (.obj (fs.dropAll names)) = Article.read (.obj fs) ∧
      (Article.read (.obj fs)).SparesPayloads) ∧
    ∀ (fs : Fields) (articles others : List Json), fs.lookup "articles" = some (.arr articles) →
      List.Forall₂ Article.Cleared articles others →
      let request := CompileRequest.read (.obj fs)
      let cleared := CompileRequest.read (.obj (Json.setField "articles" (.arr others) fs))
      cleared = request ∧ ∀ (portfolio : List String) (now : Timestamp),
        (compileSite · portfolio now) <$> cleared = (compileSite · portfolio now) <$> request := by
  refine ⟨fun fs names h => ?_, fun fs articles others hfs hcleared => ?_⟩
  · exact ⟨Article.read_of_clears (Fields.clears_nullify h),
      Article.read_of_clears (Fields.clears_dropAll h), Article.sparesPayloads_read _⟩
  · have hread : itemsFrom Article.read 0 others = itemsFrom Article.read 0 articles :=
      itemsFrom_congr (hcleared.imp fun _ _ => Article.Cleared.read_eq) 0
    have heq := CompileRequest.read_setArticles hfs hread
    exact ⟨heq, fun portfolio now => by rw [heq]⟩

/-- An article whose calculator has no list of inputs and whose call to action has no address. -/
def spoiledArticle : Fields :=
  [("id", .str "a1"), ("slug", .str "hours"), ("title", .str "Hours"),
   ("calculator_config", .obj [("inputs", .str "many")]),
   ("cta_config", .obj [("text", .str "Call")])]

/-- The two payloads of the article can be set to null, or be left out of a request. -/
theorem spoiledArticle_leaves_no_trace :
    let names := ["calculator_config", "cta_config"]
    (∀ n ∈ names, spoiledArticle.HasMalformed n) ∧
      (Article.read (.obj spoiledArticle)).toOption.isSome ∧
      Article.read (.obj (spoiledArticle.nullify names)) = Article.read (.obj spoiledArticle) ∧
      CompileRequest.read (.obj [("articles", .arr [.obj (spoiledArticle.dropAll names)])]) =
        CompileRequest.read (.obj [("articles", .arr [.obj spoiledArticle])]) := by
  intro names
  have hbad : ∀ n ∈ names, spoiledArticle.HasMalformed n := by decide
  obtain ⟨harticle, hrequest⟩ := malformed_payloads_leave_no_trace
  refine ⟨hbad, by decide, (harticle _ names hbad).1, ?_⟩
  exact (hrequest [("articles", .arr [.obj spoiledArticle])] _ _ rfl
    (.cons (.removed hbad) .nil)).1

end StaticSite
