import StaticSite.Block.Render
import StaticSite.Page.Embed
import StaticSite.Proofs.Page.Contents
import StaticSite.Proofs.Schema.Reader

/-!
# An address that is not encrypted leaves no trace

Personal data only travels encrypted. An address that does not begin with `https://` is dropped, by
a contact form, by a wizard that asks for contact data, and by a newsletter; what is rendered is
what is rendered without an address.

## The secured part

`WizardLead.secured`, `Wizard.secured` and `LeadForm.secured` blank an address unless it is secure.
Rendering goes through them: a wizard shows what its secured part shows (`Wizard.panels_secured`).
Two wizards that differ in addresses of which none is secure have the same secured part, whether
they are records (`Wizard.secured_withEndpoint`) or are read from the content of a block
(`Wizard.secured_read_setField`).

The content of a block may hold anything besides the address, also what cannot be read. The problems
of a wizard do not depend on the address either, so that both runs fail alike.
-/

namespace StaticSite

/-- Whether what is sent to an address travels encrypted. -/
def IsSecure (e : String) : Prop := Text.startsWith e "https://" = true

instance (e : String) : Decidable (IsSecure e) := inferInstanceAs (Decidable (_ = true))

variable {e : String}

/-! ### Addresses -/

theorem secureEndpoint?_eq_none (he : ¬ IsSecure e) : secureEndpoint? (some e) = none :=
  Option.filter_eq_none_iff.mpr fun _ hs => Option.some.inj hs ▸ he

/-- What is left of an address is secure, or empty. -/
theorem secureEndpoint?_getD (e : String) :
    secureEndpoint? (some ((secureEndpoint? (some e)).getD "")) = secureEndpoint? (some e) := by
  by_cases he : IsSecure e
  · have hkeep : secureEndpoint? (some e) = some e := Option.filter_some_pos he
    rw [hkeep, Option.getD_some, hkeep]
  · rw [secureEndpoint?_eq_none he]
    exact secureEndpoint?_eq_none (by decide)

namespace Fields

/-- An address in a field, if it is not secure, is none. -/
theorem secureEndpoint?_text?_setField (he : ¬ IsSecure e) (fs : Fields) (name : String) :
    secureEndpoint? (text? (Json.setField name (.str e) fs) name) = none := by
  unfold text?
  rw [lookup_setField_self]
  show secureEndpoint? (if e.isEmpty then none else some e) = none
  split
  · rfl
  · exact secureEndpoint?_eq_none he

theorem secureEndpoint?_text?_without (fs : Fields) (name : String) :
    secureEndpoint? ((fs.without name).text? name) = none := by
  unfold text?
  rw [lookup_without_self]
  rfl

end Fields

/-! ### Contact forms -/

namespace LeadForm

/-- The form with another address. -/
def withEndpoint (endpoint : Option String) (f : LeadForm) : LeadForm := { f with endpoint }

theorem secured_withEndpoint (he : ¬ IsSecure e) (f : LeadForm) :
    (f.withEndpoint (some e)).secured = (f.withEndpoint none).secured := by
  show { f with endpoint := secureEndpoint? (some e) } = { f with endpoint := none }
  rw [secureEndpoint?_eq_none he]

end LeadForm

/-! ### Wizards -/

/-- What a visitor is asked for, with the address blank unless it is secure. -/
def WizardLead.secured (l : WizardLead) : WizardLead :=
  { l with endpoint := (secureEndpoint? (some l.endpoint)).getD "" }

namespace Wizard

/-- A wizard with the address blank unless it is secure. -/
def secured (w : Wizard) : Wizard := { w with collectLead := w.collectLead.map WizardLead.secured }

/-- The wizard with another address, if it asks for contact data. -/
def withEndpoint (endpoint : String) (w : Wizard) : Wizard :=
  { w with collectLead := w.collectLead.map fun l => { l with endpoint } }

theorem secured_withEndpoint (he : ¬ IsSecure e) (w : Wizard) :
    (w.withEndpoint e).secured = (w.withEndpoint "").secured := by
  unfold secured withEndpoint
  cases w.collectLead with
  | none => rfl
  | some l =>
    have hblank : ({ l with endpoint := e } : WizardLead).secured =
        ({ l with endpoint := "" } : WizardLead).secured := by
      show { l with endpoint := (secureEndpoint? (some e)).getD "" } = _
      rw [secureEndpoint?_eq_none he]
      rfl
    show { w with collectLead := some _ } = { w with collectLead := some _ }
    rw [hblank]

theorem leadEndpoint?_secured (w : Wizard) : w.secured.leadEndpoint? = w.leadEndpoint? := by
  unfold leadEndpoint? secured
  cases w.collectLead with
  | none => rfl
  | some l => exact secureEndpoint?_getD l.endpoint

/-- **A wizard shows what its secured part shows.** -/
theorem panels_secured (w : Wizard) (mode : Mode) :
    w.secured.panels mode w.secured.leadEndpoint? = w.panels mode w.leadEndpoint? := by
  rw [leadEndpoint?_secured]
  -- The fields and the consent text, which the form for contact data shows, are left as they are.
  have hform : Markup.whenSome w.secured.collectLead (contactForm mode.copy w.leadEndpoint?) =
      Markup.whenSome w.collectLead (contactForm mode.copy w.leadEndpoint?) := by
    unfold secured
    cases w.collectLead <;> rfl
  unfold panels resultsPanel
  rw [hform]
  rfl

/-- The script of a wizard knows no address. -/
theorem code_secured (w : Wizard) (mode : Mode) (embedded : Bool) (domain : String) :
    w.secured.code mode embedded domain = w.code mode embedded domain := by
  unfold code settings
  rfl

section SecuredPart

variable {w v : Wizard} (h : w.secured = v.secured)
include h

theorem steps_eq_of_secured_eq : w.steps = v.steps :=
  show w.secured.steps = v.secured.steps from congrArg Wizard.steps h

/-- Wizards with the same secured part show the same. -/
theorem panels_eq_of_secured_eq (mode : Mode) :
    w.panels mode w.leadEndpoint? = v.panels mode v.leadEndpoint? := by
  rw [← panels_secured w, h, panels_secured]

theorem code_eq_of_secured_eq (mode : Mode) (embedded : Bool) (domain : String) :
    w.code mode embedded domain = v.code mode embedded domain := by
  rw [← code_secured w, h, code_secured]

end SecuredPart

/-- Only a wizard with steps is shown. Of two with the same secured part both are shown, or none. -/
theorem filter_cases {o o' : Option Wizard} (h : o.map secured = o'.map secured) :
    ((o.filter fun w => !w.steps.isEmpty) = none ∧ (o'.filter fun w => !w.steps.isEmpty) = none) ∨
      ∃ w v, (o.filter fun w => !w.steps.isEmpty) = some w ∧
        (o'.filter fun w => !w.steps.isEmpty) = some v ∧ w.secured = v.secured := by
  have hsteps (o : Option Wizard) : (o.filter fun w => !w.steps.isEmpty).map secured =
      (o.map secured).filter fun w => !w.steps.isEmpty := by
    rw [Option.filter_map]
    rfl
  have hfilter : (o.filter fun w => !w.steps.isEmpty).map secured =
      (o'.filter fun w => !w.steps.isEmpty).map secured := by
    rw [hsteps, hsteps, h]
  cases hw : o.filter fun w => !w.steps.isEmpty with
  | none =>
    rw [hw] at hfilter
    exact .inl ⟨rfl, Option.map_eq_none_iff.mp hfilter.symm⟩
  | some w =>
    rw [hw] at hfilter
    obtain ⟨v, hv, hsecured⟩ := Option.map_eq_some_iff.mp hfilter.symm
    exact .inr ⟨w, v, rfl, hv, hsecured.symm⟩

end Wizard

/-! ### Articles -/

namespace Article

/-- The article with another address in its contact form, if it has one. -/
def withFormEndpoint (endpoint : Option String) (a : Article) : Article :=
  { a with payloads :=
    { a.payloads with leadForm := a.payloads.leadForm.map (LeadForm.withEndpoint endpoint) } }

/-- The article with another address in its wizard, if it has one that asks for contact data. -/
def withWizardEndpoint (endpoint : String) (a : Article) : Article :=
  { a with payloads :=
    { a.payloads with wizard := a.payloads.wizard.map (Wizard.withEndpoint endpoint) } }

end Article

/-- Addresses that are not secure leave the secured part of a wizard as it is without one. -/
theorem Article.map_secured_withWizardEndpoint (he : ¬ IsSecure e) (a : Article) :
    (a.withWizardEndpoint e).payloads.wizard.map Wizard.secured =
      (a.withWizardEndpoint "").payloads.wizard.map Wizard.secured := by
  show (a.payloads.wizard.map _).map _ = (a.payloads.wizard.map _).map _
  rw [Option.map_map, Option.map_map]
  exact Option.map_congr fun w _ => Wizard.secured_withEndpoint he w

namespace ArticleParts

/-- A contact form only shows on a page for contacts. -/
theorem ofArticle_withFormEndpoint (he : ¬ IsSecure e) (a : Article) (ctx : ArticleContext) :
    ofArticle (a.withFormEndpoint (some e)) ctx = ofArticle (a.withFormEndpoint none) ctx := by
  refine ofArticle_congr ⟨rfl, rfl, rfl, rfl, rfl, rfl, rfl, rfl⟩ (leadCapture_congr rfl ?_)
    fun mode => wizard_congr rfl rfl mode
  show (a.payloads.leadForm.map _).map _ = (a.payloads.leadForm.map _).map _
  rw [Option.map_map, Option.map_map]
  exact Option.map_congr fun f _ => LeadForm.secured_withEndpoint he f

/-- Wizards with the same secured part contribute the same. -/
theorem wizard_eq_of_secured_eq {a b : Article} {ctx : ArticleContext}
    (htext : a.contentMarkdown = b.contentMarkdown)
    (hwizard : a.payloads.wizard.map Wizard.secured = b.payloads.wizard.map Wizard.secured)
    (mode : Wizard.Mode) : wizard a ctx mode = wizard b ctx mode := by
  unfold wizard
  rcases Wizard.filter_cases hwizard with ⟨ha, hb⟩ | ⟨w, v, ha, hb, h⟩
  · rw [ha, hb]
  · rw [ha, hb]
    dsimp only
    rw [text_congr htext, Wizard.panels_eq_of_secured_eq h, Wizard.code_eq_of_secured_eq h]

/-- A wizard only shows on the pages of the five modes. -/
theorem ofArticle_withWizardEndpoint (he : ¬ IsSecure e) (a : Article) (ctx : ArticleContext) :
    ofArticle (a.withWizardEndpoint e) ctx = ofArticle (a.withWizardEndpoint "") ctx := by
  refine ofArticle_congr ⟨rfl, rfl, rfl, rfl, rfl, rfl, rfl, rfl⟩ (leadCapture_congr rfl rfl) ?_
  exact wizard_eq_of_secured_eq rfl (Article.map_secured_withWizardEndpoint he a)

end ArticleParts

/-- The page of an article does not depend on the address in its contact form. -/
theorem articlePage_withFormEndpoint (he : ¬ IsSecure e) (a : Article) (ctx : ArticleContext) :
    articlePage (a.withFormEndpoint (some e)) ctx = articlePage (a.withFormEndpoint none) ctx := by
  unfold articlePage
  rw [ArticleParts.ofArticle_withFormEndpoint he]
  rfl

/-- The page of an article does not depend on the address in its wizard. -/
theorem articlePage_withWizardEndpoint (he : ¬ IsSecure e) (a : Article) (ctx : ArticleContext) :
    articlePage (a.withWizardEndpoint e) ctx = articlePage (a.withWizardEndpoint "") ctx := by
  unfold articlePage
  rw [ArticleParts.ofArticle_withWizardEndpoint he]
  rfl

/-- The widget for other sites does not depend on the address in a wizard. -/
theorem embeddedWidget_withWizardEndpoint (he : ¬ IsSecure e) (a : Article) (domain : String) :
    embeddedWidget (a.withWizardEndpoint e) domain =
      embeddedWidget (a.withWizardEndpoint "") domain := by
  have hwizard := Wizard.filter_cases (Article.map_secured_withWizardEndpoint he a)
  have htype (s : String) : (a.withWizardEndpoint s).contentType = a.contentType := rfl
  unfold embeddedWidget
  rw [htype, htype]
  cases a.contentType.wizardMode? with
  | none => rfl
  | some mode =>
    dsimp only
    rcases hwizard with ⟨hw, hv⟩ | ⟨w, v, hw, hv, h⟩
    · rw [hw, hv]
    · rw [hw, hv]
      dsimp only
      rw [Wizard.panels_eq_of_secured_eq h, Wizard.code_eq_of_secured_eq h]

/-- The page for other sites does not depend on the address in a wizard. -/
theorem embedPage?_withWizardEndpoint (he : ¬ IsSecure e) (a : Article) (domain : String) :
    embedPage? (a.withWizardEndpoint e) domain = embedPage? (a.withWizardEndpoint "") domain := by
  unfold embedPage?
  rw [embeddedWidget_withWizardEndpoint he]
  rfl

/-! ### Wizards read from the content of a block -/

open Schema (Checked Name defaultField either listField optionalField readText)

/-- An address that is not secure is as good as an empty one, whatever the other fields are. -/
theorem WizardLead.map_secured_mk (he : ¬ IsSecure e) (fields : Checked (List String))
    (consent : Checked String) :
    (WizardLead.mk <$> fields <*> consent <*> .ok e).map secured =
      (WizardLead.mk <$> fields <*> consent <*> .ok "").map secured := by
  cases fields with
  | bad problems => cases consent <;> rfl
  | ok fields =>
    cases consent with
    | bad problems => rfl
    | ok consent =>
      show Checked.ok (WizardLead.mk fields consent ((secureEndpoint? (some e)).getD "")) = _
      rw [secureEndpoint?_eq_none he]
      rfl

/-- **What a visitor is asked for is read alike with any address that is not secure, and without
one**, problems included. -/
theorem WizardLead.secured_read_setField (he : ¬ IsSecure e) (lead : Fields) :
    (WizardLead.read (.obj (Json.setField "endpoint" (.str e) lead))).map secured =
      (WizardLead.read (.obj (lead.without "endpoint"))).map secured := by
  have hagree := (Fields.agreeBut_setField lead "endpoint" (.str e)).trans
    (Fields.agreeBut_without lead "endpoint").symm
  have hset : defaultField (Json.setField "endpoint" (.str e) lead) "endpoint" "" readText =
      .ok e := by
    unfold defaultField Name.find?
    rw [Fields.lookup_setField_self]
    rfl
  have hwithout : defaultField (lead.without "endpoint") "endpoint" "" readText = .ok "" := by
    unfold defaultField Name.find?
    rw [Fields.lookup_without_self]
    rfl
  have hother : ∀ n : Name, n.main ≠ "endpoint" → (∀ o, n.other = some o → o ≠ "endpoint") →
      n.find? (Json.setField "endpoint" (.str e) lead) = n.find? (lead.without "endpoint") :=
    fun _ hmain ho => hagree.find?_eq hmain ho
  unfold WizardLead.read Schema.record listField
  dsimp only
  rw [hset, hwithout, Schema.defaultField_congr (hother "fields" (by decide) (by decide)),
    Schema.defaultField_congr
      (hother (either "consentText" "consent_text") (by decide) (by decide))]
  exact map_secured_mk he _ _

/-- The names under which the content of a wizard says what visitors are asked for. -/
def leadNames : List String := ["collectLead", "collect_lead"]

/-- An object under one of these names is what is found, unless there is a value under the other
name. -/
theorem find?_setField_lead {key : String} (hkey : key ∈ leadNames) (content : Fields) :
    (∃ v, ∀ l, (either "collectLead" "collect_lead").find? (Json.setField key (.obj l) content) =
        some v) ∨
      ∀ l, (either "collectLead" "collect_lead").find? (Json.setField key (.obj l) content) =
        some (.obj l) := by
  unfold Name.find? either
  dsimp only
  -- The first name is looked up first, and only a value under it hides one under the second.
  rcases List.mem_cons.mp hkey with rfl | hkey
  · right
    intro l
    rw [Fields.lookup_setField_self]
  · obtain rfl := List.mem_singleton.mp hkey
    have hmain (l : Fields) : (Json.setField "collect_lead" (.obj l) content).lookup "collectLead" =
        content.lookup "collectLead" :=
      Fields.agreeBut_setField content "collect_lead" _ "collectLead" (by decide)
    cases hv : content.lookup "collectLead" with
    | some v =>
      left
      refine ⟨v, fun l => ?_⟩
      rw [hmain, hv]
    | none =>
      right
      intro l
      rw [hmain, hv, Option.bind_some, Fields.lookup_setField_self]

/-- What a visitor is asked for is read alike from objects that are read alike. -/
theorem secured_readLead_eq {key : String} (hkey : key ∈ leadNames) {l l' : Fields}
    (h : (WizardLead.read (.obj l)).map WizardLead.secured =
      (WizardLead.read (.obj l')).map WizardLead.secured) (content : Fields) :
    (optionalField (Json.setField key (.obj l) content) (either "collectLead" "collect_lead")
        WizardLead.read).map (Option.map WizardLead.secured) =
      (optionalField (Json.setField key (.obj l') content) (either "collectLead" "collect_lead")
        WizardLead.read).map (Option.map WizardLead.secured) := by
  unfold optionalField defaultField
  -- Either another value is read in both cases, or the objects are.
  rcases find?_setField_lead hkey content with ⟨v, hv⟩ | hfound
  · rw [hv, hv]
  · rw [hfound, hfound]
    have hunder (step : Schema.Step) (x : Checked WizardLead) :
        ((x.map some).under step).map (Option.map WizardLead.secured) =
          ((x.map WizardLead.secured).map some).under step := by
      cases x <;> rfl
    show ((Checked.map some _).under _).map _ = ((Checked.map some _).under _).map _
    rw [hunder, hunder, h]

/-- The secured part of a wizard is put together from the secured part of what visitors are asked
for; the problems are those of all fields, as before. -/
theorem Wizard.map_secured_mk (steps : Checked (List WizardStep))
    (rules : Checked (List ResultRule)) (template : Checked ResultTemplate)
    (lead : Checked (Option WizardLead)) (scoring : Checked (Option Scoring)) :
    (Wizard.mk <$> steps <*> rules <*> template <*> lead <*> scoring).map secured =
      (Wizard.mk <$> steps <*> rules <*> template <*> lead.map (Option.map WizardLead.secured) <*>
        scoring) := by
  cases steps <;> cases rules <;> cases template <;> cases lead <;> cases scoring <;> rfl

/-- **A wizard is read alike with any address that is not secure, and without one**, problems
included. -/
theorem Wizard.secured_read_setField (he : ¬ IsSecure e) {key : String} (hkey : key ∈ leadNames)
    (lead content : Fields) :
    (Wizard.read (.obj
        (Json.setField key (.obj (Json.setField "endpoint" (.str e) lead)) content))).map secured =
      (Wizard.read (.obj
        (Json.setField key (.obj (lead.without "endpoint")) content))).map secured := by
  have hlead := secured_readLead_eq hkey (WizardLead.secured_read_setField he lead) content
  have hagree : Fields.AgreeBut key
      (Json.setField key (.obj (Json.setField "endpoint" (.str e) lead)) content)
      (Json.setField key (.obj (lead.without "endpoint")) content) :=
    (Fields.agreeBut_setField content key _).trans (Fields.agreeBut_setField content key _).symm
  -- All other fields go by names that are none of the lead's.
  have hother : ∀ n : Name, n.main ∉ leadNames → (∀ o, n.other = some o → o ∉ leadNames) →
      n.find? (Json.setField key (.obj (Json.setField "endpoint" (.str e) lead)) content) =
        n.find? (Json.setField key (.obj (lead.without "endpoint")) content) := by
    intro n hmain ho
    exact hagree.find?_eq (fun h => hmain (h ▸ hkey)) fun o hn h => ho o hn (h ▸ hkey)
  have hscoring : optionalField (Json.setField key _ content) "scoring" Scoring.read =
      optionalField (Json.setField key (.obj (lead.without "endpoint")) content) "scoring"
        Scoring.read :=
    Schema.defaultField_congr (hother "scoring" (by decide) (by decide))
  unfold Wizard.read Schema.record listField
  dsimp only
  rw [Schema.defaultField_congr (hother "steps" (by decide) (by decide)),
    Schema.defaultField_congr
      (hother (either "resultRules" "result_rules") (by decide) (by decide)),
    Schema.defaultField_congr
      (hother (either "resultTemplate" "result_template") (by decide) (by decide)),
    hscoring, map_secured_mk, map_secured_mk, hlead]

/-! ### Blocks -/

namespace Block

variable {b : Block} {ctx : BlockContext} {content config : Fields}

/-- The block with another content. -/
def withContent (content : Fields) (b : Block) : Block := { b with content }

/-- The block with another content, in which an object says what visitors are asked for. -/
def withLead (key : String) (lead fields : Fields) (b : Block) : Block :=
  b.withContent (Json.setField key (.obj lead) fields)

/-- The block with another configuration. -/
def withConfig (config : Fields) (b : Block) : Block := { b with config }

/-- Blocks of one type show the same if they are rendered alike, or fail both. -/
theorem markup_congr {b c : Block} {kind : BlockKind} (hb : BlockKind.named? b.type = some kind)
    (hc : c.type = b.type) (h : kind.render b ctx = kind.render c ctx) :
    b.markup ctx = c.markup ctx := by
  unfold markup
  rw [hc, hb]
  dsimp only
  rw [h]

/-- A block with a contact form reads nothing but the address from its configuration. -/
theorem leadForm_withConfig (h : secureEndpoint? (config.text? "endpoint") = none) :
    (b.withConfig config).leadForm = (b.withConfig []).leadForm := by
  -- An address of `#` stands for none, and is left out before the others are looked at.
  have hfilter : secureEndpoint? ((config.text? "endpoint").filter fun e => e != "#") = none := by
    unfold secureEndpoint? at h ⊢
    rw [Option.filter_eq_none_iff] at h ⊢
    intro s hs
    exact h s (Option.eq_some_of_filter_eq_some hs)
  have hform (fields : List LeadField) :
      leadFormOf (b.withConfig config) fields = leadFormOf (b.withConfig []) fields := by
    unfold leadFormOf
    show LeadForm.mk _ _ (secureEndpoint? ((config.text? "endpoint").filter _)) _ _ _ = _
    rw [hfilter]
    rfl
  unfold leadForm
  simp only [hform]
  rfl

/-- A newsletter without a secure address is left out. -/
theorem newsletter_eq_empty (h : secureEndpoint? (content.text? "newsletterEndpoint") = none) :
    newsletter content = .empty := by
  unfold newsletter
  rw [h]
  rfl

theorem footer_withContent {other : Fields} (h : Fields.AgreeBut "newsletterEndpoint" content other)
    (hnews : newsletter content = newsletter other) :
    (b.withContent content).footer ctx = (b.withContent other).footer ctx := by
  have hcolumns : content.records "columns" = other.records "columns" := h.records_eq (by decide)
  have hyear : content.number? "copyrightYear" = other.number? "copyrightYear" :=
    h.number?_eq (by decide)
  have hname : content.text? "siteName" = other.text? "siteName" := h.text?_eq (by decide)
  have hdisclaimer : content.text? "disclaimerText" = other.text? "disclaimerText" :=
    h.text?_eq (by decide)
  unfold footer copyrightYear withContent
  dsimp only
  rw [hcolumns, hyear, hname, hdisclaimer, hnews]
  rfl

/-- Wizards whose contents have the same secured part, or the same problems, show the same. -/
theorem wizard_withContent {other : Fields}
    (h : (Wizard.read (.obj content)).map Wizard.secured =
      (Wizard.read (.obj other)).map Wizard.secured) :
    (b.withContent content).wizard ctx = (b.withContent other).wizard ctx := by
  unfold wizard payload withContent
  dsimp only
  cases hw : Wizard.read (.obj content) with
  | bad problems =>
    rw [hw] at h
    cases hv : Wizard.read (.obj other) with
    | bad problems' =>
      rw [hv] at h
      cases h
      rfl
    | ok v =>
      rw [hv] at h
      cases h
  | ok w =>
    rw [hw] at h
    cases hv : Wizard.read (.obj other) with
    | bad problems =>
      rw [hv] at h
      cases h
    | ok v =>
      rw [hv] at h
      -- The wizard is shown by its secured part alone.
      have hsecured : w.secured = v.secured := Checked.ok.inj h
      show Except.ok (Markup.when _ _) = Except.ok (Markup.when _ _)
      rw [Wizard.steps_eq_of_secured_eq hsecured, Wizard.panels_eq_of_secured_eq hsecured,
        Wizard.code_eq_of_secured_eq hsecured]

end Block

/-- **An address that is not encrypted leaves no trace.**

* The page of an article is the same with such an address in its contact form as without one, and
  the same with such an address in its wizard as with an empty one; so is the page for other sites,
  which shows no contact form anyway.
* A block with a contact form, a wizard or a newsletter shows the same as without the address,
  whatever else stands in its content and configuration, and also where it cannot be rendered. A
  wizard also shows the same as with an empty address. -/
theorem insecure_endpoint_leaves_no_trace (e : String) (he : ¬ IsSecure e) :
    (∀ (a : Article) (ctx : ArticleContext) (domain : String),
      articlePage (a.withFormEndpoint (some e)) ctx = articlePage (a.withFormEndpoint none) ctx ∧
        embedPage? (a.withFormEndpoint (some e)) domain =
          embedPage? (a.withFormEndpoint none) domain ∧
        articlePage (a.withWizardEndpoint e) ctx = articlePage (a.withWizardEndpoint "") ctx ∧
        embedPage? (a.withWizardEndpoint e) domain =
          embedPage? (a.withWizardEndpoint "") domain) ∧
      ∀ (b : Block) (ctx : BlockContext) (fields lead : Fields),
        (b.type = "LeadForm" →
          (b.withConfig (Json.setField "endpoint" (.str e) fields)).markup ctx =
            (b.withConfig (fields.without "endpoint")).markup ctx) ∧
        (b.type = "Footer" →
          (b.withContent (Json.setField "newsletterEndpoint" (.str e) fields)).markup ctx =
            (b.withContent (fields.without "newsletterEndpoint")).markup ctx) ∧
        (b.type = "Wizard" → ∀ key ∈ leadNames,
          (b.withLead key (Json.setField "endpoint" (.str e) lead) fields).markup ctx =
              (b.withLead key (lead.without "endpoint") fields).markup ctx ∧
            (b.withLead key (Json.setField "endpoint" (.str e) lead) fields).markup ctx =
              (b.withLead key (Json.setField "endpoint" (.str "") lead) fields).markup ctx) := by
  refine ⟨fun a ctx domain => ⟨articlePage_withFormEndpoint he a ctx, rfl,
    articlePage_withWizardEndpoint he a ctx, embedPage?_withWizardEndpoint he a domain⟩, ?_⟩
  intro b ctx fields lead
  refine ⟨fun htype => ?_, fun htype => ?_, fun htype key hkey => ?_⟩
  · have hkind : BlockKind.named? b.type = some .leadForm := by rw [htype]; rfl
    have hset := Fields.secureEndpoint?_text?_setField he fields "endpoint"
    have hwithout := Fields.secureEndpoint?_text?_without fields "endpoint"
    exact Block.markup_congr hkind rfl
      ((Block.leadForm_withConfig hset).trans (Block.leadForm_withConfig hwithout).symm)
  -- The newsletter is left out in both, and the rest of a footer reads other fields.
  · have hkind : BlockKind.named? b.type = some .footer := by rw [htype]; rfl
    have hset := Fields.secureEndpoint?_text?_setField he fields "newsletterEndpoint"
    have hwithout := Fields.secureEndpoint?_text?_without fields "newsletterEndpoint"
    have hagree := (Fields.agreeBut_setField fields "newsletterEndpoint" (.str e)).trans
      (Fields.agreeBut_without fields "newsletterEndpoint").symm
    refine Block.markup_congr hkind rfl (Block.footer_withContent hagree ?_)
    rw [Block.newsletter_eq_empty hset, Block.newsletter_eq_empty hwithout]
  -- An empty address is not secure either, so that all three are compared with no address.
  · have hkind : BlockKind.named? b.type = some .wizard := by rw [htype]; rfl
    have hwizard (s : String) (hs : ¬ IsSecure s) :
        (b.withLead key (Json.setField "endpoint" (.str s) lead) fields).markup ctx =
          (b.withLead key (lead.without "endpoint") fields).markup ctx :=
      Block.markup_congr hkind rfl
        (Block.wizard_withContent (Wizard.secured_read_setField hs hkey lead fields))
    exact ⟨hwizard e he, (hwizard e he).trans (hwizard "" (by decide)).symm⟩

/-- A block with a contact form that would send its data unencrypted. -/
def plainLeadBlock : Block where
  id := "contact"
  type := "LeadForm"
  variant := none
  content := [("fields", .arr [.obj [("name", .str "email"), ("label", .str "Mail")]])]
  config := [("endpoint", .str "http://example.com/lead")]

theorem http_endpoint_leaves_no_trace :
    ¬ IsSecure "http://example.com/lead" ∧ ∀ ctx : BlockContext,
      plainLeadBlock.markup ctx = (plainLeadBlock.withConfig []).markup ctx :=
  ⟨by decide, fun ctx =>
    ((insecure_endpoint_leaves_no_trace "http://example.com/lead" (by decide)).2
      plainLeadBlock ctx [] []).1 rfl⟩

end StaticSite
