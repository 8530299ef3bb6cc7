import StaticSite.Proofs.Html.Tags
import StaticSite.Proofs.Page.Appearance
import StaticSite.Proofs.Site.Sitemap
import StaticSite.Style.Appearance
import StaticSite.Style.Stylesheet

/-!
# The appearance of a site and of its pages

Records name themes and skins by words, and style sheets carry their properties.

* `IsWordTable` is what the tables of the words of themes and skins have in common: a word is found
  exactly if it is the word of something, and this is what it stands for.
* `Stylesheet.Carries` says that a style sheet begins with the properties of a theme and a skin, its
  tokens. The first property of each tells it from all others, so that the style sheet of a site
  carries the tokens of one theme and one skin only (`Stylesheet.carries_forBlocks_iff`).

A site made of pages has one style sheet. Its theme and its skin are chosen for the whole site, by
the records of one page and of the domain, and a pair that is asked for there counts only if both of
it are known (`Appearance.resolve`). Each page declares a theme and a skin for itself: what it
names, if that is known, and else what the site has (`Page.themeOn`, `Page.skinOn`).

`compileSite_declares_appearance` says what this comes to in the files of a site. A page looks as
its style sheet does exactly if it names no known theme and no known skin other than those of the
site. The page that decides for the site always does, if the pair that is asked for is known.
-/

namespace StaticSite

/-! ### Words -/

/-- **A table of words**, each with what it is the word for. No word is empty or has blanks around
it. -/
structure IsWordTable {α : Type} (words : List (String × α)) (word : α → String) : Prop where
  lookup_word (a : α) : words.lookup (word a) = some a
  fst_eq : ∀ e ∈ words, e.1 = word e.2
  isEmpty_word (a : α) : (word a).isEmpty = false
  strip_word (a : α) : Text.strip (word a) = word a

namespace IsWordTable

variable {α : Type} {words : List (String × α)} {word : α → String} {s : String} {a b : α}

theorem lookup_eq_some_iff (h : IsWordTable words word) :
    words.lookup s = some a ↔ s = word a := by
  constructor
  · intro hs
    obtain ⟨before, after, rfl, -⟩ := List.lookup_eq_some_iff.mp hs
    exact h.fst_eq (s, a) (List.mem_append_right _ List.mem_cons_self)
  · rintro rfl
    exact h.lookup_word a

/-- Different things have different words. -/
theorem word_inj (h : IsWordTable words word) (heq : word a = word b) : a = b := by
  have ha := h.lookup_word a
  rw [heq, h.lookup_word b] at ha
  exact (Option.some.inj ha).symm

end IsWordTable

theorem Theme.isWordTable : IsWordTable words word :=
  ⟨fun t => by cases t <;> rfl, by decide, fun t => by cases t <;> rfl, fun t => by cases t <;> rfl⟩

theorem Skin.isWordTable : IsWordTable words word :=
  ⟨fun s => by cases s <;> rfl, by decide, fun s => by cases s <;> rfl, fun s => by cases s <;> rfl⟩

/-! ### Tokens -/

/-- Properties begin with the value of the first one. -/
theorem Css.eq_of_rootProperties_append {name value value' : String}
    {properties properties' : List (String × String)} {rest rest' : List Char}
    (hvalue : ';' ∉ value.toList) (hvalue' : ';' ∉ value'.toList)
    (h : (rootProperties ((name, value) :: properties)).toList ++ rest =
      (rootProperties ((name, value') :: properties')).toList ++ rest') : value = value' := by
  have hopen (v : String) (ps : List (String × String)) (more : List Char) :
      ∃ others, (rootProperties ((name, v) :: ps)).toList ++ more =
        (":root\x7b\n  --".toList ++ name.toList ++ [':']) ++ (v.toList ++ ';' :: others) := by
    unfold rootProperties braced
    rw [List.map_cons, String.join_cons]
    simp only [String.toList_append, List.append_assoc]
    exact ⟨_, rfl⟩
  obtain ⟨others, hothers⟩ := hopen value properties rest
  obtain ⟨others', hothers'⟩ := hopen value' properties' rest'
  rw [hothers, hothers'] at h
  -- The value ends at the first semicolon, since it has none itself.
  have htake := congrArg (List.takeWhile (· != ';')) (List.append_cancel_left h)
  rw [takeWhile_bne_append hvalue, takeWhile_bne_append hvalue',
    List.takeWhile_cons_of_neg (by simp),
    List.takeWhile_cons_of_neg (by simp), List.append_nil, List.append_nil] at htake
  exact String.toList_inj.mp htake

/-- A theme is told by its first property, the font of its headings. -/
theorem Theme.eq_of_css_append {t t' : Theme} {rest rest' : List Char}
    (h : t.css.toList ++ rest = t'.css.toList ++ rest') : t = t' := by
  have hfont (t : Theme) : ';' ∉ t.tokens.headingFont.toList := by cases t <;> decide
  have heq : t.tokens.headingFont = t'.tokens.headingFont :=
    Css.eq_of_rootProperties_append (hfont t) (hfont t') h
  cases t <;> cases t' <;> first | rfl | exact absurd heq (by decide)

/-- A skin is told by its first property, its main colour. -/
theorem Skin.eq_of_css_append {s s' : Skin} {rest rest' : List Char}
    (h : s.css.toList ++ rest = s'.css.toList ++ rest') : s = s' := by
  have hcolor (s : Skin) : ';' ∉ s.tokens.primary.toList := by cases s <;> decide
  have heq : s.tokens.primary = s'.tokens.primary :=
    Css.eq_of_rootProperties_append (hcolor s) (hcolor s') h
  cases s <;> cases s' <;> first | rfl | exact absurd heq (by decide)

namespace Stylesheet

/-- **A style sheet carries the tokens** of a theme and a skin: it begins with them. -/
def Carries (css : String) (theme : Theme) (skin : Skin) : Prop :=
  ∃ rest, css.toList = (tokens theme skin).toList ++ rest

theorem toList_tokens (theme : Theme) (skin : Skin) :
    (tokens theme skin).toList =
      theme.css.toList ++ ('\n' :: (skin.css.toList ++ '\n' :: skin.darkCss.toList)) := by
  unfold tokens
  rw [String.toList_intercalate, List.map_cons, List.map_cons, List.map_singleton,
    List.intercalate_cons_cons, List.intercalate_cons_cons, List.intercalate_singleton]
  simp

/-- No style sheet carries the tokens of two themes or of two skins. -/
theorem Carries.unique {css : String} {theme theme' : Theme} {skin skin' : Skin}
    (h : Carries css theme skin) (h' : Carries css theme' skin') :
    theme = theme' ∧ skin = skin' := by
  obtain ⟨rest, hrest⟩ := h
  obtain ⟨rest', hrest'⟩ := h'
  have htokens := hrest.symm.trans hrest'
  rw [toList_tokens, toList_tokens, List.append_assoc, List.append_assoc] at htokens
  obtain rfl := Theme.eq_of_css_append htokens
  -- The theme is the same, so that the skins stand at the same place.
  have hskin := List.append_cancel_left htokens
  rw [List.cons_append, List.cons_append, List.cons_inj_right, List.append_assoc,
    List.append_assoc] at hskin
  exact ⟨rfl, Skin.eq_of_css_append hskin⟩

/-- **The style sheet of a site made of pages** carries the tokens of its theme and its skin, and no
others. -/
theorem carries_forBlocks_iff {layout : Layout} {theme theme' : Theme} {skin skin' : Skin} :
    Carries (forBlocks layout theme skin) theme' skin' ↔ theme' = theme ∧ skin' = skin := by
  have hown : Carries (forBlocks layout theme skin) theme skin := by
    unfold Carries forBlocks
    rw [String.toList_intercalate, List.map_cons, List.map_cons, List.intercalate_cons_cons,
      List.append_assoc]
    exact ⟨_, rfl⟩
  constructor
  · exact fun h => h.unique hown
  · rintro ⟨rfl, rfl⟩
    exact hown

end Stylesheet

open Stylesheet (Carries)

/-! ### What pages name -/

namespace Page

variable (p : Page)

/-- The theme that a page names for itself, if it is known. -/
def ownTheme? : Option Theme := p.theme.bind fun s => Theme.words.lookup s

/-- The skin that a page names for itself, if it is known. -/
def ownSkin? : Option Skin := p.skin.bind fun s => Skin.words.lookup s

/-- The theme of a page on a site. -/
def themeOn (site : Appearance) : Theme := p.ownTheme?.getD site.theme

/-- The skin of a page on a site. -/
def skinOn (site : Appearance) : Skin := p.ownSkin?.getD site.skin

end Page

namespace Compilation

/-- What is picked from a table of words is known, or else the default. -/
theorem pick_word {α : Type} {words : List (String × α)} {word : α → String}
    (h : IsWordTable words word) (wish : Option String) (a : α) :
    pick (words.map Prod.fst) wish (word a) =
      word ((wish.bind fun s => words.lookup s).getD a) := by
  unfold pick
  -- A wish that is not known counts for nothing, as if there were none.
  cases wish with
  | none => rfl
  | some s =>
    cases hs : words.lookup s with
    | none =>
      have hunknown : (words.map Prod.fst).contains s = false := by
        rw [List.contains_eq_mem, decide_eq_false_iff_not, List.mem_map]
        rintro ⟨e, he, rfl⟩
        exact absurd (List.lookup_eq_none_iff.mp hs e he) (by simp)
      rw [Option.filter_some, hunknown, Option.bind_some, hs]
      rfl
    | some b =>
      have hknown : (words.map Prod.fst).contains s = true := by
        obtain ⟨before, after, rfl, -⟩ := List.lookup_eq_some_iff.mp hs
        simp
      rw [Option.filter_some, hknown, Option.bind_some, hs]
      exact h.lookup_eq_some_iff.mp hs

variable (c : Compilation)

theorem theme_blockContext (p : Page) :
    (c.blockContext p).theme = (p.themeOn c.appearance).word :=
  pick_word Theme.isWordTable p.theme c.appearance.theme

theorem skin_blockContext (p : Page) :
    (c.blockContext p).skin = (p.skinOn c.appearance).word :=
  pick_word Skin.isWordTable p.skin c.appearance.skin

end Compilation

/-! ### What pages declare -/

/-- **A page declares a theme and a skin.** Its body names both, and the fonts of the theme stand
before the style sheet of the site. Another body may come first only if the fragment that a provider
of advertisements puts into the head has one. -/
structure Declares (fragment page : String) (theme : Theme) (skin : Skin) : Prop where
  stylesheets_prefix : theme.fontUrl?.toList ++ ["/styles.css"] <+: stylesheets page
  mem_bodies : [("data-theme", theme.word), ("data-skin", skin.word)] ∈ bodies page
  head?_bodies : bodies fragment = [] →
    (bodies page).head? = some [("data-theme", theme.word), ("data-skin", skin.word)]

namespace Compilation

variable (c : Compilation)

theorem hasStylesheets_pageFile (p : Page) :
    stylesheetReader.HasValues True
      ((p.themeOn c.appearance).fontUrl?.toList ++ ["/styles.css"])
      (tagTexts (c.pageFile p).content.toList) := by
  have hfonts : (c.blockContext p).fontUrl? = (p.themeOn c.appearance).fontUrl? := by
    unfold BlockContext.fontUrl? Theme.named
    rw [theme_blockContext, Theme.isWordTable.lookup_word]
    rfl
  rw [← hfonts]
  unfold pageFile
  dsimp only
  exact hasStylesheets_blockPage p.blocks (c.blockContext p) "/styles.css"

theorem hasBody_pageFile (p : Page) :
    bodyReader.HasValues (bodies c.request.headFragment = [])
      [[("data-theme", (p.themeOn c.appearance).word), ("data-skin", (p.skinOn c.appearance).word)]]
      (tagTexts (c.pageFile p).content.toList) := by
  have hfragment : c.request.headFragment = (c.blockContext p).headScripts.text := rfl
  rw [← theme_blockContext, ← skin_blockContext, hfragment]
  unfold pageFile
  dsimp only
  exact hasBody_blockPage p.blocks (c.blockContext p) "/styles.css"

/-- A page declares its theme and its skin also after mentions of other pages have become links. -/
theorem declares_linkFile (targets : List Link.Target) (p : Page) :
    Declares c.request.headFragment (Link.linkFile targets (c.pageFile p)).content
      (p.themeOn c.appearance) (p.skinOn c.appearance) := by
  have hcuts := Link.cuts_linkFile targets (c.pageFile p)
  have hbody := (c.hasBody_pageFile p).cuts hcuts
  constructor
  · rw [← filterMap_stylesheetReader]
    exact ((c.hasStylesheets_pageFile p).cuts hcuts).prefix_filterMap trivial
  · rw [← filterMap_bodyReader]
    exact List.singleton_sublist.mp hbody.sublist_filterMap
  · intro hfirst
    obtain ⟨others, hothers⟩ := hbody.prefix_filterMap hfirst
    rw [← filterMap_bodyReader, ← hothers]
    rfl

/-! ### What decides on the appearance of a site -/

/-- What a site asks for. -/
def wish : AppearanceWish where
  theme := (c.home?.bind fun p => present? p.theme).or c.domain.theme
  skin := (c.home?.bind fun p => present? p.skin).or c.domain.skin
  style := c.domain.themeStyle
  vertical := c.domain.vertical
  niche := c.domain.niche

theorem appearance_eq : c.appearance = Appearance.resolve c.wish := rfl

end Compilation

namespace Appearance

variable {w : AppearanceWish} {theme : Theme} {skin : Skin}

/-- A pair that is asked for is known by its words, but for blanks around them. -/
theorem asked?_eq_some_iff : asked? w = some (theme, skin) ↔
    w.theme.map Text.strip = some theme.word ∧ w.skin.map Text.strip = some skin.word := by
  unfold asked?
  cases w.theme with
  | none => simp
  | some t =>
    cases w.skin with
    | none => simp
    | some s =>
      simp [Option.bind_eq_some_iff, Theme.isWordTable.lookup_eq_some_iff,
        Skin.isWordTable.lookup_eq_some_iff]

/-- A pair that is asked for and known is taken, whatever else is said. -/
theorem resolve_of_asked? (h : asked? w = some (theme, skin)) :
    resolve w = ⟨theme, skin, .explicit⟩ := by
  unfold resolve
  rw [h]
  rfl

end Appearance

/-- What a record names itself, if it is known, is what is asked for. -/
theorem IsWordTable.eq_of_asked {α : Type} {words : List (String × α)} {word : α → String}
    (h : IsWordTable words word) {own other : Option String} {a b : α}
    (hown : (own.bind fun s => words.lookup s) = some a)
    (hasked : ((present? own).or other).map Text.strip = some (word b)) : a = b := by
  obtain ⟨s, rfl, hs⟩ := Option.bind_eq_some_iff.mp hown
  obtain rfl := h.lookup_eq_some_iff.mp hs
  have hpresent : present? (some (word a)) = some (word a) := by
    unfold present?
    rw [Option.filter_some, h.isEmpty_word]
    rfl
  rw [hpresent, Option.some_or, Option.map_some, h.strip_word] at hasked
  exact h.word_inj (Option.some.inj hasked)

/-- **The page that decides for a site looks as the site does**, if the pair that is asked for is
known. -/
theorem Compilation.themeOn_home {c : Compilation} {p : Page} (hhome : c.home? = some p)
    (h : (Appearance.asked? c.wish).isSome) :
    p.themeOn c.appearance = c.appearance.theme ∧ p.skinOn c.appearance = c.appearance.skin := by
  obtain ⟨⟨theme, skin⟩, hpair⟩ := Option.isSome_iff_exists.mp h
  obtain ⟨htheme, hskin⟩ := Appearance.asked?_eq_some_iff.mp hpair
  unfold wish at htheme hskin
  rw [hhome, Option.bind_some] at htheme hskin
  rw [appearance_eq, Appearance.resolve_of_asked? hpair]
  -- The site looks as the page asks for, so that the page has no other theme or skin of its own.
  constructor
  · unfold Page.themeOn
    cases hown : p.ownTheme? with
    | none => rfl
    | some own => exact Theme.isWordTable.eq_of_asked hown htheme
  · unfold Page.skinOn
    cases hown : p.ownSkin? with
    | none => rfl
    | some own => exact Skin.isWordTable.eq_of_asked hown hskin

/-- A page looks as its site does exactly if it names no other theme or skin that is known. -/
theorem Page.looksAs_iff {p : Page} {site : Appearance} :
    (p.themeOn site = site.theme ∧ p.skinOn site = site.skin) ↔
      (∀ own ∈ p.ownTheme?, own = site.theme) ∧ ∀ own ∈ p.ownSkin?, own = site.skin := by
  unfold themeOn skinOn
  cases p.ownTheme? <;> cases p.ownSkin? <;> simp

/-! ### Compiled sites -/

/-- A site made of pages has a style sheet with the tokens of its theme and its skin. -/
theorem Compilation.styles_mem_of_blockSite_eq_ok {c : Compilation} {files : List SiteFile}
    (h : c.blockSite = .ok files) :
    { path := "styles.css"
      content := Stylesheet.forBlocks c.layout c.appearance.theme c.appearance.skin } ∈ files := by
  obtain ⟨others, rfl⟩ := exists_append_of_complete_eq_ok h
  refine List.mem_append_left _ (List.mem_append_right _ ?_)
  unfold fixedFiles
  exact List.mem_cons_self

/-- A site made of pages has a file for each page, which declares the theme and the skin of the
page. -/
theorem Compilation.exists_declares_of_blockSite_eq_ok {c : Compilation} {files : List SiteFile}
    (hm : c.request.mode = .pages) (h : c.blockSite = .ok files) {p : Page} (hp : p ∈ c.pages) :
    ∃ f ∈ files, f.path = Route.filePath p.route ∧
      Declares c.request.headFragment f.content (p.themeOn c.appearance)
        (p.skinOn c.appearance) := by
  obtain ⟨-, targets, hfiles⟩ := mem_of_blockSite_eq_ok hm h
  exact ⟨_, hfiles p hp, Link.path_linkFile _ _, c.declares_linkFile targets p⟩

variable {r : CompileRequest} {portfolio : List String} {now : Timestamp} {s : CompiledSite}

/-- **What the pages of a site declare, and what its style sheet carries.** In a site made of pages

* the style sheet carries the tokens of the theme and the skin that are chosen for the site, and no
  others;
* the file of each page declares the theme and the skin that the page names for itself, if they are
  known, and else those of the site;
* what a page declares is what the style sheet carries exactly if the page names no other known
  theme or skin, and so it is with the page that decides for the site if the pair that is asked for
  is known. -/
theorem compileSite_declares_appearance (h : compileSite r portfolio now = .ok s)
    (hm : r.mode = .pages) :
    ∃ d site sheet, r.domain = some d ∧
      site = (Compilation.ofRequest r d portfolio now).appearance ∧
      { path := "styles.css", content := sheet } ∈ s.files ∧
      (∀ theme skin, Carries sheet theme skin ↔ theme = site.theme ∧ skin = site.skin) ∧
      ∀ p ∈ publishedPages r.pages,
        (∃ f ∈ s.files, f.path = Route.filePath p.route ∧
          Declares r.headFragment f.content (p.themeOn site) (p.skinOn site)) ∧
        (Carries sheet (p.themeOn site) (p.skinOn site) ↔
          (∀ own ∈ p.ownTheme?, own = site.theme) ∧ ∀ own ∈ p.ownSkin?, own = site.skin) ∧
        ((Compilation.ofRequest r d portfolio now).home? = some p →
          (Appearance.asked? (Compilation.ofRequest r d portfolio now).wish).isSome →
          Carries sheet (p.themeOn site) (p.skinOn site)) := by
  obtain ⟨d, files, hd, hfiles, rfl⟩ := compileSite_eq_ok_iff.mp h
  have hmode : (Compilation.ofRequest r d portfolio now).request.mode = .pages := hm
  unfold Compilation.site at hfiles
  rw [hmode] at hfiles
  refine ⟨d, _, _, hd, rfl, Compilation.styles_mem_of_blockSite_eq_ok hfiles,
    fun _ _ => Stylesheet.carries_forBlocks_iff, fun p hp => ⟨?_, ?_, fun hhome hasked => ?_⟩⟩
  · exact Compilation.exists_declares_of_blockSite_eq_ok hmode hfiles hp
  · rw [Stylesheet.carries_forBlocks_iff, Page.looksAs_iff]
  · exact Stylesheet.carries_forBlocks_iff.mpr (Compilation.themeOn_home hhome hasked)

/-- A site with two pages, of which the second has a theme and a skin of its own. -/
def offerRequest : CompileRequest :=
  { bareRequest with
    pages := [barePage "/", { barePage "/offer" with theme := some "bold", skin := some "coral" }] }

theorem publishedPages_offerRequest : publishedPages offerRequest.pages = offerRequest.pages := by
  rfl

theorem offerRequest_home_declares_shipped_pair :
    ∃ s, compileSite offerRequest [] bareTime = .ok s ∧ ∃ sheet,
      { path := "styles.css", content := sheet } ∈ s.files ∧ Carries sheet .clean .slate ∧
        ∃ f ∈ s.files, f.path = "index.html" ∧ Declares "" f.content .clean .slate := by
  obtain ⟨s, h⟩ : ∃ s, compileSite offerRequest [] bareTime = .ok s :=
    exists_compileSite_of_pages rfl rfl rfl
  obtain ⟨d, site, sheet, hd, rfl, hsheet, hcarries, hpages⟩ :=
    compileSite_declares_appearance h rfl
  obtain rfl := Option.some.inj hd
  rw [publishedPages_offerRequest] at hpages
  obtain ⟨⟨f, hf, hpath, hdeclares⟩, -⟩ := hpages (barePage "/") List.mem_cons_self
  exact ⟨s, h, sheet, hsheet, (hcarries .clean .slate).mpr (by decide), f, hf, hpath, hdeclares⟩

/-- A page with a theme of its own declares it, though the style sheet of its site carries
another. -/
theorem offerRequest_offer_declares_another_pair :
    ∃ s, compileSite offerRequest [] bareTime = .ok s ∧ ∃ sheet,
      { path := "styles.css", content := sheet } ∈ s.files ∧ Carries sheet .clean .slate ∧
        ∃ f ∈ s.files, f.path = "offer/index.html" ∧ Declares "" f.content .bold .coral ∧
          ¬ Carries sheet .bold .coral := by
  obtain ⟨s, h⟩ : ∃ s, compileSite offerRequest [] bareTime = .ok s :=
    exists_compileSite_of_pages rfl rfl rfl
  obtain ⟨d, files, hd, hfiles, rfl⟩ := compileSite_eq_ok_iff.mp h
  obtain rfl := Option.some.inj hd
  have hsite : (Compilation.ofRequest offerRequest bareDomain [] bareTime).blockSite = .ok files :=
    hfiles
  refine ⟨_, h, _, Compilation.styles_mem_of_blockSite_eq_ok hsite,
    Stylesheet.carries_forBlocks_iff.mpr (by decide), ?_⟩
  have hoffer : offerRequest.pages[1] ∈ publishedPages offerRequest.pages := by
    rw [publishedPages_offerRequest]
    exact List.getElem_mem _
  obtain ⟨f, hf, hpath, hdeclares⟩ :=
    Compilation.exists_declares_of_blockSite_eq_ok rfl hsite hoffer
  refine ⟨f, hf, hpath, hdeclares, fun hcarries => ?_⟩
  exact absurd (Stylesheet.carries_forBlocks_iff.mp hcarries).1 (by decide)

end StaticSite
