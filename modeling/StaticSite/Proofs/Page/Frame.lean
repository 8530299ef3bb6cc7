import StaticSite.Page.Home
import StaticSite.Proofs.Html.Links

/-!
# The links of the frame of a page

The frame of the pages of a site has links in its header, in its footer and in the column beside the
contents, and every page refers to the style sheet and to the icon. `Frame.pageLinks` are all of
them.

The links of a page are those of its frame, those of its contents, and those of the fragments that a
provider of advertisements supplies and that stand in the head and at the end (`links_wrap`). The
home page adds the links to the articles of the site to those of the frame (`links_homePage`), and
the page for what is missing a link to the home page (`links_missingPage`).
-/

namespace StaticSite

open Markup (HasLinks)

/-! ### Lists of links -/

/-- The addresses of links, as they are written. -/
def NavLink.targets (ls : List NavLink) : List String := ls.map fun l => (esc l.href).text

theorem hasLinks_anchor (l : NavLink) : l.anchor.HasLinks [(esc l.href).text] :=
  have htag : (startTag "a" [attr "href" l.href]).HasLinks [(esc l.href).text] :=
    .startTag rfl [("href", l.href)] (by simp [isMarkupName])
  .elWith rfl htag (.esc l.label)

theorem hasLinks_item (l : NavLink) : l.item.HasLinks [(esc l.href).text] :=
  .elWith rfl (.startTag_nil rfl) (hasLinks_anchor l)

theorem flatMap_target (ls : List NavLink) :
    ls.flatMap (fun l => [(esc l.href).text]) = NavLink.targets ls :=
  List.map_eq_flatMap.symm

theorem hasLinks_anchors (ls : List NavLink) :
    (Markup.concat (ls.map NavLink.anchor)).HasLinks (NavLink.targets ls) := by
  rw [← flatMap_target]
  exact .concat fun l _ => hasLinks_anchor l

theorem hasLinks_items (ls : List NavLink) :
    (NavLink.items ls).HasLinks (NavLink.targets ls) := by
  rw [← flatMap_target]
  exact .concat fun l _ => hasLinks_item l

/-- The link to the home page that stands for the site. -/
theorem hasLinks_homeLink (className text : String) :
    (el "a" [attr "href" "/", cls className] (esc text)).HasLinks ["/"] := by
  have htag : (startTag "a" [attr "href" "/", cls className]).HasLinks ["/"] :=
    .startTag rfl [("href", "/"), ("class", className)] (by simp [isMarkupName])
  exact .elWith rfl htag (.esc text)

namespace Frame

variable (f : Frame)

/-! ### Header -/

/-- The links to the pages of trust, as they are written. -/
def trustTargets : List String := NavLink.targets (trustLinks f.settings)

/-- The links in the header. -/
def headerLinks : List String :=
  "/" :: if f.layout.header = .minimal then [] else "/" :: f.trustTargets

theorem hasLinks_header : f.header.HasLinks f.headerLinks := by
  have hend : (Markup.rows [.indent 2 <| endTag "div", endTag "header"]).HasLinks [] :=
    .rows_cons_none (.indent (.endTag rfl) 2) (.rows_cons_none (.endTag rfl) .rows_nil)
  have hstart : (Markup.rows
      [startTag "header" [cls ("site-header header--" ++ f.layout.header.word)],
       .indent 2 <| startTag "div" [cls "site-container"],
       .indent 4 <| el "a" [attr "href" "/", cls "logo"] (esc f.siteTitle)]).HasLinks ["/"] :=
    .rows_cons_none (.startTag_cls rfl _) <| .rows_cons_none (.indent (.startTag_cls rfl _) 2) <|
      .rows_singleton (.indent (hasLinks_homeLink "logo" f.siteTitle) 4)
  unfold header headerLinks
  dsimp only
  by_cases hminimal : f.layout.header = .minimal
  · rw [if_pos hminimal, if_pos hminimal]
    exact (hstart.rows_append .rows_nil).rows_append hend
  · rw [if_neg hminimal, if_neg hminimal]
    have hnav : (Markup.rows [.indent 4 <| el "nav" []
        (Markup.concat ((NavLink.home :: trustLinks f.settings).map NavLink.anchor))]).HasLinks
          ("/" :: f.trustTargets) :=
      .rows_singleton (.indent (.elWith rfl (.startTag_nil rfl) (hasLinks_anchors _)) 4)
    have hall := (hstart.rows_append hnav).rows_append hend
    rwa [List.append_nil] at hall

/-! ### Footer -/

theorem hasLinks_linkColumn (heading : String) (links : List NavLink) :
    (Markup.rows (linkColumn heading links)).HasLinks (NavLink.targets links) := by
  have hlist : (el "ul" [] (NavLink.items links)).HasLinks (NavLink.targets links) :=
    .elWith rfl (.startTag_nil rfl) (hasLinks_items links)
  have hend : (Markup.rows [.indent 6 <| el "ul" [] (NavLink.items links),
      .indent 4 <| endTag "div"]).HasLinks (NavLink.targets links ++ []) :=
    .rows_cons (.indent hlist 6) (.rows_singleton (.indent (.endTag rfl) 4))
  rw [List.append_nil] at hend
  exact .rows_cons_none (.indent (.startTag_cls rfl _) 4) <|
    .rows_cons_none (.indent (.textEl rfl heading) 6) hend

/-- The links in the columns of the footer. -/
def columnLinks : List String := "/" :: "/sitemap.xml" :: f.trustTargets

theorem hasLinks_linkColumns : f.linkColumns.HasLinks f.columnLinks := by
  have hstart : (Markup.rows [.indent 2 <| startTag "div" [cls "footer-columns"]]).HasLinks [] :=
    .rows_singleton (.indent (.startTag_cls rfl _) 2)
  have hsite := hasLinks_linkColumn "Site" [.home, ⟨"Sitemap", "/sitemap.xml"⟩]
  have htargets : NavLink.targets [.home, ⟨"Sitemap", "/sitemap.xml"⟩] = ["/", "/sitemap.xml"] := by
    decide
  -- Without links to pages of trust there is no column for them.
  have htrust : (Markup.rows (if (trustLinks f.settings).isEmpty then []
      else linkColumn "Trust" (trustLinks f.settings))).HasLinks f.trustTargets := by
    unfold trustTargets
    split
    · next hempty =>
      rw [List.isEmpty_iff.mp hempty]
      exact .rows_nil
    · exact hasLinks_linkColumn "Trust" (trustLinks f.settings)
  have hend : (Markup.rows [.indent 2 <| endTag "div"]).HasLinks [] :=
    .rows_singleton (.indent (.endTag rfl) 2)
  have hall := ((hstart.rows_append hsite).rows_append htrust).rows_append hend
  rwa [htargets, List.append_nil, List.nil_append] at hall

theorem hasLinks_disclaimerLine : f.disclaimerLine.HasLinks [] := by
  unfold disclaimerLine Markup.whenSome
  split
  · exact .rows_singleton (.indent (.textEl_cls rfl _ _) 2)
  · exact .of_notMem (by decide)

theorem hasLinks_copyrightLine (more : String) : (f.copyrightLine more).HasLinks [] := by
  have hsign : (html "&copy; ").HasLinks [] := .of_notMem (by decide)
  exact .indent (.elWith rfl (.startTag_nil rfl) (hsign.append (.esc _))) 4

theorem hasLinks_footerEnd (className more : String) :
    (Markup.rows (f.footerEnd className more)).HasLinks f.columnLinks := by
  have hend : (Markup.rows [f.disclaimerLine, f.copyrightLine more,
      .indent 2 <| endTag "div"]).HasLinks [] :=
    .rows_cons_none f.hasLinks_disclaimerLine <| .rows_cons_none (f.hasLinks_copyrightLine more) <|
      .rows_singleton (.indent (.endTag rfl) 2)
  have hall := Markup.HasLinks.rows_cons f.hasLinks_linkColumns hend
  rw [List.append_nil] at hall
  exact .rows_cons_none (.indent (.startTag_cls rfl _) 2) hall

/-- The invitation has a link to the home page. -/
theorem hasLinks_invitation : (Markup.rows f.invitation).HasLinks ["/"] := by
  have htag : (startTag "a" [attr "href" "/"]).HasLinks ["/"] :=
    .startTag rfl [("href", "/")] rfl
  have hlink : (el "a" [attr "href" "/"] (esc "Explore all guides")).HasLinks ["/"] :=
    .elWith rfl htag (.esc _)
  exact .rows_cons_none (.indent (.startTag_cls rfl _) 2) <|
    .rows_cons_none (.indent (.textEl rfl _) 4) <| .rows_cons_none (.indent (.textEl rfl _) 4) <|
      .rows_cons (.indent hlink 4) <| .rows_singleton (.indent (.endTag rfl) 2)

theorem hasLinks_mailField : mailField.HasLinks [] := by
  -- One of its attributes has no value, so that it is read as a tag and not by its attributes.
  have htext : mailField.text.toList = '<' :: mailField.text.toList.tail := by decide
  have htag := Markup.HasLinks.of_tag htext (by decide) (by decide)
  have hnone : tagLinks mailField.text.toList.tail = [] := by decide
  rwa [hnone] at htag

theorem hasLinks_subscription : (Markup.rows f.subscription).HasLinks [] := by
  have hform : (startTag "form"
      [cls "newsletter-form", attr "onsubmit" "return false;"]).HasLinks [] :=
    .startTag rfl [("class", "newsletter-form"), ("onsubmit", "return false;")] rfl
  have hbutton : (el "button" [attr "type" "submit"] (esc "Subscribe")).HasLinks [] :=
    .elWith rfl (.startTag_attr rfl rfl (by decide) "submit") (.esc _)
  exact .rows_cons_none (.indent (.startTag_cls rfl _) 2) <|
    .rows_cons_none (.indent (.textEl rfl _) 4) <| .rows_cons_none (.indent (.textEl rfl _) 4) <|
      .rows_cons_none (.indent hform 4) <| .rows_cons_none (.indent hasLinks_mailField 6) <|
        .rows_cons_none (.indent hbutton 6) <| .rows_cons_none (.indent (.endTag rfl) 4) <|
          .rows_singleton (.indent (.endTag rfl) 2)

/-- The links in the footer. -/
def footerLinks : List String :=
  (if f.layout.footer = .ctaBar then ["/"] else []) ++ f.columnLinks

theorem hasLinks_footer : f.footer.HasLinks f.footerLinks := by
  have hparts : (Markup.rows f.footerParts).HasLinks f.footerLinks := by
    unfold footerParts footerLinks
    cases f.layout.footer with
    | multiColumn => exact f.hasLinks_footerEnd _ _
    | ctaBar => exact f.hasLinks_invitation.rows_append (f.hasLinks_footerEnd _ _)
    | newsletter => exact f.hasLinks_subscription.rows_append (f.hasLinks_footerEnd _ _)
    | minimal => exact f.hasLinks_footerEnd _ _
  have hstart : (Markup.rows
      [startTag "footer" [cls ("site-footer footer--" ++ f.layout.footer.word)]]).HasLinks [] :=
    .rows_singleton (.startTag_cls rfl _)
  have hend : (Markup.rows [endTag "footer"]).HasLinks [] := .rows_singleton (.endTag rfl)
  have hall := (hstart.rows_append hparts).rows_append hend
  rwa [List.append_nil] at hall

/-! ### The column beside the contents -/

theorem hasLinks_sidebarSection (heading : String) {contents : Markup} {l : List String}
    (h : contents.HasLinks l) : (Markup.rows (sidebarSection heading contents)).HasLinks l := by
  have hend : (Markup.rows [.indent 4 <| contents, .indent 2 <| endTag "div"]).HasLinks (l ++ []) :=
    .rows_cons (.indent h 4) (.rows_singleton (.indent (.endTag rfl) 2))
  rw [List.append_nil] at hend
  exact .rows_cons_none (.indent (.startTag_cls rfl _) 2) <|
    .rows_cons_none (.indent (.textEl rfl heading) 4) hend

/-- The links in the column beside the contents: those to the first articles. -/
def sidebarLinks : List String := NavLink.targets (f.links.take maxSidebarLinks)

theorem hasLinks_sidebar : f.sidebar.HasLinks f.sidebarLinks := by
  have hstart : (Markup.rows [startTag "aside" [cls "sidebar"]]).HasLinks [] :=
    .rows_singleton (.startTag_cls rfl _)
  have hrecent : (Markup.rows (if (f.links.take maxSidebarLinks).isEmpty then []
      else sidebarSection "Popular Guides"
        (el "ul" [] (NavLink.items (f.links.take maxSidebarLinks))))).HasLinks f.sidebarLinks := by
    unfold sidebarLinks
    split
    · next hempty =>
      rw [List.isEmpty_iff.mp hempty]
      exact .rows_nil
    · exact hasLinks_sidebarSection _ (.elWith rfl (.startTag_nil rfl) (hasLinks_items _))
  have habout : (Markup.rows (sidebarSection ("About " ++ f.siteTitle)
      (el "p" [] (esc f.about)))).HasLinks [] := hasLinks_sidebarSection _ (.textEl rfl f.about)
  have hend : (Markup.rows [endTag "aside"]).HasLinks [] := .rows_singleton (.endTag rfl)
  have hall := ((hstart.rows_append hrecent).rows_append habout).rows_append hend
  rwa [List.append_nil, List.append_nil] at hall

/-! ### Pages -/

/-- The links that the frame puts into every page. -/
def pageLinks : List String :=
  ["/styles.css", "/favicon.svg"] ++ f.headerLinks ++
    (if f.layout.hasSidebar then f.sidebarLinks else []) ++ f.footerLinks

/-- **The links of the frame**: those to the home page, the style sheet, the icon and the map, those
to the pages of trust, and those to articles. -/
theorem forall_mem_pageLinks {P : String → Prop} (hroot : P "/") (hstyles : P "/styles.css")
    (hicon : P "/favicon.svg") (hmap : P "/sitemap.xml") (htrust : ∀ link ∈ f.trustTargets, P link)
    (harticles : ∀ link ∈ NavLink.targets f.links, P link) : ∀ link ∈ f.pageLinks, P link := by
  have hheader : ∀ link ∈ f.headerLinks, P link := by
    unfold headerLinks
    split
    · exact List.forall_mem_singleton.mpr hroot
    · exact List.forall_mem_cons.mpr ⟨hroot, List.forall_mem_cons.mpr ⟨hroot, htrust⟩⟩
  have hsidebar : ∀ link ∈ (if f.layout.hasSidebar then f.sidebarLinks else []), P link := by
    split
    · intro link hlink
      obtain ⟨l, hl, rfl⟩ := List.mem_map.mp hlink
      exact harticles _ (List.mem_map_of_mem (List.mem_of_mem_take hl))
    · exact fun _ hlink => absurd hlink List.not_mem_nil
  have hfooter : ∀ link ∈ f.footerLinks, P link := by
    unfold footerLinks columnLinks
    rw [List.forall_mem_append, List.forall_mem_cons, List.forall_mem_cons]
    refine ⟨?_, hroot, hmap, htrust⟩
    split
    · exact List.forall_mem_singleton.mpr hroot
    · exact fun _ hlink => absurd hlink List.not_mem_nil
  unfold pageLinks
  rw [List.forall_mem_append, List.forall_mem_append, List.forall_mem_append, List.forall_mem_cons,
    List.forall_mem_singleton]
  exact ⟨⟨⟨⟨hstyles, hicon⟩, hheader⟩, hsidebar⟩, hfooter⟩

end Frame

namespace PageShell

/-- What stands in the head of a page besides the lines of the frame: the fragment of a provider of
advertisements, and what the page adds. -/
def headFragments (s : PageShell) (extra : Markup) : Markup :=
  Markup.rows [.indent 2 <| s.headScripts, .indent 2 <| extra]

/-- The fragment of a provider of advertisements at the end of a page. -/
def bodyFragment (s : PageShell) : Markup := Markup.rows [s.bodyScripts]

theorem hasLinks_headStart (description : String) :
    (Markup.rows (headStart description)).HasLinks [] := by
  have hdoctype : (html "<!DOCTYPE html>").HasLinks [] := by
    have htext : (html "<!DOCTYPE html>").text.toList = '<' :: "!DOCTYPE html>".toList := rfl
    exact .of_tag htext (by decide) (by decide)
  have hhtml : (startTag "html" [attr "lang" "en"]).HasLinks [] :=
    .startTag_attr rfl rfl (by decide) "en"
  have hcharset : (leaf "meta" [attr "charset" "UTF-8"]).HasLinks [] :=
    .startTag_attr rfl rfl (by decide) "UTF-8"
  have hmeta (value content : String) :
      (leaf "meta" [attr "name" value, attr "content" content]).HasLinks [] :=
    .startTag rfl [("name", value), ("content", content)] (by simp [isMarkupName])
  exact .rows_cons_none hdoctype <| .rows_cons_none hhtml <|
    .rows_cons_none (.startTag_nil rfl) <| .rows_cons_none (.indent hcharset 2) <|
      .rows_cons_none (.indent (hmeta _ _) 2) <| .rows_cons_none (.indent (hmeta _ _) 2) <|
        .rows_singleton (.indent (hmeta _ _) 2)

theorem hasLinks_headLines (head : PageHead) (siteTitle : String) :
    (Markup.rows (headStart head.description ++
      [.indent 2 <| el "title" [] (esc (head.title ++ " | " ++ siteTitle)),
       .indent 2 <| stylesheetLink "/styles.css", .indent 2 <| iconLink])).HasLinks
        ["/styles.css", "/favicon.svg"] := by
  have hstyle : (stylesheetLink "/styles.css").HasLinks ["/styles.css"] :=
    .startTag rfl [("rel", "stylesheet"), ("href", "/styles.css")] rfl
  have hicon : iconLink.HasLinks ["/favicon.svg"] :=
    .startTag rfl [("rel", "icon"), ("href", "/favicon.svg"), ("type", "image/svg+xml")] rfl
  exact (hasLinks_headStart head.description).rows_append <|
    .rows_cons_none (.indent (.textEl rfl _) 2) <| .rows_cons (.indent hstyle 2) <|
      .rows_singleton (.indent hicon 2)

/-- The contents of a page may be anything: their last tag ends where that of the frame begins. -/
theorem hasLinks_columns (s : PageShell) (contents : Markup) :
    (s.columns contents).HasLinks
      (contents.links ++ if s.hasSidebar then s.sidebar.links else []) := by
  have hmain : (el "main" [] contents).HasLinks contents.links :=
    .el rfl (.startTag_nil rfl) contents
  have hdiv (className : String) (inner : Markup) :
      (el "div" [cls className] inner).HasLinks inner.links := .el rfl (.startTag_cls rfl _) inner
  unfold columns
  dsimp only
  split
  -- Two elements around the contents and the column, of which the first ends after the contents.
  · have hwrap := (hdiv "layout-wrap" (el "main" [] contents ++ s.sidebar)).links_eq
    have hall := hdiv "site-container"
      (el "div" [cls "layout-wrap"] (el "main" [] contents ++ s.sidebar))
    rwa [hwrap, hmain.links_append] at hall
  · have hall := hdiv "site-container" (el "main" [] contents)
    rwa [hmain.links_eq, ← List.append_nil contents.links] at hall

/-- A page is put together from what the frame begins it with, the fragments of its head, the frame
around its contents, the fragment at its end, and the last tags. -/
theorem wrap_eq (s : PageShell) (head : PageHead) (contents : Markup) :
    s.wrap head contents =
      Markup.rows (headStart head.description ++
        [.indent 2 <| el "title" [] (esc (head.title ++ " | " ++ s.siteTitle)),
         .indent 2 <| stylesheetLink "/styles.css", .indent 2 <| iconLink]) ++
      s.headFragments head.extra ++
      Markup.rows [endTag "head", startTag "body" [], s.header, s.columns contents, s.footer] ++
      s.bodyFragment ++ Markup.rows [endTag "body", endTag "html"] := by
  unfold headFragments bodyFragment
  rw [← Markup.rows_append, ← Markup.rows_append, ← Markup.rows_append, ← Markup.rows_append]
  rfl

theorem hasLinks_body (f : Frame) (contents : Markup) :
    (Markup.rows [endTag "head", startTag "body" [], (build f).header,
      (build f).columns contents, (build f).footer]).HasLinks (f.headerLinks ++
        (contents.links ++ (if f.layout.hasSidebar then f.sidebarLinks else []) ++
          f.footerLinks)) := by
  have hcolumns := hasLinks_columns (build f) contents
  -- Where there is no column beside the contents, its links do not count.
  have hsidebar : (if (build f).hasSidebar then (build f).sidebar.links else []) =
      if f.layout.hasSidebar then f.sidebarLinks else [] := by
    unfold build Markup.when
    dsimp only
    split
    · exact f.hasLinks_sidebar.links_eq
    · rfl
  rw [hsidebar] at hcolumns
  exact .rows_cons_none (.endTag rfl) <| .rows_cons_none (.startTag_nil rfl) <|
    .rows_cons f.hasLinks_header <| .rows_cons hcolumns <| .rows_singleton f.hasLinks_footer

/-- **The links of a page** are those of its frame, of its contents, and of the fragments that are
put into it. -/
theorem links_wrap (f : Frame) (head : PageHead) (contents : Markup) :
    ((build f).wrap head contents).links.Perm (f.pageLinks ++
      (((build f).headFragments head.extra).links ++ contents.links ++
        (build f).bodyFragment.links)) := by
  have hend : (Markup.rows [endTag "body", endTag "html"]).HasLinks [] :=
    .rows_cons_none (.endTag rfl) (.rows_singleton (.endTag rfl))
  have htag (name : String) (ms : List Markup) : (Markup.rows (endTag name :: ms)).BeginsWithTag :=
    (Markup.beginsWithTag_endTag name).rows_cons ms
  -- The fragments may leave a tag open, but tags of the frame follow them.
  rw [wrap_eq, (hend.behind (htag "body" _) _).links_eq,
    ((hasLinks_body f contents).behind (htag "head" _) _).links_append,
    (hasLinks_headLines head _).links_append, List.perm_iff_count]
  intro link
  simp only [Frame.pageLinks, List.count_append, List.count_nil]
  omega

end PageShell

/-! ### The home page and the page for what is missing -/

/-- Linked data have no links, whatever they say. -/
theorem hasLinks_linkedData (members : List (String × Json)) :
    (linkedData members).HasLinks [] := by
  have hscript (json : String) : (Html.inScript json).HasLinks [] :=
    .of_notMem (Markup.lt_notMem_inScript json)
  exact .elWith rfl (.startTag_attr rfl rfl (by decide) _) (hscript _)

theorem hasLinks_homeOpening (hero : HeroStyle) (title tagline : String) :
    (Markup.rows (homeOpening hero title tagline)).HasLinks [] := by
  have hheading : (el "h1" [] (esc title)).HasLinks [] := .textEl rfl title
  unfold homeOpening
  dsimp only
  split
  · exact .rows_singleton hheading
  · exact .rows_cons_none (.startTag_cls rfl _) <| .rows_cons_none (.indent hheading 2) <|
      .rows_cons_none (.indent (.textEl_cls rfl _ _) 2) <| .rows_singleton (.endTag rfl)

theorem hasLinks_articleList (links : List NavLink) :
    (Markup.rows (articleList links)).HasLinks (NavLink.targets links) := by
  have hstart : (Markup.rows [startTag "section" [cls "articles"],
      .indent 2 <| el "h2" [] (esc "Latest Guides"), .indent 2 <| startTag "ul" []]).HasLinks [] :=
    .rows_cons_none (.startTag_cls rfl _) <| .rows_cons_none (.indent (.textEl rfl _) 2) <|
      .rows_singleton (.indent (.startTag_nil rfl) 2)
  have hitems : (Markup.rows ((if links.isEmpty then [el "li" [] (esc "No articles yet")]
      else links.map NavLink.item).map (.indent 4))).HasLinks (NavLink.targets links) := by
    split
    · next hempty =>
      rw [List.isEmpty_iff.mp hempty]
      exact .rows_singleton (.indent (.textEl rfl _) 4)
    · rw [← flatMap_target, List.map_map]
      exact .rows_map fun l _ => .indent (hasLinks_item l) 4
  have hend : (Markup.rows [.indent 2 <| endTag "ul", endTag "section"]).HasLinks [] :=
    .rows_cons_none (.indent (.endTag rfl) 2) (.rows_singleton (.endTag rfl))
  have hall := (hstart.rows_append hitems).rows_append hend
  rwa [List.append_nil] at hall

/-- **The links of the home page**: those of its frame and those to the articles. -/
theorem links_homePage (f : Frame) (domain : String) (niche : Option String) (hero : HeroStyle)
    (links : List NavLink) :
    (homePage domain niche hero links (.build f)).links.Perm (f.pageLinks ++
      (((PageShell.build f).headFragments .empty).links ++ NavLink.targets links ++
        (PageShell.build f).bodyFragment.links)) := by
  have hdata : (siteData domain f.siteTitle (tagline niche)).HasLinks [] := hasLinks_linkedData _
  have hcontents := ((hasLinks_homeOpening hero f.siteTitle (tagline niche)).rows_append
    (.rows_singleton hdata)).rows_append (hasLinks_articleList links)
  rw [List.nil_append, List.nil_append] at hcontents
  rw [← hcontents.links_eq]
  exact PageShell.links_wrap f _ _

/-- **The links of the page for what is missing**: those of its frame and one to the home page. -/
theorem links_missingPage (f : Frame) :
    (missingPage (.build f)).links.Perm (f.pageLinks ++
      (((PageShell.build f).headFragments .empty).links ++ ["/"] ++
        (PageShell.build f).bodyFragment.links)) := by
  have hback : (el "p" [] (el "a" [attr "href" "/", cls "cta-button"]
      (esc ("Back to " ++ f.siteTitle)))).HasLinks ["/"] :=
    .elWith rfl (.startTag_nil rfl) (hasLinks_homeLink _ _)
  have hnotice :
      (html "The page you were looking for doesn't exist or has moved.").HasLinks [] :=
    .of_notMem (by decide)
  have hcontents : (Markup.rows
      [startTag "section" [cls "not-found"],
       .indent 2 <| el "h1" [] (esc "Page not found"),
       .indent 2 <| el "p" [] (html "The page you were looking for doesn't exist or has moved."),
       .indent 2 <| el "p" [] (el "a" [attr "href" "/", cls "cta-button"]
         (esc ("Back to " ++ f.siteTitle))),
       endTag "section"]).HasLinks ["/"] :=
    .rows_cons_none (.startTag_cls rfl _) <| .rows_cons_none (.indent (.textEl rfl _) 2) <|
      .rows_cons_none (.indent (.elWith rfl (.startTag_nil rfl) hnotice) 2) <|
        .rows_cons (.indent hback 2) <| .rows_singleton (.endTag rfl)
  rw [← hcontents.links_eq]
  exact PageShell.links_wrap f _ _

end StaticSite
