import StaticSite.Proofs.Html.VisibleText
import StaticSite.Proofs.Link.Disjoint

/-!
# The text of a page with links

A link is put around a phrase as the page has it written, with its character references. The name of
a reference is a word there, between `&` and `;`, and a keyword may be that word.

The tags of a link cut the text around the phrase in two places. If a reference reaches across one
of them (`Insertion.CutsReference`), it is no longer read as one, and the page shows more than
before; otherwise it shows the same (`visibleText_linked`). Since no later link brings a reference
back, a whole pass keeps the text that a page shows exactly if none of its links cuts a reference
(`visibleText_injectLinks_iff`).
-/

namespace StaticSite.Link

open Html (References)
open Html.References (behindTag behindTag_append straddles_behind_end straddles_leadText)

/-- **A link cuts a reference**, where its phrase begins or where it ends. -/
def Insertion.CutsReference (R : References) (i : Insertion) : Prop :=
  R.Straddles i.before (i.phrase ++ i.after) ∨ R.Straddles (i.before ++ i.phrase) i.after

/-! ### One link -/

/-- The tag that begins a link ends with its only `>`, since the address is escaped. -/
theorem exists_of_linkStart {route : String} {tag : List Char}
    (h : linkStart route = '<' :: 'a' :: ' ' :: tag) :
    ∃ address, '>' ∉ address ∧ tag = address ++ ['>'] := by
  have hroute : '>' ∉ (esc route).text.toList := Markup.notMem_toList_esc route (by decide)
  have htag : "href=\"".toList ++ (esc route).text.toList ++ "\">".toList = tag :=
    (List.cons.inj (List.cons.inj (List.cons.inj h).2).2).2
  refine ⟨"href=\"".toList ++ (esc route).text.toList ++ ['"'], ?_, ?_⟩
  · rw [List.mem_append, List.mem_append, not_or, not_or]
    exact ⟨⟨by decide, hroute⟩, by decide⟩
  · rw [← htag, List.append_assoc _ ['"']]
    rfl

/-- Whether a link cuts a reference shows in the text between the tags around its phrase. -/
theorem cutsReference_iff {R : References} {i : Insertion} {lead text : List Char}
    (hbefore : i.before = lead ++ '>' :: text) (hphrase : '<' ∉ i.phrase) :
    i.CutsReference R ↔ R.Straddles text (i.phrase ++ leadText i.after) ∨
      R.Straddles (text ++ i.phrase) (leadText i.after) := by
  have hstart : R.Straddles i.before (i.phrase ++ i.after) ↔
      R.Straddles text (i.phrase ++ leadText i.after) := by
    rw [hbefore, straddles_behind_end, straddles_leadText, leadText_append hphrase]
  have hstop : R.Straddles (i.before ++ i.phrase) i.after ↔
      R.Straddles (text ++ i.phrase) (leadText i.after) := by
    rw [hbefore, List.append_assoc, List.cons_append, straddles_behind_end, straddles_leadText]
  exact or_congr hstart hstop

/-- A page begins with the text before its first tag, whatever follows. -/
theorem leadText_of_tag {before lead last : List Char} (h : before = lead ++ '<' :: last)
    (xs ys : List Char) : leadText (before ++ xs ++ ys) = leadText lead := by
  rw [h, List.append_assoc, List.append_assoc, List.cons_append, leadText_append_tag]

section

variable (R : References) {i : Insertion} (hends : EndsInItem i.before) (hphrase : '<' ∉ i.phrase)
include hends hphrase

/-- **A link cuts the text around its phrase in three**, and leaves the rest of the page. -/
theorem exists_visibleText_eq : ∃ lead text rest,
    (i.CutsReference R ↔ R.Straddles text (i.phrase ++ leadText i.after) ∨
      R.Straddles (text ++ i.phrase) (leadText i.after)) ∧
    R.visibleText i.page =
      lead ++ (R.decode (text ++ (i.phrase ++ leadText i.after)) ++ rest) ∧
    R.visibleText i.linked =
      lead ++ (R.decode text ++ (R.decode i.phrase ++ R.decode (leadText i.after)) ++ rest) := by
  obtain ⟨lead, last, tag, hlast, hend, hbefore, hstart, hpage, hlinked⟩ :=
    i.exists_tagTexts hends hphrase
  obtain ⟨name, text, rfl, hname⟩ := List.eq_append_cons_of_mem hend
  obtain ⟨address, haddress, rfl⟩ := exists_of_linkStart hstart
  refine ⟨R.decode (leadText lead) ++ (tagTexts lead).flatMap fun t => R.decode (behindTag t), text,
    (tagTexts i.after).flatMap fun t => R.decode (behindTag t), ?_, ?_, ?_⟩
  · have hcut : i.before = (lead ++ '<' :: name) ++ '>' :: text := by
      rw [hbefore]
      simp only [List.append_assoc, List.cons_append]
    exact cutsReference_iff hcut hphrase
  -- On the page the phrase stands in the text behind the last tag before it.
  · have hlead : leadText i.page = leadText lead := leadText_of_tag hbefore i.phrase i.after
    have htext : behindTag (name ++ '>' :: text ++ (i.phrase ++ leadText i.after)) =
        text ++ (i.phrase ++ leadText i.after) := by
      rw [List.append_assoc, List.cons_append, behindTag_append hname]
    unfold References.visibleText
    rw [hlead, hpage, List.flatMap_append, List.flatMap_cons, htext]
    simp only [List.append_assoc]
  -- With the link it has a tag of its own, and so has the text behind it.
  · have hlead : leadText i.linked = leadText lead := leadText_of_tag hbefore _ i.after
    have hphrase' : behindTag ('a' :: ' ' :: (address ++ ['>'] ++ i.phrase)) = i.phrase := by
      have hnot : '>' ∉ 'a' :: ' ' :: address := by simp [haddress]
      rw [List.append_assoc]
      exact behindTag_append hnot i.phrase
    have hafter : behindTag ("/a>".toList ++ leadText i.after) = leadText i.after :=
      @behindTag_append ['/', 'a'] (by decide) (leadText i.after)
    unfold References.visibleText
    rw [hlead, hlinked, List.flatMap_append, List.flatMap_cons, List.flatMap_cons,
      List.flatMap_cons, behindTag_append hname, hphrase', hafter]
    simp only [List.append_assoc]

/-- **The page shows the same text with a link** that cuts no reference. -/
theorem visibleText_linked (h : ¬ i.CutsReference R) :
    R.visibleText i.linked = R.visibleText i.page := by
  obtain ⟨lead, text, rest, hcuts, hpage, hlinked⟩ := exists_visibleText_eq R hends hphrase
  rw [hcuts, not_or] at h
  rw [hlinked, hpage, References.decode_pieces h.1 h.2]

/-- The page shows more text with a link that cuts a reference. -/
theorem length_visibleText_linked_lt (h : i.CutsReference R) :
    (R.visibleText i.page).length < (R.visibleText i.linked).length := by
  obtain ⟨lead, text, rest, hcuts, hpage, hlinked⟩ := exists_visibleText_eq R hends hphrase
  have hlt := References.length_decode_pieces_lt (hcuts.mp h)
  rw [hlinked, hpage]
  simp only [List.length_append] at hlt ⊢
  omega

end

/-! ### The whole pass -/

section

variable (R : References) {is : List Insertion} {page linked : List Char}
  (h : Inserts is page linked) (his : ∀ i ∈ is, EndsInItem i.before ∧ '<' ∉ i.phrase)
include h his

/-- No run of links takes away from the text that a page shows. -/
theorem length_visibleText_le_of_inserts :
    (R.visibleText page).length ≤ (R.visibleText linked).length := by
  induction h with
  | none page => exact Nat.le_refl _
  | next i h ih =>
    rw [List.forall_mem_cons] at his
    refine Nat.le_trans ?_ (ih his.2)
    by_cases hcuts : i.CutsReference R
    · exact Nat.le_of_lt (length_visibleText_linked_lt R his.1.1 his.1.2 hcuts)
    · rw [visibleText_linked R his.1.1 his.1.2 hcuts]

/-- **A run of links** keeps the text that a page shows exactly if none of them cuts a reference. -/
theorem visibleText_of_inserts :
    R.visibleText linked = R.visibleText page ↔ ∀ i ∈ is, ¬ i.CutsReference R := by
  induction h with
  | none page => simp
  | next i h ih =>
    rw [List.forall_mem_cons] at his ⊢
    by_cases hcuts : i.CutsReference R
    -- What the link adds is not taken away by those that follow.
    · have hlt := length_visibleText_linked_lt R his.1.1 his.1.2 hcuts
      have hle := length_visibleText_le_of_inserts R h his.2
      refine ⟨fun heq => ?_, fun hnone => absurd hcuts hnone.1⟩
      rw [heq] at hle
      omega
    · rw [← visibleText_linked R his.1.1 his.1.2 hcuts, ih his.2]
      exact ⟨fun hall => ⟨hcuts, hall⟩, fun hall => hall.2⟩

end

/-- **The pass keeps the text that a page shows exactly if it cuts no reference**, with keywords
without `<`: the linked page shows the text of the page if and only if no link begins or ends inside
a character reference. -/
theorem visibleText_injectLinks_iff (R : References) (page current : String)
    {targets : List PageKeywords}
    (hkeywords : ∀ target ∈ targets, ∀ keyword ∈ target.keywords, '<' ∉ keyword.toList) :
    ∃ is, Inserts is page.toList (injectLinks page current targets).toList ∧
      (∀ i ∈ is, i.IsMentionOf targets) ∧
      (R.visibleText (injectLinks page current targets).toList = R.visibleText page.toList ↔
        ∀ i ∈ is, ¬ i.CutsReference R) := by
  obtain ⟨is, hinserts, hmentions, his⟩ := exists_inserts_text page current hkeywords
  exact ⟨is, hinserts, hmentions, visibleText_of_inserts R hinserts his⟩

/-! ### A sign in a footer -/

/-- The line of a footer with the year and the title of a site. -/
def yearLine : String := "<p>&copy; 2025 Example</p>"

/-- A page with the title `Copy`. -/
def copyPage : Target := ⟨"/copy", "Copy"⟩

/-- The sign in front of the year is the first mention of the page, by the name of its reference. -/
theorem visibleText_yearLine :
    References.classic.visibleText yearLine.toList = "© 2025 Example".toList ∧
      References.classic.visibleText (injectLinks yearLine "/" [copyPage.keywords]).toList =
        "&copy; 2025 Example".toList := by
  have hkeywords : copyPage.keywords = ⟨"/copy", ["copy", "copy"]⟩ := by decide +kernel
  have hlinked : injectLinks yearLine "/" [⟨"/copy", ["copy", "copy"]⟩] =
      "<p>&<a href=\"/copy\">copy</a>; 2025 Example</p>" := by decide +kernel
  rw [hkeywords, hlinked]
  exact ⟨by decide +kernel, by decide +kernel⟩

/-- The link in that line cuts the reference. -/
theorem reference_in_yearLine_is_cut :
    (∀ target ∈ [copyPage.keywords], ∀ keyword ∈ target.keywords, '<' ∉ keyword.toList) ∧
      ∃ is, Inserts is yearLine.toList (injectLinks yearLine "/" [copyPage.keywords]).toList ∧
        ∃ i ∈ is, i.CutsReference References.classic := by
  have hkeywords :
      ∀ target ∈ [copyPage.keywords], ∀ keyword ∈ target.keywords, '<' ∉ keyword.toList := by
    decide +kernel
  obtain ⟨is, hinserts, -, hiff⟩ :=
    visibleText_injectLinks_iff References.classic yearLine "/" hkeywords
  refine ⟨hkeywords, is, hinserts, ?_⟩
  obtain ⟨hpage, hlinked⟩ := visibleText_yearLine
  by_contra hnone
  have hsame := hiff.mpr fun i hi hcuts => hnone ⟨i, hi, hcuts⟩
  rw [hpage, hlinked] at hsame
  exact absurd hsame (by decide)

/-- **The pass changes the text that a page shows**: a sign is shown as the name of its reference
behind an ampersand, if that name is a keyword. -/
theorem injectLinks_changes_visibleText :
    References.classic.visibleText (injectLinks yearLine "/" [copyPage.keywords]).toList ≠
      References.classic.visibleText yearLine.toList := by
  rw [visibleText_yearLine.1, visibleText_yearLine.2]
  decide

end StaticSite.Link
