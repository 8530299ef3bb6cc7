import StaticSite.Proofs.Html.Reading
import StaticSite.Proofs.Link.Fragments

/-!
# Text that opens no item

The linking pass passes over all text that opens no item (`OpensNoItem`), whatever comes behind it:
the text leaves no item open (`OpensNoItem.leavesNoItem`), and a page that begins with it is linked
as the rest of the page is (`OpensNoItem.injectFrom_append`).

Markup opens no item unless one of its tags is that of a paragraph or a list item. There is one rule
for each way to put markup together, as there is for reading its tags.
-/

namespace StaticSite

namespace Link

open Text (sameLetter)

/-! ### Tags -/

/-- Whether a name goes on after a character of it. -/
def goesOn (last : Char) (cs : List Char) : Bool := !cs.isEmpty && !atBoundary last cs

/-- Whether a tag that begins with an `l` shows that it does not open an item. -/
def isOtherListTag : List Char → Bool
  | [] => false
  | b :: cs => !sameLetter 'i' b || goesOn b cs

/-- Whether a tag shows that it does not open an item, whatever follows it. -/
def isOtherTag : List Char → Bool
  | [] => false
  | a :: cs =>
    if sameLetter 'p' a then goesOn a cs else !sameLetter 'l' a || isOtherListTag cs

theorem goesOn_append {last : Char} {cs : List Char} (h : goesOn last cs = true)
    (more : List Char) : goesOn last (cs ++ more) = true := by
  cases cs with
  | nil => cases h
  | cons c cs => exact h

theorem isOtherListTag_append {cs : List Char} (h : isOtherListTag cs = true)
    (more : List Char) : isOtherListTag (cs ++ more) = true := by
  cases cs with
  | nil => cases h
  | cons b cs =>
    rw [isOtherListTag, Bool.or_eq_true] at h
    rw [List.cons_append, isOtherListTag, Bool.or_eq_true]
    exact h.imp_right fun hgoes => goesOn_append hgoes more

theorem isOtherTag_append {tag : List Char} (h : isOtherTag tag = true) (more : List Char) :
    isOtherTag (tag ++ more) = true := by
  cases tag with
  | nil => cases h
  | cons a cs =>
    rw [isOtherTag] at h
    rw [List.cons_append, isOtherTag]
    split
    · next ha =>
      rw [if_pos ha] at h
      exact goesOn_append h more
    · next ha =>
      rw [if_neg ha, Bool.or_eq_true] at h
      rw [Bool.or_eq_true]
      exact h.imp_right fun hother => isOtherListTag_append hother more

theorem goesOn_eq_false {last : Char} {cs : List Char} (h : atBoundary last cs = true) :
    goesOn last cs = false := by
  unfold goesOn
  rw [h, Bool.not_true, Bool.and_false]

/-- A tag that shows to be another opens no item. -/
theorem openingTag?_eq_none_of_isOtherTag {cs : List Char} (h : isOtherTag cs = true) :
    openingTag? ('<' :: cs) = none := by
  by_contra hsome
  obtain ⟨⟨tag, text⟩, hopen⟩ := Option.ne_none_iff_exists'.mp hsome
  obtain ⟨⟨hname, hbound, hattrs⟩, hcs⟩ := openingTag?_eq_some_iff.mp hopen
  rename_i name attributes last
  have hgoes : goesOn last (attributes ++ ['>'] ++ text) = false := by
    refine goesOn_eq_false ?_
    rwa [atBoundary_append (by simp)]
  obtain rfl : cs = name ++ (attributes ++ ['>'] ++ text) := by
    simpa only [List.cons_append, List.cons.injEq, true_and, List.append_assoc] using hcs
  -- An opening tag bears the name of an item, and this is what is asked for.
  have hother : isOtherTag (name ++ (attributes ++ ['>'] ++ text)) = false := by
    cases hname with
    | paragraph ha => rw [List.singleton_append, isOtherTag, if_pos ha, hgoes]
    | @listItem a _ ha hb =>
      have hp : ¬ sameLetter 'p' a = true := by
        unfold sameLetter at ha ⊢
        rw [← eq_of_beq ha]
        decide
      rw [List.cons_append, List.singleton_append, isOtherTag, if_neg hp, isOtherListTag, ha, hb,
        hgoes]
      rfl
  rw [hother] at h
  cases h

/-! ### Texts -/

/-- **A text opens no item**, whatever follows it. -/
def OpensNoItem (cs : List Char) : Prop := ∀ tag ∈ tagTexts cs, isOtherTag tag = true

instance (cs : List Char) : Decidable (OpensNoItem cs) :=
  inferInstanceAs (Decidable (∀ tag ∈ tagTexts cs, _))

namespace OpensNoItem

variable {xs ys : List Char}

theorem of_notMem (h : '<' ∉ xs) : OpensNoItem xs := by
  unfold OpensNoItem
  rw [tagTexts_eq_nil h]
  exact fun tag hmem => absurd hmem List.not_mem_nil

theorem append (hx : OpensNoItem xs) (hy : OpensNoItem ys) : OpensNoItem (xs ++ ys) :=
  forall_tagTexts_append hx hy (fun _ h => h) fun _ h => isOtherTag_append h _

theorem unlines {ls : List String} (h : ∀ l ∈ ls, OpensNoItem l.toList) :
    OpensNoItem (Text.unlines ls).toList :=
  Text.forall_unlines (.of_notMem List.not_mem_nil) (.of_notMem (by decide))
    (fun _ _ => OpensNoItem.append) h

/-- A single tag that shows to be another by what it begins with. -/
theorem of_tag (hx : isOtherTag xs = true) (hopen : '<' ∉ xs ++ ys) :
    OpensNoItem ('<' :: (xs ++ ys)) := by
  have hlead : leadText (xs ++ ys) = xs ++ ys := by
    have happend := leadText_append hopen []
    rwa [List.append_nil, show leadText [] = [] from rfl, List.append_nil] at happend
  unfold OpensNoItem
  rw [tagTexts_tag, tagTexts_eq_nil hopen, List.forall_mem_singleton, hlead]
  exact isOtherTag_append hx ys

theorem tail {c : Char} (h : OpensNoItem (c :: xs)) : OpensNoItem xs := by
  unfold OpensNoItem at h
  rw [tagTexts] at h
  split at h
  · exact (List.forall_mem_cons.mp h).2
  · exact h

/-- No opening tag of an item begins where the text does. -/
theorem openingTag?_eq_none {c : Char} (h : OpensNoItem (c :: xs)) (more : List Char) :
    openingTag? (c :: (xs ++ more)) = none := by
  unfold OpensNoItem at h
  rw [tagTexts] at h
  split at h
  · next hc =>
    obtain rfl := eq_of_beq hc
    -- The tag at the start shows to be another before the next one begins.
    have hlead := (List.forall_mem_cons.mp h).1
    have hxs : xs = leadText xs ++ xs.dropWhile (· != '<') :=
      List.takeWhile_append_dropWhile.symm
    rw [hxs, List.append_assoc]
    exact openingTag?_eq_none_of_isOtherTag (isOtherTag_append hlead _)
  · next hc =>
    unfold openingTag?
    split
    · next heq =>
      obtain ⟨rfl, -⟩ := List.cons.inj heq
      exact absurd rfl hc
    · rfl

/-- **A text that opens no item leaves none open.** -/
theorem leavesNoItem (h : OpensNoItem xs) : LeavesNoItem xs := by
  induction xs with
  | nil => exact fun _ hends => hends
  | cons c xs ih =>
    rintro more ⟨lead, tag, text, htag, htext, heq⟩
    cases lead with
    | nil =>
      have hopen : openingTag? (c :: (xs ++ more)) = some (tag, text) :=
        openingTag?_eq_some_iff.mpr ⟨htag, heq⟩
      rw [h.openingTag?_eq_none] at hopen
      cases hopen
    | cons d lead => exact ih h.tail more ⟨lead, tag, text, htag, htext, (List.cons.inj heq).2⟩

/-- **No item begins in such a text**: what begins with the opening tag of one stands behind it. -/
theorem isInfix_of_isInfix_append {item page : List Char} (h : OpensNoItem xs)
    (hitem : openingTag? item ≠ none) (hoccurs : item <:+: xs ++ page) : item <:+: page := by
  induction xs with
  | nil => exact hoccurs
  | cons c xs ih =>
    rcases List.infix_cons_iff.mp hoccurs with ⟨more, hmore⟩ | hoccurs
    · obtain ⟨⟨tag, text⟩, hopen⟩ := Option.ne_none_iff_exists'.mp hitem
      obtain ⟨htag, rfl⟩ := openingTag?_eq_some_iff.mp hopen
      have hopen' : openingTag? (c :: (xs ++ page)) = some (tag, text ++ more) :=
        openingTag?_eq_some_iff.mpr ⟨htag, hmore.symm.trans (List.append_assoc ..)⟩
      rw [h.openingTag?_eq_none] at hopen'
      cases hopen'
    · exact ih h.tail hoccurs

/-! ### Linking behind such a text -/

variable (h : OpensNoItem xs) (page : List Char)
include h

theorem findMention_append (keyword : List Char) :
    findMention keyword (xs ++ page) =
      (findMention keyword page).map fun r => (xs ++ r.1, r.2) := by
  induction xs with
  | nil => exact Option.map_id'.symm
  | cons c xs ih =>
    rw [List.cons_append, findMention, h.openingTag?_eq_none, ih h.tail]
    exact Option.map_map ..

theorem linkKeyword?_append (route keyword : String) :
    linkKeyword? route (xs ++ page) keyword = (linkKeyword? route page keyword).map (xs ++ ·) := by
  unfold linkKeyword?
  split
  · rfl
  · rw [h.findMention_append]
    cases findMention keyword.toList page with
    | none => rfl
    | some r =>
      simp only [Option.map_some]
      split
      · rfl
      · simp only [Option.map_some, List.append_assoc]

/-- **A page is linked as it is without the text that it begins with**, if the text opens no
item. -/
theorem injectFrom_append (current : String) (targets : List PageKeywords) (linked : List String) :
    injectFrom current targets linked (xs ++ page) =
      xs ++ injectFrom current targets linked page := by
  -- On the targets. A keyword is found in the page alone, and the text before stays before it.
  induction targets generalizing linked page with
  | nil => rfl
  | cons target targets ih =>
    have hfind : target.keywords.findSome? (linkKeyword? target.route (xs ++ page)) =
        (target.keywords.findSome? (linkKeyword? target.route page)).map (xs ++ ·) := by
      rw [List.map_findSome?]
      exact congrArg (List.findSome? · _) (funext fun k => h.linkKeyword?_append page _ k)
    rw [injectFrom, injectFrom, hfind]
    split
    · rfl
    · split
      · exact ih page linked
      · cases target.keywords.findSome? (linkKeyword? target.route page) with
        | none => exact ih page linked
        | some page' => exact ih page' _

end OpensNoItem

/-- What linking does to the text of a file that holds the page of a target. -/
theorem toList_linkFile {targets : List Target} {f : SiteFile} {current : String}
    (hhtml : (f.isBinary || !Text.endsWith f.path ".html") = false)
    (hroute : routeOf? targets f.path = some current) :
    (linkFile targets f).content.toList =
      injectFrom current (targets.map Target.keywords) [] f.content.toList := by
  unfold linkFile
  rw [hhtml, hroute]
  exact String.toList_ofList

end Link

/-! ### Markup -/

namespace Markup

open Link (isOtherTag_append)

/-- **Markup opens no item**, whatever follows it. -/
def OpensNoItem (m : Markup) : Prop := Link.OpensNoItem m.text.toList

instance (m : Markup) : Decidable m.OpensNoItem := inferInstanceAs (Decidable (Link.OpensNoItem _))

/-- Whether a text is the name of a tag, and not of a paragraph or a list item. -/
def isOtherName (name : String) : Bool := isTagName name.toList && Link.isOtherTag name.toList

namespace OpensNoItem

theorem of_notMem {m : Markup} (h : '<' ∉ m.text.toList) : m.OpensNoItem := HasTags.of_notMem h

theorem append {a b : Markup} (ha : a.OpensNoItem) (hb : b.OpensNoItem) : (a ++ b).OpensNoItem :=
  HasTags.append isOtherTag_append ha hb

theorem rows {ms : List Markup} (h : ∀ m ∈ ms, m.OpensNoItem) : (rows ms).OpensNoItem :=
  HasTags.rows isOtherTag_append h

theorem indent {m : Markup} (h : m.OpensNoItem) (n : Nat) : (indent n m).OpensNoItem :=
  HasTags.indent isOtherTag_append h n

theorem joinWith {sep : String} (hsep : '<' ∉ sep.toList) {ms : List Markup}
    (h : ∀ m ∈ ms, m.OpensNoItem) : (joinWith sep ms).OpensNoItem :=
  HasTags.joinWith isOtherTag_append hsep h

theorem esc (s : String) : (esc s).OpensNoItem := of_notMem (notMem_toList_esc s (by decide))

theorem inScript (json : String) : (Html.inScript json).OpensNoItem :=
  of_notMem (lt_notMem_inScript json)

section

variable {name : String} (hname : isOtherName name = true) {attrs : List Markup}
  (hattrs : ∀ a ∈ attrs, a.IsAttribute)
include hname

theorem endTag : (endTag name).OpensNoItem := by
  rw [isOtherName, Bool.and_eq_true] at hname
  have hopen : '<' ∉ ['/'] ++ (name.toList ++ ['>']) := by
    have hletter : '<' ∉ name.toList := fun hmem => by
      cases isAlphanum_of_isTagName hname.1 hmem
    simp [hletter]
  unfold OpensNoItem
  rw [toList_endTag]
  show Link.OpensNoItem ('<' :: (['/'] ++ (name.toList ++ ['>'])))
  exact .of_tag (by decide) hopen

include hattrs

theorem startTag : (startTag name attrs).OpensNoItem := by
  rw [isOtherName, Bool.and_eq_true] at hname
  have hopen : (html ("<" ++ name)).text.toList = '<' :: name.toList := String.toList_append
  have hname' : '<' ∉ name.toList := fun hmem => by
    cases isAlphanum_of_isTagName hname.1 hmem
  have hrest : '<' ∉ (concat attrs).text.toList ++ ['>'] := by
    rw [List.mem_append, not_or]
    exact ⟨notMem_toList_concat fun a ha => bracket_notMem_of_isAttribute (hattrs a ha) (by decide),
      by decide⟩
  unfold OpensNoItem StaticSite.startTag
  rw [toList_append, toList_append, hopen, List.append_assoc, List.cons_append]
  exact .of_tag hname.2 (by rw [List.mem_append, not_or]; exact ⟨hname', hrest⟩)

theorem el {contents : Markup} (h : contents.OpensNoItem) : (el name attrs contents).OpensNoItem :=
  ((startTag hname hattrs).append h).append (endTag hname)

end

end OpensNoItem

end Markup

end StaticSite
