import StaticSite.Html.Sanitize
import StaticSite.Proofs.Text.Find

/-!
# Tags of sanitized text

In sanitized text every less-than sign begins a tag: a slash follows, or the small letter that the
name of an element begins with (`opensSmall_sanitize`). So a text without `<a` has no anchor, in
whatever letters its tags may be written elsewhere.

The text is printed in pieces. A less-than sign stands at the head of a piece that holds no
ampersand (`IsTidy`), and printing changes a piece at its ampersands only.
-/

namespace StaticSite.Html

/-! ### Less-than signs -/

/-- **Every less-than sign begins a tag**: a slash or a small letter follows. -/
def OpensSmall (cs : List Char) : Prop :=
  ∀ before after, cs = before ++ '<' :: after →
    ∃ c rest, after = c :: rest ∧ (c = '/' ∨ c.isLower = true)

theorem opensSmall_of_notMem {cs : List Char} (h : '<' ∉ cs) : OpensSmall cs := by
  rintro before after rfl
  simp at h

theorem OpensSmall.append {xs ys : List Char} (hx : OpensSmall xs) (hy : OpensSmall ys) :
    OpensSmall (xs ++ ys) := by
  intro before after h
  rcases List.append_eq_append_iff.mp h with ⟨more, rfl, hys⟩ | ⟨more, hxs, hafter⟩
  · exact hy more after hys
  · cases more with
    | nil => exact hy [] after (by simpa using hafter.symm)
    | cons c more =>
      obtain ⟨rfl, rfl⟩ := List.cons.inj hafter
      obtain ⟨d, rest, rfl, hd⟩ := hx before more hxs
      exact ⟨d, rest ++ ys, rfl, hd⟩

theorem opensSmall_tag {c : Char} {cs : List Char} (hc : c = '/' ∨ c.isLower = true)
    (hcs : '<' ∉ c :: cs) : OpensSmall ('<' :: c :: cs) := by
  intro before after h
  cases before with
  | nil =>
    obtain ⟨-, rfl⟩ := List.cons.inj h
    exact ⟨c, cs, rfl, hc⟩
  | cons d before =>
    obtain ⟨-, hrest⟩ := List.cons.inj h
    rw [hrest] at hcs
    simp at hcs

/-! ### References -/

theorem notMem_of_matchName? {names : List (List Char)} {seen cs name : List Char}
    (h : matchName? names seen cs = some name) (hseen : '<' ∉ seen) : '<' ∉ name := by
  -- On the text; what has been seen of a name stands before it in reverse.
  induction cs generalizing names seen with
  | nil => cases h
  | cons c cs ih =>
    rw [matchName?] at h
    split at h
    · split at h
      · cases h
        rwa [List.mem_reverse]
      · cases h
    · next hend =>
      dsimp only at h
      split at h
      · cases h
      · refine ih h (List.not_mem_cons_of_ne_of_not_mem ?_ hseen)
        rintro rfl
        exact hend rfl

theorem notMem_of_matchDigits? {isDigit : Char → Bool} {seen cs name : List Char}
    (h : matchDigits? isDigit seen cs = some name) (hseen : '<' ∉ seen) : '<' ∉ name := by
  induction cs generalizing seen with
  | nil => cases h
  | cons c cs ih =>
    rw [matchDigits?] at h
    split at h
    · split at h
      · cases h
        rwa [List.mem_reverse]
      · cases h
    · next hend =>
      split at h
      · refine ih h (List.not_mem_cons_of_ne_of_not_mem ?_ hseen)
        rintro rfl
        exact hend rfl
      · split at h
        · cases h
          rwa [List.mem_reverse]
        · cases h

/-- No reference has a less-than sign in its name. -/
theorem notMem_of_matchReference? {part name : List Char} (h : matchReference? part = some name) :
    '<' ∉ name := by
  unfold matchReference? at h
  split at h
  · exact notMem_of_matchDigits? h (by decide)
  · exact notMem_of_matchDigits? h (by decide)
  · exact notMem_of_matchDigits? h (by decide)
  · exact notMem_of_matchName? h List.not_mem_nil
  · cases h

theorem ampersandPartsFrom_of_notMem {cs : List Char} (h : '&' ∉ cs) (part : List Char) :
    ampersandPartsFrom cs part =
      if part.reverse ++ cs = [] then [] else [part.reverse ++ cs] := by
  induction cs generalizing part with
  | nil =>
    rw [ampersandPartsFrom, List.append_nil]
    cases part <;> simp
  | cons c cs ih =>
    obtain ⟨hc, hcs⟩ := not_or.mp (mt List.mem_cons.mpr h)
    rw [ampersandPartsFrom, if_neg (by simpa using Ne.symm hc), ih hcs]
    simp

theorem mem_of_mem_ampersandPartsFrom {cs part piece : List Char}
    (h : piece ∈ ampersandPartsFrom cs part) {c : Char} (hc : c ∈ piece) : c ∈ part ∨ c ∈ cs := by
  induction cs generalizing part with
  | nil =>
    rw [ampersandPartsFrom] at h
    split at h
    · cases h
    · rw [List.mem_singleton.mp h, List.mem_reverse] at hc
      exact .inl hc
  | cons d cs ih =>
    -- Whichever part is begun, it holds no character but `d` and those of the part so far.
    have hnext : ∀ {begun : List Char}, (∀ x ∈ begun, x = d ∨ x ∈ part) →
        piece ∈ ampersandPartsFrom cs begun → c ∈ part ∨ c ∈ d :: cs := by
      intro begun hbegun hpiece
      rcases ih hpiece with hmem | hmem
      · exact (hbegun c hmem).elim (fun heq => .inr (heq ▸ List.mem_cons_self)) .inl
      · exact .inr (List.mem_cons_of_mem d hmem)
    rw [ampersandPartsFrom] at h
    split at h
    · next hd =>
      obtain rfl := beq_iff_eq.mp hd
      have hbegun : ∀ x ∈ ['&'], x = '&' ∨ x ∈ part := fun x hx => .inl (List.mem_singleton.mp hx)
      split at h
      · exact hnext hbegun h
      · rcases List.mem_cons.mp h with rfl | h
        · exact .inl (List.mem_reverse.mp hc)
        · exact hnext hbegun h
    · exact hnext (fun x hx => List.mem_cons.mp hx) h

/-! ### Pieces -/

/-- **A tidy piece**: it holds no less-than sign, or it begins a tag and holds no ampersand. -/
def IsTidy (piece : List Char) : Prop := '<' ∉ piece ∨ '&' ∉ piece ∧ OpensSmall piece

theorem IsTidy.opensSmall {piece : List Char} (h : IsTidy piece) : OpensSmall piece :=
  h.elim opensSmall_of_notMem And.right

theorem notMem_flatMap {x : Char} {f : Char → List Char} {cs : List Char}
    (h : ∀ c ∈ cs, x ∉ f c) : x ∉ cs.flatMap f := by
  rw [List.mem_flatMap]
  rintro ⟨c, hc, hx⟩
  exact h c hc hx

theorem notMem_escapeText (cs : List Char) : '<' ∉ escapeText cs := by
  refine notMem_flatMap fun c _ => ?_
  unfold escapeTextChar
  split_ifs with hamp hless hmore
  · decide
  · decide
  · decide
  · exact fun hmem => hless (beq_iff_eq.mpr (List.mem_singleton.mp hmem).symm)

theorem escapeBare_of_notMem {value : List Char} (h : '&' ∉ value) : escapeBare value = value := by
  have hplain : ∀ by_ : List Char, Text.replaceList ['&'] by_ value = value :=
    fun by_ => Text.replaceList_eq_self h
  have hreplace : Text.replaceList "&amp;".toList ['&'] value = value :=
    Text.replaceList_eq_self h
  unfold escapeBare ampersandParts
  rw [hreplace, ampersandPartsFrom_of_notMem h, List.reverse_nil, List.nil_append]
  split
  · next hnil => exact hnil.symm
  · have hname : matchReference? value = none := by
      unfold matchReference?
      split
      all_goals first | rfl | exact absurd List.mem_cons_self h
    rw [List.flatMap_singleton, hname]
    exact hplain _

theorem notMem_escapeBare {value : List Char} (h : '<' ∉ value) : '<' ∉ escapeBare value := by
  unfold escapeBare ampersandParts
  rw [List.mem_flatMap]
  rintro ⟨part, hpart, hmem⟩
  have hnone : '<' ∉ part := by
    intro hless
    rcases mem_of_mem_ampersandPartsFrom hpart hless with hmem | hmem
    · cases hmem
    · refine (Text.mem_of_mem_replaceList hmem).elim (by decide) h
  split at hmem
  · next name hname =>
    obtain ⟨hname, -⟩ := Option.filter_eq_some_iff.mp hname
    rcases List.mem_cons.mp hmem with hmem | hmem
    · cases hmem
    · rcases List.mem_append.mp hmem with hmem | hmem
      · exact notMem_of_matchReference? hname hmem
      · rcases List.mem_cons.mp hmem with hmem | hmem
        · cases hmem
        · exact hnone (List.mem_of_mem_drop hmem)
  · exact (Text.mem_of_mem_replaceList hmem).elim (by decide) hnone

theorem IsTidy.escapeBare {piece : List Char} (h : IsTidy piece) :
    OpensSmall (escapeBare piece) := by
  rcases h with h | ⟨hamp, hopens⟩
  · exact opensSmall_of_notMem (notMem_escapeBare h)
  · rwa [escapeBare_of_notMem hamp]

theorem opensSmall_printPieces {pieces : List (List Char)} (h : ∀ p ∈ pieces, IsTidy p)
    (s : PrintState) : OpensSmall (printPieces s pieces) := by
  induction pieces generalizing s with
  | nil => exact opensSmall_of_notMem List.not_mem_nil
  | cons piece pieces ih =>
    have htidy := h piece List.mem_cons_self
    have hpiece : OpensSmall (printPiece s piece).2 := by
      unfold printPiece
      split_ifs
      · exact htidy.opensSmall
      · exact htidy.opensSmall
      · exact htidy.opensSmall
      · exact htidy.escapeBare
      · exact htidy.opensSmall
    exact hpiece.append (ih (fun p hp => h p (List.mem_cons_of_mem piece hp)) _)

/-! ### The pieces of a document -/

/-- A piece of output is made of tidy pieces. -/
def Piece.IsTidy : Piece → Prop
  | .markup data => Html.IsTidy data
  | .text (.plain _) => True
  | .text (.blank data) => '<' ∉ data
  | .text (.reference name) => '<' ∉ name

theorem isTidy_joinPlain {pieces : List Piece} (h : ∀ p ∈ pieces, p.IsTidy) (run : List Char) :
    ∀ p ∈ joinPlain run pieces, IsTidy p := by
  have hplain : ∀ run, ∀ p ∈ plainPiece run, IsTidy p := by
    intro run p hp
    unfold plainPiece at hp
    split at hp
    · cases hp
    · rw [List.mem_singleton.mp hp]
      exact .inl (notMem_escapeText run)
  induction pieces generalizing run with
  | nil => exact hplain run
  | cons piece pieces ih =>
    have hpiece := h piece List.mem_cons_self
    have hrest : ∀ run, ∀ p ∈ joinPlain run pieces, IsTidy p :=
      fun run => ih (fun p hp => h p (List.mem_cons_of_mem piece hp)) run
    -- A piece that is not plain ends the run: the run is escaped, and the piece stands as it is.
    have hbreak : ∀ {data : List Char}, IsTidy data →
        ∀ p ∈ plainPiece run ++ data :: joinPlain [] pieces, IsTidy p := by
      intro data hdata p hp
      rcases List.mem_append.mp hp with hp | hp
      · exact hplain run p hp
      · exact (List.mem_cons.mp hp).elim (fun heq => heq ▸ hdata) (hrest [] p)
    match piece, hpiece with
    | .text (.plain data), _ => exact hrest (run ++ data)
    | .text (.blank []), _ => exact hrest run
    | .text (.blank (c :: data)), hdata => exact hbreak (.inl hdata)
    | .text (.reference name), hname =>
      have hwritten : '<' ∉ '&' :: name ++ [';'] := by
        intro hmem
        rcases List.mem_append.mp hmem with hmem | hmem
        · exact (List.mem_cons.mp hmem).elim (by decide) hname
        · exact absurd hmem (by decide)
      exact hbreak (.inl hwritten)
    | .markup data, hdata => exact hbreak hdata

theorem isTidy_textPieces (cs : List Char) : ∀ p ∈ (textPieces cs).map Piece.text, p.IsTidy := by
  have hblank : ∀ xs : List Char, '<' ∉ xs.takeWhile isSpace :=
    fun xs hmem => absurd (List.all_eq_true.mp List.all_takeWhile '<' hmem) (by decide)
  -- The blanks at the end are what is left after the text is cut there.
  have hright : ∀ xs : List Char, '<' ∉ xs.drop (Text.dropRightWhile isSpace xs).length := by
    intro xs hmem
    obtain ⟨tail, htail, hcut⟩ := Text.exists_eq_dropRightWhile_append isSpace xs
    have hdrop : (Text.dropRightWhile isSpace xs ++ tail).drop
        (Text.dropRightWhile isSpace xs).length = tail := List.drop_left
    rw [← hcut] at hdrop
    rw [hdrop] at hmem
    exact absurd (htail '<' hmem) (by decide)
  intro p hp
  obtain ⟨piece, hpiece, rfl⟩ := List.mem_map.mp hp
  unfold textPieces at hpiece
  dsimp only at hpiece
  rcases List.mem_append.mp hpiece with hpiece | hpiece
  · rcases List.mem_append.mp hpiece with hpiece | hpiece
    · rw [List.mem_singleton.mp hpiece]
      exact hblank _
    · obtain ⟨part, -, hpart⟩ := List.mem_flatMap.mp hpiece
      unfold textPart at hpart
      split at hpart
      · rw [List.mem_singleton.mp hpart]
        trivial
      · next name hname =>
        dsimp only at hpart
        rcases List.mem_cons.mp hpart with rfl | hpart
        · split
          · trivial
          · exact notMem_of_matchReference? hname
        · split at hpart
          · cases hpart
          · rw [List.mem_singleton.mp hpart]
            trivial
  · rw [List.mem_singleton.mp hpiece]
    exact hright _

/-- The names of elements that are written begin with a small letter and hold neither ampersand nor
less-than sign. -/
def isPlainTagName (name : String) : Bool :=
  (name.toList.head?.any Char.isLower) && name.toList.all fun c => c != '<' && c != '&'

theorem isPlainTagName_of_isAllowed {name : String}
    (h : voidElements.contains name = true ∨ isAllowedTag name = true) :
    isPlainTagName name = true := by
  have hall : (voidElements ++ allowedTags).all isPlainTagName = true := by decide
  refine List.all_eq_true.mp hall name (List.mem_append.mpr ?_)
  exact h.imp List.contains_iff_mem.mp List.contains_iff_mem.mp

theorem isTidy_open {name : String} (h : isPlainTagName name = true) :
    IsTidy ('<' :: name.toList) := by
  unfold isPlainTagName at h
  obtain ⟨hhead, hall⟩ := Bool.and_eq_true_iff.mp h
  rw [List.all_eq_true] at hall
  have hne : ∀ c ∈ name.toList, c ≠ '<' ∧ c ≠ '&' := fun c hc => by simpa using hall c hc
  cases hname : name.toList with
  | nil =>
    rw [hname] at hhead
    cases hhead
  | cons c cs =>
    rw [hname] at hhead hne
    refine .inr ⟨?_, opensSmall_tag (.inr hhead) fun hmem => (hne _ hmem).1 rfl⟩
    exact List.not_mem_cons_of_ne_of_not_mem (by decide) fun hmem => (hne _ hmem).2 rfl

theorem isTidy_endPieces {name : String} (h : isPlainTagName name = true) :
    ∀ p ∈ endPieces name, IsTidy p := by
  intro p hp
  rw [List.mem_singleton.mp hp]
  unfold isPlainTagName at h
  obtain ⟨-, hall⟩ := Bool.and_eq_true_iff.mp h
  rw [List.all_eq_true] at hall
  have hne : ∀ c ∈ name.toList, c ≠ '<' ∧ c ≠ '&' := fun c hc => by simpa using hall c hc
  refine .inr ⟨?_, opensSmall_tag (.inl rfl) ?_⟩
  · simp
    exact fun hmem => (hne _ hmem).2 rfl
  · simp
    exact fun hmem => (hne _ hmem).1 rfl

theorem notMem_of_isAllowedAttribute {element name : String}
    (h : isAllowedAttribute element name = true) : '<' ∉ name.toList := by
  have hall : (allowedAttributes.all fun e => e.2.all fun n => !n.toList.contains '<') = true := by
    decide
  unfold isAllowedAttribute at h
  cases hlookup : allowedAttributes.lookup element with
  | none =>
    rw [hlookup] at h
    cases h
  | some names =>
    rw [hlookup] at h
    obtain ⟨before, after, htable, -⟩ := List.lookup_eq_some_iff.mp hlookup
    have hentry := List.all_eq_true.mp hall (element, names)
      (htable ▸ List.mem_append_right _ List.mem_cons_self)
    have hname := List.all_eq_true.mp hentry name (List.contains_iff_mem.mp h)
    simpa using hname

theorem notMem_escapeValue (cs : List Char) : '<' ∉ escapeValue cs := by
  refine notMem_flatMap fun c _ => ?_
  split_ifs with hamp hless
  · decide
  · decide
  · exact fun hmem => hless (beq_iff_eq.mpr (List.mem_singleton.mp hmem).symm)

theorem notMem_escapeQuote {quote : Char} {value : List Char} (h : '<' ∉ value) :
    '<' ∉ escapeQuote quote value := by
  refine notMem_flatMap fun c hc => ?_
  split_ifs
  · decide
  · decide
  · rintro hmem
    rw [← List.mem_singleton.mp hmem] at hc
    exact h hc

theorem isTidy_attributePieces {element : String} {a : Attribute}
    (h : isAllowedAttribute element a.1 = true) : ∀ p ∈ attributePieces element a, IsTidy p := by
  have hname := notMem_of_isAllowedAttribute h
  have hvalue : '<' ∉ escapeQuote (quoteFor (escapeValue a.2.toList)) (escapeValue a.2.toList) :=
    notMem_escapeQuote (notMem_escapeValue a.2.toList)
  have hquote : '<' ≠ quoteFor (escapeValue a.2.toList) := by
    unfold quoteFor
    split <;> decide
  intro p hp
  refine .inl ?_
  unfold attributePieces at hp
  dsimp only at hp
  split at hp
  · rcases List.mem_pair.mp hp with rfl | rfl
    · decide
    · exact hname
  -- A space, the name, the sign, and the value between two quotes.
  · simp only [List.mem_cons, List.not_mem_nil, or_false] at hp
    rcases hp with rfl | rfl | rfl | rfl | rfl | rfl
    · decide
    · exact hname
    · decide
    · exact fun hmem => hquote (List.mem_singleton.mp hmem)
    · exact hvalue
    · exact fun hmem => hquote (List.mem_singleton.mp hmem)

theorem isTidy_startPieces {name : String} (h : isPlainTagName name = true)
    (attributes : List Attribute) : ∀ p ∈ startPieces name attributes, IsTidy p := by
  intro p hp
  unfold startPieces keepAttributes at hp
  rcases List.mem_append.mp hp with hp | hp
  · rcases List.mem_cons.mp hp with rfl | hp
    · exact isTidy_open h
    · obtain ⟨a, ha, hp⟩ := List.mem_flatMap.mp hp
      exact isTidy_attributePieces (Bool.and_eq_true_iff.mp (List.mem_filter.mp ha).2).1 p hp
  · rw [List.mem_singleton.mp hp]
    exact .inl (by decide)

mutual

theorem Node.isTidy_pieces (n : Node) : ∀ p ∈ n.pieces, p.IsTidy :=
  match n with
  | .text data => isTidy_textPieces data.toList
  | .element name attributes children => by
    have hmarkup : ∀ {pieces : List (List Char)}, (∀ p ∈ pieces, IsTidy p) →
        ∀ p ∈ pieces.map Piece.markup, p.IsTidy := by
      intro pieces h p hp
      obtain ⟨data, hdata, rfl⟩ := List.mem_map.mp hp
      exact h data hdata
    have hchildren := isTidy_nodesPieces children
    -- A void element is its tag alone, one that is allowed stands around its children, and of any
    -- other only the children are kept.
    rw [Node.pieces]
    split
    · next hvoid =>
      exact hmarkup (isTidy_startPieces (isPlainTagName_of_isAllowed (.inl hvoid)) attributes)
    · split
      · next hallowed =>
        have hname := isPlainTagName_of_isAllowed (.inr hallowed)
        intro p hp
        rcases List.mem_append.mp hp with hp | hp
        · rcases List.mem_append.mp hp with hp | hp
          · exact hmarkup (isTidy_startPieces hname attributes) p hp
          · exact hchildren p hp
        · exact hmarkup (isTidy_endPieces hname) p hp
      · exact hchildren

theorem isTidy_nodesPieces (ns : List Node) : ∀ p ∈ nodesPieces ns, p.IsTidy :=
  match ns with
  | [] => by
    intro p hp
    rw [nodesPieces] at hp
    cases hp
  | n :: ns => by
    intro p hp
    rw [nodesPieces] at hp
    exact (List.mem_append.mp hp).elim (n.isTidy_pieces p) (isTidy_nodesPieces ns p)

end

/-- **In sanitized text, every less-than sign begins a tag.** -/
theorem opensSmall_sanitize (source : String) : OpensSmall (sanitize source).text.toList := by
  unfold sanitize
  rw [String.toList_ofList]
  exact opensSmall_printPieces (isTidy_joinPlain (isTidy_nodesPieces _) []) {}

end StaticSite.Html
