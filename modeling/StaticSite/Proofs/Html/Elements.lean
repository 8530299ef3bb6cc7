import Mathlib.Data.List.Infix
import StaticSite.Html.Reader

/-!
# The elements of a body

The elements of a body are those that its document has start tags for, and the paragraph that text
before every element begins. So their names begin in the document, right after a less-than sign
(`Begins`): `begins_of_mem_heads_readBody`.

The scanner carries the invariant (`Scanner.IsSound`): the tags that it has read, and the one that
it is reading, begin in what it has read so far. Then the reader keeps to the tags of its tokens
(`Reading.IsNamed`).
-/

namespace StaticSite.Html

/-! ### Elements -/

mutual

/-- The names and attributes of an element and of those inside it, in the order of the document. -/
def Node.heads : Node → List (String × List Attribute)
  | .text _ => []
  | .element name attributes children => (name, attributes) :: headsOf children

/-- The names and attributes of the elements among nodes and inside of them. -/
def headsOf : List Node → List (String × List Attribute)
  | [] => []
  | n :: ns => n.heads ++ headsOf ns

end

theorem headsOf_eq_flatMap (ns : List Node) : headsOf ns = ns.flatMap Node.heads := by
  induction ns with
  | nil => rfl
  | cons n ns ih => rw [headsOf, ih, List.flatMap_cons]

/-! ### The tags that a scanner reads -/

/-- **A name begins in a text**: a less-than sign stands before a letter that is the first one of
the name, up to its case. -/
def Begins (cs : List Char) (name : String) : Prop :=
  ∃ c : Char, c.isAlpha = true ∧ ['<', c] <:+: cs ∧ name.toList.head? = some c.toLower

theorem Begins.append {cs : List Char} {name : String} (h : Begins cs name) (more : List Char) :
    Begins (cs ++ more) name := by
  obtain ⟨c, halpha, hoccurs, hname⟩ := h
  exact ⟨c, halpha, hoccurs.trans (List.infix_append [] cs more), hname⟩

/-- What a tag that is being read will be called begins in a text, if it is a start tag. -/
def Draft.IsSound (cs : List Char) (d : Draft) : Prop :=
  d.closing = false → Begins cs (lowerAscii d.name.reverse)

namespace Scanner

variable {allowed : String → Bool} {s : Scanner} {cs : List Char} {d : Draft} {c : Char}

/-- The start tags among the tokens begin in a text. -/
def HasSoundTokens (cs : List Char) (s : Scanner) : Prop :=
  ∀ tag, .startTag tag ∈ s.tokens → Begins cs tag.name

/-- The tag that is being read at a place begins in a text. -/
def PlaceIsSound (cs : List Char) : Place → Prop
  | .tagName d | .beforeName d | .name d | .afterName d | .beforeValue d | .value _ d
  | .afterValue d | .slash d => d.IsSound cs
  | .tagOpen => ['<'] <:+ cs
  | _ => True

/-- **All tags begin in what has been read.** -/
structure IsSound (cs : List Char) (s : Scanner) : Prop where
  tokens : s.HasSoundTokens cs
  place : PlaceIsSound cs s.place

theorem HasSoundTokens.emit (h : s.HasSoundTokens cs) {t : Token} {p : Place}
    (ht : ∀ tag, t ≠ .startTag tag) : (s.emit t p).HasSoundTokens cs := by
  intro tag htag
  rcases List.mem_cons.mp htag with heq | htag
  · exact absurd heq.symm (ht tag)
  · exact h tag htag

theorem isSound_finishTag (h : s.HasSoundTokens cs) (hd : d.IsSound cs) :
    (finishTag allowed s d).IsSound cs := by
  unfold finishTag
  dsimp only
  split_ifs with hallowed hclosing
  · exact ⟨h.emit (p := .data) fun _ => nofun, trivial⟩
  · exact ⟨h.emit (p := .data) fun _ => nofun, trivial⟩
  · refine ⟨fun tag htag => ?_, trivial⟩
    rcases List.mem_cons.mp htag with heq | htag
    · obtain rfl := Token.startTag.inj heq
      exact hd (Bool.eq_false_iff.mpr hclosing)
    · exact h tag htag

theorem isSound_finishBogus (h : s.HasSoundTokens cs) (closing : Bool) (data : List Char) :
    (finishBogus allowed s closing data).IsSound cs := by
  unfold finishBogus
  split
  · exact ⟨h.emit fun _ => nofun, trivial⟩
  · exact ⟨h.emit fun _ => nofun, trivial⟩

/-! A character is read at the end of what has been read. -/

theorem isSound_atData (h : s.HasSoundTokens cs) (hc : [c] <:+ cs) : (atData s c).IsSound cs := by
  unfold atData
  split_ifs with hamp hless
  · exact ⟨h.emit fun _ => nofun, trivial⟩
  · exact ⟨h, trivial⟩
  · obtain rfl := beq_iff_eq.mp hless
    exact ⟨h, hc⟩
  all_goals first
    | exact ⟨h, trivial⟩
    | exact ⟨h.emit fun _ => nofun, trivial⟩

theorem isSound_atBogus (h : s.HasSoundTokens cs) (closing : Bool) (data : List Char) :
    (atBogus allowed s closing data c).IsSound cs := by
  unfold atBogus
  split
  · exact isSound_finishBogus h closing data
  · exact ⟨h, trivial⟩

theorem isSound_atTagOpen (h : s.HasSoundTokens cs) (hopen : ['<', c] <:+ cs) :
    (atTagOpen s c).IsSound cs := by
  have hc : [c] <:+ cs := (List.suffix_cons '<' [c]).trans hopen
  unfold atTagOpen
  split_ifs with hbang hslash halpha
  · exact ⟨h, trivial⟩
  · exact ⟨h, trivial⟩
  · exact ⟨h, fun _ => ⟨c, halpha, hopen.isInfix, congrArg List.head? String.toList_ofList⟩⟩
  · exact ⟨h.emit fun _ => nofun, trivial⟩
  · exact ⟨h, trivial⟩
  · exact isSound_atData (h.emit fun _ => nofun) hc

theorem isSound_atEndTagOpen (h : s.HasSoundTokens cs) : (atEndTagOpen allowed s c).IsSound cs := by
  unfold atEndTagOpen
  split_ifs
  · exact ⟨h, fun hclosing => nomatch hclosing⟩
  · exact ⟨h, trivial⟩
  · exact isSound_atBogus h true []

/-- Reading an attribute leaves the name of the tag alone. -/
theorem isSound_open (hd : d.IsSound cs) : (Draft.open d c).IsSound cs := hd

theorem isSound_pushName (hd : d.IsSound cs) : (Draft.pushName d c).IsSound cs := by
  unfold Draft.pushName
  split <;> exact hd

theorem isSound_pushValue (hd : d.IsSound cs) : (Draft.pushValue d c).IsSound cs := by
  unfold Draft.pushValue
  split <;> exact hd

/-- The name of a tag begins as it did before. -/
theorem isSound_extend (hd : d.IsSound cs) :
    Draft.IsSound cs { d with name := visible c :: d.name } := by
  intro hclosing
  obtain ⟨first, halpha, hoccurs, hname⟩ := hd hclosing
  refine ⟨first, halpha, hoccurs, ?_⟩
  unfold lowerAscii at hname ⊢
  rw [String.toList_ofList] at hname ⊢
  rw [List.reverse_cons, List.map_append, List.head?_append, hname, Option.some_or]

theorem isSound_atBeforeName (h : s.HasSoundTokens cs) (hd : d.IsSound cs) :
    (atBeforeName allowed s d c).IsSound cs := by
  unfold atBeforeName
  split_ifs
  · exact ⟨h, hd⟩
  · exact isSound_finishTag h hd
  · exact ⟨h, hd⟩
  · exact ⟨h, isSound_open hd⟩

theorem isSound_atTagName (h : s.HasSoundTokens cs) (hd : d.IsSound cs) :
    (atTagName allowed s d c).IsSound cs := by
  unfold atTagName
  split_ifs
  · exact ⟨h, hd⟩
  · exact isSound_finishTag h hd
  · exact ⟨h, hd⟩
  · exact ⟨h, isSound_extend hd⟩

theorem isSound_atName (h : s.HasSoundTokens cs) (hd : d.IsSound cs) :
    (atName allowed s d c).IsSound cs := by
  unfold atName
  split_ifs
  · exact ⟨h, hd⟩
  · exact isSound_finishTag h hd
  · exact ⟨h, hd⟩
  · exact ⟨h, hd⟩
  · exact ⟨h, isSound_pushName hd⟩

theorem isSound_atAfterName (h : s.HasSoundTokens cs) (hd : d.IsSound cs) :
    (atAfterName allowed s d c).IsSound cs := by
  unfold atAfterName
  split_ifs
  · exact ⟨h, hd⟩
  · exact ⟨h, hd⟩
  · exact isSound_finishTag h hd
  · exact ⟨h, hd⟩
  · exact ⟨h, isSound_open hd⟩

theorem isSound_atBareValue (h : s.HasSoundTokens cs) (hd : d.IsSound cs) :
    (atBareValue allowed s d c).IsSound cs := by
  unfold atBareValue
  split_ifs
  · exact ⟨h, hd⟩
  · exact isSound_finishTag h hd
  · exact ⟨h, isSound_pushValue hd⟩

theorem isSound_atBeforeValue (h : s.HasSoundTokens cs) (hd : d.IsSound cs) :
    (atBeforeValue allowed s d c).IsSound cs := by
  unfold atBeforeValue
  split_ifs
  · exact ⟨h, hd⟩
  · exact ⟨h, hd⟩
  · exact isSound_atBareValue h hd

theorem isSound_atSlash (h : s.HasSoundTokens cs) (hd : d.IsSound cs) :
    (atSlash allowed s d c).IsSound cs := by
  unfold atSlash
  split
  · exact isSound_finishTag h hd
  · exact isSound_atBeforeName h hd

theorem isSound_atDeclaration (h : s.HasSoundTokens cs) (seen : List Char) :
    (atDeclaration allowed s seen c).IsSound cs := by
  unfold atDeclaration
  dsimp only
  split_ifs
  · exact ⟨h, trivial⟩
  · exact ⟨h, trivial⟩
  · exact ⟨h, trivial⟩
  · exact isSound_atBogus h false _

theorem isSound_atAreaEndName (h : s.HasSoundTokens cs) (hc : [c] <:+ cs) (buffer : List Char) :
    (atAreaEndName allowed s buffer c).IsSound cs := by
  -- What is read here is an end tag.
  have hd : Draft.IsSound cs { closing := true, name := buffer } := fun hclosing => nomatch hclosing
  unfold atAreaEndName
  dsimp only
  split_ifs
  · exact ⟨h, hd⟩
  · exact ⟨h, hd⟩
  · exact isSound_finishTag h hd
  · exact ⟨h, trivial⟩
  · exact isSound_atData (h.emit fun _ => nofun) hc

theorem HasSoundTokens.append (h : s.HasSoundTokens cs) (more : List Char) :
    s.HasSoundTokens (cs ++ more) := fun tag htag => (h tag htag).append more

/-- **Reading a character** keeps all tags beginning in what has been read. -/
theorem IsSound.step (h : s.IsSound cs) (c : Char) : (step allowed s c).IsSound (cs ++ [c]) := by
  have hc : [c] <:+ cs ++ [c] := List.suffix_append cs [c]
  obtain ⟨htokens, hplace⟩ := h
  have ht : HasSoundTokens (cs ++ [c]) { s with source := c :: s.source } := htokens.append [c]
  have hdraft : ∀ {d : Draft}, d.IsSound cs → d.IsSound (cs ++ [c]) :=
    fun hd hclosing => (hd hclosing).append [c]
  have hat {p : Place} (hp : s.place = p) : PlaceIsSound cs p := hp ▸ hplace
  -- One case for each place of the scanner. A tag that is read began in what has been read before.
  unfold Scanner.step read
  dsimp only
  cases hp : s.place with
  | data => exact isSound_atData ht hc
  | text run =>
    dsimp only
    split
    · exact isSound_atData (ht.emit fun _ => nofun) hc
    · exact ⟨ht, trivial⟩
  | spaces run =>
    dsimp only
    split
    · exact ⟨ht, trivial⟩
    · exact isSound_atData (ht.emit fun _ => nofun) hc
  | tagOpen =>
    -- A tag may begin here, at the bracket that was read last.
    obtain ⟨before, rfl⟩ : ['<'] <:+ cs := hat hp
    exact isSound_atTagOpen ht ⟨before, by rw [List.append_assoc]; rfl⟩
  | endTagOpen => exact isSound_atEndTagOpen ht
  | tagName d => exact isSound_atTagName ht (hdraft (hat hp))
  | beforeName d | afterValue d => exact isSound_atBeforeName ht (hdraft (hat hp))
  | name d => exact isSound_atName ht (hdraft (hat hp))
  | afterName d => exact isSound_atAfterName ht (hdraft (hat hp))
  | beforeValue d => exact isSound_atBeforeValue ht (hdraft (hat hp))
  | value quote d =>
    have hd : d.IsSound (cs ++ [c]) := hdraft (hat hp)
    cases quote with
    | none => exact isSound_atBareValue ht hd
    | some quote =>
      dsimp only
      split
      · exact ⟨ht, hd⟩
      · exact ⟨ht, isSound_pushValue hd⟩
  | slash d => exact isSound_atSlash ht (hdraft (hat hp))
  | bogus closing data => exact isSound_atBogus ht closing data
  | declaration seen => exact isSound_atDeclaration ht seen
  | areaLess | areaEndOpen =>
    dsimp only
    split
    · exact ⟨ht, trivial⟩
    · exact isSound_atData (ht.emit fun _ => nofun) hc
  | areaEndName buffer => exact isSound_atAreaEndName ht hc buffer
  | doctype | commentStart | commentStartDash | comment | commentDash | commentEnd | commentBang =>
    dsimp only
    split_ifs
    all_goals first
      | exact ⟨ht, trivial⟩
      | exact ⟨ht.emit (p := .data) fun _ => nofun, trivial⟩

/-- What ends a document is no start tag. -/
theorem HasSoundTokens.finish (h : s.HasSoundTokens cs) : (finish allowed s).HasSoundTokens cs := by
  unfold Scanner.finish
  split
  all_goals first
    | exact h
    | exact h.emit fun _ => nofun
    | exact (isSound_finishBogus h _ _).tokens

/-- **A document is scanned soundly.** -/
theorem isSound_foldl (document : List Char) (h : s.IsSound cs) :
    (document.foldl (Scanner.step allowed) s).IsSound (cs ++ document) := by
  induction document generalizing s cs with
  | nil => rwa [List.append_nil]
  | cons c document ih =>
    have hstep : (Scanner.step allowed s c).IsSound (cs ++ [c]) := h.step c
    have hnext := ih hstep
    rwa [List.append_assoc] at hnext

end Scanner

/-- A letter that is no line end follows a less-than sign where it did before line ends were
normalized. -/
theorem head?_normalizeLines {cs : List Char} {c : Char} (hc : c ≠ '\n')
    (h : (normalizeLines cs).head? = some c) : cs.head? = some c := by
  unfold normalizeLines at h
  split at h
  · cases h
    exact absurd rfl hc
  · cases h
    exact absurd rfl hc
  · exact h
  · cases h

theorem infix_of_infix_normalizeLines {cs : List Char} {c : Char} (hc : c ≠ '\n')
    (h : ['<', c] <:+: normalizeLines cs) : ['<', c] <:+: cs := by
  -- On the text, whose line ends are the only characters that change.
  fun_induction normalizeLines cs with
  | case1 rest ih =>
    rcases List.infix_cons_iff.mp h with hprefix | h
    · cases (List.cons_prefix_cons.mp hprefix).1
    · exact (ih h).trans ((List.suffix_cons _ _).trans (List.suffix_cons _ _)).isInfix
  | case2 rest _ ih =>
    rcases List.infix_cons_iff.mp h with hprefix | h
    · cases (List.cons_prefix_cons.mp hprefix).1
    · exact (ih h).trans (List.suffix_cons _ _).isInfix
  | case3 d rest _ _ ih =>
    rcases List.infix_cons_iff.mp h with hprefix | h
    · obtain ⟨rfl, hrest⟩ := List.cons_prefix_cons.mp hprefix
      obtain ⟨more, hmore⟩ := hrest
      have hhead := head?_normalizeLines hc (by rw [← hmore]; rfl)
      obtain ⟨tail, rfl⟩ := List.head?_eq_some_iff.mp hhead
      exact ⟨[], tail, rfl⟩
    · exact (ih h).trans (List.suffix_cons _ _).isInfix
  | case4 => exact h

/-- **The start tags of a document begin in it.** -/
theorem begins_of_mem_scan {allowed : String → Bool} {document : List Char} {tag : Tag}
    (h : .startTag tag ∈ scan allowed document) : Begins document tag.name := by
  have hstart : Scanner.IsSound [] {} := ⟨fun _ htag => (nomatch htag), trivial⟩
  have htokens : Scanner.HasSoundTokens (normalizeLines document)
      (((normalizeLines document).foldl (Scanner.step allowed) {}).finish allowed) :=
    (Scanner.isSound_foldl (normalizeLines document) hstart).tokens.finish
  obtain ⟨c, halpha, hoccurs, hname⟩ := htokens tag (List.mem_reverse.mp h)
  refine ⟨c, halpha, infix_of_infix_normalizeLines ?_ hoccurs, hname⟩
  rintro rfl
  cases halpha

/-! ### The elements that a reader makes -/

section

variable {P : String → Prop}

/-- The names of elements have a property, in a node and inside of it. -/
def Node.IsNamed (P : String → Prop) (n : Node) : Prop := ∀ h ∈ n.heads, P h.1

theorem isNamed_element {name : String} {attributes : List Attribute} {children : List Node}
    (hname : P name) (h : ∀ n ∈ children, n.IsNamed P) :
    Node.IsNamed P (.element name attributes children) := by
  intro head hhead
  rw [Node.heads, headsOf_eq_flatMap] at hhead
  rcases List.mem_cons.mp hhead with rfl | hhead
  · exact hname
  · obtain ⟨n, hn, hhead⟩ := List.mem_flatMap.mp hhead
    exact h n hn head hhead

theorem isNamed_text (data : String) : Node.IsNamed P (.text data) := fun _ h => nomatch h

namespace OpenElement

variable {e : OpenElement}

/-- The names of the elements in an open element have a property. -/
def IsNamed (P : String → Prop) (e : OpenElement) : Prop := ∀ n ∈ e.children, n.IsNamed P

theorem IsNamed.push (h : e.IsNamed P) {n : Node} (hn : n.IsNamed P) : (e.push n).IsNamed P :=
  fun m hm => (List.mem_cons.mp hm).elim (fun heq => heq ▸ hn) (h m)

theorem IsNamed.pushText (h : e.IsNamed P) (data : String) : (e.pushText data).IsNamed P := by
  unfold OpenElement.pushText
  split
  · next before others heq =>
    unfold IsNamed at h
    rw [heq] at h
    exact fun m hm => (List.mem_cons.mp hm).elim (fun hmem => hmem ▸ isNamed_text _)
      fun hm => h m (List.mem_cons_of_mem _ hm)
  · exact h.push (isNamed_text data)

theorem IsNamed.contents (h : e.IsNamed P) : ∀ n ∈ e.contents, n.IsNamed P := by
  intro n hn
  obtain ⟨m, hm, rfl⟩ := List.mem_map.mp hn
  have hmem := h m (List.mem_reverse.mp hm)
  cases m with
  | text data => exact isNamed_text _
  | element name attributes children => exact hmem

end OpenElement

namespace Reading

variable {r : Reading}

/-- **The names of all elements have a property**: of the open ones, and of those inside. -/
structure IsNamed (P : String → Prop) (r : Reading) : Prop where
  stack : ∀ e ∈ r.stack, P e.name ∧ e.IsNamed P
  body : r.body.IsNamed P

theorem IsNamed.change (h : r.IsNamed P) {f : OpenElement → OpenElement}
    (hname : ∀ e, (f e).name = e.name) (hf : ∀ e, e.IsNamed P → (f e).IsNamed P) :
    (r.change f).IsNamed P := by
  unfold Reading.change
  split
  · exact ⟨h.stack, hf r.body h.body⟩
  · next e es heq =>
    have hstack := h.stack
    rw [heq] at hstack
    refine ⟨fun x hx => ?_, h.body⟩
    rcases List.mem_cons.mp hx with rfl | hx
    · obtain ⟨hP, he⟩ := hstack e List.mem_cons_self
      exact ⟨(hname e).symm ▸ hP, hf e he⟩
    · exact hstack x (List.mem_cons_of_mem e hx)

theorem IsNamed.close (h : r.IsNamed P) : r.close.IsNamed P := by
  unfold Reading.close
  split
  · exact h
  · next e es heq =>
    have hstack := h.stack
    rw [heq] at hstack
    obtain ⟨hname, he⟩ := hstack e List.mem_cons_self
    have hnode : e.node.IsNamed P := isNamed_element hname he.contents
    have hrest : Reading.IsNamed P { r with stack := es } :=
      ⟨fun x hx => hstack x (List.mem_cons_of_mem e hx), h.body⟩
    exact hrest.change (fun _ => rfl) fun _ hx => hx.push hnode

theorem IsNamed.closeMany (h : r.IsNamed P) (n : Nat) : (r.closeMany n).IsNamed P := by
  induction n generalizing r with
  | zero => exact h
  | succ n ih => exact ih h.close

theorem IsNamed.enter (h : r.IsNamed P) {name : String} (hname : P name)
    (attributes : List Attribute) : (r.enter name attributes).IsNamed P := by
  refine ⟨fun e he => ?_, h.body⟩
  rcases List.mem_cons.mp he with rfl | he
  · exact ⟨hname, fun _ hn => nomatch hn⟩
  · exact h.stack e he

theorem IsNamed.start (h : r.IsNamed P) {tag : Tag} (hname : P tag.name) :
    (r.start tag).IsNamed P := by
  unfold Reading.start
  dsimp only
  have hentered := (h.closeMany (endedBefore r.stack tag.name)).enter hname
    (tag.attributes.map fun a => (a.1, String.ofList (resolveClassic a.2.toList)))
  split
  · exact hentered.close
  · exact hentered

theorem IsNamed.addText (h : r.IsNamed P) (hp : P "p") (data : List Char) :
    (r.addText data).IsNamed P := by
  have hpush : ∀ {r : Reading} (data : String), r.IsNamed P →
      (r.change (·.pushText data)).IsNamed P := by
    intro r data hr
    refine hr.change (fun e => ?_) fun e he => he.pushText data
    unfold OpenElement.pushText
    split <;> rfl
  unfold Reading.addText
  dsimp only
  split_ifs
  · exact h
  · exact hpush _ h
  · exact h
  · exact hpush _ (h.enter hp [])

theorem IsNamed.read (h : r.IsNamed P) (hp : P "p") {t : Token}
    (ht : ∀ tag, t = .startTag tag → P tag.name) : (r.read t).IsNamed P := by
  cases t with
  | text data | spaces data => exact h.addText hp data
  | startTag tag => exact h.start (ht tag rfl)
  | endTag name => exact h.closeMany _
  | comment => exact h

theorem IsNamed.foldl (h : r.IsNamed P) (hp : P "p") {tokens : List Token}
    (ht : ∀ tag, .startTag tag ∈ tokens → P tag.name) :
    (tokens.foldl Reading.read r).IsNamed P := by
  induction tokens generalizing r with
  | nil => exact h
  | cons t tokens ih =>
    refine ih (h.read hp fun tag heq => ht tag (heq ▸ List.mem_cons_self)) fun tag hmem => ?_
    exact ht tag (List.mem_cons_of_mem t hmem)

end Reading

end

/-- **The elements of a body begin in its document**, but for the paragraph that text begins. -/
theorem begins_of_mem_heads_readBody {document : String} {head : String × List Attribute}
    (h : head ∈ headsOf (readBody document)) :
    head.1 = "p" ∨ Begins document.toList head.1 := by
  have hempty : Reading.IsNamed (fun name => name = "p" ∨ Begins document.toList name) {} :=
    ⟨fun _ he => (nomatch he), fun _ hn => (nomatch hn)⟩
  have hread : Reading.IsNamed (fun name => name = "p" ∨ Begins document.toList name)
      ((scan (fun _ => true) document.toList).foldl Reading.read {}) :=
    hempty.foldl (.inl rfl) fun tag htag => .inr (begins_of_mem_scan htag)
  rw [headsOf_eq_flatMap] at h
  obtain ⟨n, hn, hhead⟩ := List.mem_flatMap.mp h
  exact (hread.closeMany _).body.contents n hn head hhead

end StaticSite.Html
