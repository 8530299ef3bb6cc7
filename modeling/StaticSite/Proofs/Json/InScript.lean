import StaticSite.Proofs.Json.Literals

/-!
# Values in scripts are read back

The characters that a script escapes occur inside the strings of a JSON text only. So what is read
back from a script is the value that was written, and no text can end the script (`parse_inScript`).

The proof goes along the value (`Json.IsPlain.isReadBack`). Each part is read up to what ends it: an
item up to a comma or a bracket, the value of a field up to a comma or a brace. The text of a value
is longer than the value is deep, so that there is always fuel left.

Numbers with a point are left out, and so are objects with two fields of one name (`Json.IsPlain`).
-/

namespace StaticSite

open Html (scripted scripted_append scripted_cons scripted_eq_self escapeInScript)

namespace Json

/-- **A value without numbers that have a point**, in whose objects each field has a name of its
own. -/
inductive IsPlain : Json → Prop
  | null : IsPlain .null
  | bool (b : Bool) : IsPlain (.bool b)
  | int (i : Int) : IsPlain (.int i)
  | str (s : String) : IsPlain (.str s)
  | arr {items : List Json} (h : ∀ v ∈ items, IsPlain v) : IsPlain (.arr items)
  | obj {fields : List (String × Json)} (hnames : (fields.map Prod.fst).Nodup)
      (h : ∀ f ∈ fields, IsPlain f.2) : IsPlain (.obj fields)

theorem setField_of_notMem {name : String} {fields : List (String × Json)}
    (h : name ∉ fields.map Prod.fst) (value : Json) :
    setField name value fields = fields ++ [(name, value)] := by
  induction fields with
  | nil => rfl
  | cons f fields ih =>
    obtain ⟨n, v⟩ := f
    rw [List.map_cons, List.mem_cons, not_or] at h
    rw [setField, if_neg (Ne.symm h.1), ih h.2, List.cons_append]

/-- Fields with names of their own are those of an object as they are. -/
theorem ofFields_of_nodup {fields : List (String × Json)} (h : (fields.map Prod.fst).Nodup) :
    ofFields fields = .obj fields := by
  have hfold (before : List (String × Json))
      (hall : ((before ++ fields).map Prod.fst).Nodup) :
      fields.foldl (fun fs f => setField f.1 f.2 fs) before = before ++ fields := by
    induction fields generalizing before with
    | nil => rw [List.append_nil, List.foldl_nil]
    | cons f fields ih =>
      have hnot : f.1 ∉ before.map Prod.fst := fun hmem => by
        rw [List.map_append] at hall
        exact (List.nodup_append.mp hall).2.2 _ hmem _ List.mem_cons_self rfl
      rw [List.foldl_cons, setField_of_notMem hnot, ih (List.nodup_cons.mp h).2, List.append_assoc,
        List.singleton_append]
      rwa [List.append_assoc]
  exact congrArg Json.obj (hfold [] h)

/-- What a written value begins with: neither a blank nor a closing bracket or brace. -/
def IsStart (c : Char) : Prop :=
  (c == ' ' || c == '\t' || c == '\n' || c == '\r') = false ∧ c ≠ ']' ∧ c ≠ '}'

theorem isStart_of_isAsciiDigit {c : Char} (hc : isAsciiDigit c = true) : IsStart c := by
  refine ⟨?_, ?_, ?_⟩
  · rw [← Bool.not_eq_true]
    intro h
    simp only [Bool.or_eq_true, beq_iff_eq] at h
    rcases h with ((rfl | rfl) | rfl) | rfl <;> exact absurd hc (by decide)
  all_goals
    rintro rfl
    exact absurd hc (by decide)

theorem exists_toString_int_eq_cons (i : Int) :
    ∃ c cs, (toString i).toList = c :: cs ∧ (c = '-' ∨ isAsciiDigit c = true) := by
  rw [Text.toList_toString_int]
  by_cases hi : i < 0
  · exact ⟨'-', _, by rw [if_pos hi, List.singleton_append], .inl rfl⟩
  · obtain ⟨c, cs, hcs⟩ :=
      List.exists_cons_of_ne_nil (Nat.toDigits_ne_nil (n := i.natAbs) (b := 10))
    refine ⟨c, cs, by rw [if_neg hi, List.nil_append, hcs], .inr ?_⟩
    exact isAsciiDigit_toDigits i.natAbs c (hcs ▸ List.mem_cons_self)

/-- An integer stands in a script as it is. -/
theorem scripted_int (i : Int) : scripted (toString i).toList = (toString i).toList := by
  have hplain {c : Char} (hc : isAsciiDigit c = true) : escapeInScript c = [c] := by
    unfold escapeInScript
    repeat' split
    case isFalse => rfl
    all_goals
      next heq =>
      rw [beq_iff_eq.mp heq] at hc
      exact absurd hc (by decide)
  refine scripted_eq_self ?_
  rw [Text.toList_toString_int, List.forall_mem_append]
  refine ⟨?_, fun c hc => hplain (isAsciiDigit_toDigits _ c hc)⟩
  split
  · exact List.forall_mem_singleton.mpr rfl
  · exact fun _ h => absurd h List.not_mem_nil

theorem exists_scripted_eq_cons {v : Json} (hv : v.IsPlain) (set : Charset) :
    ∃ c cs, scripted (renderList set v) = c :: cs ∧ IsStart c := by
  cases hv with
  | null => exact ⟨'n', _, rfl, rfl, by decide, by decide⟩
  | bool b => cases b <;> exact ⟨_, _, rfl, rfl, by decide, by decide⟩
  | int i =>
    obtain ⟨c, cs, hcs, hc⟩ := exists_toString_int_eq_cons i
    refine ⟨c, cs, by rw [renderList, scripted_int, hcs], ?_⟩
    rcases hc with rfl | hc
    · exact ⟨rfl, by decide, by decide⟩
    · exact isStart_of_isAsciiDigit hc
  | str s => exact ⟨'"', _, by rw [renderList, scripted_renderString], rfl, by decide, by decide⟩
  | @arr items h => cases items <;> exact ⟨'[', _, rfl, rfl, by decide, by decide⟩
  | @obj fields hnames h =>
    cases fields <;> exact ⟨'{', _, rfl, rfl, by decide, by decide⟩

/-- Blanks are skipped up to what begins a value. -/
theorem skipBlanks_of_isStart {c : Char} (hc : IsStart c) (cs : List Char) :
    skipBlanks (c :: cs) = c :: cs := by
  rw [skipBlanks, List.dropWhile_cons, if_neg (by rw [hc.1]; exact Bool.false_ne_true)]

theorem skipBlanks_space (cs : List Char) : skipBlanks (' ' :: cs) = skipBlanks cs := rfl

/-- **A value is read back**, up to what ends it, when there is more fuel than it has characters. -/
def IsReadBack (set : Charset) (v : Json) : Prop :=
  ∀ (fuel : Nat) (rest : List Char), EndsValue rest → (scripted (renderList set v)).length < fuel →
    parseValue fuel (scripted (renderList set v) ++ rest) = .ok (v, rest)

/-- Values that are written as one word, or by a sign and digits. -/
theorem isReadBack_of_scalar {set : Charset} {v : Json} {c : Char} {cs : List Char}
    (hcs : scripted (renderList set v) = c :: cs) (hc : c ≠ '"' ∧ c ≠ '[' ∧ c ≠ '{')
    (h : ∀ rest, EndsValue rest → parseScalar (c :: cs ++ rest) = .ok (v, rest)) :
    IsReadBack set v := by
  intro fuel rest hrest hfuel
  obtain ⟨fuel, rfl⟩ := Nat.exists_eq_add_one_of_ne_zero (Nat.ne_zero_of_lt hfuel)
  rw [hcs, List.cons_append, parseValue]
  · exact h rest hrest
  all_goals
    intros
    simp_all

theorem scripted_renderItems_cons (set : Charset) (item : Json) (items : List Json) :
    scripted (renderItems set (item :: items)) =
      ',' :: ' ' :: (scripted (renderList set item) ++ scripted (renderItems set items)) := by
  rw [renderItems, List.cons_append, scripted_cons, List.cons_append, scripted_cons,
    scripted_append]
  rfl

/-- An item is read up to what ends it, a bracket or a comma with more items behind it. -/
theorem parseItems_item {set : Charset} {item : Json} (hread : IsReadBack set item) {fuel : Nat}
    (hfuel : (scripted (renderList set item)).length < fuel) (rest : List Char) :
    parseItems (fuel + 1) (scripted (renderList set item) ++ ']' :: rest) = .ok ([item], rest) ∧
      ∀ (more : List Char) (items : List Json),
        parseItems fuel (skipBlanks more) = .ok (items, rest) →
          parseItems (fuel + 1) (scripted (renderList set item) ++ ',' :: more) =
            .ok (item :: items, rest) := by
  constructor
  · rw [parseItems, hread fuel _ (.cons (.inr (.inl rfl)) rest) hfuel]
    rfl
  · intro more items hmore
    have hcomma : skipBlanks (',' :: more) = ',' :: more := rfl
    rw [parseItems, hread fuel _ (.cons (.inl rfl) more) hfuel]
    simp only [hcomma, hmore]

theorem parseItems_written {set : Charset} {item : Json} {items : List Json}
    (hread : ∀ v ∈ item :: items, IsReadBack set v) (hplain : ∀ v ∈ item :: items, v.IsPlain)
    {fuel : Nat}
    (hfuel : (scripted (renderList set item) ++ scripted (renderItems set items)).length < fuel)
    (rest : List Char) :
    parseItems fuel (scripted (renderList set item) ++ (scripted (renderItems set items) ++ rest)) =
      .ok (item :: items, rest) := by
  -- On the items that are left; each one takes a unit of fuel, and at least one character.
  induction items generalizing item fuel with
  | nil =>
    obtain ⟨fuel, rfl⟩ := Nat.exists_eq_add_one_of_ne_zero (Nat.ne_zero_of_lt hfuel)
    rw [List.length_append] at hfuel
    have hclose : (scripted (renderItems set [])).length = 1 := rfl
    exact (parseItems_item (hread item List.mem_cons_self) (by omega) rest).1
  | cons next items ih =>
    obtain ⟨fuel, rfl⟩ := Nat.exists_eq_add_one_of_ne_zero (Nat.ne_zero_of_lt hfuel)
    rw [scripted_renderItems_cons] at hfuel ⊢
    simp only [List.length_append, List.length_cons] at hfuel
    rw [List.forall_mem_cons] at hread hplain
    obtain ⟨c, cs, hcs, hstart⟩ := exists_scripted_eq_cons
      (hplain.2 next List.mem_cons_self) set
    have hshort : (scripted (renderList set next) ++ scripted (renderItems set items)).length <
        fuel := by
      rw [List.length_append]
      omega
    refine (parseItems_item hread.1 (by omega) rest).2 _ _ ?_
    -- After the comma the blank is skipped, and the next item stands at the start.
    show parseItems fuel (skipBlanks (' ' :: (scripted (renderList set next) ++
      scripted (renderItems set items) ++ rest))) = _
    rw [skipBlanks_space, List.append_assoc, hcs, List.cons_append, skipBlanks_of_isStart hstart,
      ← List.cons_append, ← hcs]
    exact ih hread.2 hplain.2 hshort

/-- A field as it stands in a script, with what follows its value. -/
def fieldText (set : Charset) (f : String × Json) (tail : List Char) : List Char :=
  '"' :: (scripted (f.1.toList.flatMap (renderChar set)) ++ '"' :: ':' :: ' ' ::
    (scripted (renderList set f.2) ++ tail))

theorem fieldText_append (set : Charset) (f : String × Json) (tail more : List Char) :
    fieldText set f tail ++ more = fieldText set f (tail ++ more) := by
  unfold fieldText
  simp only [List.cons_append, List.append_assoc]

theorem length_lt_length_fieldText (set : Charset) (f : String × Json) (tail : List Char) :
    (scripted (renderList set f.2)).length + tail.length < (fieldText set f tail).length := by
  unfold fieldText
  simp only [List.length_cons, List.length_append]
  omega

theorem scripted_field (set : Charset) (f : String × Json) (more : List Char) :
    scripted (renderString set f.1 ++ ':' :: ' ' :: renderList set f.2 ++ more) =
      fieldText set f (scripted more) := by
  unfold fieldText
  rw [scripted_append, scripted_append, scripted_renderString, scripted_cons, scripted_cons]
  simp only [List.cons_append, List.append_assoc, List.nil_append]
  rfl

theorem scripted_renderFields_cons (set : Charset) (f : String × Json)
    (fields : List (String × Json)) :
    scripted (renderFields set (f :: fields)) =
      ',' :: ' ' :: fieldText set f (scripted (renderFields set fields)) := by
  rw [← scripted_field, renderFields]
  simp only [List.cons_append, scripted_cons]
  rfl

/-- A field is read up to what ends its value, a brace or a comma with more fields behind it. -/
theorem parseFields_field {set : Charset} {f : String × Json} (hvalue : IsReadBack set f.2)
    (hplain : f.2.IsPlain) {fuel : Nat} (hfuel : (scripted (renderList set f.2)).length < fuel)
    (rest : List Char) :
    parseFields (fuel + 1) (fieldText set f ('}' :: rest)) = .ok ([f], rest) ∧
      ∀ (more : List Char) (fields : List (String × Json)),
        parseFields fuel (skipBlanks more) = .ok (fields, rest) →
          parseFields (fuel + 1) (fieldText set f (',' :: more)) = .ok (f :: fields, rest) := by
  obtain ⟨name, value⟩ := f
  obtain ⟨c, cs, hcs, hstart⟩ := exists_scripted_eq_cons hplain set
  have hblanks (tail : List Char) : skipBlanks (' ' :: (scripted (renderList set value) ++ tail)) =
      scripted (renderList set value) ++ tail := by
    rw [skipBlanks_space, hcs, List.cons_append, skipBlanks_of_isStart hstart]
  have hcolon (tail : List Char) : skipBlanks (':' :: tail) = ':' :: tail := rfl
  have hread (tail : List Char) (htail : EndsValue tail) := hvalue fuel tail htail hfuel
  unfold fieldText
  constructor
  · rw [parseFields, parseString_written]
    simp only [hcolon, hblanks, hread _ (.cons (.inr (.inr rfl)) rest)]
    rfl
  · intro more fields hmore
    have hcomma : skipBlanks (',' :: more) = ',' :: more := rfl
    rw [parseFields, parseString_written]
    simp only [hcolon, hblanks, hread _ (.cons (.inl rfl) more), hcomma, hmore]

theorem parseFields_written {set : Charset} {f : String × Json} {fields : List (String × Json)}
    (hread : ∀ g ∈ f :: fields, IsReadBack set g.2) (hplain : ∀ g ∈ f :: fields, g.2.IsPlain)
    {fuel : Nat} (hfuel : (fieldText set f (scripted (renderFields set fields))).length < fuel)
    (rest : List Char) :
    parseFields fuel (fieldText set f (scripted (renderFields set fields) ++ rest)) =
      .ok (f :: fields, rest) := by
  -- On the fields that are left, as for the items of an array.
  induction fields generalizing f fuel with
  | nil =>
    obtain ⟨fuel, rfl⟩ := Nat.exists_eq_add_one_of_ne_zero (Nat.ne_zero_of_lt hfuel)
    have hlength := length_lt_length_fieldText set f (scripted (renderFields set []))
    exact (parseFields_field (hread f List.mem_cons_self) (hplain f List.mem_cons_self)
      (by omega) rest).1
  | cons next fields ih =>
    obtain ⟨fuel, rfl⟩ := Nat.exists_eq_add_one_of_ne_zero (Nat.ne_zero_of_lt hfuel)
    have hlength := length_lt_length_fieldText set f (scripted (renderFields set (next :: fields)))
    rw [scripted_renderFields_cons] at hfuel hlength ⊢
    rw [List.length_cons, List.length_cons] at hlength
    rw [List.forall_mem_cons] at hread hplain
    have hshort : (fieldText set next (scripted (renderFields set fields))).length < fuel := by
      omega
    have hmore := ih hread.2 hplain.2 hshort
    rw [← fieldText_append] at hmore
    exact (parseFields_field hread.1 hplain.1 (by omega) rest).2 _ _ hmore

theorem isReadBack_bool (set : Charset) (b : Bool) : IsReadBack set (.bool b) := by
  cases b with
  | true =>
    have htext : scripted (renderList set (.bool true)) = 't' :: "rue".toList := rfl
    exact isReadBack_of_scalar htext (by decide) fun rest _ => rfl
  | false =>
    have htext : scripted (renderList set (.bool false)) = 'f' :: "alse".toList := rfl
    exact isReadBack_of_scalar htext (by decide) fun rest _ => rfl

theorem isReadBack_int (set : Charset) (i : Int) : IsReadBack set (.int i) := by
  obtain ⟨c, cs, hcs, hc⟩ := exists_toString_int_eq_cons i
  have htext : scripted (renderList set (.int i)) = c :: cs := by
    rw [renderList, scripted_int, hcs]
  refine isReadBack_of_scalar htext ?_ fun rest hrest => ?_
  · rcases hc with rfl | hc
    · decide
    · refine ⟨?_, ?_, ?_⟩
      all_goals
        rintro rfl
        exact absurd hc (by decide)
  · rw [← hcs]
    exact parseScalar_int i hrest

theorem isReadBack_str (set : Charset) (s : String) : IsReadBack set (.str s) := by
  intro fuel rest _ hfuel
  obtain ⟨fuel, rfl⟩ := Nat.exists_eq_add_one_of_ne_zero (Nat.ne_zero_of_lt hfuel)
  rw [renderList, scripted_renderString, List.cons_append, List.append_assoc, parseValue,
    List.singleton_append, parseString_written]

theorem isReadBack_arr {set : Charset} {items : List Json} (hread : ∀ v ∈ items, IsReadBack set v)
    (hplain : ∀ v ∈ items, v.IsPlain) : IsReadBack set (.arr items) := by
  intro fuel rest _ hfuel
  obtain ⟨fuel, rfl⟩ := Nat.exists_eq_add_one_of_ne_zero (Nat.ne_zero_of_lt hfuel)
  cases items with
  | nil => rfl
  | cons item items =>
    obtain ⟨c, cs, hcs, hstart⟩ := exists_scripted_eq_cons (hplain item List.mem_cons_self) set
    have htext : scripted (renderList set (.arr (item :: items))) = '[' ::
        (scripted (renderList set item) ++ scripted (renderItems set items)) := by
      rw [renderList, List.cons_append, scripted_cons, scripted_append]
      rfl
    rw [htext] at hfuel ⊢
    have hitems := parseItems_written hread hplain (Nat.lt_of_succ_lt_succ hfuel) rest
    rw [hcs, List.cons_append] at hitems
    rw [List.cons_append, List.append_assoc, hcs, List.cons_append, parseValue,
      skipBlanks_of_isStart hstart]
    -- What begins an item closes no array.
    split
    · next heq => exact absurd (List.cons.inj heq).1 hstart.2.1
    · rw [hitems]

theorem isReadBack_obj {set : Charset} {fields : List (String × Json)}
    (hnames : (fields.map Prod.fst).Nodup) (hread : ∀ f ∈ fields, IsReadBack set f.2)
    (hplain : ∀ f ∈ fields, f.2.IsPlain) : IsReadBack set (.obj fields) := by
  intro fuel rest _ hfuel
  obtain ⟨fuel, rfl⟩ := Nat.exists_eq_add_one_of_ne_zero (Nat.ne_zero_of_lt hfuel)
  cases fields with
  | nil => rfl
  | cons f fields =>
    have htext : scripted (renderList set (.obj (f :: fields))) =
        '{' :: fieldText set f (scripted (renderFields set fields)) := by
      rw [← scripted_field, renderList, List.cons_append, List.cons_append, scripted_cons]
      rfl
    rw [htext] at hfuel ⊢
    have hfields := parseFields_written hread hplain (Nat.lt_of_succ_lt_succ hfuel) rest
    have hblanks (tail : List Char) :
        skipBlanks (fieldText set f tail) = fieldText set f tail := rfl
    rw [List.cons_append, fieldText_append, parseValue, hblanks]
    -- An object that is empty is read by itself; this one begins with a name.
    split
    · next heq => exact absurd (List.cons.inj heq).1 (by decide)
    · rw [hfields]
      show Except.ok (ofFields (f :: fields), rest) = _
      rw [ofFields_of_nodup hnames]

/-- **Every value without points is read back.** -/
theorem IsPlain.isReadBack {v : Json} (hv : v.IsPlain) (set : Charset) : IsReadBack set v := by
  induction hv with
  | null =>
    have htext : scripted (renderList set .null) = 'n' :: "ull".toList := rfl
    exact isReadBack_of_scalar htext (by decide) fun rest _ => rfl
  | bool b => exact isReadBack_bool set b
  | int i => exact isReadBack_int set i
  | str s => exact isReadBack_str set s
  | arr hplain ih => exact isReadBack_arr ih hplain
  | obj hnames hplain ih => exact isReadBack_obj hnames ih hplain

/-- A value is read back from the text that stands for it in a script. -/
theorem IsPlain.parse_scripted {v : Json} (hv : v.IsPlain) (set : Charset) :
    Json.parse (Html.inScript (v.render set)).text = .ok v := by
  obtain ⟨c, cs, hcs, hstart⟩ := exists_scripted_eq_cons hv set
  have hread := hv.isReadBack set _ [] (fun c hc => nomatch hc) (Nat.lt_succ_self _)
  rw [List.append_nil] at hread
  have hblanks : skipBlanks (scripted (renderList set v)) = scripted (renderList set v) := by
    rw [hcs, skipBlanks_of_isStart hstart]
  rw [Json.parse, Html.toList_inScript, render, String.toList_ofList, parseList, hblanks, hread]
  rfl

end Json

/-- A value whose texts would close a script, and whose integers, words and empty containers stand
where values end. -/
def closingData : Json :=
  .obj [("</script>", .str "<!-- \"a\" & \\b\n\u007f é 😀 -->"),
    ("more", .arr [.int (-120), .int 0, .bool true, .null, .obj [], .arr []])]

theorem isPlain_closingData : closingData.IsPlain := by
  refine .obj (by decide) ?_
  simp only [List.forall_mem_cons]
  refine ⟨.str _, .arr ?_, fun _ h => absurd h List.not_mem_nil⟩
  simp only [List.forall_mem_cons]
  exact ⟨.int _, .int _, .bool _, .null, .obj .nil fun _ h => absurd h List.not_mem_nil,
    .arr fun _ h => absurd h List.not_mem_nil, fun _ h => absurd h List.not_mem_nil⟩

end StaticSite
