import Mathlib.Data.List.TakeWhile
import StaticSite.Proofs.Text.Case
import StaticSite.Proofs.Text.Find
import StaticSite.Proofs.Text.Words
import StaticSite.Proofs.Title.Greedy
import StaticSite.Title.Hostname

/-!
# The letters of a site title

A title has the characters of the name it is made of, but for case and for those that part words:
hyphens, underscores and blanks (`bareName`). Each step on the way keeps the others, in their order:
joints become spaces, ends are trimmed, spaces are put in, a run of letters is cut into pieces
(`filter_spacedName`); and a word keeps its letters whatever its spelling (`map_toLower_caseWord`).

The first part holds for every name without a dotted capital I, whose small letter takes two
characters; the second one is about ASCII, where a letter and its small letter are one to one.

The last part follows a title on its way to its own title. Without a point it is a name already
(`baseName_eq`), without hyphens and with a space it is not cut any further
(`nameWords_intercalate`), and its words are written as they should be (`caseWord_caseWord`). So it
stays what it is (`siteTitle_siteTitle`).
-/

namespace StaticSite.Title

variable {cs base : List Char} {p : Char → Bool} {hostname w : String}

/-! ### Joints -/

/-- Whether a character only parts words. -/
def isJoint (c : Char) : Bool := c == '-' || c == '_' || Text.isBlank c

/-- The characters of a name that belong to its words, in small letters. -/
def bareName (cs : List Char) : List Char := Text.lowerList (cs.filter (!isJoint ·))

/-- The name that a title is made of: the hostname without its top-level domain, if anything is left
of it. -/
def baseName (hostname : String) : List Char :=
  if (stripDomain hostname).isEmpty then Text.stripList hostname.toList else stripDomain hostname

theorem isJoint_of_isBlank {c : Char} (h : Text.isBlank c = true) : isJoint c = true := by
  rw [isJoint, h, Bool.or_true]

/-! ### From a name to its spaced form

Each step keeps the characters of a class that has no joints. -/

section

variable (hp : ∀ c, isJoint c = true → p c = false)
include hp

theorem filter_stripList (cs : List Char) : (Text.stripList cs).filter p = cs.filter p := by
  have hblanks (blanks : List Char) (h : ∀ c ∈ blanks, Text.isBlank c = true) :
      blanks.filter p = [] :=
    List.filter_eq_nil_iff.mpr fun c hc => by simp [hp c (isJoint_of_isBlank (h c hc))]
  obtain ⟨tail, htail, heq⟩ :=
    Text.exists_eq_dropRightWhile_append Text.isBlank (cs.dropWhile Text.isBlank)
  calc (Text.stripList cs).filter p
      = (Text.stripList cs ++ tail).filter p := by
        rw [List.filter_append, hblanks tail htail, List.append_nil]
    _ = (cs.dropWhile Text.isBlank).filter p := congrArg (List.filter p) heq.symm
    _ = (cs.takeWhile Text.isBlank ++ cs.dropWhile Text.isBlank).filter p := by
        rw [List.filter_append,
          hblanks _ fun c hc => List.all_eq_true.mp List.all_takeWhile c hc, List.nil_append]
    _ = cs.filter p := by rw [List.takeWhile_append_dropWhile]

theorem filter_joinsToSpaces (cs : List Char) : (joinsToSpaces cs).filter p = cs.filter p := by
  have hjoin {c : Char} (h : (c == '-' || c == '_') = true) : p c = false :=
    hp c (by rw [isJoint, h, Bool.true_or])
  have hspace : p ' ' = false := hp ' ' (by decide)
  fun_induction joinsToSpaces cs with
  | case1 => rfl
  | case2 c h => rw [List.filter_cons_of_neg (by simp [hspace]), List.filter_cons_of_neg
      (by simp [hjoin h])]
  | case3 => rfl
  | case4 a b rest ha hb ih => rw [ih, List.filter_cons_of_neg (a := a) (by simp [hjoin ha])]
  | case5 a b rest ha hb ih =>
    rw [List.filter_cons_of_neg (by simp [hspace]), ih,
      List.filter_cons_of_neg (a := a) (by simp [hjoin ha])]
  | case6 a b rest ha ih => rw [List.filter_cons, List.filter_cons, ih]

theorem filter_splitBoundaries (cs : List Char) : (splitBoundaries cs).filter p = cs.filter p := by
  have hspace : p ' ' = false := hp ' ' (by decide)
  fun_induction splitBoundaries cs with
  | case1 a b rest h ih =>
    rw [List.filter_cons, List.filter_cons_of_neg (by simp [hspace]), ih, ← List.filter_cons]
  | case2 a b rest h ih => rw [List.filter_cons, ih, ← List.filter_cons]
  | case3 => rfl

/-- The spaces between the parts do not count. -/
theorem filter_intercalate (parts : List (List Char)) :
    ([' '].intercalate parts).filter p = parts.flatten.filter p := by
  have hspace : [' '].filter p = [] :=
    List.filter_cons_of_neg (by simp [hp ' ' (by decide)])
  induction parts with
  | nil => rfl
  | cons part parts ih =>
    cases parts with
    | nil => rw [List.intercalate_singleton, List.flatten_singleton]
    | cons next parts =>
      rw [List.intercalate_cons_cons, List.filter_append, List.filter_append, hspace,
        List.append_nil, ih, List.flatten_cons (l := part), List.filter_append]

end

/-- **A segmentation loses nothing**, whichever of the two is taken. -/
theorem flatten_segment (hlength : (Text.lowerList cs).length = cs.length) :
    (segment cs).flatten = cs := by
  rw [segment]
  cases hbreak : wordBreak dictionary cs with
  | none => exact (isSound_greedySegment dictionary hlength).2
  | some pieces => exact (isSegmentation_of_wordBreak hlength hbreak).flatten_eq

/-- **The spaced form of a name has its characters**, but for joints. -/
theorem filter_spacedName (h : ∀ c ∈ base, c.toNat ≠ 0x130) :
    (spacedName base).filter (!isJoint ·) = base.filter (!isJoint ·) := by
  have hp (c : Char) (hc : isJoint c = true) : (!isJoint c) = false := by rw [hc]; rfl
  have htrimmed : (Text.stripList (joinsToSpaces base)).filter (!isJoint ·) =
      base.filter (!isJoint ·) := by
    rw [filter_stripList hp, filter_joinsToSpaces hp]
  unfold spacedName
  extract_lets trimmed spaced
  have hspaced : spaced.filter (!isJoint ·) = base.filter (!isJoint ·) := by
    show (if trimmed.contains ' ' then trimmed else splitBoundaries trimmed).filter _ = _
    split
    · exact htrimmed
    · rw [filter_splitBoundaries hp, htrimmed]
  split
  · -- No character is new, so none is a dotted capital I.
    have hdotted : ∀ c ∈ spaced, c.toNat ≠ 0x130 := by
      intro c hc hcode
      have hself : c = Char.ofNat 0x130 := by rw [← hcode, Char.ofNat_toNat]
      have hkept : c ∈ spaced.filter (!isJoint ·) :=
        List.mem_filter.mpr ⟨hc, by rw [hself]; decide⟩
      rw [hspaced] at hkept
      exact h c (List.mem_of_mem_filter hkept) hcode
    rw [filter_intercalate hp,
      flatten_segment (Text.forall₂_sameLetter_lowerList hdotted).length_eq, hspaced]
  · exact hspaced

/-- A name that has nothing but joints has no words. -/
theorem spacedName_of_forall (h : ∀ c ∈ base, isJoint c = true) : spacedName base = [] := by
  -- Hyphens and underscores become spaces, and the other joints are blanks already.
  have hblank : ∀ c ∈ joinsToSpaces base, Text.isBlank c = true := by
    have hjoint {c : Char} (hc : isJoint c = true) (hno : ¬ (c == '-' || c == '_') = true) :
        Text.isBlank c = true := by
      rw [isJoint, Bool.eq_false_iff.mpr hno, Bool.false_or] at hc
      exact hc
    fun_induction joinsToSpaces base with
    | case1 => exact fun c hc => absurd hc List.not_mem_nil
    | case2 => exact fun c hc => List.mem_singleton.mp hc ▸ by decide
    | case3 c hno => exact List.forall_mem_singleton.mpr (hjoint (h c List.mem_cons_self) hno)
    | case4 a b rest ha hb ih => exact ih (List.forall_mem_cons.mp h).2
    | case5 a b rest ha hb ih =>
      exact List.forall_mem_cons.mpr ⟨by decide, ih (List.forall_mem_cons.mp h).2⟩
    | case6 a b rest ha ih =>
      obtain ⟨hjoint', hrest⟩ := List.forall_mem_cons.mp h
      exact List.forall_mem_cons.mpr ⟨hjoint hjoint' ha, ih hrest⟩
  have htrimmed : Text.stripList (joinsToSpaces base) = [] := by
    have hdrop : (joinsToSpaces base).dropWhile Text.isBlank = [] :=
      List.dropWhile_eq_nil_iff.mpr hblank
    rw [Text.stripList, Text.stripChars, hdrop]
    rfl
  unfold spacedName
  rw [htrimmed]
  rfl

/-! ### Letters within ASCII -/

theorem toLower_eq_self {c : Char} (h : ¬ c.toNat < 0x80) : c.toLower = c := by
  unfold Char.toLower
  refine dif_neg fun hrange => h ?_
  have hle : c.toNat ≤ 90 := UInt32.le_iff_toNat_le.mp hrange.2
  omega

/-- The small letter of a character is the character itself or a letter. -/
theorem toLower_eq_self_or (c : Char) :
    c.toLower = c ∨ 97 ≤ c.toLower.toNat ∧ c.toLower.toNat ≤ 122 := by
  unfold Char.toLower
  split
  · next hrange =>
    have hlow : 65 ≤ c.toNat := UInt32.le_iff_toNat_le.mp hrange.1
    have hhigh : c.toNat ≤ 90 := UInt32.le_iff_toNat_le.mp hrange.2
    have hsmall : (c.val + ('a'.val - 'A'.val)).toNat = c.toNat + 32 := by
      have hdistance : ('a'.val - 'A'.val).toNat = 32 := rfl
      rw [UInt32.toNat_add, hdistance]
      exact Nat.mod_eq_of_lt (by show c.toNat + 32 < _; omega)
    right
    show 97 ≤ (c.val + ('a'.val - 'A'.val)).toNat ∧ (c.val + ('a'.val - 'A'.val)).toNat ≤ 122
    omega
  · exact .inl rfl

/-- What holds of every character of ASCII by evaluation. -/
theorem forall_ascii {q : Char → Prop} (h : ∀ n < 0x80, q (Char.ofNat n)) {c : Char}
    (hc : c.toNat < 0x80) : q c := Char.ofNat_toNat c ▸ h c.toNat hc

theorem isBlank_toLower (c : Char) : Text.isBlank c.toLower = Text.isBlank c := by
  by_cases hc : c.toNat < 0x80
  · exact forall_ascii (q := fun c => Text.isBlank c.toLower = Text.isBlank c)
      (by decide +kernel) hc
  · rw [toLower_eq_self hc]

theorem isJoint_toLower (c : Char) : isJoint c.toLower = isJoint c := by
  by_cases hc : c.toNat < 0x80
  · exact forall_ascii (q := fun c => isJoint c.toLower = isJoint c) (by decide +kernel) hc
  · rw [toLower_eq_self hc]

theorem toNat_lt_of_toLower {c : Char} (h : c.toLower.toNat < 0x80) : c.toNat < 0x80 := by
  by_contra hc
  exact hc (toLower_eq_self hc ▸ h)

/-- A text with the small letters of ASCII is ASCII. -/
theorem toNat_lt_of_map_toLower_eq {xs ys : List Char}
    (heq : xs.map Char.toLower = ys.map Char.toLower) (h : ∀ c ∈ ys, c.toNat < 0x80) :
    ∀ c ∈ xs, c.toNat < 0x80 := by
  intro c hc
  obtain ⟨d, hd, hcd⟩ := List.mem_map.mp (heq ▸ List.mem_map_of_mem (f := Char.toLower) hc)
  refine toNat_lt_of_toLower (hcd ▸ ?_)
  rcases toLower_eq_self_or d with hself | ⟨-, hhigh⟩
  · rw [hself]
    exact h d hd
  · omega

theorem map_toLower_filter (cs : List Char) :
    (cs.filter (!isJoint ·)).map Char.toLower = (cs.map Char.toLower).filter (!isJoint ·) := by
  rw [List.filter_map]
  refine congrArg (List.map Char.toLower) (List.filter_congr fun c _ => ?_)
  rw [Function.comp_apply, isJoint_toLower]

theorem bareName_eq (h : ∀ c ∈ cs.filter (!isJoint ·), c.toNat < 0x80) :
    bareName cs = (cs.filter (!isJoint ·)).map Char.toLower := Text.lowerFrom_eq_map h []

/-! ### Words as they are written -/

theorem map_toLower_capitalize (h : ∀ c ∈ w.toList, c.toNat < 0x80) :
    (Text.capitalize w).toList.map Char.toLower = w.toList.map Char.toLower := by
  unfold Text.capitalize
  cases hw : w.toList with
  | nil => rfl
  | cons c rest =>
    have hc : c.toNat < 0x80 := h c (hw ▸ List.mem_cons_self)
    have hcase : c.toUpper.toLower = c.toLower :=
      forall_ascii (q := fun c => c.toUpper.toLower = c.toLower) (by decide +kernel) hc
    rw [String.toList_ofList, Text.capital, if_pos hc, List.singleton_append, List.map_cons,
      List.map_cons, hcase]

/-- A spelling of its own differs from a word in case only. -/
theorem map_toLower_brandCasing : ∀ entry ∈ brandCasing,
    entry.2.toList.map Char.toLower = entry.1.toList := by decide +kernel

/-- **A word keeps its letters**, whatever its spelling. -/
theorem map_toLower_caseWord (h : ∀ c ∈ w.toList, c.toNat < 0x80) (isFirst : Bool) :
    (caseWord isFirst w).toList.map Char.toLower = w.toList.map Char.toLower := by
  have hlower : (Text.lower w).toList = w.toList.map Char.toLower := by
    rw [Text.lower, String.toList_ofList, Text.lowerList, Text.lowerFrom_eq_map h]
  unfold caseWord
  extract_lets lowered
  split
  · exact map_toLower_capitalize h
  · cases hbrand : brandCasing.lookup lowered with
    | none => exact map_toLower_capitalize h
    | some spelling =>
      obtain ⟨before, after, hmem, -⟩ := List.lookup_eq_some_iff.mp hbrand
      have hentry : (lowered, spelling) ∈ brandCasing :=
        hmem ▸ List.mem_append_right before List.mem_cons_self
      exact (map_toLower_brandCasing _ hentry).trans hlower

/-- The words of a title keep their letters. -/
theorem map_toLower_caseWords {ws : List String} (h : ∀ w ∈ ws, ∀ c ∈ w.toList, c.toNat < 0x80) :
    (caseWords ws).map (·.toList.map Char.toLower) = ws.map (·.toList.map Char.toLower) := by
  cases ws with
  | nil => rfl
  | cons w ws =>
    obtain ⟨hw, hws⟩ := List.forall_mem_cons.mp h
    rw [caseWords, List.map_cons, List.map_cons, map_toLower_caseWord hw, List.map_map]
    refine congrArg (_ :: ·) (List.map_congr_left fun v hv => ?_)
    rw [Function.comp_apply, map_toLower_caseWord (hws v hv)]

/-- A text with the letters of a word can be a word itself. -/
theorem isWord_of_map_toLower_eq {v : String} (hw : Text.IsWord w)
    (h : v.toList.map Char.toLower = w.toList.map Char.toLower) : Text.IsWord v := by
  refine ⟨?_, fun c hc => ?_⟩
  · rintro rfl
    exact hw.1 (String.toList_eq_nil_iff.mp (List.map_eq_nil_iff.mp h.symm))
  · obtain ⟨d, hd, heq⟩ := List.mem_map.mp (h ▸ List.mem_map_of_mem (f := Char.toLower) hc)
    rw [← isBlank_toLower, ← heq, isBlank_toLower]
    exact hw.2 d hd

theorem exists_mem_of_mem_caseWords {ws : List String} {v : String} (hv : v ∈ caseWords ws) :
    ∃ w ∈ ws, ∃ isFirst, v = caseWord isFirst w := by
  cases ws with
  | nil => exact absurd hv List.not_mem_nil
  | cons w ws =>
    rcases List.mem_cons.mp hv with rfl | hv
    · exact ⟨w, List.mem_cons_self, true, rfl⟩
    · obtain ⟨u, hu, rfl⟩ := List.mem_map.mp hv
      exact ⟨u, List.mem_cons_of_mem w hu, false, rfl⟩

theorem isWord_of_mem_caseWords {ws : List String} (hws : ∀ w ∈ ws, Text.IsWord w)
    (h : ∀ w ∈ ws, ∀ c ∈ w.toList, c.toNat < 0x80) {v : String} (hv : v ∈ caseWords ws) :
    Text.IsWord v := by
  obtain ⟨w, hw, isFirst, rfl⟩ := exists_mem_of_mem_caseWords hv
  exact isWord_of_map_toLower_eq (hws w hw) (map_toLower_caseWord (h w hw) isFirst)

/-- The letters of a title's words, in small letters. -/
theorem bareName_caseWords {ws : List String} (h : ∀ w ∈ ws, ∀ c ∈ w.toList, c.toNat < 0x80) :
    bareName (" ".intercalate (caseWords ws)).toList =
      ((ws.map String.toList).flatten.filter (!isJoint ·)).map Char.toLower := by
  -- Case changes nothing in the small letters, and the spaces between the words are joints.
  have hletters : ((caseWords ws).map String.toList).flatten.map Char.toLower =
      (ws.map String.toList).flatten.map Char.toLower := by
    rw [List.map_flatten, List.map_flatten, List.map_map, List.map_map]
    exact congrArg List.flatten (map_toLower_caseWords h)
  have hascii : ∀ c ∈ ((caseWords ws).map String.toList).flatten, c.toNat < 0x80 := by
    refine toNat_lt_of_map_toLower_eq hletters fun c hc => ?_
    obtain ⟨_, hmem, hcw⟩ := List.mem_flatten.mp hc
    obtain ⟨w, hw, rfl⟩ := List.mem_map.mp hmem
    exact h w hw c hcw
  have hspaces : (" ".intercalate (caseWords ws)).toList.filter (!isJoint ·) =
      ((caseWords ws).map String.toList).flatten.filter (!isJoint ·) := by
    rw [String.toList_intercalate]
    exact filter_intercalate (fun c hc => by rw [hc]; rfl) _
  rw [bareName_eq (hspaces ▸ fun c hc => hascii c (List.mem_of_mem_filter hc)), hspaces,
    map_toLower_filter, hletters, ← map_toLower_filter]

/-! ### Titles -/

theorem mem_of_mem_stripList {c : Char} (h : c ∈ Text.stripList cs) : c ∈ cs := by
  obtain ⟨tail, -, heq⟩ :=
    Text.exists_eq_dropRightWhile_append Text.isBlank (cs.dropWhile Text.isBlank)
  have hmem : c ∈ cs.dropWhile Text.isBlank := heq ▸ List.mem_append_left tail h
  exact (List.dropWhile_suffix Text.isBlank).mem hmem

theorem mem_of_mem_dropLastPart {c : Char} (h : c ∈ dropLastPart cs) : c ∈ cs := by
  unfold dropLastPart at h
  split at h
  · exact h
  · rw [List.mem_reverse] at h
    have hsuffix : (cs.reverse.dropWhile (· != '.')).drop 1 <:+ cs.reverse :=
      (List.drop_suffix _ _).trans (List.dropWhile_suffix _)
    exact List.mem_reverse.mp (hsuffix.mem h)

/-- The name of a site is part of its hostname. -/
theorem mem_of_mem_baseName {c : Char} (h : c ∈ baseName hostname) : c ∈ hostname.toList := by
  have hwww {c : Char} (h : c ∈ dropWww (Text.stripList hostname.toList)) :
      c ∈ hostname.toList := by
    unfold dropWww at h
    split at h
    · exact mem_of_mem_stripList (List.mem_of_mem_drop h)
    · exact mem_of_mem_stripList h
  unfold baseName at h
  split at h
  · exact mem_of_mem_stripList h
  · unfold stripDomain at h
    dsimp only at h
    split at h
    · exact hwww (List.mem_of_mem_take h)
    · exact hwww (mem_of_mem_dropLastPart h)

/-- The words of a name, as they are written before their spelling is settled. -/
def nameWords (hostname : String) : List String :=
  Text.words (String.ofList (spacedName (baseName hostname)))

theorem siteTitle_eq (hostname : String) :
    siteTitle hostname = if nameWords hostname = [] then Text.strip hostname
      else " ".intercalate (caseWords (nameWords hostname)) := by
  unfold siteTitle nameWords baseName
  dsimp only
  generalize Text.words _ = ws
  cases ws <;> rfl

/-- The words of a name have its characters, but for joints. -/
theorem filter_nameWords (h : ∀ c ∈ baseName hostname, c.toNat ≠ 0x130) :
    ((nameWords hostname).map String.toList).flatten.filter (!isJoint ·) =
      (baseName hostname).filter (!isJoint ·) := by
  have hwords : ((nameWords hostname).map String.toList).flatten =
      (spacedName (baseName hostname)).filter (!Text.isBlank ·) := by
    rw [nameWords, Text.words, List.map_map, String.toList_ofList, ← Text.flatten_splitRuns]
    simp [Function.comp_def]
  rw [hwords, List.filter_filter, ← filter_spacedName h]
  refine List.filter_congr fun c _ => ?_
  cases hblank : Text.isBlank c with
  | false => exact Bool.and_true _
  | true => rw [isJoint_of_isBlank hblank]; rfl

/-- A name has words exactly if it has more than joints. -/
theorem nameWords_eq_nil_iff (h : ∀ c ∈ baseName hostname, c.toNat ≠ 0x130) :
    nameWords hostname = [] ↔ ∀ c ∈ baseName hostname, isJoint c = true := by
  constructor
  · intro hnil c hc
    have hfilter := filter_nameWords h
    rw [hnil] at hfilter
    simpa using List.filter_eq_nil_iff.mp hfilter.symm c hc
  · intro hjoints
    rw [nameWords, spacedName_of_forall hjoints]
    rfl

/-- Within ASCII, the words of a name are ASCII too. -/
theorem toNat_lt_of_mem_nameWords (h : ∀ c ∈ baseName hostname, c.toNat < 0x80) :
    ∀ w ∈ nameWords hostname, ∀ c ∈ w.toList, c.toNat < 0x80 := by
  intro w hw c hc
  by_cases hjoint : isJoint c = true
  · -- A joint in a word is no blank.
    have hblank : Text.isBlank c = false := (Text.isWord_of_mem_words hw).2 c hc
    rw [isJoint, hblank, Bool.or_false, Bool.or_eq_true, beq_iff_eq, beq_iff_eq] at hjoint
    rcases hjoint with rfl | rfl <;> decide
  · have hmem : c ∈ ((nameWords hostname).map String.toList).flatten.filter (!isJoint ·) := by
      refine List.mem_filter.mpr ⟨List.mem_flatten.mpr ⟨w.toList, ?_, hc⟩, by simp [hjoint]⟩
      exact List.mem_map_of_mem hw
    rw [filter_nameWords fun c hc => by have := h c hc; omega] at hmem
    exact h c (List.mem_of_mem_filter hmem)

/-- **A title has the letters of its name.** For every hostname in ASCII: if its name has a
character that does not only part words, then the title is made of words that stand a single space
apart, and it has the characters of the name, but for case and for those that part words; otherwise
the title is the hostname itself, trimmed. -/
theorem siteTitle_keeps_letters (h : ∀ c ∈ hostname.toList, c.toNat < 0x80) :
    ((∃ c ∈ baseName hostname, isJoint c = false) →
      siteTitle hostname ≠ "" ∧ Text.squeeze (siteTitle hostname) = siteTitle hostname ∧
        bareName (siteTitle hostname).toList = bareName (baseName hostname)) ∧
    ((∀ c ∈ baseName hostname, isJoint c = true) → siteTitle hostname = Text.strip hostname) := by
  have hbase : ∀ c ∈ baseName hostname, c.toNat < 0x80 := fun c hc => h c (mem_of_mem_baseName hc)
  have hdotted : ∀ c ∈ baseName hostname, c.toNat ≠ 0x130 := by
    intro c hc
    have := hbase c hc
    omega
  rw [siteTitle_eq]
  refine ⟨?_, fun hjoints => if_pos ((nameWords_eq_nil_iff hdotted).mpr hjoints)⟩
  rintro ⟨d, hd, hdjoint⟩
  have hsome : nameWords hostname ≠ [] := by
    intro hnil
    exact absurd ((nameWords_eq_nil_iff hdotted).mp hnil d hd) (by simp [hdjoint])
  have hascii := toNat_lt_of_mem_nameWords hbase
  have hwords : ∀ v ∈ caseWords (nameWords hostname), Text.IsWord v := fun v hv =>
    isWord_of_mem_caseWords (fun w hw => Text.isWord_of_mem_words hw) hascii hv
  rw [if_neg hsome]
  refine ⟨fun hempty => ?_, Text.squeeze_intercalate hwords, ?_⟩
  · -- An empty text has no words.
    have hfound := Text.words_intercalate hwords
    rw [hempty] at hfound
    have hnone : caseWords (nameWords hostname) ≠ [] := by
      cases hws : nameWords hostname with
      | nil => exact absurd hws hsome
      | cons w ws => exact List.cons_ne_nil _ _
    exact hnone (hfound.symm.trans rfl)
  · rw [bareName_caseWords hascii, filter_nameWords hdotted,
      bareName_eq fun c hc => hbase c (List.mem_of_mem_filter hc)]

/-- A hostname of three words, one of which has a spelling of its own. -/
theorem siteTitle_of_three_words : (∀ c ∈ "my-seo_tools.co.uk".toList, c.toNat < 0x80) ∧
    siteTitle "my-seo_tools.co.uk" = "My SEO Tools" ∧
    baseName "my-seo_tools.co.uk" = "my-seo_tools".toList ∧
    bareName "My SEO Tools".toList = bareName "my-seo_tools".toList := by
  have hascii : ∀ c ∈ "my-seo_tools.co.uk".toList, c.toNat < 0x80 := by simp
  have htitle : siteTitle "my-seo_tools.co.uk" = "My SEO Tools" := by decide +kernel
  have hname : baseName "my-seo_tools.co.uk" = "my-seo_tools".toList := by decide +kernel
  have hkeeps := (siteTitle_keeps_letters hascii).1
  rw [htitle, hname] at hkeeps
  exact ⟨hascii, htitle, hname, (hkeeps ⟨'m', by decide, by decide⟩).2.2⟩

/-! ### Titles of titles -/

theorem stripList_eq_self (hhead : ∀ c ∈ cs.head?, Text.isBlank c = false)
    (hlast : ∀ c ∈ cs.getLast?, Text.isBlank c = false) : Text.stripList cs = cs := by
  cases cs with
  | nil => rfl
  | cons c cs =>
    have h := Text.stripChars_append (List.cons_ne_nil c cs) hhead hlast (List.forall_mem_nil _)
    rwa [List.append_nil] at h

/-- A trimmed text is trimmed already. -/
theorem stripList_stripList (cs : List Char) :
    Text.stripList (Text.stripList cs) = Text.stripList cs := by
  refine stripList_eq_self (fun c hc => ?_) fun c hc => ?_
  · obtain ⟨tail, -, heq⟩ :=
      Text.exists_eq_dropRightWhile_append Text.isBlank (cs.dropWhile Text.isBlank)
    have hfirst := List.head?_dropWhile_not Text.isBlank cs
    rw [heq, List.head?_append, show (Text.dropRightWhile _ _).head? = some c from hc] at hfirst
    exact hfirst
  · have hfirst := List.head?_dropWhile_not Text.isBlank (cs.dropWhile Text.isBlank).reverse
    rw [show Text.stripList cs = (List.dropWhile _ _).reverse from rfl, List.getLast?_reverse] at hc
    rw [show List.head? _ = some c from hc] at hfirst
    exact hfirst

/-- Words that are joined by spaces are trimmed already. -/
theorem stripList_intercalate {ws : List String} (h : ∀ w ∈ ws, Text.IsWord w) :
    Text.stripList (" ".intercalate ws).toList = (" ".intercalate ws).toList := by
  have hblank {c : Char} : (∃ part ∈ ws.map String.toList, c ∈ part) → Text.isBlank c = false := by
    rintro ⟨_, hpart, hc⟩
    obtain ⟨w, hw, rfl⟩ := List.mem_map.mp hpart
    exact (h w hw).2 c hc
  obtain ⟨hhead, hlast⟩ := Text.head?_getLast?_intercalate ' ' <|
    List.forall_mem_map.mpr fun w hw => mt String.toList_eq_nil_iff.mp (h w hw).1
  rw [String.toList_intercalate]
  exact stripList_eq_self (fun c hc => hblank (hhead c hc)) fun c hc => hblank (hlast c hc)

/-- A sign of a name is the small letter of itself only. -/
theorem eq_of_toLower_eq {c sign : Char} (hsign : sign ∈ ['.', '-', '_']) (h : c.toLower = sign) :
    c = sign := by
  rcases toLower_eq_self_or c with hself | ⟨hlow, -⟩
  · exact hself ▸ h
  · rw [h] at hlow
    simp only [List.mem_cons, List.not_mem_nil, or_false] at hsign
    rcases hsign with rfl | rfl | rfl <;> exact absurd hlow (by decide)

theorem dropLastPart_eq_self (h : '.' ∉ cs) : dropLastPart cs = cs := by
  have hdrop : cs.reverse.dropWhile (· != '.') = [] :=
    List.dropWhile_eq_nil_iff.mpr fun c hc => by
      rw [bne_iff_ne]
      rintro rfl
      exact h (List.mem_reverse.mp hc)
  unfold dropLastPart
  rw [hdrop]
  rfl

/-- **A hostname without a point is a name already**: no top-level domain is taken off. -/
theorem baseName_eq (hascii : ∀ c ∈ hostname.toList, c.toNat < 0x80)
    (hpoint : '.' ∉ Text.stripList hostname.toList) :
    baseName hostname = Text.stripList hostname.toList := by
  have hlower : '.' ∉ Text.lowerList (Text.stripList hostname.toList) := by
    rw [Text.lowerList, Text.lowerFrom_eq_map fun c hc => hascii c (mem_of_mem_stripList hc)]
    intro hmem
    obtain ⟨c, hc, heq⟩ := List.mem_map.mp hmem
    exact hpoint (eq_of_toLower_eq (by decide) heq ▸ hc)
  have hwww : dropWww (Text.stripList hostname.toList) = Text.stripList hostname.toList := by
    refine if_neg fun hprefix => hlower ?_
    exact (List.isPrefixOf_iff_prefix.mp hprefix).subset (by decide)
  -- Every compound domain has a point, and so has the prefix of the web.
  have hdomain : ∀ d ∈ compoundDomains, '.' ∈ d.toList := by simp [compoundDomains]
  have hstrip : stripDomain hostname = Text.stripList hostname.toList := by
    unfold stripDomain
    dsimp only
    rw [hwww]
    split
    · next d hd =>
      have hfound := List.find?_some hd
      rw [Bool.and_eq_true] at hfound
      have hmem := (List.isPrefixOf_iff_prefix.mp hfound.1).subset
        (List.mem_reverse.mpr (hdomain d (List.mem_of_find?_eq_some hd)))
      rw [List.mem_reverse, String.toList_ofList] at hmem
      exact absurd hmem hlower
    · exact dropLastPart_eq_self hpoint
  unfold baseName
  rw [hstrip]
  split <;> rfl

/-- Whether a text has no hyphen and no underscore. -/
def HasNoJoins (cs : List Char) : Prop := ∀ c ∈ cs, c ≠ '-' ∧ c ≠ '_'

theorem joinsToSpaces_eq_self (h : HasNoJoins cs) : joinsToSpaces cs = cs := by
  unfold HasNoJoins at h
  fun_induction joinsToSpaces cs with
  | case1 => rfl
  | case2 c hc => simp_all
  | case3 => rfl
  | case4 a b rest ha hb ih => simp_all
  | case5 a b rest ha hb ih => simp_all
  | case6 a b rest ha ih => rw [ih (List.forall_mem_cons.mp h).2]

theorem mem_of_mem_joinsToSpaces {c : Char} (h : c ∈ joinsToSpaces cs) : c = ' ' ∨ c ∈ cs := by
  have hmore {a : Char} {rest : List Char} (h : c = ' ' ∨ c ∈ rest) : c = ' ' ∨ c ∈ a :: rest :=
    h.imp id (List.mem_cons_of_mem a)
  fun_induction joinsToSpaces cs with
  | case1 => exact absurd h List.not_mem_nil
  | case2 => exact .inl (List.mem_singleton.mp h)
  | case3 => exact .inr h
  | case4 a b rest ha hb ih => exact hmore (ih h)
  | case5 a b rest ha hb ih => exact (List.mem_cons.mp h).elim .inl fun h => hmore (ih h)
  | case6 a b rest ha ih =>
    rcases List.mem_cons.mp h with rfl | h
    · exact .inr List.mem_cons_self
    · exact hmore (ih h)

theorem hasNoJoins_joinsToSpaces (cs : List Char) : HasNoJoins (joinsToSpaces cs) := by
  have hother {c : Char} (hc : ¬ (c == '-' || c == '_') = true) : c ≠ '-' ∧ c ≠ '_' := by
    simpa using hc
  unfold HasNoJoins
  fun_induction joinsToSpaces cs with
  | case1 => exact fun c hc => absurd hc List.not_mem_nil
  | case2 => exact List.forall_mem_singleton.mpr (by decide)
  | case3 c hc => exact List.forall_mem_singleton.mpr (hother hc)
  | case4 a b rest ha hb ih => exact ih
  | case5 a b rest ha hb ih => exact List.forall_mem_cons.mpr ⟨by decide, ih⟩
  | case6 a b rest ha ih => exact List.forall_mem_cons.mpr ⟨hother ha, ih⟩

theorem mem_of_mem_splitBoundaries {c : Char} (h : c ∈ splitBoundaries cs) : c = ' ' ∨ c ∈ cs := by
  have hmore {a : Char} {rest : List Char} (h : c = ' ' ∨ c ∈ rest) : c = ' ' ∨ c ∈ a :: rest :=
    h.imp id (List.mem_cons_of_mem a)
  fun_induction splitBoundaries cs with
  | case1 a b rest hb ih =>
    rcases List.mem_cons.mp h with rfl | h
    · exact .inr List.mem_cons_self
    · exact (List.mem_cons.mp h).elim .inl fun h => hmore (ih h)
  | case2 a b rest hb ih =>
    rcases List.mem_cons.mp h with rfl | h
    · exact .inr List.mem_cons_self
    · exact hmore (ih h)
  | case3 => exact .inr h

/-- The spaced form of a name adds nothing but spaces to the name without its joins. -/
theorem mem_of_mem_spacedName (h : ∀ c ∈ joinsToSpaces base, c.toNat ≠ 0x130) {c : Char}
    (hc : c ∈ spacedName base) : c = ' ' ∨ c ∈ joinsToSpaces base := by
  unfold spacedName at hc
  extract_lets trimmed spaced at hc
  have hspaced {d : Char} (hd : d ∈ spaced) : d = ' ' ∨ d ∈ joinsToSpaces base := by
    have hd : d ∈ if trimmed.contains ' ' then trimmed else splitBoundaries trimmed := hd
    split at hd
    · exact .inr (mem_of_mem_stripList hd)
    · exact (mem_of_mem_splitBoundaries hd).imp id mem_of_mem_stripList
  split at hc
  · have hdotted : ∀ d ∈ spaced, d.toNat ≠ 0x130 := by
      intro d hd
      rcases hspaced hd with rfl | hd
      · decide
      · exact h d hd
    refine (Text.mem_intercalate hc).elim .inl fun hpart => hspaced ?_
    -- The parts put together are the name again, so that only the spaces between them are new.
    rw [← flatten_segment (Text.forall₂_sameLetter_lowerList hdotted).length_eq]
    exact List.mem_flatten.mpr hpart
  · exact hspaced hc

/-- The words of a name have no hyphens and no underscores, however they are written. -/
theorem hasNoJoins_of_mem_caseWords (h : ∀ c ∈ baseName hostname, c.toNat < 0x80) {v : String}
    (hv : v ∈ caseWords (nameWords hostname)) : HasNoJoins v.toList := by
  have hdotted : ∀ c ∈ joinsToSpaces (baseName hostname), c.toNat ≠ 0x130 := by
    intro c hc
    rcases mem_of_mem_joinsToSpaces hc with rfl | hc
    · decide
    · have := h c hc
      omega
  have hname {w : String} (hw : w ∈ nameWords hostname) : HasNoJoins w.toList := by
    intro c hc
    have hmem := Text.mem_of_mem_words hw hc
    rw [String.toList_ofList] at hmem
    rcases mem_of_mem_spacedName hdotted hmem with rfl | hmem
    · decide
    · exact hasNoJoins_joinsToSpaces _ c hmem
  obtain ⟨w, hw, isFirst, rfl⟩ := exists_mem_of_mem_caseWords hv
  -- Words are written with other letters, but these have the same small letters.
  have hletters := map_toLower_caseWord (toNat_lt_of_mem_nameWords h w hw) isFirst
  intro c hc
  obtain ⟨d, hd, heq⟩ := List.mem_map.mp (hletters ▸ List.mem_map_of_mem (f := Char.toLower) hc)
  constructor
  · rintro rfl
    exact (hname hw d hd).1 (eq_of_toLower_eq (by decide) heq)
  · rintro rfl
    exact (hname hw d hd).2 (eq_of_toLower_eq (by decide) heq)

theorem capitalize_capitalize (h : ∀ c ∈ w.toList, c.toNat < 0x80) :
    Text.capitalize (Text.capitalize w) = Text.capitalize w := by
  have hupper {c : Char} (hc : c.toNat < 0x80) :
      Text.capital c = [c.toUpper] ∧ Text.capital c.toUpper = [c.toUpper] :=
    forall_ascii (q := fun c => Text.capital c = [c.toUpper] ∧ Text.capital c.toUpper = [c.toUpper])
      (by decide +kernel) hc
  unfold Text.capitalize
  cases hw : w.toList with
  | nil => rfl
  | cons c rest =>
    obtain ⟨hfirst, hagain⟩ := hupper (h c (hw ▸ List.mem_cons_self))
    simp only [String.toList_ofList, hfirst, List.singleton_append, hagain]

/-- **A word that is written as in a title stays as it is.** -/
theorem caseWord_caseWord (h : ∀ c ∈ w.toList, c.toNat < 0x80) (isFirst : Bool) :
    caseWord isFirst (caseWord isFirst w) = caseWord isFirst w := by
  have hletters := map_toLower_caseWord h isFirst
  have hascii := toNat_lt_of_map_toLower_eq hletters h
  -- The spelling depends on the small letters, which stay the same.
  have hlower : Text.lower (caseWord isFirst w) = Text.lower w := by
    unfold Text.lower Text.lowerList
    rw [Text.lowerFrom_eq_map hascii, Text.lowerFrom_eq_map h, hletters]
  have hunfold (v : String) (hv : Text.lower v = Text.lower w) : caseWord isFirst v =
      if isFirst && minorWords.contains (Text.lower w) then Text.capitalize v
      else (brandCasing.lookup (Text.lower w)).getD (Text.capitalize v) := by
    unfold caseWord
    rw [hv]
  rw [hunfold _ hlower, hunfold w rfl]
  split
  · exact capitalize_capitalize h
  · cases brandCasing.lookup (Text.lower w) with
    | none => exact capitalize_capitalize h
    | some spelling => rfl

theorem toNat_lt_of_mem_caseWords {ws : List String}
    (h : ∀ w ∈ ws, ∀ c ∈ w.toList, c.toNat < 0x80) {v : String} (hv : v ∈ caseWords ws) :
    ∀ c ∈ v.toList, c.toNat < 0x80 := by
  obtain ⟨w, hw, isFirst, rfl⟩ := exists_mem_of_mem_caseWords hv
  exact toNat_lt_of_map_toLower_eq (map_toLower_caseWord (h w hw) isFirst) (h w hw)

theorem caseWords_caseWords {ws : List String} (h : ∀ w ∈ ws, ∀ c ∈ w.toList, c.toNat < 0x80) :
    caseWords (caseWords ws) = caseWords ws := by
  cases ws with
  | nil => rfl
  | cons w ws =>
    obtain ⟨hw, hws⟩ := List.forall_mem_cons.mp h
    rw [caseWords, caseWords, caseWord_caseWord hw, List.map_map]
    refine congrArg (_ :: ·) (List.map_congr_left fun v hv => ?_)
    rw [Function.comp_apply, caseWord_caseWord (hws v hv)]

/-- The characters of joined words are spaces and those of the words. -/
theorem forall_mem_intercalate {vs : List String} {q : Char → Prop} (hspace : q ' ')
    (h : ∀ v ∈ vs, ∀ c ∈ v.toList, q c) : ∀ c ∈ (" ".intercalate vs).toList, q c := by
  intro c hc
  rw [String.toList_intercalate] at hc
  rcases Text.mem_intercalate hc with rfl | ⟨_, hpart, hc⟩
  · exact hspace
  · obtain ⟨v, hv, rfl⟩ := List.mem_map.mp hpart
    exact h v hv c hc

/-- **A name that is words with spaces between them has these words**: no step on the way to its
words changes it. -/
theorem nameWords_intercalate {vs : List String} (hwords : ∀ v ∈ vs, Text.IsWord v)
    (hascii : ∀ v ∈ vs, ∀ c ∈ v.toList, c.toNat < 0x80)
    (hjoins : ∀ v ∈ vs, HasNoJoins v.toList) (hspace : ' ' ∈ (" ".intercalate vs).toList)
    (hpoint : '.' ∉ (" ".intercalate vs).toList) : nameWords (" ".intercalate vs) = vs := by
  have htrimmed := stripList_intercalate hwords
  have hname : baseName (" ".intercalate vs) = (" ".intercalate vs).toList := by
    rw [baseName_eq (forall_mem_intercalate (by decide) hascii) (by rwa [htrimmed]), htrimmed]
  have hjoined : joinsToSpaces (" ".intercalate vs).toList = (" ".intercalate vs).toList :=
    joinsToSpaces_eq_self (forall_mem_intercalate (by decide) hjoins)
  -- A name with a space in it is not cut any further.
  have hparted : (" ".intercalate vs).toList.contains ' ' = true := List.contains_iff_mem.mpr hspace
  have hspaced : spacedName (" ".intercalate vs).toList = (" ".intercalate vs).toList := by
    unfold spacedName
    dsimp only
    rw [hjoined, htrimmed, if_pos hparted, hparted]
    rfl
  rw [nameWords, hname, hspaced, String.ofList_toList, Text.words_intercalate hwords]

/-- **A title that has a space is its own title**, unless it has a point. For every hostname in
ASCII: no step on the way to a title changes such a title any more. -/
theorem siteTitle_siteTitle (hascii : ∀ c ∈ hostname.toList, c.toNat < 0x80)
    (hspace : ' ' ∈ (siteTitle hostname).toList) (hpoint : '.' ∉ (siteTitle hostname).toList) :
    siteTitle (siteTitle hostname) = siteTitle hostname := by
  by_cases hnil : nameWords hostname = []
  · -- The title is the trimmed hostname, which has the same name.
    have htitle : siteTitle hostname = Text.strip hostname := by rw [siteTitle_eq, if_pos hnil]
    have htrimmed : (Text.strip hostname).toList = Text.stripList hostname.toList :=
      String.toList_ofList
    rw [htitle, htrimmed] at hpoint
    have hascii' : ∀ c ∈ (Text.strip hostname).toList, c.toNat < 0x80 := fun c hc =>
      hascii c (mem_of_mem_stripList (htrimmed ▸ hc))
    have hname : nameWords (Text.strip hostname) = nameWords hostname := by
      unfold nameWords
      rw [baseName_eq hascii hpoint, baseName_eq hascii' (by rwa [htrimmed, stripList_stripList]),
        htrimmed, stripList_stripList]
    rw [htitle, siteTitle_eq, if_pos (hname.trans hnil), Text.strip, htrimmed, stripList_stripList]
    rfl
  · -- The title is made of words as they are written, which are its own words.
    have hbase : ∀ c ∈ baseName hostname, c.toNat < 0x80 := fun c hc =>
      hascii c (mem_of_mem_baseName hc)
    have hletters := toNat_lt_of_mem_nameWords hbase
    have htitle : siteTitle hostname = " ".intercalate (caseWords (nameWords hostname)) := by
      rw [siteTitle_eq, if_neg hnil]
    rw [htitle] at hspace hpoint ⊢
    have hwords : ∀ v ∈ caseWords (nameWords hostname), Text.IsWord v := fun v hv =>
      isWord_of_mem_caseWords (fun w hw => Text.isWord_of_mem_words hw) hletters hv
    have hname := nameWords_intercalate hwords
      (fun v hv => toNat_lt_of_mem_caseWords hletters hv)
      (fun v hv => hasNoJoins_of_mem_caseWords hbase hv) hspace hpoint
    have hsome : caseWords (nameWords hostname) ≠ [] := by
      intro hempty
      rw [hempty] at hspace
      exact List.not_mem_nil hspace
    rw [siteTitle_eq, hname, if_neg hsome, caseWords_caseWords hletters]

/-- A title whose first word would be small further on, and whose second one has a spelling of its
own. -/
theorem siteTitle_siteTitle_of_minor_word : (∀ c ∈ "the-ev_guide.com".toList, c.toNat < 0x80) ∧
    siteTitle "the-ev_guide.com" = "The EV Guide" ∧
    siteTitle "The EV Guide" = "The EV Guide" := by
  have hascii : ∀ c ∈ "the-ev_guide.com".toList, c.toNat < 0x80 := by simp
  have htitle : siteTitle "the-ev_guide.com" = "The EV Guide" := by decide +kernel
  have hagain := siteTitle_siteTitle hascii
  rw [htitle] at hagain
  exact ⟨hascii, htitle, hagain (by decide) (by decide)⟩

end StaticSite.Title
