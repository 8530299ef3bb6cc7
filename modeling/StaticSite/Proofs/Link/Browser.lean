import Mathlib.Data.List.TakeWhile
import StaticSite.Link.Outgoing
import StaticSite.Proofs.Html.StartTags
import StaticSite.Proofs.Text.Case
import StaticSite.Proofs.Text.Find

/-!
# Where a browser finds a host

A browser on a page served over `https` reads an address otherwise than `Url.parse` does
(`Browser.authority?`). Controls and spaces are dropped at both ends, and a backslash is as good as
a slash. After `http:` an authority follows, with or without slashes before it. Without a scheme,
and after `https:`, it takes two slashes to begin an authority, and any more of them are skipped.

What a browser makes of the host that is written there is a matter of its host parser, which is a
parameter: `Browser.host?` is the host that it leads to. All that is needed of the parser is that a
plain name stands for itself in small letters (`Browser.IsFaithful`).

`LinkPolicy.hostRead?` is the host that the policy for links reads. Both readings find the same host
in an address that is written out (`IsWrittenOut`): one with a scheme, two slashes and a plain name
(`hostRead?_of_isWrittenOut`, `Browser.host?_of_isWrittenOut`). And where a browser finds no
authority, there the policy reads no host (`hostRead?_eq_none`).
-/

namespace StaticSite.Link

/-! ### The policy's reading -/

/-- The host that the policy reads in an address, in small letters. -/
def LinkPolicy.hostRead? (address : String) : Option String :=
  match Url.parse address with
  | .ok url => if url.scheme == "http" || url.scheme == "https" then url.hostname? else none
  | .error _ => none

/-! ### A browser's reading -/

namespace Browser

/-- Whether a browser takes a character for a slash. -/
def isSlash (c : Char) : Bool := c == '/' || c == '\\'

/-- An address without the characters that a browser ignores. -/
def trim (cs : List Char) : List Char := dropIgnored (Text.dropRightWhile isControlOrSpace cs)

/-- The text up to the next slash, question mark or hash. -/
def upToPath (cs : List Char) : List Char :=
  cs.takeWhile fun c => !(isSlash c || c == '?' || c == '#')

/-- Whether two slashes come first. -/
def isRooted (cs : List Char) : Bool := 2 ≤ (cs.takeWhile isSlash).length

/-- The authority of an address, on a page served over `https`. An address without one leads to the
host of the page. -/
def authority? (cs : List Char) : Option (List Char) :=
  let (scheme, rest) := splitScheme cs
  let authority := upToPath (rest.dropWhile isSlash)
  if scheme == "http".toList then some authority
  else if (scheme == "https".toList || scheme.isEmpty) && isRooted rest then some authority
  else none

/-- The part of an authority before its port, `inside` telling whether a bracket is open. -/
def upToPort : Bool → List Char → List Char
  | _, [] => []
  | inside, c :: cs =>
    if c == ':' && !inside then [] else c :: upToPort (c == '[' || (inside && c != ']')) cs

/-- Whether a text is empty or a number of a port. -/
def isPort (cs : List Char) : Bool := cs.all Char.isDigit && Text.digitsValue cs ≤ 65535

/-- **The host that an address leads to** in a browser whose host parser is `hostOf`, if it names
one. -/
def host? (hostOf : List Char → Option String) (address : String) : Option String :=
  (authority? (trim address.toList)).bind fun authority =>
    let place := afterUser authority
    let host := upToPort false place
    if host.isEmpty || !isPort ((place.drop host.length).drop 1) then none else hostOf host

/-- Whether a host is a plain name: letters, digits, hyphens and points, and a letter after the last
point. -/
def isPlainName (host : List Char) : Bool :=
  (host.all fun c => c.isAlphanum || c == '-' || c == '.') &&
    (host.reverse.takeWhile (· != '.')).getLast?.any Char.isAlpha

/-- **A host parser is faithful to plain names**: such a name stands for itself in small letters, or
for nothing. -/
def IsFaithful (hostOf : List Char → Option String) : Prop :=
  ∀ name, isPlainName name = true →
    hostOf name = none ∨ hostOf name = some (String.ofList (name.map Char.toLower))

end Browser

/-! ### Schemes -/

theorem splitAt?_append {c : Char} {xs : List Char} (h : c ∉ xs) (ys : List Char) :
    Text.splitAt? [c] (xs ++ c :: ys) = some (xs, ys) := by
  induction xs with
  | nil => simp [Text.splitAt?, List.isPrefixOf?]
  | cons x xs ih =>
    obtain ⟨hx, hxs⟩ := not_or.mp (mt List.mem_cons.mpr h)
    have hpre : [c].isPrefixOf? (x :: (xs ++ c :: ys)) = none := by
      rw [List.isPrefixOf?, beq_false_of_ne hx, if_neg Bool.false_ne_true]
    rw [List.cons_append, Text.splitAt?, hpre]
    show Option.map _ (Text.splitAt? [c] _) = _
    rw [ih hxs]
    rfl

theorem splitAt?_eq_none {c : Char} {cs : List Char} (h : c ∉ cs) :
    Text.splitAt? [c] cs = none := by
  induction cs with
  | nil => rfl
  | cons x cs ih =>
    obtain ⟨hx, hcs⟩ := not_or.mp (mt List.mem_cons.mpr h)
    have hpre : [c].isPrefixOf? (x :: cs) = none := by
      rw [List.isPrefixOf?, beq_false_of_ne hx, if_neg Bool.false_ne_true]
    rw [Text.splitAt?, hpre]
    show Option.map _ (Text.splitAt? [c] cs) = _
    rw [ih hcs]
    rfl

/-- What follows an address changes nothing about its scheme, if there is no colon in it. -/
theorem splitScheme_append (cs : List Char) {tail : List Char} (h : ':' ∉ tail) :
    splitScheme (cs ++ tail) = ((splitScheme cs).1, (splitScheme cs).2 ++ tail) := by
  unfold splitScheme splitColon?
  by_cases hmem : ':' ∈ cs
  · obtain ⟨scheme, rest, rfl, hscheme⟩ := List.eq_append_cons_of_mem hmem
    rw [List.append_assoc, List.cons_append, splitAt?_append hscheme, splitAt?_append hscheme]
    cases scheme with
    | nil => simp
    | cons c scheme =>
      dsimp only
      split
      · rfl
      · simp
  · have happend : ':' ∉ cs ++ tail := mt List.mem_append.mp (not_or.mpr ⟨hmem, h⟩)
    rw [splitAt?_eq_none happend, splitAt?_eq_none hmem]

/-! ### What is ignored at the end of an address -/

/-- An address is what a browser reads of it, and controls and spaces. -/
theorem exists_dropIgnored_eq (cs : List Char) :
    ∃ tail, (∀ c ∈ tail, isControlOrSpace c = true) ∧ dropIgnored cs = Browser.trim cs ++ tail := by
  obtain ⟨tail, htail, hcut⟩ := Text.exists_eq_dropRightWhile_append isControlOrSpace cs
  -- Both cut off what is ignored at the start. A browser does so at the end as well, where the
  -- policy drops only some characters.
  obtain ⟨tail', hsub, hdrop⟩ : ∃ tail', (∀ c ∈ tail', c ∈ tail) ∧
      cs.dropWhile isControlOrSpace =
        (Text.dropRightWhile isControlOrSpace cs).dropWhile isControlOrSpace ++ tail' := by
    have happend :
        (Text.dropRightWhile isControlOrSpace cs ++ tail).dropWhile isControlOrSpace = _ :=
      List.dropWhile_append
    rw [← hcut] at happend
    split at happend
    · next hempty =>
      exact ⟨_, fun c hc => (List.dropWhile_sublist _).mem hc,
        by rw [happend, List.isEmpty_iff.mp hempty, List.nil_append]⟩
    · exact ⟨tail, fun _ hc => hc, happend⟩
  refine ⟨tail'.filter fun c => c != '\t' && c != '\r' && c != '\n', fun c hc => ?_, ?_⟩
  · exact htail c (hsub c (List.mem_filter.mp hc).1)
  · unfold Browser.trim dropIgnored
    rw [hdrop, List.filter_append]

theorem notMem_of_isControlOrSpace {tail : List Char} {c : Char} (hc : isControlOrSpace c = false)
    (h : ∀ c ∈ tail, isControlOrSpace c = true) : c ∉ tail := by
  intro hmem
  rw [h c hmem] at hc
  cases hc

/-- An address with a host has a scheme of the web, and an authority after it. -/
theorem exists_of_hostRead?_eq_some {address host : String}
    (h : LinkPolicy.hostRead? address = some host) :
    ∃ scheme rest, splitScheme (dropIgnored address.toList) = (scheme, '/' :: '/' :: rest) ∧
      (scheme = "http".toList ∨ scheme = "https".toList) := by
  unfold LinkPolicy.hostRead? Url.parse at h
  cases hsplit : splitScheme (dropIgnored address.toList) with
  | mk scheme rest =>
    rw [hsplit] at h
    dsimp only at h
    cases hcheck : checkAuthority (authorityOf rest) with
    | error e =>
      rw [hcheck] at h
      cases h
    | ok u =>
      rw [hcheck] at h
      simp only [Except.map] at h
      split at h
      · next hscheme =>
        -- No authority, no host: so there is one, and it stands after two slashes.
        have hrest : authorityOf rest ≠ [] := by
          intro hnil
          rw [hnil] at h
          cases h
        unfold authorityOf at hrest
        split at hrest
        · next more =>
          refine ⟨scheme, more, rfl, ?_⟩
          rw [Bool.or_eq_true, beq_iff_eq, beq_iff_eq] at hscheme
          refine hscheme.imp (fun heq => ?_) fun heq => ?_ <;>
            rw [← heq, String.toList_ofList]
        · exact absurd rfl hrest
      · cases h

/-- **Where a browser finds no authority, the policy reads no host.** -/
theorem hostRead?_eq_none {address : String}
    (h : Browser.authority? (Browser.trim address.toList) = none) :
    LinkPolicy.hostRead? address = none := by
  rw [Option.eq_none_iff_forall_ne_some]
  intro host hread
  obtain ⟨scheme, more, hsplit, hscheme⟩ := exists_of_hostRead?_eq_some hread
  obtain ⟨tail, htail, hcut⟩ := exists_dropIgnored_eq address.toList
  rw [hcut, splitScheme_append _ (notMem_of_isControlOrSpace (by decide) htail)] at hsplit
  obtain ⟨hfst, hsnd⟩ := Prod.mk.inj hsplit
  -- Both slashes stand in what the browser reads, as there are none at the end that it drops.
  have hrooted : Browser.isRooted (splitScheme (Browser.trim address.toList)).2 = true := by
    have hslash : '/' ∉ tail := notMem_of_isControlOrSpace (by decide) htail
    generalize (splitScheme (Browser.trim address.toList)).2 = rest at hsnd
    have hcases : rest ++ tail = ['/', '/'] ++ more := hsnd
    rcases List.append_eq_append_iff.mp hcases with ⟨missing, hslashes, htl⟩ | ⟨after, rfl, -⟩
    · cases missing with
      | nil =>
        rw [List.append_nil] at hslashes
        rw [← hslashes]
        decide
      | cons c missing =>
        have hc : c ∈ ['/', '/'] := hslashes ▸ List.mem_append_right rest List.mem_cons_self
        have hmem : c ∈ tail := htl ▸ List.mem_cons_self
        obtain rfl : c = '/' := by simpa using hc
        exact absurd hmem hslash
    · simp [Browser.isRooted, Browser.isSlash]
  unfold Browser.authority? at h
  dsimp only at h
  rw [hfst, hrooted] at h
  rcases hscheme with rfl | rfl <;> cases h

/-! ### Addresses that are written out -/

/-- Whether a character may stand before the at sign of an authority. -/
def isUserChar (c : Char) : Bool :=
  !(['/', '\\', '?', '#', '[', ']'].contains c || lookalikes.contains c.toNat)

/-- The port of an authority, behind its colon. -/
def IsPortPart (port : List Char) : Prop :=
  port = [] ∨ ∃ digits, port = ':' :: digits ∧ Browser.isPort digits = true

/-- An authority names a host by a plain name, with a user before it and a port after it if need
be. -/
inductive IsAuthority (host : List Char) : List Char → Prop
  | mk {user port : List Char}
      (huser : user = [] ∨ ∃ name, user = name ++ ['@'] ∧ name.all isUserChar = true)
      (hhost : Browser.isPlainName host = true) (hport : IsPortPart port) :
      IsAuthority host (user ++ (host ++ port))

/-- **An address is written out for a host**: it names a scheme of the web and, after two slashes,
the host. -/
inductive IsWrittenOut (host : List Char) : List Char → Prop
  | mk {scheme authority rest : List Char}
      (hscheme : scheme.map Char.toLower ∈ ["http".toList, "https".toList])
      (hauthority : IsAuthority host authority)
      (hrest : rest = [] ∨ ∃ c cs, rest = c :: cs ∧ c ∈ ['/', '?', '#']) :
      IsWrittenOut host (scheme ++ ':' :: '/' :: '/' :: authority ++ rest)

/-- The characters of a plain name and of a port have no meaning in an authority. -/
theorem isUserChar_of_isAlphanum {c : Char}
    (h : c.isAlphanum = true ∨ c = '-' ∨ c = '.' ∨ c = ':') :
    isUserChar c = true ∧ isControlOrSpace c = false ∧ c.toNat < 0x80 ∧ c ∉ ['@', '%'] := by
  rcases h with h | rfl | rfl | rfl
  · have hnat := Text.toNat_of_isAlphanum h
    have hne : ∀ d : Char, d.toNat ∈ [0x23, 0x25, 0x2F, 0x3F, 0x40, 0x5B, 0x5C, 0x5D] → c ≠ d := by
      rintro d hd rfl
      simp only [List.mem_cons, List.not_mem_nil, or_false] at hd
      omega
    -- All lookalikes lie beyond the range of plain names.
    have hlook : lookalikes.contains c.toNat = false := by
      have hall : ∀ n ∈ lookalikes, 0x80 ≤ n := by decide
      rw [Bool.eq_false_iff, ne_eq, List.contains_iff_mem]
      intro hmem
      have := hall _ hmem
      omega
    refine ⟨?_, ?_, by omega, ?_⟩
    · unfold isUserChar
      rw [hlook, Bool.or_false, Bool.not_eq_true', Bool.eq_false_iff, ne_eq, List.contains_iff_mem]
      simp only [List.mem_cons, List.not_mem_nil, or_false, not_or]
      refine ⟨?_, ?_, ?_, ?_, ?_, ?_⟩ <;> exact hne _ (by decide)
    · unfold isControlOrSpace
      rw [decide_eq_false_iff_not]
      omega
    · simp only [List.mem_cons, List.not_mem_nil, or_false, not_or]
      exact ⟨hne _ (by decide), hne _ (by decide)⟩
  all_goals decide

section Authority

variable {host port user rest : List Char}

theorem forall_mem_of_isPlainName (h : Browser.isPlainName host = true) {c : Char} (hc : c ∈ host) :
    c.isAlphanum = true ∨ c = '-' ∨ c = '.' := by
  unfold Browser.isPlainName at h
  have hchar := List.all_eq_true.mp (Bool.and_eq_true_iff.mp h).1 c hc
  rwa [Bool.or_eq_true, Bool.or_eq_true, beq_iff_eq, beq_iff_eq, or_assoc] at hchar

theorem ne_nil_of_isPlainName (h : Browser.isPlainName host = true) : host ≠ [] := by
  rintro rfl
  cases h

/-- The characters of a host with its port. -/
theorem forall_mem_place (hhost : Browser.isPlainName host = true) (hport : IsPortPart port)
    {c : Char} (hc : c ∈ host ++ port) : c.isAlphanum = true ∨ c = '-' ∨ c = '.' ∨ c = ':' := by
  rcases List.mem_append.mp hc with hc | hc
  · exact (forall_mem_of_isPlainName hhost hc).imp id (Or.imp id .inl)
  · rcases hport with rfl | ⟨digits, rfl, hdigits⟩
    · cases hc
    · unfold Browser.isPort at hdigits
      rcases List.mem_cons.mp hc with rfl | hc
      · exact .inr (.inr (.inr rfl))
      · have hdigit := List.all_eq_true.mp (Bool.and_eq_true_iff.mp hdigits).1 c hc
        exact .inl (by unfold Char.isAlphanum; rw [hdigit, Bool.or_true])

theorem afterUser_append (h : '@' ∉ host) (name : List Char) :
    afterUser (name ++ '@' :: host) = host := by
  unfold afterUser
  rw [List.reverse_append, List.reverse_cons, List.append_assoc, List.singleton_append,
    takeWhile_append_stop (by simp), List.takeWhile_eq_self_iff.mpr, List.reverse_reverse]
  intro c hc
  rw [List.mem_reverse] at hc
  rw [bne_iff_ne]
  rintro rfl
  exact h hc

theorem afterUser_eq_self (h : '@' ∉ host) : afterUser host = host := by
  unfold afterUser
  rw [List.takeWhile_eq_self_iff.mpr, List.reverse_reverse]
  intro c hc
  rw [List.mem_reverse] at hc
  rw [bne_iff_ne]
  rintro rfl
  exact h hc

/-- A text is taken up to the characters that end it. -/
theorem takeWhile_append_of_ends {p : Char → Bool} {xs ys : List Char} (hxs : ∀ c ∈ xs, p c = true)
    (hys : ys = [] ∨ ∃ c cs, ys = c :: cs ∧ p c = false) : (xs ++ ys).takeWhile p = xs := by
  rcases hys with rfl | ⟨c, cs, rfl, hc⟩
  · rw [List.append_nil, List.takeWhile_eq_self_iff.mpr hxs]
  · rw [takeWhile_append_stop hc, List.takeWhile_eq_self_iff.mpr hxs]

theorem upToPort_append (h : ∀ c ∈ host, c ∉ [':', '[', ']'])
    (hport : port = [] ∨ ∃ cs, port = ':' :: cs) :
    Browser.upToPort false (host ++ port) = host := by
  induction host with
  | nil => rcases hport with rfl | ⟨cs, rfl⟩ <;> rfl
  | cons c host ih =>
    have hc := h c List.mem_cons_self
    simp only [List.mem_cons, List.not_mem_nil, or_false, not_or] at hc
    rw [List.cons_append, Browser.upToPort, beq_false_of_ne hc.1, beq_false_of_ne hc.2.1]
    exact congrArg (c :: ·) (ih fun d hd => h d (List.mem_cons_of_mem c hd))

end Authority

theorem isAlpha_of_isAlpha_toLower {c : Char} (h : c.toLower.isAlpha = true) :
    c.isAlpha = true := by
  by_cases hupper : c.isUpper = true
  · show (c.isUpper || c.isLower) = true
    rw [hupper, Bool.true_or]
  · have hsame : c.toLower = c := by
      unfold Char.toLower
      refine dif_neg fun hrange => hupper ?_
      exact decide_eq_true hrange
    rwa [hsame] at h

/-- A scheme of the web is cut off, whatever the case of its letters. -/
theorem splitScheme_written {scheme : List Char}
    (h : scheme.map Char.toLower ∈ ["http".toList, "https".toList]) (rest : List Char) :
    splitScheme (scheme ++ ':' :: rest) = (scheme.map Char.toLower, rest) := by
  have halpha : ∀ c ∈ scheme, c.isAlpha = true := by
    have hletters : ∀ word ∈ ["http".toList, "https".toList], ∀ c ∈ word, c.isAlpha = true := by
      simp
    exact fun c hc => isAlpha_of_isAlpha_toLower (hletters _ h _ (List.mem_map_of_mem hc))
  -- The first colon is the one behind the scheme.
  have hcolon : ':' ∉ scheme := fun hmem => absurd (halpha _ hmem) (by decide)
  have hchars : scheme.all isSchemeChar = true := by
    rw [List.all_eq_true]
    intro c hc
    unfold isSchemeChar Char.isAlphanum
    rw [halpha c hc, Bool.true_or, Bool.true_or, Bool.true_or, Bool.true_or]
  cases scheme with
  | nil => exact absurd h (by decide)
  | cons c scheme =>
    have hhead : (List.headD (c :: scheme) ' ').isAlpha = true := halpha c List.mem_cons_self
    unfold splitScheme splitColon?
    rw [splitAt?_append hcolon]
    dsimp only
    rw [hhead, hchars, Bool.and_self, if_pos rfl]

namespace IsAuthority

variable {host authority : List Char}

/-- No character of an authority ends it or has a meaning in it beyond its parts. -/
theorem forall_mem (h : IsAuthority host authority) {c : Char} (hc : c ∈ authority) :
    isUserChar c = true := by
  obtain ⟨huser, hhost, hport⟩ := h
  rcases List.mem_append.mp hc with hc | hc
  · rcases huser with rfl | ⟨name, rfl, hname⟩
    · cases hc
    · rcases List.mem_append.mp hc with hc | hc
      · exact List.all_eq_true.mp hname c hc
      · rw [List.mem_singleton.mp hc]
        decide
  · exact (isUserChar_of_isAlphanum (forall_mem_place hhost hport hc)).1

/-- The host and the port stand after the user. -/
theorem exists_afterUser_eq (h : IsAuthority host authority) :
    ∃ port, afterUser authority = host ++ port ∧ IsPortPart port := by
  obtain ⟨huser, hhost, hport⟩ := h
  next user port =>
  refine ⟨port, ?_, hport⟩
  have hat : '@' ∉ host ++ port := fun hmem =>
    (isUserChar_of_isAlphanum (forall_mem_place hhost hport hmem)).2.2.2 List.mem_cons_self
  rcases huser with rfl | ⟨name, rfl, -⟩
  · exact afterUser_eq_self hat
  · rw [List.append_assoc]
    exact afterUser_append hat name

theorem plain (h : IsAuthority host authority) : Browser.isPlainName host = true := by
  cases h
  assumption

theorem notMem (h : IsAuthority host authority) {c : Char} (hc : isUserChar c = false) :
    c ∉ authority := by
  intro hmem
  rw [h.forall_mem hmem] at hc
  cases hc

theorem checkAuthority_eq (h : IsAuthority host authority) : checkAuthority authority = .ok () := by
  have hopen : authority.contains '[' = false := by simpa using h.notMem (c := '[') (by decide)
  have hclose : authority.contains ']' = false := by simpa using h.notMem (c := ']') (by decide)
  have hlook : hasLookalike authority = false := by
    unfold hasLookalike
    rw [List.any_eq_false]
    intro c hc
    have huser := h.forall_mem hc
    unfold isUserChar at huser
    rw [Bool.not_eq_true', Bool.or_eq_false_iff] at huser
    rw [huser.2]
    exact Bool.false_ne_true
  unfold checkAuthority hasLoneBracket
  rw [hopen, hclose, hlook]
  rfl

end IsAuthority

/-- The host of an authority in small letters, as the policy reads it. -/
theorem IsAuthority.hostname?_eq {host authority : List Char} (h : IsAuthority host authority)
    (scheme : String) : Url.hostname? ⟨scheme, String.ofList authority⟩ =
      some (String.ofList (host.map Char.toLower)) := by
  have hplain := h.plain
  have hne := ne_nil_of_isPlainName hplain
  obtain ⟨port, hplace, hport⟩ := h.exists_afterUser_eq
  have hchar : ∀ c ∈ host ++ port, isUserChar c = true ∧ isControlOrSpace c = false ∧
      c.toNat < 0x80 ∧ c ∉ ['@', '%'] :=
    fun c hc => isUserChar_of_isAlphanum (forall_mem_place hplain hport hc)
  -- There are no brackets and no zone, so that the host ends at the first colon.
  have hbracket : (host ++ port).contains '[' = false := by
    rw [Bool.eq_false_iff, ne_eq, List.contains_iff_mem]
    exact fun hmem => absurd (hchar _ hmem).1 (by decide)
  have hcolon : (host ++ port).takeWhile (· != ':') = host := by
    refine takeWhile_append_of_ends (fun c hc => ?_) ?_
    · rw [bne_iff_ne]
      rintro rfl
      exact absurd (forall_mem_of_isPlainName hplain hc) (by decide)
    · exact hport.imp id fun ⟨digits, hdigits, _⟩ => ⟨':', digits, hdigits, rfl⟩
  have hpercent : host.takeWhile (· != '%') = host := by
    refine List.takeWhile_eq_self_iff.mpr fun c hc => ?_
    rw [bne_iff_ne]
    rintro rfl
    exact (hchar _ (List.mem_append_left port hc)).2.2.2 (by decide)
  have hlower : Text.lowerList host = host.map Char.toLower :=
    Text.lowerFrom_eq_map (fun c hc => (hchar c (List.mem_append_left port hc)).2.2.1) []
  unfold Url.hostname?
  dsimp only
  rw [String.toList_ofList, hplace, hbracket, if_neg Bool.false_ne_true, hcolon,
    if_neg (by simpa using hne), hpercent, hlower, List.drop_length, List.append_nil]

theorem IsWrittenOut.plain {host cs : List Char} (h : IsWrittenOut host cs) :
    Browser.isPlainName host = true := by
  cases h with
  | mk hscheme hauthority hrest => exact hauthority.plain

/-- **A host that is written out is read by the policy.** -/
theorem hostRead?_of_isWrittenOut {address : String} {host : List Char}
    (h : IsWrittenOut host (dropIgnored address.toList)) :
    LinkPolicy.hostRead? address = some (String.ofList (host.map Char.toLower)) := by
  unfold LinkPolicy.hostRead? Url.parse
  generalize dropIgnored address.toList = cs at h
  obtain ⟨hscheme, hauthority, hrest⟩ := h
  next scheme authority rest =>
  -- The authority ends where a path, a query or a fragment begins.
  have hread : authorityOf ('/' :: '/' :: (authority ++ rest)) = authority := by
    refine takeWhile_append_of_ends (fun c hc => ?_) ?_
    · have hmarks : ∀ d ∈ ['/', '?', '#'], isUserChar d = false := by simp [isUserChar]
      have hne : ∀ d ∈ ['/', '?', '#'], c ≠ d := by
        rintro d hd rfl
        exact hauthority.notMem (hmarks c hd) hc
      simp only [Bool.and_eq_true, bne_iff_ne]
      exact ⟨⟨hne _ (by decide), hne _ (by decide)⟩, hne _ (by decide)⟩
    · rcases hrest with rfl | ⟨c, cs, rfl, hc⟩
      · exact .inl rfl
      · have hstop : ∀ d ∈ ['/', '?', '#'], (d != '/' && d != '?' && d != '#') = false := by simp
        exact .inr ⟨c, cs, rfl, hstop c hc⟩
  have hweb : (String.ofList (scheme.map Char.toLower) == "http" ||
      String.ofList (scheme.map Char.toLower) == "https") = true := by
    rcases List.mem_pair.mp hscheme with heq | heq <;> rw [heq] <;> rfl
  rw [List.append_assoc, List.cons_append, splitScheme_written hscheme]
  dsimp only
  rw [List.cons_append, List.cons_append, hread, hauthority.checkAuthority_eq]
  show (if _ then Url.hostname? ⟨_, _⟩ else none) = _
  rw [if_pos hweb, hauthority.hostname?_eq]

/-- An authority does not end with a control or a space. -/
theorem IsAuthority.exists_getLast?_eq {host authority : List Char}
    (h : IsAuthority host authority) :
    ∃ c, authority.getLast? = some c ∧ isControlOrSpace c = false := by
  obtain ⟨huser, hhost, hport⟩ := h
  next user port =>
  have hne : host ++ port ≠ [] := fun hnil =>
    ne_nil_of_isPlainName hhost (List.append_eq_nil_iff.mp hnil).1
  refine ⟨(host ++ port).getLast hne, ?_, ?_⟩
  · rw [List.getLast?_append, List.getLast?_eq_some_getLast hne, Option.some_or]
  · exact (isUserChar_of_isAlphanum
      (forall_mem_place hhost hport (List.getLast_mem hne))).2.1

/-- What a browser ignores at the end is no part of what is written out. -/
theorem IsWrittenOut.of_append {host cs tail : List Char} (h : IsWrittenOut host (cs ++ tail))
    (htail : ∀ c ∈ tail, isControlOrSpace c = true) : IsWrittenOut host cs := by
  generalize happend : cs ++ tail = whole at h
  obtain ⟨hscheme, hauthority, hrest⟩ := h
  next scheme authority rest =>
  rcases List.append_eq_append_iff.mp happend.symm with ⟨more, rfl, rfl⟩ | ⟨more, hpre, rfl⟩
  · refine .mk hscheme hauthority ?_
    cases more with
    | nil => exact .inl rfl
    | cons c more =>
      obtain ⟨d, ds, heq, hd⟩ := hrest.resolve_left (List.cons_ne_nil _ _)
      obtain ⟨rfl, -⟩ := List.cons.inj heq
      exact .inr ⟨c, more, rfl, hd⟩
  -- The authority would end in a character that is ignored, but it ends in one of its host or port.
  · have hmore : more = [] := by
      by_contra hne
      obtain ⟨c, hlast, hc⟩ := hauthority.exists_getLast?_eq
      have hmem : more.getLast? = some c := by
        have hboth := congrArg List.getLast? hpre
        rwa [List.getLast?_append_of_ne_nil _ hne, List.getLast?_append, List.getLast?_cons_cons,
          List.getLast?_cons_cons, List.getLast?_cons, hlast, Option.getD_some, Option.some_or,
          eq_comm] at hboth
      rw [htail c (List.mem_append_left rest (List.mem_of_getLast? hmem))] at hc
      cases hc
    subst hmore
    rw [List.append_nil] at hpre
    have hwritten : IsWrittenOut host (scheme ++ ':' :: '/' :: '/' :: authority ++ []) :=
      .mk hscheme hauthority (.inl rfl)
    rwa [List.append_nil, hpre] at hwritten

/-- The authority that is written out is the one that a browser finds. -/
theorem Browser.authority?_written {scheme authority rest host : List Char}
    (hscheme : scheme.map Char.toLower ∈ ["http".toList, "https".toList])
    (hauthority : IsAuthority host authority)
    (hrest : rest = [] ∨ ∃ c cs, rest = c :: cs ∧ c ∈ ['/', '?', '#']) :
    Browser.authority? (scheme ++ ':' :: '/' :: '/' :: authority ++ rest) = some authority := by
  have hne : ∀ c ∈ authority, ∀ d ∈ ['/', '\\', '?', '#'], (c == d) = false := by
    have hall : ∀ d ∈ ['/', '\\', '?', '#'], isUserChar d = false := by simp [isUserChar]
    intro c hc d hd
    refine beq_false_of_ne ?_
    rintro rfl
    exact hauthority.notMem (hall c hd) hc
  have hslash : ∀ c ∈ authority, Browser.isSlash c = false := fun c hc => by
    unfold Browser.isSlash
    rw [hne c hc _ (by decide), hne c hc _ (by decide), Bool.or_self]
  have hread : Browser.upToPath (authority ++ rest) = authority := by
    refine takeWhile_append_of_ends (fun c hc => ?_) ?_
    · rw [hslash c hc, hne c hc _ (by decide), hne c hc _ (by decide)]
      rfl
    · rcases hrest with rfl | ⟨c, cs, rfl, hc⟩
      · exact .inl rfl
      · have hstop : ∀ d ∈ ['/', '?', '#'],
            (!(Browser.isSlash d || d == '?' || d == '#')) = false := by simp [Browser.isSlash]
        exact .inr ⟨c, cs, rfl, hstop c hc⟩
  -- Only the two slashes are dropped, since the authority begins with none.
  have hdrop :
      ('/' :: '/' :: (authority ++ rest)).dropWhile Browser.isSlash = authority ++ rest := by
    obtain ⟨c, hlast, -⟩ := hauthority.exists_getLast?_eq
    cases authority with
    | nil => cases hlast
    | cons d authority =>
      rw [List.cons_append, List.dropWhile_cons_of_pos (by decide),
        List.dropWhile_cons_of_pos (by decide),
        List.dropWhile_cons_of_neg (by rw [hslash d List.mem_cons_self]; decide)]
  have hrooted : Browser.isRooted ('/' :: '/' :: (authority ++ rest)) = true := by
    simp [Browser.isRooted, Browser.isSlash]
  unfold Browser.authority?
  rw [List.append_assoc, List.cons_append, splitScheme_written hscheme, List.cons_append,
    List.cons_append]
  dsimp only
  rw [hdrop, hread, hrooted]
  rcases List.mem_pair.mp hscheme with heq | heq <;> rw [heq] <;> rfl

/-- **A host that is written out is read by a browser.** -/
theorem Browser.host?_of_isWrittenOut {hostOf : List Char → Option String} {address : String}
    {host : List Char} (h : IsWrittenOut host (dropIgnored address.toList)) :
    Browser.host? hostOf address = hostOf host := by
  obtain ⟨tail, htail, hcut⟩ := exists_dropIgnored_eq address.toList
  rw [hcut] at h
  have hwritten := h.of_append htail
  unfold Browser.host?
  generalize Browser.trim address.toList = cs at hwritten
  obtain ⟨hscheme, hauthority, hrest⟩ := hwritten
  next scheme authority rest =>
  have hplain := hauthority.plain
  obtain ⟨port, hplace, hport⟩ := hauthority.exists_afterUser_eq
  -- The host has no colon, so that it ends where the port begins.
  have hhost : Browser.upToPort false (host ++ port) = host := by
    refine upToPort_append (fun c hc hmem => ?_) (hport.imp id fun ⟨cs, hcs, _⟩ => ⟨cs, hcs⟩)
    have hmarks : ∀ d ∈ [':', '[', ']'], ¬ (d.isAlphanum = true ∨ d = '-' ∨ d = '.') := by simp
    exact hmarks c hmem (forall_mem_of_isPlainName hplain hc)
  have hnumber : Browser.isPort (port.drop 1) = true := by
    rcases hport with rfl | ⟨digits, rfl, hdigits⟩
    · rfl
    · exact hdigits
  have hempty : host.isEmpty = false := by simpa using ne_nil_of_isPlainName hplain
  rw [Browser.authority?_written hscheme hauthority hrest, Option.bind_some]
  dsimp only
  rw [hplace, hhost, List.drop_left, hnumber, hempty]
  rfl

end StaticSite.Link
