import Mathlib.Data.List.Forall2
import StaticSite.Link.Outgoing
import StaticSite.Proofs.Html.Elements
import StaticSite.Proofs.Html.Sanitized
import StaticSite.Proofs.Link.Browser
import StaticSite.Proofs.Link.HostCache

/-!
# Links to sisters in a portfolio

The hosts of a portfolio, but for the own one, are sisters (`IsSister`). A link to one of them
becomes a span. `LinkPolicy.TreatedHead` says what becomes of the elements of a body one by one;
the body keeps its shape (`Html.AllRelated`), and a span has the contents of the link.

A link remains exactly if the policy does not read a sister in its address
(`hrefsOf_of_allRelated`). A browser may read one where the policy does not
(`slashed_sister_link_remains`): the address then lacks a scheme, or its slashes. No link to a
sister remains if every address is written out or leads to the page's own host
(`sister_links_remain_iff_misread`).
-/

namespace StaticSite

open Html (Attribute Node headsOf)

/-! ### Bodies of one shape -/

namespace Html

mutual

/-- **A node has the shape of another**: its text is the same, or its elements are related one by
one. -/
inductive Node.Related (R : String × List Attribute → String × List Attribute → Prop) :
    Node → Node → Prop
  | text (data : String) : Node.Related R (.text data) (.text data)
  | element {name name' : String} {attributes attributes' : List Attribute}
      {children children' : List Node} (hhead : R (name, attributes) (name', attributes'))
      (hchildren : AllRelated R children children') :
      Node.Related R (.element name attributes children) (.element name' attributes' children')

/-- Nodes have the shapes of others, one by one. -/
inductive AllRelated (R : String × List Attribute → String × List Attribute → Prop) :
    List Node → List Node → Prop
  | nil : AllRelated R [] []
  | cons {n m : Node} {ns ms : List Node} (hnode : Node.Related R n m)
      (hnodes : AllRelated R ns ms) :
      AllRelated R (n :: ns) (m :: ms)

end

variable {R : String × List Attribute → String × List Attribute → Prop}

mutual

/-- A node has its own shape. -/
theorem Node.related_self (n : Node) (h : ∀ head ∈ n.heads, R head head) : Node.Related R n n :=
  match n with
  | .text data => .text data
  | .element name attributes children => by
    rw [Node.heads, List.forall_mem_cons] at h
    exact .element h.1 (allRelated_self children h.2)

theorem allRelated_self (ns : List Node) (h : ∀ head ∈ headsOf ns, R head head) :
    AllRelated R ns ns :=
  match ns with
  | [] => .nil
  | n :: ns => by
    rw [headsOf, List.forall_mem_append] at h
    exact .cons (n.related_self h.1) (allRelated_self ns h.2)

end

mutual

theorem Node.Related.forall₂_heads {n m : Node} (h : Node.Related R n m) :
    List.Forall₂ R n.heads m.heads :=
  match h with
  | .text data => .nil
  | .element hhead hchildren => .cons hhead hchildren.forall₂_headsOf

theorem AllRelated.forall₂_headsOf {ns ms : List Node} (h : AllRelated R ns ms) :
    List.Forall₂ R (headsOf ns) (headsOf ms) :=
  match h with
  | .nil => .nil
  | .cons hnode hnodes => List.rel_append hnode.forall₂_heads hnodes.forall₂_headsOf

end

end Html

namespace Link

open Html (AllRelated)

/-! ### Sisters -/

/-- **A host belongs to a sister**: its normal form is in the portfolio and is not that of the own
domain. A domain that has no name left is no host's own. -/
def IsSister (domain : String) (portfolio : List String) (host : String) : Prop :=
  normalizeHost host ∈ normalizeHosts portfolio ∧
    (normalizeHost host = normalizeHost domain → normalizeHost domain = "")

/-- A host is that of the own domain. -/
def IsOwn (domain host : String) : Prop := domain ≠ "" ∧ normalizeHost host = normalizeHost domain

instance (domain : String) (portfolio : List String) (host : String) :
    Decidable (IsSister domain portfolio host) :=
  inferInstanceAs (Decidable (_ ∧ (_ → _)))

instance (domain host : String) : Decidable (IsOwn domain host) :=
  inferInstanceAs (Decidable (_ ∧ _))

/-- The policy of a domain among the hosts of a portfolio, which are normalized when loaded. -/
def LinkPolicy.ofPortfolio (domain : String) (portfolio : List String) : LinkPolicy :=
  .ofDomain domain (normalizeHosts portfolio)

namespace LinkPolicy

variable {domain : String} {portfolio : List String} {host : String}

theorem own_ofPortfolio : (ofPortfolio domain portfolio).own =
    if domain = "" then none else some (normalizeHost domain) := by
  unfold ofPortfolio ofDomain
  by_cases h : domain = ""
  · rw [if_pos h, h]
    rfl
  · rw [if_neg h]
    exact if_neg (by simpa using h)

/-- **The policy blocks the sisters.** -/
theorem contains_blocked_iff :
    (ofPortfolio domain portfolio).blocked.contains (normalizeHost host) = true ↔
      IsSister domain portfolio host := by
  have hblocked : (ofPortfolio domain portfolio).blocked = (normalizeHosts portfolio).filter
      fun h => h.isEmpty || (ofPortfolio domain portfolio).own != some h := rfl
  rw [List.contains_iff_mem, hblocked, List.mem_filter, own_ofPortfolio, Bool.or_eq_true,
    String.isEmpty_iff, bne_iff_ne]
  refine and_congr_right fun _ => ?_
  -- Without a domain of its own, a site blocks all hosts of the portfolio.
  by_cases h : domain = ""
  · subst h
    have hempty : normalizeHost "" = "" := by decide
    rw [if_pos rfl, hempty]
    simp
  · rw [if_neg h, ne_eq, Option.some.injEq]
    constructor
    · rintro (hnil | hne) heq
      · rw [← heq, hnil]
      · exact absurd heq.symm hne
    · intro himp
      by_cases heq : normalizeHost host = normalizeHost domain
      · exact .inl (heq.trans (himp heq))
      · exact .inr (Ne.symm heq)

theorem own_beq_iff : ((ofPortfolio domain portfolio).own == some (normalizeHost host)) = true ↔
    IsOwn domain host := by
  rw [own_ofPortfolio, beq_iff_eq]
  unfold IsOwn
  by_cases h : domain = ""
  · simp [h]
  · rw [if_neg h, Option.some.injEq, eq_comm]
    simp [h]

end LinkPolicy

/-! ### What becomes of links -/

/-- The address of an element, if it is a link. -/
def href? (head : String × List Attribute) : Option String :=
  if head.1 == "a" then head.2.lookup "href" else none

/-- The addresses of the links in a body, in order. -/
def hrefsOf (nodes : List Node) : List String := (headsOf nodes).filterMap href?

/-- The policy reads a sister in an address. -/
def ReadsSister (domain : String) (portfolio : List String) (address : String) : Prop :=
  ∃ host ∈ LinkPolicy.hostRead? address, IsSister domain portfolio host

instance (domain : String) (portfolio : List String) (address : String) :
    Decidable (ReadsSister domain portfolio address) :=
  inferInstanceAs
    (Decidable (∃ host ∈ LinkPolicy.hostRead? address, IsSister domain portfolio host))

/-- **What becomes of an element**: its name and attributes before and after. -/
inductive TreatedHead (domain : String) (portfolio : List String) :
    String × List Attribute → String × List Attribute → Prop
  | other {head : String × List Attribute} (h : href? head = none) :
      TreatedHead domain portfolio head head
  | relative {head : String × List Attribute} {address : String} (h : href? head = some address)
      (hread : LinkPolicy.hostRead? address = none) : TreatedHead domain portfolio head head
  | own {head : String × List Attribute} {address host : String} (h : href? head = some address)
      (hread : LinkPolicy.hostRead? address = some host)
      (hsister : ¬ IsSister domain portfolio host) (hown : IsOwn domain host) :
      TreatedHead domain portfolio head head
  | outside {head : String × List Attribute} {address host : String} (h : href? head = some address)
      (hread : LinkPolicy.hostRead? address = some host)
      (hsister : ¬ IsSister domain portfolio host) (hown : ¬ IsOwn domain host) :
      TreatedHead domain portfolio head (head.1, LinkPolicy.outsideAttributes head.2)
  | sister {head : String × List Attribute} {address : String} (h : href? head = some address)
      (hsister : ReadsSister domain portfolio address) :
      TreatedHead domain portfolio head ("span", [("class", "portfolio-link-blocked")])

theorem lookup_setAttribute_of_ne {name other value : String} (hne : other ≠ name)
    (attributes : List Attribute) :
    (LinkPolicy.setAttribute name value attributes).lookup other = attributes.lookup other := by
  unfold LinkPolicy.setAttribute
  induction attributes with
  | nil => rw [List.filter_nil, List.nil_append, List.lookup_cons, beq_false_of_ne hne]
  | cons a attributes ih =>
    obtain ⟨n, v⟩ := a
    by_cases hn : n = name
    · rw [List.filter_cons_of_neg (by simp [hn]), ih, List.lookup_cons, beq_false_of_ne (hn ▸ hne)]
    · rw [List.filter_cons_of_pos (by simpa using hn), List.cons_append, List.lookup_cons, ih,
        List.lookup_cons]

/-- A link that leads outside keeps its address. -/
theorem href?_outside (head : String × List Attribute) :
    href? (head.1, LinkPolicy.outsideAttributes head.2) = href? head := by
  unfold href? LinkPolicy.outsideAttributes
  dsimp only
  rw [lookup_setAttribute_of_ne (by decide), lookup_setAttribute_of_ne (by decide)]

theorem readsSister_iff {domain : String} {portfolio : List String} {address host : String}
    (hread : LinkPolicy.hostRead? address = some host) :
    ReadsSister domain portfolio address ↔ IsSister domain portfolio host := by
  unfold ReadsSister
  rw [hread]
  simp

/-- A link remains unless the policy reads a sister in it. -/
theorem TreatedHead.href?_eq {domain : String} {portfolio : List String}
    {head head' : String × List Attribute} (h : TreatedHead domain portfolio head head') :
    href? head' = (href? head).filter fun a => ¬ ReadsSister domain portfolio a := by
  cases h with
  | other h => rw [h, Option.filter_none]
  | @relative address h hread =>
    have hkeep : ¬ ReadsSister domain portfolio address := by
      rintro ⟨host, hhost, -⟩
      rw [hread] at hhost
      cases hhost
    rw [h, Option.filter_some, if_pos (decide_eq_true hkeep)]
  | own h hread hsister hown =>
    rw [h, Option.filter_some, if_pos (decide_eq_true (mt (readsSister_iff hread).mp hsister))]
  | outside h hread hsister hown =>
    rw [href?_outside, h, Option.filter_some,
      if_pos (decide_eq_true (mt (readsSister_iff hread).mp hsister))]
  | sister h hsister =>
    rw [h, Option.filter_some, if_neg (by simpa using hsister)]
    rfl

/-- **The links that remain** are those in which the policy reads no sister. -/
theorem hrefsOf_of_allRelated {domain : String} {portfolio : List String} {before after : List Node}
    (h : AllRelated (TreatedHead domain portfolio) before after) :
    hrefsOf after = (hrefsOf before).filter fun a => ¬ ReadsSister domain portfolio a := by
  have hheads := h.forall₂_headsOf
  unfold hrefsOf
  generalize headsOf before = heads at hheads
  generalize headsOf after = heads' at hheads
  rw [List.filter_filterMap]
  induction hheads with
  | nil => rfl
  | cons htreated _ ih => rw [List.filterMap_cons, List.filterMap_cons, ih, htreated.href?_eq]

/-! ### The policy at work -/

namespace LinkPolicy

/-- Where an address leads, if it can be read. -/
theorem destination_eq (policy : LinkPolicy) (address : String) : policy.destination address =
    (Url.parse address).map fun _ =>
      match hostRead? address with
      | none => .within
      | some host =>
        if policy.blocked.contains (normalizeHost host) then .blocked
        else if policy.own == some (normalizeHost host) then .within
        else .outside := by
  unfold destination hostRead?
  cases Url.parse address with
  | error e => rfl
  | ok url =>
    have hskip : (url.scheme != "http" && url.scheme != "https") =
        !(url.scheme == "http" || url.scheme == "https") := (Bool.not_or _ _).symm
    simp only [Except.map, bind, Except.bind, pure, Except.pure]
    rw [hskip]
    -- Without a scheme of the web no host is read, and the link stays within the site.
    cases url.scheme == "http" || url.scheme == "https" with
    | false => rfl
    | true =>
      simp only [Bool.not_true, Bool.false_eq_true, if_false, if_true]
      cases url.hostname? with
      | none => rfl
      | some host =>
        dsimp only
        split_ifs <;> rfl

/-- What takes the place of a link that leads somewhere. -/
def replacement (head : String × List Attribute) : Destination → String × List Attribute
  | .within => head
  | .outside => (head.1, outsideAttributes head.2)
  | .blocked => ("span", [("class", "portfolio-link-blocked")])

theorem treat_eq (policy : LinkPolicy) (head : String × List Attribute) :
    policy.treat head.1 head.2 =
      match href? head with
      | none => .ok head
      | some address => (policy.destination address).map (replacement head) := by
  unfold treat href?
  cases if head.1 == "a" then head.2.lookup "href" else none with
  | none => rfl
  | some address =>
    dsimp only
    cases policy.destination address with
    | error e => rfl
    | ok destination => cases destination <;> rfl

/-- The policy treats an element so, or fails at an address that cannot be read. -/
theorem treatedHead_of_treat {domain : String} {portfolio : List String}
    {head head' : String × List Attribute}
    (h : (ofPortfolio domain portfolio).treat head.1 head.2 = .ok head') :
    TreatedHead domain portfolio head head' := by
  rw [treat_eq] at h
  cases hhref : href? head with
  | none =>
    rw [hhref] at h
    cases h
    exact .other hhref
  | some address =>
    rw [hhref] at h
    simp only [destination_eq] at h
    cases hparse : Url.parse address with
    | error e =>
      rw [hparse] at h
      cases h
    | ok url =>
      rw [hparse] at h
      simp only [Except.map] at h
      cases hread : hostRead? address with
      | none =>
        rw [hread] at h
        cases h
        exact .relative hhref hread
      | some host =>
        rw [hread] at h
        simp only [contains_blocked_iff, own_beq_iff] at h
        -- Sisters are asked for first, and the site itself after them.
        by_cases hsister : IsSister domain portfolio host
        · rw [if_pos hsister] at h
          cases h
          exact .sister hhref ((readsSister_iff hread).mpr hsister)
        · rw [if_neg hsister] at h
          by_cases hown : IsOwn domain host
          · rw [if_pos hown] at h
            cases h
            exact .own hhref hread hsister hown
          · rw [if_neg hown] at h
            cases h
            exact .outside hhref hread hsister hown

section

variable {policy : LinkPolicy}

theorem exists_of_applyNode_eq_ok {name : String} {attributes : List Attribute}
    {children : List Node} {m : Node}
    (h : policy.applyNode (.element name attributes children) = .ok m) :
    ∃ head children', policy.treat name attributes = .ok head ∧
      policy.applyNodes children = .ok children' ∧ m = .element head.1 head.2 children' := by
  rw [applyNode] at h
  cases htreat : policy.treat name attributes with
  | error e =>
    rw [htreat] at h
    cases h
  | ok head =>
    cases hchildren : policy.applyNodes children with
    | error e =>
      rw [htreat, hchildren] at h
      cases h
    | ok children' =>
      rw [htreat, hchildren] at h
      cases h
      exact ⟨head, children', rfl, rfl, rfl⟩

theorem exists_of_applyNodes_eq_ok {n : Node} {ns ms : List Node}
    (h : policy.applyNodes (n :: ns) = .ok ms) :
    ∃ m ms', policy.applyNode n = .ok m ∧ policy.applyNodes ns = .ok ms' ∧ ms = m :: ms' := by
  rw [applyNodes] at h
  cases hnode : policy.applyNode n with
  | error e =>
    rw [hnode] at h
    cases h
  | ok m =>
    cases hnodes : policy.applyNodes ns with
    | error e =>
      rw [hnode, hnodes] at h
      cases h
    | ok ms' =>
      rw [hnode, hnodes] at h
      cases h
      exact ⟨m, ms', rfl, rfl, rfl⟩

end

variable {domain : String} {portfolio : List String}

mutual

/-- **A node keeps its shape**, and its elements are treated one by one. -/
theorem related_of_applyNode (n : Node) {m : Node}
    (h : (ofPortfolio domain portfolio).applyNode n = .ok m) :
    Node.Related (TreatedHead domain portfolio) n m :=
  match n with
  | .text data => by
    rw [applyNode] at h
    cases h
    exact .text data
  | .element name attributes children => by
    obtain ⟨head, children', htreat, hchildren, rfl⟩ := exists_of_applyNode_eq_ok h
    have hhead : (ofPortfolio domain portfolio).treat (name, attributes).1 (name, attributes).2 =
        .ok head := htreat
    exact .element (treatedHead_of_treat hhead) (allRelated_of_applyNodes children hchildren)

theorem allRelated_of_applyNodes (ns : List Node) {ms : List Node}
    (h : (ofPortfolio domain portfolio).applyNodes ns = .ok ms) :
    AllRelated (TreatedHead domain portfolio) ns ms :=
  match ns with
  | [] => by
    rw [applyNodes] at h
    cases h
    exact .nil
  | n :: ns => by
    obtain ⟨m, ms', hnode, hnodes, rfl⟩ := exists_of_applyNodes_eq_ok h
    exact .cons (related_of_applyNode n hnode) (allRelated_of_applyNodes ns hnodes)

end

/-! Every address that can be read is treated. -/

/-- An address can be read as far as its authority. -/
def IsReadable (address : String) : Prop := ∃ url, Url.parse address = .ok url

theorem exists_treat_eq_ok_iff (policy : LinkPolicy) (head : String × List Attribute) :
    (∃ head', policy.treat head.1 head.2 = .ok head') ↔
      ∀ address ∈ (href? head).toList, IsReadable address := by
  rw [treat_eq]
  cases href? head with
  | none => exact ⟨fun _ _ h => (nomatch h), fun _ => ⟨head, rfl⟩⟩
  | some address =>
    simp only [destination_eq, Option.toList_some, List.forall_mem_singleton]
    unfold IsReadable
    cases Url.parse address with
    | error e => exact ⟨fun ⟨_, h⟩ => (nomatch h), fun ⟨_, h⟩ => (nomatch h)⟩
    | ok url => exact ⟨fun _ => ⟨url, rfl⟩, fun _ => ⟨_, rfl⟩⟩

mutual

/-- **A node is treated if its addresses can be read**, and only then. -/
theorem exists_applyNode_eq_ok_iff (policy : LinkPolicy) (n : Node) :
    (∃ m, policy.applyNode n = .ok m) ↔ ∀ address ∈ n.heads.filterMap href?, IsReadable address :=
  match n with
  | .text data => ⟨fun _ _ h => (nomatch h), fun _ => ⟨.text data, by rw [applyNode]; rfl⟩⟩
  | .element name attributes children => by
    have hheads : (Node.heads (.element name attributes children)).filterMap href? =
        (href? (name, attributes)).toList ++ hrefsOf children := by
      rw [Node.heads, List.filterMap_cons]
      cases href? (name, attributes) <;> rfl
    rw [hheads, List.forall_mem_append, ← exists_treat_eq_ok_iff policy,
      ← exists_applyNodes_eq_ok_iff policy children]
    constructor
    · rintro ⟨m, hm⟩
      obtain ⟨head, children', htreat, hchildren, -⟩ := exists_of_applyNode_eq_ok hm
      exact ⟨⟨head, htreat⟩, children', hchildren⟩
    · rintro ⟨⟨head, htreat⟩, children', hchildren⟩
      refine ⟨.element head.1 head.2 children', ?_⟩
      rw [applyNode, htreat, hchildren]
      rfl

theorem exists_applyNodes_eq_ok_iff (policy : LinkPolicy) (ns : List Node) :
    (∃ ms, policy.applyNodes ns = .ok ms) ↔ ∀ address ∈ hrefsOf ns, IsReadable address :=
  match ns with
  | [] => ⟨fun _ _ h => (nomatch h), fun _ => ⟨[], by rw [applyNodes]; rfl⟩⟩
  | n :: ns => by
    have hhrefs : hrefsOf (n :: ns) = n.heads.filterMap href? ++ hrefsOf ns := by
      unfold hrefsOf
      rw [Html.headsOf, List.filterMap_append]
    rw [hhrefs, List.forall_mem_append, ← exists_applyNode_eq_ok_iff policy n,
      ← exists_applyNodes_eq_ok_iff policy ns]
    constructor
    · rintro ⟨ms, hms⟩
      obtain ⟨m, ms', hnode, hnodes, -⟩ := exists_of_applyNodes_eq_ok hms
      exact ⟨⟨m, hnode⟩, ms', hnodes⟩
    · rintro ⟨⟨m, hnode⟩, ms', hnodes⟩
      refine ⟨m :: ms', ?_⟩
      rw [applyNodes, hnode, hnodes]
      rfl

end

theorem toLower_of_isLower {c : Char} (h : c.isLower = true) : c.toLower = c := by
  unfold Char.toLower
  refine dif_neg fun ⟨_, hle⟩ => ?_
  have hge := (Bool.and_eq_true_iff.mp h).1
  simp only [decide_eq_true_eq, ge_iff_le, UInt32.le_iff_toNat_le] at hge hle
  have ha : 'a'.val.toNat = 97 := rfl
  have hz : 'Z'.val.toNat = 90 := rfl
  omega

/-- Sanitized text without `<a` has no links. -/
theorem hrefsOf_eq_nil {source : String}
    (h : Text.contains (Html.sanitize source).text "<a" = false) :
    hrefsOf (Html.readBody (Html.sanitize source).text) = [] := by
  unfold hrefsOf
  rw [List.filterMap_eq_nil_iff]
  intro head hhead
  unfold href?
  refine if_neg fun hname => ?_
  have hname := beq_iff_eq.mp hname
  rcases Html.begins_of_mem_heads_readBody hhead with hp | ⟨c, halpha, hoccurs, hfirst⟩
  · rw [hname] at hp
    exact absurd hp (by decide)
  · -- The letter after the less-than sign is small, and so it is the one of the name.
    obtain ⟨before, after, htext⟩ := hoccurs
    obtain ⟨d, rest, hd, hsmall⟩ := Html.opensSmall_sanitize source before (c :: after)
      (by rw [← htext, List.append_assoc]; rfl)
    obtain ⟨rfl, rfl⟩ := List.cons.inj hd
    have hlower : c.toLower = c := by
      refine toLower_of_isLower (hsmall.resolve_left ?_)
      rintro rfl
      exact absurd halpha (by decide)
    rw [hname, hlower] at hfirst
    obtain rfl : 'a' = c := Option.some.inj hfirst
    have hcontains : Text.contains (Html.sanitize source).text "<a" = true :=
      Text.containsList_iff.mpr ⟨before, after, htext⟩
    rw [h] at hcontains
    cases hcontains

/-- What is made of sanitized text: the treated body, or the text as it is if it has no links. -/
theorem apply_sanitize {domain : String} {portfolio : List String} {source : String} {out : Markup}
    (h : (ofPortfolio domain portfolio).apply (Html.sanitize source) = .ok out) :
    ∃ after, AllRelated (TreatedHead domain portfolio)
        (Html.readBody (Html.sanitize source).text) after ∧
      (out = ⟨Html.writeNodes after⟩ ∨ out = Html.sanitize source ∧
        after = Html.readBody (Html.sanitize source).text ∧ hrefsOf after = []) := by
  have hnone : Text.contains (Html.sanitize source).text "<a" = false →
      hrefsOf (Html.readBody (Html.sanitize source).text) = [] := hrefsOf_eq_nil
  generalize Html.sanitize source = m at h hnone
  unfold LinkPolicy.apply at h
  -- Text in which no link can begin is not read at all.
  cases hlinks : Text.contains m.text "<a" with
  | false =>
    rw [hlinks, Bool.not_false, if_pos rfl] at h
    refine ⟨_, Html.allRelated_self _ fun head hhead => ?_,
      .inr ⟨(Except.ok.inj h).symm, rfl, hnone hlinks⟩⟩
    exact .other (List.filterMap_eq_nil_iff.mp (hnone hlinks) head hhead)
  | true =>
    rw [hlinks, Bool.not_true, if_neg Bool.false_ne_true] at h
    cases hafter : (ofPortfolio domain portfolio).applyNodes (Html.readBody m.text) with
    | error e =>
      rw [hafter] at h
      cases h
    | ok after =>
      rw [hafter] at h
      exact ⟨after, allRelated_of_applyNodes _ hafter, .inl (Except.ok.inj h).symm⟩

/-- **Sanitized text is rewritten if its addresses can be read**, and only then. -/
theorem exists_apply_sanitize_eq_ok_iff (policy : LinkPolicy) (source : String) :
    (∃ out, policy.apply (Html.sanitize source) = .ok out) ↔
      ∀ address ∈ hrefsOf (Html.readBody (Html.sanitize source).text), IsReadable address := by
  have hnone : Text.contains (Html.sanitize source).text "<a" = false →
      hrefsOf (Html.readBody (Html.sanitize source).text) = [] := hrefsOf_eq_nil
  generalize Html.sanitize source = m at hnone
  rw [← exists_applyNodes_eq_ok_iff policy]
  unfold LinkPolicy.apply
  cases hlinks : Text.contains m.text "<a" with
  | false =>
    rw [exists_applyNodes_eq_ok_iff, hnone hlinks]
    exact ⟨fun _ _ h => (nomatch h), fun _ => ⟨m, rfl⟩⟩
  | true =>
    rw [Bool.not_true, if_neg Bool.false_ne_true]
    cases policy.applyNodes (Html.readBody m.text) with
    | error e => exact ⟨fun ⟨_, h⟩ => (nomatch h), fun ⟨_, h⟩ => (nomatch h)⟩
    | ok after => exact ⟨fun _ => ⟨after, rfl⟩, fun _ => ⟨_, rfl⟩⟩

end LinkPolicy

/-! ### Links that a browser follows to a sister -/

/-- **An address leads to a sister** in a browser with a host parser. -/
def LeadsToSister (hostOf : List Char → Option String) (domain : String) (portfolio : List String)
    (address : String) : Prop :=
  ∃ host ∈ Browser.host? hostOf address, IsSister domain portfolio host

/-- An address is plain: it is written out for a host, or leads to the host of the page itself or
by another scheme. -/
def IsPlain (address : String) : Prop :=
  (∃ host, IsWrittenOut host (dropIgnored address.toList)) ∨
    Browser.authority? (Browser.trim address.toList) = none

/-- **The policy reads a sister in a plain address that leads to one.** -/
theorem readsSister_of_isPlain {hostOf : List Char → Option String}
    (hhost : Browser.IsFaithful hostOf) {domain : String} {portfolio : List String}
    {address : String} (h : IsPlain address)
    (hleads : LeadsToSister hostOf domain portfolio address) :
    ReadsSister domain portfolio address := by
  obtain ⟨found, hfound, hsister⟩ := hleads
  -- The policy reads the host that is written out, and the browser takes it for what it is or
  -- refuses it.
  rcases h with ⟨host, hwritten⟩ | hnone
  · rw [Browser.host?_of_isWrittenOut hwritten] at hfound
    have hread := hostRead?_of_isWrittenOut hwritten
    rcases hhost host hwritten.plain with hno | hsame
    · rw [hno] at hfound
      cases hfound
    · rw [hsame] at hfound
      cases hfound
      exact (readsSister_iff hread).mpr hsister
  · unfold Browser.host? at hfound
    rw [hnone] at hfound
    cases hfound

/-- **An address leads home**: to the host of the page itself, or by a plain name to the own
domain. -/
def LeadsHome (domain address : String) : Prop :=
  Browser.authority? (Browser.trim address.toList) = none ∨
    normalizeHost domain ≠ "" ∧ ∃ host, IsWrittenOut host (dropIgnored address.toList) ∧
      normalizeHost (String.ofList (host.map Char.toLower)) = normalizeHost domain

/-- A link home stays as it is. -/
theorem TreatedHead.eq_of_leadsHome {domain : String} {portfolio : List String}
    {head head' : String × List Attribute} (h : TreatedHead domain portfolio head head')
    {address : String} (haddress : href? head = some address) (hhome : LeadsHome domain address) :
    head' = head := by
  have hread : ∀ host ∈ LinkPolicy.hostRead? address,
      IsOwn domain host ∧ ¬ IsSister domain portfolio host := by
    intro host hhost
    rcases hhome with hnone | ⟨hdomain, name, hwritten, hsame⟩
    · rw [hostRead?_eq_none hnone] at hhost
      cases hhost
    · rw [hostRead?_of_isWrittenOut hwritten] at hhost
      cases hhost
      refine ⟨⟨?_, hsame⟩, fun hsister => hdomain (hsister.2 hsame)⟩
      rintro rfl
      exact hdomain (by decide)
  -- Only a link that is read as one to another site is changed.
  cases h with
  | other | relative | own => rfl
  | outside hhref hhost hsister hown =>
    cases haddress.symm.trans hhref
    exact absurd (hread _ hhost).1 hown
  | sister hhref hsister =>
    cases haddress.symm.trans hhref
    obtain ⟨host, hhost, hsister⟩ := hsister
    exact absurd hsister (hread host hhost).2

/-- **Links to sisters remain exactly where they are misread.** Sanitized text is rewritten unless
one of its addresses cannot be read. The rewritten body has the shape of the body before, and each
element is treated by itself. A link that a browser follows to a sister remains exactly if the
policy does not read a sister in its address; so none remains if the browser takes plain names for
what they are and every address is plain. Links home stay as they are. -/
theorem sister_links_remain_iff_misread (domain source : String) (portfolio : List String) :
    let text := Html.sanitize source
    let before := Html.readBody text.text
    let rewritten := (LinkPolicy.ofPortfolio domain portfolio).apply text
    ((∃ out, rewritten = .ok out) ↔ ∀ address ∈ hrefsOf before, LinkPolicy.IsReadable address) ∧
    ∀ out, rewritten = .ok out → ∃ after, AllRelated (TreatedHead domain portfolio) before after ∧
      (out = ⟨Html.writeNodes after⟩ ∨ out = text ∧ after = before ∧ hrefsOf after = []) ∧
      List.Forall₂ (fun head head' => ∀ address, href? head = some address →
        LeadsHome domain address → head' = head) (headsOf before) (headsOf after) ∧
      ∀ hostOf : List Char → Option String,
        ((∀ address ∈ hrefsOf after, ¬ LeadsToSister hostOf domain portfolio address) ↔
          ∀ address ∈ hrefsOf before, LeadsToSister hostOf domain portfolio address →
            ReadsSister domain portfolio address) ∧
        (Browser.IsFaithful hostOf → (∀ address ∈ hrefsOf before, IsPlain address) →
          ∀ address ∈ hrefsOf after, ¬ LeadsToSister hostOf domain portfolio address) := by
  intro text before rewritten
  refine ⟨LinkPolicy.exists_apply_sanitize_eq_ok_iff _ source, fun out hout => ?_⟩
  obtain ⟨after, hafter, hwritten⟩ := LinkPolicy.apply_sanitize hout
  have hheads : List.Forall₂ (TreatedHead domain portfolio) (headsOf before) (headsOf after) :=
    hafter.forall₂_headsOf
  have hkept : ∀ address, address ∈ hrefsOf after ↔
      address ∈ hrefsOf before ∧ ¬ ReadsSister domain portfolio address := by
    intro address
    rw [hrefsOf_of_allRelated hafter, List.mem_filter, decide_eq_true_eq]
  refine ⟨after, hafter, hwritten, ?_, fun hostOf => ?_⟩
  · exact hheads.imp fun _ _ htreated _ haddress hhome => htreated.eq_of_leadsHome haddress hhome
  -- What is kept is what is not read as an address of a sister, so that a link to one remains
  -- exactly if it is misread.
  have hiff : (∀ address ∈ hrefsOf after, ¬ LeadsToSister hostOf domain portfolio address) ↔
      ∀ address ∈ hrefsOf before, LeadsToSister hostOf domain portfolio address →
        ReadsSister domain portfolio address := by
    constructor
    · intro hnone address haddress hleads
      by_contra hmisread
      exact hnone address ((hkept address).mpr ⟨haddress, hmisread⟩) hleads
    · intro hread address haddress hleads
      obtain ⟨hbefore, hmisread⟩ := (hkept address).mp haddress
      exact hmisread (hread address hbefore hleads)
  refine ⟨hiff, fun hhost hplain => hiff.mpr fun address haddress hleads => ?_⟩
  exact readsSister_of_isPlain hhost (hplain address haddress) hleads

/-- A host parser that knows plain names only. -/
def plainParser (host : List Char) : Option String :=
  if Browser.isPlainName host then some (String.ofList (host.map Char.toLower)) else none

theorem isFaithful_plainParser : Browser.IsFaithful plainParser :=
  fun _ hname => .inr (if_pos hname)

/-- A text with a link to a sister by its full address. -/
def sisterLink : String := "<p>Visit <a href=\"https://Sister-site.com/x\">our sister</a>.</p>"

/-- The link becomes a span, and none to a sister is left. -/
theorem sisterLink_is_blocked :
    let before := Html.readBody (Html.sanitize sisterLink).text
    let rewritten :=
      (LinkPolicy.ofPortfolio "mysite.com" ["mysite.com", "www.sister-site.com"]).apply
        (Html.sanitize sisterLink)
    hrefsOf before = ["https://Sister-site.com/x"] ∧
      ReadsSister "mysite.com" ["mysite.com", "www.sister-site.com"] "https://Sister-site.com/x" ∧
      ∃ out after, rewritten = .ok out ∧
        AllRelated (TreatedHead "mysite.com" ["mysite.com", "www.sister-site.com"]) before after ∧
        ∀ address ∈ hrefsOf after,
          ¬ LeadsToSister plainParser "mysite.com" ["mysite.com", "www.sister-site.com"]
            address := by
  intro before rewritten
  have hhrefs : hrefsOf before = ["https://Sister-site.com/x"] := by decide +kernel
  obtain ⟨hiff, hrewritten⟩ := sister_links_remain_iff_misread "mysite.com" sisterLink
    ["mysite.com", "www.sister-site.com"]
  have hreadable : ∀ address ∈ hrefsOf before, LinkPolicy.IsReadable address := by
    rw [hhrefs, List.forall_mem_singleton]
    exact ⟨⟨"https", "Sister-site.com"⟩, by decide⟩
  have hplain : ∀ address ∈ hrefsOf before, IsPlain address := by
    rw [hhrefs, List.forall_mem_singleton]
    have hauthority :
        IsAuthority "Sister-site.com".toList ([] ++ ("Sister-site.com".toList ++ [])) :=
      .mk (.inl rfl) (by decide) (.inl rfl)
    have hwritten : IsWrittenOut "Sister-site.com".toList ("https".toList ++
        ':' :: '/' :: '/' :: ([] ++ ("Sister-site.com".toList ++ [])) ++ "/x".toList) :=
      .mk (by decide) hauthority (.inr ⟨'/', ['x'], rfl, by decide⟩)
    exact .inl ⟨_, hwritten⟩
  obtain ⟨out, hout⟩ := hiff.mpr hreadable
  obtain ⟨after, hafter, -, -, hbrowser⟩ := hrewritten out hout
  exact ⟨hhrefs, by decide, out, after, hout, hafter,
    (hbrowser plainParser).2 isFaithful_plainParser hplain⟩

/-- **A browser follows a link that begins with two slashes**; the policy leaves it in place, though
the host is that of a sister. -/
theorem slashed_sister_link_remains :
    let source := "<p><a href=\"//sister-site.com/x\">sister</a></p>"
    let portfolio := ["mysite.com", "sister-site.com"]
    Html.sanitize source = ⟨source⟩ ∧
      (LinkPolicy.ofPortfolio "mysite.com" portfolio).apply ⟨source⟩ = .ok ⟨source⟩ ∧
      hrefsOf (Html.readBody source) = ["//sister-site.com/x"] ∧
      LeadsToSister plainParser "mysite.com" portfolio "//sister-site.com/x" := by
  intro source portfolio
  refine ⟨by decide +kernel, by decide +kernel, by decide +kernel, "sister-site.com", ?_, ?_⟩
  · decide +kernel
  · decide

end Link

end StaticSite
