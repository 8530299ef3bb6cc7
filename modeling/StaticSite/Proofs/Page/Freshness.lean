import Mathlib.Logic.ExistsUnique
import Mathlib.Tactic.ByContra
import StaticSite.Page.Trust
import StaticSite.Proofs.Html.Tags
import StaticSite.Proofs.Site.Files

/-!
# The freshness badge only decays

The badge of an article is a traffic light. It is red once any of the data has expired, green while
the article is young, and yellow otherwise. As time goes by both tests can only turn out worse: what
has expired stays expired (`HasExpired.later`), and what is no longer young does not become young
again (`IsYoung.earlier`). So the colour only gets worse, from green over yellow to red.

The colour of a badge is read off the tag it begins with (`Markup.HasLight`). There is a badge as
soon as the article has data or a date of its last change, at whatever time one asks.
-/

namespace StaticSite

/-- The colours of a traffic light. -/
inductive Light where
  | green
  | yellow
  | red
deriving DecidableEq, Repr

namespace Light

/-- The colours in order, the worst one last. -/
def rank : Light → Nat
  | green => 0
  | yellow => 1
  | red => 2

/-- A colour is at most as bad as another one. -/
instance : LE Light := ⟨fun c d => c.rank ≤ d.rank⟩

instance (c d : Light) : Decidable (c ≤ d) := inferInstanceAs (Decidable (c.rank ≤ d.rank))

/-- The name of a colour. -/
def word : Light → String
  | green => "green"
  | yellow => "yellow"
  | red => "red"

/-- The tag that begins a badge of a colour. -/
def tag (c : Light) : Markup := startTag "div" [cls ("freshness-badge freshness-" ++ c.word)]

theorem le_red (c : Light) : c ≤ red := by cases c <;> decide

theorem green_le (c : Light) : green ≤ c := Nat.zero_le _

theorem le_yellow {c : Light} (hc : c ≠ red) : c ≤ yellow := by
  cases c
  case green | yellow => decide
  case red => exact absurd rfl hc

/-- What the tags of all badges begin with. -/
def opening : List Char := "<div class=\"freshness-badge freshness-".toList

theorem toList_tag (c : Light) :
    c.tag.text.toList = opening ++ (c.word.toList ++ ['"', '>']) := by
  cases c <;> decide +kernel

theorem eq_of_tag_prefix {c d : Light} (h : c.tag.text.toList <+: d.tag.text.toList) : c = d := by
  rw [toList_tag, toList_tag, List.prefix_append_right_inj] at h
  revert h
  cases c <;> cases d <;> decide

end Light

/-- A fragment is a badge of a colour. -/
def Markup.HasLight (m : Markup) (c : Light) : Prop := c.tag.text.toList <+: m.text.toList

instance (m : Markup) (c : Light) : Decidable (m.HasLight c) :=
  inferInstanceAs (Decidable (_ <+: _))

/-- A fragment has one colour at most. -/
theorem Markup.HasLight.unique {m : Markup} {c d : Light} (hc : m.HasLight c) (hd : m.HasLight d) :
    c = d := by
  rcases List.prefix_or_prefix_of_prefix hc hd with h | h
  · exact Light.eq_of_tag_prefix h
  · exact (Light.eq_of_tag_prefix h).symm

theorem Markup.not_hasLight_empty (c : Light) : ¬ Markup.empty.HasLight c := by
  intro h
  have htag : c.tag.text.toList = [] := List.prefix_nil.mp h
  rw [Light.toList_tag, List.append_eq_nil_iff] at htag
  exact absurd htag.1 (by decide)

/-! ### Grades -/

/-- Some of the data has expired. -/
def HasExpired (now : Timestamp) (datasets : List Dataset) : Prop :=
  ∃ d ∈ datasets, ∃ t, d.expiresAt = some t ∧ t.micros < now.micros

/-- The last change is known and less than `freshDays` ago. -/
def IsYoung (now : Timestamp) (updated : Option Timestamp) : Prop :=
  ∃ t, updated = some t ∧ now.micros - t.micros < freshDays * dayMicros

/-- What has expired stays expired. -/
theorem HasExpired.later {now later : Timestamp} {datasets : List Dataset}
    (h : HasExpired now datasets) (hle : now.micros ≤ later.micros) :
    HasExpired later datasets := by
  obtain ⟨d, hd, t, ht, hlt⟩ := h
  exact ⟨d, hd, t, ht, Int.lt_of_lt_of_le hlt hle⟩

/-- What is young now was young before. -/
theorem IsYoung.earlier {now later : Timestamp} {updated : Option Timestamp}
    (h : IsYoung later updated) (hle : now.micros ≤ later.micros) : IsYoung now updated := by
  obtain ⟨t, ht, hlt⟩ := h
  exact ⟨t, ht, by omega⟩

namespace Freshness

/-- The colour of the badge for a grade. -/
def light : Freshness → Light
  | .outdated => .red
  | .verified _ => .green
  | .unreviewed => .yellow

/-- The badge for a grade has the colour of the grade. -/
theorem badge_hasLight (f : Freshness) : f.badge.HasLight f.light := by
  have hclass :
      "freshness-badge " ++ f.className = "freshness-badge freshness-" ++ f.light.word := by
    cases f <;> rfl
  unfold badge el
  rw [hclass]
  simp only [Markup.HasLight, Markup.toList_append, List.append_assoc]
  exact List.prefix_append _ _

variable {now later : Timestamp} {updated : Option Timestamp} {datasets : List Dataset}

theorem any_expired_iff :
    (datasets.any fun d =>
      (d.expiresAt.map fun t => decide (t.micros < now.micros)).getD false) = true ↔
      HasExpired now datasets := by
  refine List.any_eq_true.trans (exists_congr fun d => and_congr_right fun _ => ?_)
  cases d.expiresAt <;> simp

theorem grade_of_hasExpired (h : HasExpired now datasets) :
    grade now updated datasets = .outdated := if_pos (any_expired_iff.mpr h)

/-- A young article is not stale, so that the bound on stale articles adds nothing. -/
theorem grade_of_isYoung (hkept : ¬ HasExpired now datasets) {t : Timestamp}
    (hyoung : now.micros - t.micros < freshDays * dayMicros) :
    grade now (some t) datasets = .verified t := by
  have hstale : now.micros - t.micros ≤ staleDays * dayMicros := by
    unfold freshDays dayMicros at hyoung
    unfold staleDays dayMicros
    omega
  exact (if_neg (mt any_expired_iff.mp hkept)).trans (if_pos ⟨hstale, hyoung⟩)

theorem grade_of_not_isYoung (hkept : ¬ HasExpired now datasets)
    (hold : ¬ IsYoung now updated) : grade now updated datasets = .unreviewed := by
  refine (if_neg (mt any_expired_iff.mp hkept)).trans ?_
  cases updated with
  | none => rfl
  | some t => exact if_neg fun hyoung => hold ⟨t, rfl, hyoung.2⟩

/-- The badge is red once some of the data has expired, and only then; it is green as long as the
article is young and none of the data has expired. -/
theorem light_grade_iff :
    ((grade now updated datasets).light = .red ↔ HasExpired now datasets) ∧
      ((grade now updated datasets).light = .green ↔
        ¬ HasExpired now datasets ∧ IsYoung now updated) := by
  -- Whether data has expired is asked first, and whether the article is young after that.
  by_cases hexpired : HasExpired now datasets
  case pos =>
    rw [grade_of_hasExpired hexpired]
    simp [light, hexpired]
  by_cases hyoung : IsYoung now updated
  case pos =>
    obtain ⟨t, rfl, hlt⟩ := id hyoung
    rw [grade_of_isYoung hexpired hlt]
    simp [light, hexpired, hyoung]
  case neg =>
    rw [grade_of_not_isYoung hexpired hyoung]
    simp [light, hexpired, hyoung]

/-- **A grade only gets worse.** -/
theorem light_grade_mono (hle : now.micros ≤ later.micros) :
    (grade now updated datasets).light ≤ (grade later updated datasets).light := by
  by_cases hred : (grade later updated datasets).light = .red
  · rw [hred]
    exact Light.le_red _
  -- Nothing has expired later on, so nothing has expired now.
  have hkept : ¬ HasExpired later datasets := fun h => hred (light_grade_iff.1.mpr h)
  have hnow : ¬ HasExpired now datasets := fun h => hkept (h.later hle)
  cases hlater : (grade later updated datasets).light with
  | red => exact absurd hlater hred
  | yellow => exact Light.le_yellow fun h => hnow (light_grade_iff.1.mp h)
  | green =>
    have hyoung := (light_grade_iff.2.mp hlater).2.earlier hle
    rw [light_grade_iff.2.mpr ⟨hnow, hyoung⟩]
    exact Light.green_le _

/-- The order of the datasets does not matter. -/
theorem grade_perm {others : List Dataset} (h : datasets.Perm others) :
    grade now updated others = grade now updated datasets := by
  have hany (p : Dataset → Bool) : others.any p = datasets.any p := h.symm.any_eq
  simp only [grade, hany]

end Freshness

/-! ### Badges -/

section Badge

variable {now later : Timestamp} {a : Article} {datasets : List Dataset}

/-- Something is known about the age of an article. -/
def HasAge (a : Article) (datasets : List Dataset) : Prop :=
  datasets ≠ [] ∨ a.times.updated ≠ none

theorem freshnessBadge_of_hasAge (h : HasAge a datasets) :
    freshnessBadge now a datasets = (Freshness.grade now a.times.updated datasets).badge := by
  refine if_neg fun hnone => ?_
  rw [Bool.and_eq_true, List.isEmpty_iff, Option.isNone_iff_eq_none] at hnone
  exact h.elim (absurd hnone.1) (absurd hnone.2)

theorem freshnessBadge_of_not_hasAge (h : ¬ HasAge a datasets) :
    freshnessBadge now a datasets = .empty := by
  rw [HasAge, not_or, not_not, not_not] at h
  refine if_pos ?_
  rw [h.1, h.2]
  rfl

/-- The colour of a badge is that of the grade of the article. -/
theorem hasLight_freshnessBadge_iff {c : Light} :
    (freshnessBadge now a datasets).HasLight c ↔
      HasAge a datasets ∧ (Freshness.grade now a.times.updated datasets).light = c := by
  by_cases h : HasAge a datasets
  · rw [freshnessBadge_of_hasAge h, and_iff_right h]
    refine ⟨(Freshness.badge_hasLight _).unique, ?_⟩
    rintro rfl
    exact Freshness.badge_hasLight _
  · rw [freshnessBadge_of_not_hasAge h]
    exact ⟨fun hc => absurd hc (Markup.not_hasLight_empty c), fun hc => absurd hc.1 h⟩

/-- There is a badge as soon as something is known about the age of an article. -/
theorem freshnessBadge_ne_empty_iff :
    freshnessBadge now a datasets ≠ .empty ↔ HasAge a datasets := by
  refine ⟨fun hne => ?_, fun h hempty => ?_⟩
  · by_contra h
    exact hne (freshnessBadge_of_not_hasAge h)
  · have hlight : (freshnessBadge now a datasets).HasLight _ :=
      hasLight_freshnessBadge_iff.mpr ⟨h, rfl⟩
    rw [hempty] at hlight
    exact Markup.not_hasLight_empty _ hlight

/-- The badge does not depend on the order of the datasets. -/
theorem freshnessBadge_perm {others : List Dataset} (h : datasets.Perm others) :
    freshnessBadge now a others = freshnessBadge now a datasets := by
  unfold freshnessBadge
  rw [Freshness.grade_perm h, h.isEmpty_eq]

end Badge

/-! ### Points in time without an offset -/

/-- A point in time, read as universal time if its offset is not known. -/
def Timestamp.readAsUtc (t : Timestamp) : Timestamp :=
  { t with offset := some (t.offset.getD 0) }

/-- A dataset of which the expiry is read as universal time. -/
def Dataset.readAsUtc (d : Dataset) : Dataset :=
  { d with expiresAt := d.expiresAt.map Timestamp.readAsUtc }

/-- An article of which the last change is read as universal time. -/
def Article.readAsUtc (a : Article) : Article :=
  { a with times := { a.times with updated := a.times.updated.map Timestamp.readAsUtc } }

theorem hasExpired_readAsUtc_iff {now : Timestamp} {datasets : List Dataset} :
    HasExpired now.readAsUtc (datasets.map Dataset.readAsUtc) ↔ HasExpired now datasets := by
  constructor
  · rintro ⟨d, hd, t, ht, hlt⟩
    obtain ⟨d, hmem, rfl⟩ := List.mem_map.mp hd
    obtain ⟨u, hu, rfl⟩ := Option.map_eq_some_iff.mp ht
    exact ⟨d, hmem, u, hu, hlt⟩
  · rintro ⟨d, hd, t, ht, hlt⟩
    exact ⟨d.readAsUtc, List.mem_map_of_mem hd, t.readAsUtc, congrArg (Option.map _) ht, hlt⟩

/-- A grade is the same for points in time that are read as universal time; a badge shows the day of
the last change only, which does not depend on the offset. -/
theorem Freshness.badge_grade_readAsUtc (now : Timestamp) (updated : Option Timestamp)
    (datasets : List Dataset) :
    (grade now.readAsUtc (updated.map Timestamp.readAsUtc)
      (datasets.map Dataset.readAsUtc)).badge = (grade now updated datasets).badge := by
  by_cases hexpired : HasExpired now datasets
  case pos =>
    rw [grade_of_hasExpired hexpired, grade_of_hasExpired (hasExpired_readAsUtc_iff.mpr hexpired)]
  -- Neither what has expired nor what is young depends on how a point in time without an offset is
  -- read.
  have hkept := mt hasExpired_readAsUtc_iff.mp hexpired
  by_cases hyoung : IsYoung now updated
  case pos =>
    obtain ⟨t, rfl, hlt⟩ := hyoung
    rw [grade_of_isYoung hexpired hlt, Option.map_some,
      grade_of_isYoung (t := t.readAsUtc) hkept hlt]
    rfl
  case neg =>
    have hold : ¬ IsYoung now.readAsUtc (updated.map Timestamp.readAsUtc) := by
      rintro ⟨t, ht, hlt⟩
      obtain ⟨u, hu, rfl⟩ := Option.map_eq_some_iff.mp ht
      exact hyoung ⟨u, hu, hlt⟩
    rw [grade_of_not_isYoung hexpired hyoung, grade_of_not_isYoung hkept hold]

theorem freshnessBadge_readAsUtc (now : Timestamp) (a : Article) (datasets : List Dataset) :
    freshnessBadge now.readAsUtc a.readAsUtc (datasets.map Dataset.readAsUtc) =
      freshnessBadge now a datasets := by
  have hage : HasAge a.readAsUtc (datasets.map Dataset.readAsUtc) ↔ HasAge a datasets :=
    or_congr (not_congr List.map_eq_nil_iff) (not_congr Option.map_eq_none_iff)
  by_cases h : HasAge a datasets
  · rw [freshnessBadge_of_hasAge h, freshnessBadge_of_hasAge (hage.mpr h)]
    exact Freshness.badge_grade_readAsUtc ..
  · rw [freshnessBadge_of_not_hasAge h, freshnessBadge_of_not_hasAge (mt hage.mp h)]

/-! ### Decay -/

/-- **Freshness only decays.** An article gets a badge as soon as something is known about its age,
whatever the time is, and the badge has one colour. The colour never gets better: at a later time it
is the same or a worse one. It is red once some dataset has expired, and only then. The order of the
datasets does not matter, and points in time without an offset count as universal time. -/
theorem freshness_only_decays (a : Article) (datasets : List Dataset) :
    (∀ now, freshnessBadge now a datasets ≠ .empty ↔ HasAge a datasets) ∧
      (∀ now, HasAge a datasets → ∃! c, (freshnessBadge now a datasets).HasLight c) ∧
      (∀ now later c d, now.micros ≤ later.micros →
        (freshnessBadge now a datasets).HasLight c →
        (freshnessBadge later a datasets).HasLight d → c ≤ d) ∧
      (∀ now, (freshnessBadge now a datasets).HasLight .red ↔ HasExpired now datasets) ∧
      (∀ now others, datasets.Perm others →
        freshnessBadge now a others = freshnessBadge now a datasets) ∧
      ∀ now : Timestamp,
        freshnessBadge now.readAsUtc a.readAsUtc (datasets.map Dataset.readAsUtc) =
          freshnessBadge now a datasets := by
  refine ⟨fun now => freshnessBadge_ne_empty_iff, fun now h => ?_,
    fun now later c d hle hc hd => ?_, fun now => ?_, fun now others h => freshnessBadge_perm h,
    fun now => freshnessBadge_readAsUtc now a datasets⟩
  case refine_1 =>
    exact ⟨_, hasLight_freshnessBadge_iff.mpr ⟨h, rfl⟩,
      fun c hc => (hasLight_freshnessBadge_iff.mp hc).2.symm⟩
  -- The colour is that of the grade, which never gets better as time goes on.
  case refine_2 =>
    obtain ⟨-, rfl⟩ := hasLight_freshnessBadge_iff.mp hc
    obtain ⟨-, rfl⟩ := hasLight_freshnessBadge_iff.mp hd
    exact Freshness.light_grade_mono hle
  case refine_3 =>
    rw [hasLight_freshnessBadge_iff, Freshness.light_grade_iff.1, and_iff_right_iff_imp]
    rintro ⟨d, hd, -⟩
    exact .inl (List.ne_nil_of_mem hd)

/-- The first moment of a day, as a time without an offset. -/
def midnight (year month day : Nat) : Timestamp := ⟨⟨year, month, day⟩, 0, 0, 0, 0, none⟩

/-- A dataset of which nothing is known but when it expires. -/
def datasetUntil (expiresAt : Option Timestamp) : Dataset where
  id := "dataset"
  name := "Prices"
  sourceUrl := none
  sourceTitle := none
  publisher := none
  retrievedAt := none
  expiresAt
  usage := none

/-- An article that was changed on 1 March 2025. -/
def marchArticle : Article :=
  let a := bareWizard "prices"
  { a with times := { a.times with updated := some (midnight 2025 3 1) } }

/-- With data that expires on 20 March, the article is up to date on 10 March and outdated on
1 April; without an offset midnight is midnight in universal time. -/
theorem march_article_decays :
    let kept := datasetUntil none
    let expiring := datasetUntil (some (midnight 2025 3 20))
    let badge now := freshnessBadge now marchArticle [kept, expiring]
    (badge (midnight 2025 3 10)).HasLight .green ∧ (badge (midnight 2025 4 1)).HasLight .red ∧
      Light.green ≤ Light.red ∧
      freshnessBadge (midnight 2025 4 1) marchArticle [expiring, kept] =
        badge (midnight 2025 4 1) ∧
      ∃! c, (badge (midnight 2025 3 31)).HasLight c := by
  intro kept expiring badge
  obtain ⟨-, hcolour, hdecays, hred, horder, -⟩ :=
    freshness_only_decays marchArticle [kept, expiring]
  have hgreen : (badge (midnight 2025 3 10)).HasLight .green := by decide +kernel
  have hexpired : (badge (midnight 2025 4 1)).HasLight .red :=
    (hred _).mpr ⟨expiring, by simp, midnight 2025 3 20, rfl, by decide +kernel⟩
  refine ⟨hgreen, hexpired, hdecays _ _ _ _ (by decide +kernel) hgreen hexpired,
    horder _ _ (List.Perm.swap ..), hcolour _ (.inl (List.cons_ne_nil _ _))⟩

end StaticSite
