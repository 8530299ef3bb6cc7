import Mathlib.Algebra.Order.Field.Power
import Mathlib.Algebra.Order.Field.Rat
import Mathlib.Order.WithBot
import Mathlib.Tactic.Linarith
import Mathlib.Tactic.Positivity
import Mathlib.Tactic.Ring
import StaticSite.Number.Arithmetic
import StaticSite.Number.Decimal

/-!
# The order of double precision numbers

Every number that is one has a place on the line of the rationals with both infinities
(`Binary64.place`), the two zeros the same. Comparing numbers is comparing places
(`lt_iff_place_lt`, `eq_iff_place_eq`, `le_iff_place_le`), so the order is a total one.

Rounding a quotient, and reading a numeral, always gives a number. A quotient rounds to a finite one
unless it is at least `overflow` (`isFinite_ofRatio_iff_lt`, `ofInt?_eq_none_iff`). Every finite
number that comes of rounding lies so far below that a half can be added to it, so that there is an
integer next to it (`exists_roundHalfUp_eq_ok`).

The exact numbers that are rationals are computed with as rationals, and the nearest integer of one
is the greatest that is at most a half above it (`Exact.roundHalfUp_rational`).
-/

namespace StaticSite

namespace Binary64

variable {x y : Binary64}

/-! ### Places -/

/-- The place of a number between the infinities; of no account for what is not a number. -/
def place : Binary64 → WithBot (WithTop Rat)
  | .nan => ⊥
  | .infinite true => ⊥
  | .infinite false => ((⊤ : WithTop Rat) : WithBot (WithTop Rat))
  | .finite s m e => (((Binary64.finite s m e).toRat : WithTop Rat) : WithBot (WithTop Rat))

theorem lt_iff_place_lt (hx : x ≠ .nan) (hy : y ≠ .nan) : x.lt y = true ↔ x.place < y.place := by
  cases x with
  | nan => exact absurd rfl hx
  | infinite s =>
    cases y with
    | nan => exact absurd rfl hy
    | infinite t => cases s <;> cases t <;> simp [lt, place]
    | finite t m e => cases s <;> simp [lt, place]
  | finite s m e =>
    cases y with
    | nan => exact absurd rfl hy
    | infinite t =>
      cases t with
      | true => simp [lt, place]
      | false => exact iff_of_true rfl (WithBot.coe_lt_coe.mpr (WithTop.coe_lt_top _))
    | finite t n f => simp [lt, place]

theorem eq_iff_place_eq (hx : x ≠ .nan) (hy : y ≠ .nan) : x.eq y = true ↔ x.place = y.place := by
  cases x with
  | nan => exact absurd rfl hx
  | infinite s =>
    cases y with
    | nan => exact absurd rfl hy
    | infinite t => cases s <;> cases t <;> simp [eq, place]
    | finite t m e => cases s <;> simp [eq, place]
  | finite s m e =>
    cases y with
    | nan => exact absurd rfl hy
    | infinite t => cases t <;> simp [eq, place]
    | finite t n f => simp [eq, place]

theorem le_iff_place_le (hx : x ≠ .nan) (hy : y ≠ .nan) : x.le y = true ↔ x.place ≤ y.place := by
  rw [le, Bool.or_eq_true, lt_iff_place_lt hx hy, eq_iff_place_eq hx hy, le_iff_lt_or_eq]

/-! ### Results that are numbers -/

theorem zero_ne_nan (negative : Bool) : zero negative ≠ .nan := by
  intro h
  cases h

theorem ofRatio_ne_nan (negative : Bool) (num den : Nat) : ofRatio negative num den ≠ .nan := by
  unfold ofRatio
  split
  · exact zero_ne_nan negative
  · extract_lets e
    obtain ⟨n, d⟩ := inUnits num den e
    -- The powers of two are no part of the argument, and too large to be counted up to.
    generalize Nat.pow 2 53 = bound
    generalize Nat.pow 2 52 = least
    dsimp only
    obtain ⟨m, e⟩ := if divEven n d = bound then (least, e + 1) else (divEven n d, e)
    intro h
    dsimp only at h
    split at h <;> cases h

theorem ne_nan_of_ofInt? {i : Int} (h : ofInt? i = some x) : x ≠ .nan := by
  rintro rfl
  unfold ofInt? at h
  split at h <;> cases h

/-! ### Quotients beyond the range -/

variable {num den n d : Nat}

/-- Rounding reaches the odd number `q` plus one from half a unit below. -/
theorem divEven_eq_succ_iff {n h q : Nat} (hq : q % 2 = 1)
    (hn : n < (q + 1) * (2 * h)) : divEven n (2 * h) = q + 1 ↔ (q + 1) * (2 * h) - h ≤ n := by
  have hsplit : 2 * h * (n / (2 * h)) + n % (2 * h) = n := Nat.div_add_mod n (2 * h)
  have hh : 0 < 2 * h := Nat.pos_of_ne_zero fun h0 => by simp [h0] at hn
  have hrest : n % (2 * h) < 2 * h := Nat.mod_lt n hh
  have hle : n / (2 * h) ≤ q := Nat.lt_succ_iff.mp ((Nat.div_lt_iff_lt_mul hh).mpr hn)
  have hmul : (q + 1) * (2 * h) = 2 * h * q + 2 * h := by ring
  unfold divEven
  dsimp only
  rw [hmul]
  generalize n / (2 * h) = a at *
  generalize n % (2 * h) = r at *
  -- With the quotient `q` a tie goes up, since `q` is odd; with a smaller one, rounding does not
  -- reach that far.
  rcases Nat.eq_or_lt_of_le hle with rfl | hlt
  · split
    · omega
    · split <;> omega
  · have hstep : 2 * h * (a + 1) ≤ 2 * h * q := Nat.mul_le_mul_left _ hlt
    rw [Nat.mul_succ] at hstep
    split
    · omega
    · split <;> omega

/-- A quotient in other units is the same quotient. -/
theorem inUnits_spec (hden : den ≠ 0) (h : inUnits num den e = (n, d)) :
    d ≠ 0 ∧ (n : Rat) / d = num / den / 2 ^ e := by
  unfold inUnits at h
  split at h
  · next he =>
    obtain ⟨k, rfl⟩ := Int.eq_ofNat_of_zero_le he
    cases h
    refine ⟨Nat.mul_ne_zero hden (Nat.two_pow_pos _).ne', ?_⟩
    rw [Int.toNat_natCast, zpow_natCast, div_div]
    push_cast [Nat.pow_eq]
    rfl
  · next he =>
    obtain ⟨k, hk⟩ := Int.eq_ofNat_of_zero_le (show 0 ≤ -e by omega)
    obtain rfl : e = -(k : Int) := by omega
    cases h
    refine ⟨hden, ?_⟩
    rw [neg_neg, Int.toNat_natCast, zpow_neg, zpow_natCast, div_inv_eq_mul]
    push_cast [Nat.pow_eq]
    ring

/-- A quotient lies between the powers of two that the lengths of its terms give. -/
theorem div_log2_bounds (hnum : num ≠ 0) (hden : den ≠ 0) :
    (2 : Rat) ^ ((Nat.log2 num : Int) - Nat.log2 den - 1) ≤ num / den ∧
      (num : Rat) / den < 2 ^ ((Nat.log2 num : Int) - Nat.log2 den + 1) := by
  -- Each term lies between two powers of two next to each other.
  have hlow (i : Nat) (hi : i ≠ 0) : (2 : Rat) ^ (Nat.log2 i : Int) ≤ i := by
    rw [zpow_natCast]
    exact_mod_cast Nat.log2_self_le hi
  have hhigh (i : Nat) : (i : Rat) < 2 ^ ((Nat.log2 i : Int) + 1) := by
    exact_mod_cast Nat.lt_log2_self (n := i)
  have hpos : (0 : Rat) < den := by exact_mod_cast Nat.pos_of_ne_zero hden
  constructor
  · rw [le_div_iff₀ hpos]
    calc (2 : Rat) ^ ((Nat.log2 num : Int) - Nat.log2 den - 1) * den
        ≤ 2 ^ ((Nat.log2 num : Int) - Nat.log2 den - 1) * 2 ^ ((Nat.log2 den : Int) + 1) := by
          gcongr
          exact (hhigh den).le
      _ = 2 ^ (Nat.log2 num : Int) := by
          rw [← zpow_add₀ two_ne_zero]
          congr 1
          omega
      _ ≤ num := hlow num hnum
  · rw [div_lt_iff₀ hpos]
    calc (num : Rat) < 2 ^ ((Nat.log2 num : Int) + 1) := hhigh num
      _ = 2 ^ ((Nat.log2 num : Int) - Nat.log2 den + 1) * 2 ^ (Nat.log2 den : Int) := by
          rw [← zpow_add₀ two_ne_zero]
          congr 1
          omega
      _ ≤ 2 ^ ((Nat.log2 num : Int) - Nat.log2 den + 1) * den := by
          gcongr
          exact hlow den hden

/-- **The exponent of a quotient**: in its units the quotient has at most 53 bits before the point,
and that many unless the exponent is the least one. -/
theorem exponentOf_spec (hnum : num ≠ 0) (hden : den ≠ 0) :
    (num : Rat) / den < 2 ^ (exponentOf num den + 53) ∧
      (leastExponent < exponentOf num den → (2 : Rat) ^ (exponentOf num den + 52) ≤ num / den) := by
  obtain ⟨hlow, hhigh⟩ := div_log2_bounds hnum hden
  unfold exponentOf
  extract_lets first
  rcases hunits : inUnits num den first with ⟨n, d⟩
  dsimp only
  obtain ⟨hd, hquot⟩ := inUnits_spec hden hunits
  have hdpos : (0 : Rat) < d := by exact_mod_cast Nat.pos_of_ne_zero hd
  have hless : n < d * Nat.pow 2 52 ↔ (num : Rat) / den < 2 ^ (first + 52) := by
    rw [zpow_add₀ two_ne_zero, ← div_lt_iff₀' (zpow_pos two_pos _), ← hquot, div_lt_iff₀' hdpos]
    norm_cast
  -- Only the exponent that is kept from falling below the least one has both bounds.
  have hfirst : ∀ e : Int, (if n < d * Nat.pow 2 52 then first - 1 else first) = e →
      (num : Rat) / den < 2 ^ (e + 53) ∧ (2 : Rat) ^ (e + 52) ≤ num / den := by
    rintro e rfl
    split
    · next h =>
      refine ⟨?_, ?_⟩
      · convert hless.mp h using 2
        omega
      · convert hlow using 2
        omega
    · next h =>
      refine ⟨?_, le_of_not_gt (mt hless.mpr h)⟩
      convert hhigh using 2
      omega
  obtain ⟨hupper, hlower⟩ := hfirst _ rfl
  generalize (if n < d * Nat.pow 2 52 then first - 1 else first) = e at *
  refine ⟨hupper.trans_le ?_, fun hleast => ?_⟩
  · exact zpow_le_zpow_right₀ one_le_two (by omega)
  · rwa [show max e leastExponent = e by omega]

/-- A quotient is finite if it rounds below the greatest exponent, or at it to 53 bits. -/
theorem isFinite_ofRatio_iff (negative : Bool) (hnum : num ≠ 0)
    (hunits : inUnits num den greatestExponent = (n, d)) :
    (ofRatio negative num den).isFinite = true ↔
      exponentOf num den < greatestExponent ∨
        exponentOf num den = greatestExponent ∧ divEven n d ≠ Nat.pow 2 53 := by
  unfold ofRatio
  rw [if_neg hnum]
  extract_lets e
  have he : exponentOf num den = e := rfl
  rw [he]
  clear_value e
  -- The powers of two are no part of the argument, and too large to be counted up to.
  generalize Nat.pow 2 53 = bound
  generalize Nat.pow 2 52 = least
  generalize greatestExponent = top at *
  rcases hpair : inUnits num den e with ⟨n', d'⟩
  dsimp only
  by_cases hround : divEven n' d' = bound
  · rw [if_pos hround]
    dsimp only
    split
    · next he =>
      refine iff_of_false Bool.false_ne_true ?_
      rintro (hlt | ⟨rfl, hne⟩)
      · omega
      · cases hunits.symm.trans hpair
        exact hne hround
    · next he => exact iff_of_true rfl (.inl (by omega))
  · rw [if_neg hround]
    dsimp only
    split
    · next he =>
      refine iff_of_false Bool.false_ne_true ?_
      rintro (hlt | ⟨heq, -⟩) <;> omega
    · next he =>
      refine iff_of_true rfl ?_
      rcases Int.lt_or_eq_of_le (Int.not_lt.mp he) with hlt | rfl
      · exact .inl hlt
      · cases hunits.symm.trans hpair
        exact .inr ⟨rfl, hround⟩

/-- A power of two as a bound of a quotient, in parts of its second term. -/
theorem div_lt_two_pow_iff {k m : Nat} (hden : den ≠ 0) :
    (num : Rat) / den < 2 ^ ((k : Int) + m) ↔ num < 2 ^ m * (den * 2 ^ k) := by
  have hdenpos : (0 : Rat) < den := by exact_mod_cast Nat.pos_of_ne_zero hden
  have hparts : (2 : Rat) ^ ((k : Int) + m) * den = (2 ^ m * (den * 2 ^ k) : Nat) := by
    rw [zpow_add₀ two_ne_zero, zpow_natCast, zpow_natCast]
    push_cast
    ring
  rw [div_lt_iff₀ hdenpos, hparts, Nat.cast_lt]

/-- **A quotient is finite if it lies below the bound**: `2 ^ 54 - 1` times half a place of the
largest numbers, whose exponent is `k + 1`. -/
theorem isFinite_ofRatio_iff_lt {k : Nat} (hk : greatestExponent = ((k + 1 : Nat) : Int))
    (negative : Bool) (num : Nat) (hden : den ≠ 0) :
    (ofRatio negative num den).isFinite = true ↔ num < (2 ^ 54 - 1) * (den * 2 ^ k) := by
  have hhalf : 0 < den * 2 ^ k := Nat.mul_pos (Nat.pos_of_ne_zero hden) (Nat.two_pow_pos k)
  have hbound : Nat.pow 2 53 = 2 ^ 53 - 1 + 1 := by decide +kernel
  have hodd : (2 ^ 53 - 1) % 2 = 1 := by decide +kernel
  have hunits : inUnits num den greatestExponent = (num, 2 * (den * 2 ^ k)) := by
    rw [hk, inUnits, if_pos (Int.natCast_nonneg _), Int.toNat_natCast]
    exact congrArg (num, ·) (by rw [Nat.pow_eq, Nat.pow_succ]; ring)
  rcases Nat.eq_zero_or_pos num with rfl | hpos
  · exact iff_of_true rfl (by omega)
  obtain ⟨hupper, hlower⟩ := exponentOf_spec hpos.ne' hden
  rw [isFinite_ofRatio_iff negative hpos.ne' hunits, hbound, hk]
  generalize exponentOf num den = e at *
  -- Below the greatest exponent a quotient stays finite and above it none does. At it, rounding up
  -- to the next power of two decides.
  rcases Int.lt_trichotomy e ((k + 1 : Nat) : Int) with hexp | hexp | hexp
  · have hsmall := (div_lt_two_pow_iff (k := k) (m := 53) hden).mp
      (hupper.trans_le (zpow_le_zpow_right₀ one_le_two (by omega)))
    exact iff_of_true (.inl hexp) (by omega)
  · have hnum := (div_lt_two_pow_iff (k := k) (m := 54) hden).mp
      (hupper.trans_le (zpow_le_zpow_right₀ one_le_two (by omega)))
    have hround := divEven_eq_succ_iff (n := num) (h := den * 2 ^ k) hodd (by omega)
    refine ⟨?_, fun h => .inr ⟨hexp, fun hup => ?_⟩⟩
    · rintro (hless | ⟨-, hdown⟩)
      · omega
      · have := mt hround.mpr hdown
        omega
    · have := hround.mp hup
      omega
  · have hleast : leastExponent < e := by
      unfold leastExponent
      omega
    have hlarge := mt (div_lt_two_pow_iff (k := k) (m := 54) hden).mpr
      (not_lt_of_ge ((zpow_le_zpow_right₀ one_le_two (by omega)).trans (hlower hleast)))
    exact iff_of_false (by omega) (by omega)

/-- The least integer that rounds to an infinity: `2 ^ 1024` less half a place of the largest finite
number. -/
def overflow : Nat := (2 ^ 54 - 1) * 2 ^ 970

/-- The integers that have no number next to them. -/
theorem ofInt?_eq_none_iff {i : Int} : ofInt? i = none ↔ overflow ≤ i.natAbs := by
  have hfinite : (ofRatio (decide (i < 0)) i.natAbs 1).isFinite = true ↔ i.natAbs < overflow := by
    rw [overflow, ← Nat.one_mul (2 ^ 970)]
    exact isFinite_ofRatio_iff_lt rfl _ _ one_ne_zero
  rw [← Nat.not_lt, ← hfinite, ofInt?]
  cases ofRatio (decide (i < 0)) i.natAbs 1 <;> simp [isFinite]

/-! ### Adding a half -/

/-- **A number of the format**: its significand has 53 bits, and its exponent is not beyond the
greatest. -/
def InRange : Binary64 → Prop
  | .finite _ m e => m < 2 ^ 53 ∧ e ≤ greatestExponent
  | _ => True

theorem divEven_le (n d : Nat) : divEven n d ≤ n / d + 1 := by
  unfold divEven
  dsimp only
  split
  · omega
  · split
    · omega
    · have := Nat.mod_lt (n / d) Nat.two_pos
      omega

theorem inRange_ofRatio (negative : Bool) (num : Nat) (hden : den ≠ 0) :
    (ofRatio negative num den).InRange := by
  unfold ofRatio
  split
  · exact ⟨Nat.two_pow_pos 53, by decide⟩
  · next hnum =>
    extract_lets e
    rcases hunits : inUnits num den e with ⟨n, d⟩
    obtain ⟨hd, hquot⟩ := inUnits_spec hden hunits
    have hdpos : (0 : Rat) < d := by exact_mod_cast Nat.pos_of_ne_zero hd
    have hless : n < 2 ^ 53 * d := by
      have hupper := (exponentOf_spec hnum hden).1
      rw [zpow_add₀ two_ne_zero, ← div_lt_iff₀' (zpow_pos two_pos _)] at hupper
      have hn : (n : Rat) / d < 2 ^ (53 : Int) := hquot ▸ hupper
      rw [div_lt_iff₀ hdpos] at hn
      exact_mod_cast hn
    have hround : divEven n d ≤ 2 ^ 53 :=
      (divEven_le n d).trans ((Nat.div_lt_iff_lt_mul (Nat.pos_of_ne_zero hd)).mpr hless)
    dsimp only
    -- What is rounded up to the next power of two has the least significand again.
    by_cases hnext : divEven n d = Nat.pow 2 53
    · rw [if_pos hnext]
      dsimp only
      split
      · trivial
      · next he => exact ⟨Nat.pow_lt_pow_right (by decide) (by decide), Int.not_lt.mp he⟩
    · rw [if_neg hnext]
      dsimp only
      split
      · trivial
      · next he => exact ⟨lt_of_le_of_ne hround hnext, Int.not_lt.mp he⟩

theorem abs_toRat (negative : Bool) (m : Nat) (e : Int) :
    |(finite negative m e).toRat| = m * 2 ^ e := by
  have hsign (q : Rat) : |if negative then -q else q| = |q| := by
    cases negative with
    | true => exact abs_neg q
    | false => rfl
  unfold toRat
  dsimp only
  rw [hsign]
  split
  · next he =>
    obtain ⟨k, rfl⟩ := Int.eq_ofNat_of_zero_le he
    rw [Int.toNat_natCast, zpow_natCast, abs_of_nonneg (by positivity)]
    push_cast [Nat.pow_eq]
    rfl
  · next he =>
    obtain ⟨k, hk⟩ := Int.eq_ofNat_of_zero_le (show 0 ≤ -e by omega)
    obtain rfl : e = -(k : Int) := by omega
    rw [neg_neg, Int.toNat_natCast, zpow_neg, zpow_natCast, Rat.mkRat_eq_div,
      abs_of_nonneg (by positivity)]
    push_cast [Nat.pow_eq]
    rfl

/-- A number of the format lies by more than a half below the bound. -/
theorem abs_toRat_add_half_lt {k : Nat} (hk : greatestExponent = ((k + 1 : Nat) : Int))
    {x : Binary64} (hx : x.InRange) : |x.toRat| + 1 / 2 < (2 ^ 54 - 1) * 2 ^ k := by
  have hone : (1 : Rat) ≤ 2 ^ k := one_le_pow₀ one_le_two
  cases x with
  | nan | infinite =>
    show |(0 : Rat)| + 1 / 2 < _
    rw [abs_zero]
    linarith
  | finite negative m e =>
    obtain ⟨hm, he⟩ := hx
    have hm' : (m : Rat) ≤ 2 ^ 53 - 1 := by
      have : (m : Rat) + 1 ≤ 2 ^ 53 := by exact_mod_cast hm
      linarith
    have he' : (2 : Rat) ^ e ≤ 2 ^ k * 2 := by
      refine (zpow_le_zpow_right₀ one_le_two (he.trans_eq hk)).trans_eq ?_
      rw [zpow_natCast, pow_succ]
    -- The greatest number is below the bound by `2 ^ k`.
    have hprod : (m : Rat) * 2 ^ e ≤ (2 ^ 53 - 1) * (2 ^ k * 2) :=
      mul_le_mul hm' he' (by positivity) (by norm_num)
    rw [abs_toRat]
    linarith

theorem isFinite_ofRat {k : Nat} (hk : greatestExponent = ((k + 1 : Nat) : Int)) {q : Rat}
    (hq : |q| < (2 ^ 54 - 1) * 2 ^ k) : (ofRat q).isFinite = true := by
  have hden : (0 : Rat) < q.den := by exact_mod_cast q.den_pos
  have hnum : (q.num.natAbs : Rat) = |q| * q.den := by
    rw [Nat.cast_natAbs, Int.cast_abs]
    nth_rewrite 1 [← Rat.mul_den_eq_num q]
    rw [abs_mul, abs_of_pos hden]
  refine (isFinite_ofRatio_iff_lt hk _ _ q.den_ne_zero).mpr ?_
  have hlt : (q.num.natAbs : Rat) < (2 ^ 54 - 1) * (q.den * 2 ^ k) := by
    rw [hnum]
    calc |q| * q.den < (2 ^ 54 - 1) * 2 ^ k * q.den := by gcongr
      _ = (2 ^ 54 - 1) * (q.den * 2 ^ k) := by ring
  have hcast : ((2 ^ 54 - 1 : Nat) : Rat) = 2 ^ 54 - 1 := by norm_num
  rw [← hcast] at hlt
  exact_mod_cast hlt

/-- **Every finite number of the format can be rounded to an integer**: it stays finite when a half
is added. -/
theorem exists_roundHalfUp_eq_ok {x : Binary64} (hx : x.InRange) (hfinite : x.isFinite = true) :
    ∃ n, Arithmetic.roundHalfUp x = .ok n := by
  have hhalf : (Arithmetic.div (Arithmetic.ofNat 1) (Arithmetic.ofNat 2) : Binary64) =
      .finite false (2 ^ 52) (-53) := by decide +kernel
  have hvalue : (finite false (2 ^ 52) (-53)).toRat = 1 / 2 := by decide +kernel
  -- Rounding down can fail at an infinity only, and the sum is none.
  cases x with
  | nan | infinite => cases hfinite
  | finite negative m e =>
    have hsum : ((finite negative m e).add (.finite false (2 ^ 52) (-53))).isFinite = true := by
      unfold add
      dsimp only
      rw [hvalue]
      split
      · rfl
      · refine isFinite_ofRat (k := 970) rfl ((abs_add_le _ _).trans_lt ?_)
        have := abs_toRat_add_half_lt (k := 970) rfl hx
        rwa [abs_of_pos (show (0 : Rat) < 1 / 2 by norm_num)]
    rw [Arithmetic.roundHalfUp, hhalf]
    show ∃ n, floor? (add _ _) = .ok n
    cases hadd : (finite negative m e).add (.finite false (2 ^ 52) (-53)) with
    | nan | infinite =>
      rw [hadd] at hsum
      cases hsum
    | finite => exact ⟨_, rfl⟩

/-- A product is a number of the format. -/
theorem inRange_mul (x y : Binary64) : (x * y).InRange := by
  have hinfinite (c s : Bool) : (if c then nan else infinite s).InRange := by
    cases c <;> trivial
  show (x.mul y).InRange
  cases x with
  | nan => trivial
  | infinite a =>
    cases y with
    | nan => trivial
    | infinite b => exact hinfinite (infinite b).isZero _
    | finite => exact hinfinite _ _
  | finite =>
    cases y with
    | nan => trivial
    | infinite b => exact hinfinite _ _
    | finite => exact inRange_ofRatio _ _ (Rat.den_ne_zero _)

end Binary64

theorem Decimal.toBinary64_ne_nan (d : Decimal) : d.toBinary64 ≠ .nan := by
  unfold toBinary64
  split
  · exact Binary64.zero_ne_nan _
  · dsimp only
    split
    · intro h
      cases h
    · split
      · exact Binary64.zero_ne_nan _
      · split <;> exact Binary64.ofRatio_ne_nan _ _ _

/-! ### Exact numbers -/

namespace Exact

theorem ofNat_eq (n : Nat) : (Arithmetic.ofNat n : Exact) = .rational n := rfl

theorem lt_rational_iff {p q : Rat} :
    Arithmetic.lt (Exact.rational p) (.rational q) = true ↔ p < q := decide_eq_true_iff

theorem add_rational (p q : Rat) :
    Arithmetic.add (Exact.rational p) (.rational q) = .rational (p + q) := rfl

theorem mul_rational (p q : Rat) :
    Arithmetic.mul (Exact.rational p) (.rational q) = .rational (p * q) := rfl

theorem div_rational {q : Rat} (hq : q ≠ 0) (p : Rat) :
    Arithmetic.div (Exact.rational p) (.rational q) = .rational (p / q) :=
  if_pos hq

theorem roundHalfUp_rational (q : Rat) :
    Arithmetic.roundHalfUp (Exact.rational q) = .ok (q + 1 / 2).floor := by
  rw [Arithmetic.roundHalfUp, ofNat_eq, ofNat_eq, div_rational (by decide), add_rational]
  rfl

end Exact

theorem floor_add_half_mono {p q : Rat} (h : p ≤ q) : (p + 1 / 2).floor ≤ (q + 1 / 2).floor := by
  rw [Rat.le_floor_iff]
  calc ((p + 1 / 2).floor : Rat) ≤ p + 1 / 2 := Rat.le_floor_iff.mp (le_refl _)
    _ ≤ q + 1 / 2 := add_le_add_left h _

theorem floor_natCast_add_half (n : Nat) : ((n : Rat) + 1 / 2).floor = n := by
  apply le_antisymm
  · rw [← Int.lt_add_one_iff, Rat.floor_lt_iff, Int.cast_add, Int.cast_natCast]
    exact add_lt_add_right (by decide +kernel) _
  · exact Rat.le_floor_iff.mpr (by simp)

end StaticSite
