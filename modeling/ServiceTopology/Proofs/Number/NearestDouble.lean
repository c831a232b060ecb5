import ServiceTopology.Number.Double
import ServiceTopology.Proofs.Number.Nearest

/-!
# The nearest double

Rounding to the double format finds the nearest number of the format, and it finds none exactly for the magnitudes from
the middle between the largest finite number and `2 ^ 1024` on. The error is at most a part in `2 ^ 53`, apart from
numbers so small that the format has fewer significant bits for them.

The format is first taken without its upper bound. Around an exact number it looks like the multiples of one power of
two, because numbers with a finer last bit lie below the binade of the exact number. The bound is looked at afterwards.
-/

namespace ServiceTopology.Double

open ServiceTopology.Number

/-- A number has at most 53 significant bits, none of them below `2 ^ (-1074)`. -/
def IsPrecise (value : Rat) : Prop :=
  ∃ significand exponent : Int, |significand| < 2 ^ 53 ∧ -1074 ≤ exponent ∧ value = significand * 2 ^ exponent

/-- A number is a finite number of the format. -/
def IsFinite (value : Rat) : Prop := IsPrecise value ∧ |value| < 2 ^ 1024

/-- Numbers of the format have signs. -/
theorem IsPrecise.neg {value : Rat} (h : IsPrecise value) : IsPrecise (-value) := by
  obtain ⟨significand, exponent, hsignificand, hexponent, rfl⟩ := h
  refine ⟨-significand, exponent, ?_, hexponent, ?_⟩
  · rwa [abs_neg]
  · rw [Int.cast_neg, neg_mul]

/-- Integers up to `2 ^ 53` are finite numbers of the format. -/
theorem isFinite_intCast {n : Int} (h : |n| ≤ 2 ^ 53) : IsFinite n := by
  constructor
  · obtain hlt | heq := h.lt_or_eq
    · exact ⟨n, 0, hlt, by decide, by rw [zpow_zero, mul_one]⟩
    · obtain rfl | rfl := abs_eq (by decide) |>.mp heq
      · exact ⟨2 ^ 52, 1, by decide, by decide, by norm_num⟩
      · exact ⟨-2 ^ 52, 1, by decide, by decide, by norm_num⟩
  · have hcast : |(n : Rat)| ≤ 2 ^ 53 := by exact_mod_cast h
    exact hcast.trans_lt (pow_lt_pow_right₀ one_lt_two (by decide))

/-! ## Powers of two -/

/-- Powers of two grow with their exponents. -/
theorem two_zpow_le {e f : Int} (h : e ≤ f) : (2 : Rat) ^ e ≤ 2 ^ f := zpow_le_zpow_right₀ one_le_two h

/-- A power of two is positive. -/
theorem two_zpow_pos (e : Int) : (0 : Rat) < 2 ^ e := zpow_pos two_pos e

/-- A natural amount added to an exponent is a natural power in front. -/
theorem two_zpow_add (e : Int) (k : Nat) : (2 : Rat) ^ (e + k) = 2 ^ k * 2 ^ e := by
  rw [zpow_add₀ two_ne_zero, zpow_natCast, mul_comm]

/-- A power of two is a multiple of every smaller one. -/
theorem isMultiple_two_zpow {e f : Int} (h : e ≤ f) : IsMultiple (2 ^ e) (2 ^ f) := by
  obtain ⟨k, rfl⟩ := Int.le.dest h
  refine ⟨2 ^ k, ?_⟩
  rw [two_zpow_add, Int.cast_pow, Int.cast_ofNat]

/-- A natural power of two is one of the rational powers. -/
theorem cast_natPow (k : Nat) : ((Nat.pow 2 k : Nat) : Rat) = 2 ^ k := by
  rw [Nat.pow_eq, Nat.cast_pow, Nat.cast_ofNat]

/-- The two natural powers that stand for a power of two. -/
theorem two_zpow_mul (e : Int) :
    (2 : Rat) ^ e * (Nat.pow 2 (-e).toNat : Nat) = (Nat.pow 2 e.toNat : Nat) := by
  rw [cast_natPow, cast_natPow, ← zpow_natCast, ← zpow_natCast, ← zpow_add₀ two_ne_zero]
  congr 1
  omega

/-- The quotient that is rounded has as many powers of two as the exact one. -/
theorem scaled_quotient (n : Nat) {d : Nat} (hd : 0 < d) (e : Int) :
    ((n * Nat.pow 2 (-e).toNat : Nat) : Rat) / ((d * Nat.pow 2 e.toNat : Nat) : Rat) * 2 ^ e = n / d := by
  have hd' : (d : Rat) ≠ 0 := Nat.cast_ne_zero.mpr hd.ne'
  have hpow : ((Nat.pow 2 e.toNat : Nat) : Rat) ≠ 0 := Nat.cast_ne_zero.mpr (Nat.two_pow_pos _).ne'
  rw [div_mul_eq_mul_div, div_eq_div_iff (by rw [Nat.cast_mul]; exact mul_ne_zero hd' hpow) hd', Nat.cast_mul,
    Nat.cast_mul, ← two_zpow_mul e]
  ring

/-! ## Binades -/

/-- The test in the binade compares a quotient with a power of two. -/
theorem lt_two_zpow_iff (n : Nat) {d : Nat} (hd : 0 < d) (e : Int) :
    n * Nat.pow 2 (-e).toNat < d * Nat.pow 2 e.toNat ↔ (n / d : Rat) < 2 ^ e := by
  have hscaled : (0 : Rat) < ((d * Nat.pow 2 e.toNat : Nat) : Rat) :=
    Nat.cast_pos.mpr (Nat.mul_pos hd (Nat.two_pow_pos _))
  rw [← scaled_quotient n hd e, mul_lt_iff_lt_one_left (two_zpow_pos e), div_lt_one₀ hscaled, Nat.cast_lt]

/-- A positive number lies between two neighbouring powers of two. -/
theorem log2_bounds {n : Nat} (hn : 0 < n) :
    (2 : Rat) ^ (n.log2 : Int) ≤ n ∧ (n : Rat) < 2 ^ ((n.log2 : Int) + 1) := by
  constructor
  · rw [zpow_natCast]
    exact_mod_cast Nat.log2_self_le hn.ne'
  · rw [← Nat.cast_succ, zpow_natCast]
    exact_mod_cast Nat.lt_log2_self

/-- A positive quotient lies in its binade. -/
theorem binade_bounds {n d : Nat} (hn : 0 < n) (hd : 0 < d) :
    (2 : Rat) ^ binade n d ≤ n / d ∧ (n / d : Rat) < 2 ^ (binade n d + 1) := by
  obtain ⟨hn_low, hn_high⟩ := log2_bounds hn
  obtain ⟨hd_low, hd_high⟩ := log2_bounds hd
  have hd' : (0 : Rat) < d := Nat.cast_pos.mpr hd
  have hhigh : (n / d : Rat) < 2 ^ ((n.log2 : Int) - d.log2 + 1) := by
    rw [div_lt_iff₀ hd']
    calc (n : Rat) < 2 ^ ((n.log2 : Int) + 1) := hn_high
      _ = 2 ^ ((n.log2 : Int) - d.log2 + 1) * 2 ^ (d.log2 : Int) := by
        rw [← zpow_add₀ two_ne_zero]
        congr 1
        omega
      _ ≤ 2 ^ ((n.log2 : Int) - d.log2 + 1) * d := mul_le_mul_of_nonneg_left hd_low (two_zpow_pos _).le
  have hlow : (2 : Rat) ^ ((n.log2 : Int) - d.log2 - 1) ≤ n / d := by
    rw [le_div_iff₀ hd']
    calc (2 : Rat) ^ ((n.log2 : Int) - d.log2 - 1) * d
        ≤ 2 ^ ((n.log2 : Int) - d.log2 - 1) * 2 ^ ((d.log2 : Int) + 1) :=
          mul_le_mul_of_nonneg_left hd_high.le (two_zpow_pos _).le
      _ = 2 ^ (n.log2 : Int) := by
        rw [← zpow_add₀ two_ne_zero]
        congr 1
        omega
      _ ≤ n := hn_low
  unfold binade
  simp only [lt_two_zpow_iff n hd]
  split
  case isTrue hbelow => exact ⟨hlow, by rwa [sub_add_cancel]⟩
  case isFalse habove => exact ⟨le_of_not_gt habove, hhigh⟩

/-- A positive quotient has at most 53 bits above the spacing at it. -/
theorem quotient_lt {n d : Nat} (hn : 0 < n) (hd : 0 < d) : (n / d : Rat) < 2 ^ (spacing n d + 53) := by
  apply (binade_bounds hn hd).2.trans_le
  apply two_zpow_le
  unfold spacing
  omega

/-- Unless the spacing is the finest one, a quotient has all of the 53 bits. -/
theorem le_quotient {n d : Nat} (hn : 0 < n) (hd : 0 < d) (hspacing : -1074 < spacing n d) :
    (2 : Rat) ^ (spacing n d + 52) ≤ n / d := by
  have hbinade : spacing n d + 52 = binade n d := by
    unfold spacing at *
    omega
  rw [hbinade]
  exact (binade_bounds hn hd).1

/-! ## Rounding without a bound -/

/-- A quotient rounded to the multiples of the spacing at it. -/
def rounded (n d : Nat) : Rat := significand n d * 2 ^ spacing n d

/-- The quotient is rounded to the nearest multiple of the spacing. -/
theorem isNearest_multiple_rounded (n : Nat) {d : Nat} (hd : 0 < d) :
    IsNearest (IsMultiple (2 ^ spacing n d)) (n / d) (rounded n d) := by
  have hscaled : 0 < d * Nat.pow 2 (spacing n d).toNat := Nat.mul_pos hd (Nat.two_pow_pos _)
  rw [← scaled_quotient n hd (spacing n d)]
  exact isNearest_roundQuotient hscaled (two_zpow_pos _)

/-- Zero is rounded to zero. -/
theorem significand_zero {d : Nat} (hd : 0 < d) : significand 0 d = 0 := by
  rw [significand, Nat.zero_mul, roundQuotient, Nat.zero_div, Nat.zero_mod]
  exact if_pos (Nat.mul_pos hd (Nat.two_pow_pos _))

/-- A rounded quotient has at most 53 bits above the spacing, or is the next power of two. -/
theorem significand_le (n : Nat) {d : Nat} (hd : 0 < d) : significand n d ≤ 2 ^ 53 := by
  obtain rfl | hn := n.eq_zero_or_pos
  · rw [significand_zero hd]
    exact Nat.zero_le _
  · have hpower : IsMultiple (2 ^ spacing n d) (2 ^ (spacing n d + 53)) := isMultiple_two_zpow (by omega)
    have hle : rounded n d ≤ 2 ^ (spacing n d + 53) :=
      (isNearest_multiple_rounded n hd).mono (IsNearest.of_mem hpower) (quotient_lt hn hd).le
    have hbits : (2 : Rat) ^ (spacing n d + 53) = 2 ^ 53 * 2 ^ spacing n d := two_zpow_add _ 53
    rw [rounded, hbits] at hle
    exact_mod_cast le_of_mul_le_mul_right hle (two_zpow_pos _)

/-- A rounded quotient has at most 53 significant bits. -/
theorem isPrecise_rounded (n : Nat) {d : Nat} (hd : 0 < d) : IsPrecise (rounded n d) := by
  have hspacing : -1074 ≤ spacing n d := le_max_right _ _
  obtain hlt | heq := (significand_le n hd).lt_or_eq
  · refine ⟨significand n d, spacing n d, ?_, hspacing, rfl⟩
    rw [Nat.abs_cast]
    exact_mod_cast hlt
  · refine ⟨2 ^ 52, spacing n d + 1, by decide, by omega, ?_⟩
    have hnext : (2 : Rat) ^ (spacing n d + 1) = 2 ^ 1 * 2 ^ spacing n d := two_zpow_add _ 1
    rw [rounded, heq, hnext]
    push_cast
    ring

/-- A number that is no multiple of the spacing at a quotient has a finer last bit, and then it lies below the binade
of the quotient. -/
theorem isMultiple_or_lt {n d : Nat} {value : Rat} (h : IsPrecise value) :
    IsMultiple (2 ^ spacing n d) value ∨ -1074 < spacing n d ∧ value < 2 ^ (spacing n d + 52) := by
  obtain ⟨significand, exponent, hsignificand, hexponent, rfl⟩ := h
  by_cases hcoarse : spacing n d ≤ exponent
  · left
    obtain ⟨count, hcount⟩ := isMultiple_two_zpow hcoarse
    refine ⟨significand * count, ?_⟩
    rw [hcount, Int.cast_mul, mul_assoc]
  · right
    refine ⟨by omega, ?_⟩
    have hbits : (significand : Rat) < 2 ^ 53 := by exact_mod_cast (abs_lt.mp hsignificand).2
    calc (significand : Rat) * 2 ^ exponent < 2 ^ 53 * 2 ^ exponent :=
          mul_lt_mul_of_pos_right hbits (two_zpow_pos _)
      _ = 2 ^ (exponent + 53) := (two_zpow_add exponent 53).symm
      _ ≤ 2 ^ (spacing n d + 52) := two_zpow_le (by omega)

/-- A quotient is rounded to the nearest number with 53 significant bits. -/
theorem isNearest_rounded (n : Nat) {d : Nat} (hd : 0 < d) : IsNearest IsPrecise (n / d) (rounded n d) := by
  obtain rfl | hn := n.eq_zero_or_pos
  · have hzero : rounded 0 d = 0 := by rw [rounded, significand_zero hd, Nat.cast_zero, zero_mul]
    have hprecise := isPrecise_rounded 0 hd
    rw [hzero] at hprecise
    rw [hzero, Nat.cast_zero, zero_div]
    exact IsNearest.of_mem hprecise
  · apply (isNearest_multiple_rounded n hd).of_farther (isPrecise_rounded n hd)
    intro other hother
    obtain hmultiple | ⟨hspacing, hlt⟩ := isMultiple_or_lt (n := n) (d := d) hother
    · exact Or.inl hmultiple
    · right
      have hbinade : (2 : Rat) ^ (spacing n d + 52) ≤ n / d := le_quotient hn hd hspacing
      refine ⟨2 ^ (spacing n d + 52), isMultiple_two_zpow (by omega), ?_⟩
      rw [abs_of_nonpos (sub_nonpos.mpr hbinade), abs_of_neg (sub_neg.mpr (hlt.trans_le hbinade))]
      linarith

/-! ## The bound of the format -/

/-- The rounded quotient is the quotient of the two naturals that are computed for it. -/
theorem significand_mul (n d : Nat) :
    ((significand n d * Nat.pow 2 (spacing n d).toNat : Nat) : Rat) =
      rounded n d * (Nat.pow 2 (-spacing n d).toNat : Nat) := by
  rw [rounded, mul_assoc, two_zpow_mul, Nat.cast_mul]

/-- A test against a bound may ignore the denominator, which is more than one only far below the bound. -/
theorem lt_bound_iff (n : Nat) {d bound : Nat} (hd : 0 < d) (hbound : 2 ^ 53 < bound) :
    significand n d * Nat.pow 2 (spacing n d).toNat < bound ↔ rounded n d < bound := by
  have hscaled := significand_mul n d
  by_cases hwhole : 0 ≤ spacing n d
  · have hone : Nat.pow 2 (-spacing n d).toNat = 1 := by rw [Int.toNat_of_nonpos (neg_nonpos.mpr hwhole)]
    rw [hone, Nat.cast_one, mul_one] at hscaled
    rw [← hscaled, Nat.cast_lt]
  · have hone : Nat.pow 2 (spacing n d).toNat = 1 := by rw [Int.toNat_of_nonpos (le_of_not_ge hwhole)]
    have hfine : (2 : Rat) ^ spacing n d ≤ 1 := by
      rw [← zpow_zero (2 : Rat)]
      exact two_zpow_le (le_of_not_ge hwhole)
    have hsignificand : significand n d < bound := (significand_le n hd).trans_lt hbound
    constructor
    · intro _
      calc rounded n d ≤ significand n d * 1 := mul_le_mul_of_nonneg_left hfine (Nat.cast_nonneg _)
        _ < bound := by
          rw [mul_one]
          exact_mod_cast hsignificand
    · intro _
      rw [hone, Nat.mul_one]
      exact hsignificand

/-- The quotient that is returned is the rounded one. -/
theorem mkRat_significand (n d : Nat) :
    mkRat ((significand n d * Nat.pow 2 (spacing n d).toNat : Nat) : Int) (Nat.pow 2 (-spacing n d).toNat) =
      rounded n d := by
  have hpow : ((Nat.pow 2 (-spacing n d).toNat : Nat) : Rat) ≠ 0 :=
    Nat.cast_ne_zero.mpr (Nat.two_pow_pos _).ne'
  rw [Rat.mkRat_eq_div, Int.cast_natCast, significand_mul, mul_div_cancel_right₀ _ hpow]

/-- The bound of the format is far beyond 53 bits. -/
theorem lt_bound : 2 ^ 53 < Nat.pow 2 1024 := by decide +kernel

/-- The bound of the format as a rational. -/
theorem cast_bound : ((Nat.pow 2 1024 : Nat) : Rat) = 2 ^ 1024 := by simp only [cast_natPow]

/-- A rounded quotient below the bound is the result. -/
theorem nearestMagnitude?_of_lt {n d : Nat} (hd : 0 < d) (h : rounded n d < 2 ^ 1024) :
    nearestMagnitude? n d = some (rounded n d) := by
  rw [← cast_bound, ← lt_bound_iff n hd lt_bound] at h
  unfold nearestMagnitude?
  simp only [mkRat_significand]
  exact if_pos h

/-- There is no result when the rounded quotient reaches the bound. -/
theorem nearestMagnitude?_of_le {n d : Nat} (hd : 0 < d) (h : 2 ^ 1024 ≤ rounded n d) :
    nearestMagnitude? n d = none := by
  rw [← cast_bound, ← not_lt, ← lt_bound_iff n hd lt_bound] at h
  unfold nearestMagnitude?
  exact if_neg h

/-- The middle between the largest finite number and the bound is rounded to the bound. -/
theorem isNearest_threshold : IsNearest IsPrecise (2 ^ 1024 - 2 ^ 970) (2 ^ 1024) := by
  have hspacing : spacing ((2 ^ 54 - 1) * Nat.pow 2 970) 1 = 971 := by decide +kernel
  have hsignificand : significand ((2 ^ 54 - 1) * Nat.pow 2 970) 1 = 2 ^ 53 := by decide +kernel
  have hnearest := isNearest_rounded ((2 ^ 54 - 1) * Nat.pow 2 970) Nat.one_pos
  have hexact : (((2 ^ 54 - 1) * Nat.pow 2 970 : Nat) : Rat) = 2 ^ 1024 - 2 ^ 970 := by
    have hsplit : (2 : Rat) ^ 1024 = 2 ^ 54 * 2 ^ 970 := pow_add 2 54 970
    have hbits : ((2 ^ 54 - 1 : Nat) : Rat) = 2 ^ 54 - 1 := by norm_num
    simp only [Nat.cast_mul, cast_natPow, hsplit, hbits, sub_mul, one_mul]
  have hresult : ((2 ^ 53 : Nat) : Rat) * 2 ^ (971 : Int) = 2 ^ 1024 := by
    rw [Nat.cast_pow, Nat.cast_ofNat]
    exact (pow_add (2 : Rat) 53 971).symm
  rwa [rounded, hspacing, hsignificand, Nat.cast_one, div_one, hexact, hresult] at hnearest

/-- Numbers up to `2 ^ 53` are far from the bound. -/
theorem lt_threshold : (2 : Rat) ^ 53 < 2 ^ 1024 - 2 ^ 970 :=
  calc (2 : Rat) ^ 53 < (2 ^ 54 - 1) * 1 := by norm_num
    _ ≤ (2 ^ 54 - 1) * 2 ^ 970 := mul_le_mul_of_nonneg_left (one_le_pow₀ one_le_two) (by norm_num)
    _ = 2 ^ 1024 - 2 ^ 970 := by rw [sub_mul, one_mul, ← pow_add]

/-- The largest finite number has 53 significant bits. -/
theorem isPrecise_largest : IsPrecise (2 ^ 1024 - 2 * 2 ^ 970) := by
  refine ⟨2 ^ 53 - 1, 971, by decide, by decide, ?_⟩
  have hsplit : (2 : Rat) ^ 1024 = 2 ^ 53 * (2 * 2 ^ 970) := by rw [← pow_succ', ← pow_add]
  have hspacing : (2 : Rat) ^ (971 : Int) = 2 * 2 ^ 970 := pow_succ' (2 : Rat) 970
  have hbits : ((2 ^ 53 - 1 : Int) : Rat) = 2 ^ 53 - 1 := by norm_num
  rw [hsplit, hspacing, hbits, sub_mul, one_mul]

/-- Rounding reaches the bound from the middle between the largest finite number and the bound on. -/
theorem bound_le_iff {x v : Rat} (h : IsNearest IsPrecise x v) : 2 ^ 1024 ≤ v ↔ 2 ^ 1024 - 2 ^ 970 ≤ x := by
  constructor
  · intro hv
    have hlargest := h.near _ isPrecise_largest
    have hhalf : (0 : Rat) < 2 ^ 970 := pow_pos two_pos 970
    generalize (2 : Rat) ^ 970 = half at *
    generalize (2 : Rat) ^ 1024 = bound at *
    have hlt : bound - 2 * half < v := by linarith
    linarith [IsNearest.middle_le hlt hlargest]
  · intro hx
    exact isNearest_threshold.mono h hx

/-! ## Rounding a rational -/

/-- The magnitude of a rational is the quotient that is rounded for it. -/
theorem quotient_eq_abs (x : Rat) : (x.num.natAbs : Rat) / x.den = |x| := by
  rw [Rat.abs_def, Rat.divInt_eq_div, Int.cast_natCast, Int.cast_natCast]

/-- The magnitude of a rational is rounded to the nearest number with 53 significant bits. -/
theorem isNearest_rounded_abs (x : Rat) : IsNearest IsPrecise |x| (rounded x.num.natAbs x.den) := by
  rw [← quotient_eq_abs]
  exact isNearest_rounded _ x.den_pos

/-- A number has no nearest double exactly when its magnitude is at least the middle between the largest finite number
and the bound. -/
theorem nearest?_eq_none_iff (x : Rat) : nearest? x = none ↔ 2 ^ 1024 - 2 ^ 970 ≤ |x| := by
  rw [nearest?, Option.map_eq_none_iff, ← bound_le_iff (isNearest_rounded_abs x)]
  constructor
  · intro hnone
    by_contra hlt
    rw [nearestMagnitude?_of_lt x.den_pos (lt_of_not_ge hlt)] at hnone
    cases hnone
  · intro hle
    exact nearestMagnitude?_of_le x.den_pos hle

/-- The result of rounding a number is the rounded magnitude with the sign of the number. -/
theorem nearest?_eq_some {x v : Rat} (h : nearest? x = some v) :
    rounded x.num.natAbs x.den < 2 ^ 1024 ∧
      v = if x < 0 then -rounded x.num.natAbs x.den else rounded x.num.natAbs x.den := by
  by_cases hlt : rounded x.num.natAbs x.den < 2 ^ 1024
  · rw [nearest?, nearestMagnitude?_of_lt x.den_pos hlt] at h
    exact ⟨hlt, (Option.some.inj h).symm⟩
  · rw [nearest?, nearestMagnitude?_of_le x.den_pos (le_of_not_gt hlt)] at h
    cases h

/-- The result of rounding a number is the nearest finite number of the format. -/
theorem isNearest_of_nearest? {x v : Rat} (h : nearest? x = some v) : IsNearest IsFinite x v := by
  obtain ⟨hlt, rfl⟩ := nearest?_eq_some h
  have hprecise := (isNearest_rounded_abs x).of_abs (fun _ => IsPrecise.neg) le_of_lt le_of_not_gt
  have hnonneg : 0 ≤ rounded x.num.natAbs x.den := mul_nonneg (Nat.cast_nonneg _) (two_zpow_pos _).le
  generalize rounded x.num.natAbs x.den = magnitude at *
  have habs : |if x < 0 then -magnitude else magnitude| = magnitude := by
    split
    · rw [abs_neg, abs_of_nonneg hnonneg]
    · exact abs_of_nonneg hnonneg
  exact hprecise.of_farther ⟨hprecise.mem, habs.trans_lt hlt⟩ fun other hother => Or.inl hother.1

/-- The error is at most a part in `2 ^ 53`, unless the number is smaller than any with 53 significant bits. -/
theorem abs_sub_le_of_nearest? {x v : Rat} (hx : x ≠ 0) (h : nearest? x = some v) :
    |v - x| ≤ |x| / 2 ^ 53 ∨ |x| < 2 ^ (-1021 : Int) ∧ |v - x| ≤ 2 ^ (-1075 : Int) := by
  obtain ⟨-, rfl⟩ := nearest?_eq_some h
  have hn : 0 < x.num.natAbs := Int.natAbs_pos.mpr (Rat.num_ne_zero.mpr hx)
  have hnearest := isNearest_multiple_rounded x.num.natAbs x.den_pos
  rw [quotient_eq_abs] at hnearest
  have herror := (hnearest.of_abs (fun _ => IsMultiple.neg) le_of_lt le_of_not_gt).abs_sub_le (two_zpow_pos _)
  by_cases hspacing : -1074 < spacing x.num.natAbs x.den
  · left
    have hlow := le_quotient hn x.den_pos hspacing
    have hbits : (2 : Rat) ^ (spacing x.num.natAbs x.den + 52) = 2 ^ 52 * 2 ^ spacing x.num.natAbs x.den :=
      two_zpow_add _ 52
    rw [quotient_eq_abs, hbits] at hlow
    rw [le_div_iff₀ (by positivity)]
    linarith
  · right
    have hfinest : spacing x.num.natAbs x.den = -1074 := le_antisymm (le_of_not_gt hspacing) (le_max_right _ _)
    have hlow := quotient_lt hn x.den_pos
    have hhalf : (-1074 : Int) = -1075 + (1 : Nat) := by decide
    rw [quotient_eq_abs, hfinest] at hlow
    rw [hfinest, hhalf, two_zpow_add] at herror
    exact ⟨hlow, by linarith⟩

end ServiceTopology.Double
