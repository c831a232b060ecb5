import Mathlib.Algebra.Order.Field.Rat
import Mathlib.Algebra.Order.Ring.Abs
import Mathlib.Data.Rat.Cast.Order
import Mathlib.Tactic.FieldSimp
import Mathlib.Tactic.Linarith
import Mathlib.Tactic.Ring
import ServiceTopology.Number.Rounding

/-!
# Nearest numbers

A format is a set of rationals. What makes a number of the format the nearest one to an exact number is stated without
reference to how it is computed: on a tie between two neighbours it is the one that is an even multiple of the distance
between them.

Everything else about a rounding follows from that alone, above all that it keeps the order of the numbers rounded. The
multiples of a unit are the format in which rounding a quotient finds the nearest number.
-/

namespace ServiceTopology.Number

/-- A number is a whole multiple of a unit. -/
def IsMultiple (unit value : Rat) : Prop := ∃ count : Int, value = count * unit

/-- A number of a format is the nearest one to an exact number. Where another one is as near, it is the even one of the
two: it is an even multiple of their distance. -/
structure IsNearest (Format : Rat → Prop) (exact nearest : Rat) : Prop where
  mem : Format nearest
  near : ∀ other, Format other → |nearest - exact| ≤ |other - exact|
  even : ∀ other, Format other → other ≠ nearest → |other - exact| = |nearest - exact| →
    IsMultiple (2 * |nearest - other|) nearest

namespace IsNearest

variable {Format Second : Rat → Prop} {x y v w : Rat}

/-- A number of the format is the nearest one to itself. -/
theorem of_mem (h : Format x) : IsNearest Format x x where
  mem := h
  near other _ := by
    rw [sub_self, abs_zero]
    exact abs_nonneg _
  even other _ hother hdistance := by
    rw [sub_self, abs_zero, abs_eq_zero, sub_eq_zero] at hdistance
    exact absurd hdistance hother

/-- Two numbers are not both even multiples of their distance. -/
theorem not_both_even (hlt : w < v) (hv : IsMultiple (2 * |v - w|) v) (hw : IsMultiple (2 * |w - v|) w) : False := by
  obtain ⟨j, hj⟩ := hv
  obtain ⟨k, hk⟩ := hw
  have hgap : 0 < v - w := sub_pos.mpr hlt
  rw [abs_sub_comm w v, abs_of_pos hgap] at hk
  rw [abs_of_pos hgap] at hj
  have hproduct : (2 * (j - k) : Rat) * (v - w) = 1 * (v - w) := by linarith
  have hone : ((2 * (j - k) : Int) : Rat) = ((1 : Int) : Rat) := by
    push_cast
    exact mul_right_cancel₀ hgap.ne' hproduct
  have hparity : 2 * (j - k) = 1 := Int.cast_injective hone
  omega

/-- The greater of two numbers is only as near from their middle on. -/
theorem middle_le (hlt : w < v) (hnear : |v - x| ≤ |w - x|) : v + w ≤ 2 * x := by
  by_contra hnot
  have hcloser : |w - x| < v - x := abs_lt.mpr ⟨by linarith, sub_lt_sub_right hlt x⟩
  exact absurd hnear (not_le_of_gt (hcloser.trans_le (le_abs_self _)))

/-- The lesser of two numbers is only as near up to their middle. -/
theorem le_middle (hlt : w < v) (hnear : |w - x| ≤ |v - x|) : 2 * x ≤ v + w := by
  have hflip : |-w - -x| ≤ |-v - -x| := by rwa [neg_sub_neg, neg_sub_neg, abs_sub_comm x w, abs_sub_comm x v]
  linarith [middle_le (neg_lt_neg hlt) hflip]

/-- Rounding keeps the order. -/
theorem mono (hx : IsNearest Format x v) (hy : IsNearest Format y w) (hxy : x ≤ y) : v ≤ w := by
  by_contra hnot
  have hlt : w < v := lt_of_not_ge hnot
  have hv : |v - x| ≤ |w - x| := hx.near w hy.mem
  have hw : |w - y| ≤ |v - y| := hy.near v hx.mem
  -- Both exact numbers are the middle between the two, so that both times there is a tie.
  obtain rfl : x = y := by linarith [middle_le hlt hv, le_middle hlt hw]
  have htie : |w - x| = |v - x| := le_antisymm hw hv
  exact not_both_even hlt (hx.even w hy.mem hlt.ne htie) (hy.even v hx.mem hlt.ne' htie.symm)

/-- In a format with signs, the nearest number to the opposite is the opposite of the nearest number. -/
theorem neg (h : IsNearest Format x v) (hsigns : ∀ value, Format value → Format (-value)) :
    IsNearest Format (-x) (-v) := by
  have hflip (a b : Rat) : |a - -b| = |-a - b| := by rw [sub_neg_eq_add, ← neg_add', abs_neg]
  refine ⟨hsigns v h.mem, fun other hother => ?_, fun other hother hne hdistance => ?_⟩
  · rw [hflip, hflip, neg_neg]
    exact h.near (-other) (hsigns other hother)
  · rw [hflip, hflip, neg_neg] at hdistance
    obtain ⟨count, hcount⟩ := h.even (-other) (hsigns other hother)
      (fun heq => hne (by rw [← heq, neg_neg])) hdistance
    refine ⟨-count, ?_⟩
    rw [← hflip, Int.cast_neg, neg_mul, ← hcount]

/-- In a format with signs, a number is rounded by rounding its magnitude. Zero counts as either sign. -/
theorem of_abs {negative : Prop} [Decidable negative] (h : IsNearest Format |x| v)
    (hsigns : ∀ value, Format value → Format (-value)) (hnegative : negative → x ≤ 0)
    (hpositive : ¬negative → 0 ≤ x) : IsNearest Format x (if negative then -v else v) := by
  split
  case isTrue hsign =>
    rw [abs_of_nonpos (hnegative hsign)] at h
    rw [← neg_neg x]
    exact h.neg hsigns
  case isFalse hsign => rwa [abs_of_nonneg (hpositive hsign)] at h

/-- A nearest number stays the nearest one in a second format that has it, if what else the second format has is either
in the first one or farther away than some number of the first one. -/
theorem of_farther (h : IsNearest Format x v) (hmem : Second v)
    (hfarther : ∀ other, Second other → Format other ∨ ∃ closer, Format closer ∧ |closer - x| < |other - x|) :
    IsNearest Second x v := by
  refine ⟨hmem, fun other hother => ?_, fun other hother hne hdistance => ?_⟩
  · obtain hshared | ⟨closer, hcloser, hlt⟩ := hfarther other hother
    · exact h.near other hshared
    · exact (h.near closer hcloser).trans hlt.le
  · obtain hshared | ⟨closer, hcloser, hlt⟩ := hfarther other hother
    · exact h.even other hshared hne hdistance
    · exact absurd hdistance ((h.near closer hcloser).trans_lt hlt).ne'

/-- The nearest multiple of a unit is within half of it. -/
theorem abs_sub_le {unit : Rat} (hunit : 0 < unit) (h : IsNearest (IsMultiple unit) x v) :
    |v - x| ≤ unit / 2 := by
  obtain ⟨count, hcount⟩ := h.mem
  have hbelow : |v - x| ≤ |v - unit - x| := h.near _ ⟨count - 1, by rw [hcount]; push_cast; ring⟩
  have habove : |v - x| ≤ |v + unit - x| := h.near _ ⟨count + 1, by rw [hcount]; push_cast; ring⟩
  have hlow : v + (v - unit) ≤ 2 * x := middle_le (sub_lt_self v hunit) hbelow
  have hhigh : 2 * x ≤ v + unit + v := le_middle (lt_add_of_pos_right v hunit) habove
  rw [abs_sub_le_iff]
  constructor <;> linarith

end IsNearest

/-! ## Multiples of a unit -/

/-- Multiples of a unit have signs. -/
theorem IsMultiple.neg {unit value : Rat} (h : IsMultiple unit value) : IsMultiple unit (-value) := by
  obtain ⟨count, rfl⟩ := h
  exact ⟨-count, by push_cast; ring⟩

/-- Different multiples of a unit are at least a unit apart. -/
theorem IsMultiple.le_abs_sub {unit v w : Rat} (hunit : 0 < unit) (hv : IsMultiple unit v) (hw : IsMultiple unit w)
    (hne : w ≠ v) : unit ≤ |w - v| := by
  obtain ⟨j, rfl⟩ := hv
  obtain ⟨k, rfl⟩ := hw
  have hcounts : k - j ≠ 0 := fun h => hne (by rw [sub_eq_zero.mp h])
  have hone : (1 : Rat) ≤ |((k - j : Int) : Rat)| := by
    rw [← Int.cast_abs]
    exact_mod_cast Int.one_le_abs hcounts
  calc unit = 1 * unit := (one_mul unit).symm
    _ ≤ |((k - j : Int) : Rat)| * unit := mul_le_mul_of_nonneg_right hone hunit.le
    _ = |k * unit - j * unit| := by rw [← sub_mul, abs_mul, abs_of_pos hunit, Int.cast_sub]

/-- A multiple within half a unit is the nearest one if it is even whenever it is exactly half a unit away. -/
theorem isNearest_multiple {unit x v : Rat} (hunit : 0 < unit) (hv : IsMultiple unit v)
    (hnear : |v - x| ≤ unit / 2) (heven : |v - x| = unit / 2 → IsMultiple (2 * unit) v) :
    IsNearest (IsMultiple unit) x v := by
  have hsplit (w : Rat) : |w - v| ≤ |w - x| + |v - x| := by
    rw [abs_sub_comm v x]
    exact abs_sub_le w x v
  refine ⟨hv, fun other hother => ?_, fun other hother hne hdistance => ?_⟩
  · by_cases hne : other = v
    · rw [hne]
    · have hapart := hv.le_abs_sub hunit hother hne
      linarith [hsplit other]
  · have hapart := hv.le_abs_sub hunit hother hne
    have hsum := hsplit other
    have hhalf : |v - x| = unit / 2 := by linarith
    have hunit : |v - other| = unit := by
      rw [abs_sub_comm]
      linarith
    rw [hunit]
    exact heven hhalf

/-- A quotient in the middle between two naturals is rounded to an even one. -/
theorem even_roundQuotient {n d : Nat} (hd : 0 < d)
    (htie : 2 * (roundQuotient n d * d) = 2 * n + d ∨ 2 * n = 2 * (roundQuotient n d * d) + d) :
    roundQuotient n d % 2 = 0 := by
  apply roundQuotient_tie_even
  have hsplit : d * (n / d) + n % d = n := Nat.div_add_mod n d
  have hlt : n % d < d := Nat.mod_lt _ hd
  have hstay : n / d * d = d * (n / d) := Nat.mul_comm ..
  have hstep : (n / d + 1) * d = d * (n / d) + d := by rw [Nat.succ_mul, hstay]
  unfold roundQuotient at htie
  simp only at htie
  split at htie
  · omega
  · split at htie <;> omega

/-- A rounded quotient is within a half of the exact one, and even when it is exactly a half away. -/
theorem abs_roundQuotient_sub {n d : Nat} (hd : 0 < d) :
    |(roundQuotient n d : Rat) - n / d| ≤ 1 / 2 ∧
      (|(roundQuotient n d : Rat) - n / d| = 1 / 2 → roundQuotient n d % 2 = 0) := by
  obtain ⟨habove, hbelow⟩ := roundQuotient_near n d hd
  have heven := even_roundQuotient (n := n) hd
  generalize roundQuotient n d = r at *
  have hd' : (0 : Rat) < d := Nat.cast_pos.mpr hd
  have hscaled : |(r : Rat) - n / d| * d = |(r * d : Rat) - n| := by
    rw [← abs_of_pos hd', ← abs_mul, abs_of_pos hd', sub_mul, div_mul_cancel₀ _ hd'.ne']
  have habove' : (2 * (r * d) : Rat) ≤ 2 * n + d := by exact_mod_cast habove
  have hbelow' : (2 * n : Rat) ≤ 2 * (r * d) + d := by exact_mod_cast hbelow
  constructor
  · apply le_of_mul_le_mul_right _ hd'
    rw [hscaled, abs_sub_le_iff]
    constructor <;> linarith
  · intro htie
    apply heven
    rw [htie] at hscaled
    rcases abs_cases ((r * d : Rat) - n) with ⟨hside, _⟩ | ⟨hside, _⟩
    · left
      have hcast : (2 * (r * d) : Rat) = 2 * n + d := by linarith
      exact_mod_cast hcast
    · right
      have hcast : (2 * n : Rat) = 2 * (r * d) + d := by linarith
      exact_mod_cast hcast

/-- Rounding a quotient finds the nearest multiple of a unit. -/
theorem isNearest_roundQuotient {n d : Nat} {unit : Rat} (hd : 0 < d) (hunit : 0 < unit) :
    IsNearest (IsMultiple unit) (n / d * unit) (roundQuotient n d * unit) := by
  obtain ⟨hhalf, heven⟩ := abs_roundQuotient_sub (n := n) hd
  generalize roundQuotient n d = r at *
  have hdistance : |r * unit - n / d * unit| = |(r : Rat) - n / d| * unit := by
    rw [← sub_mul, abs_mul, abs_of_pos hunit]
  apply isNearest_multiple hunit ⟨r, by push_cast; rfl⟩
  · rw [hdistance]
    linarith [mul_le_mul_of_nonneg_right hhalf hunit.le]
  · intro htie
    have hmiddle : |(r : Rat) - n / d| = 1 / 2 := by
      apply mul_right_cancel₀ hunit.ne'
      rw [← hdistance, htie]
      ring
    have hr : r = r / 2 * 2 := by
      have hmod := heven hmiddle
      omega
    refine ⟨(r / 2 : Nat), ?_⟩
    rw [← mul_assoc]
    congr 1
    exact_mod_cast hr

end ServiceTopology.Number
