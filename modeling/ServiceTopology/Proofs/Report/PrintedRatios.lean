import ServiceTopology.Proofs.Number.NearestDouble
import ServiceTopology.Proofs.Number.ReadBack
import ServiceTopology.Report.Ratio

/-!
# Printed ratios

What the text of a ratio denotes. A whole ratio is printed exactly. Any other one within the range of the double format
is printed as the hundredth nearest to the double nearest to it, with two decimals and an optional minus sign, so that
the error is half a hundredth and a part in `2 ^ 53` at most. A larger one is not printed.

Both roundings keep the order, and neither changes an integer of magnitude `2 ^ 53` or less. Printed numbers of that
size are therefore ordered as the ratios are, whether they are whole or not. A minus sign in front of zeros denotes zero.
-/

namespace ServiceTopology

open ServiceTopology.Number ServiceTopology.Text

/-! ## Hundredths -/

/-- The two decimals of a number of hundredths below a whole. -/
def decimals (count : Nat) : List Char := [Nat.digitChar (count / 10), Nat.digitChar (count % 10)]

/-- Decimals are digits. -/
theorem isDigit_of_mem_decimals {count : Nat} (h : count < 100) : ∀ c ∈ decimals count, c.isDigit = true := by
  have htenths : count / 10 < 10 := Nat.div_lt_of_lt_mul h
  have hhundredths : count % 10 < 10 := Nat.mod_lt _ (by decide)
  intro c hc
  rw [decimals, List.mem_cons, List.mem_singleton] at hc
  obtain rfl | rfl := hc
  · rw [Nat.isDigit_digitChar, decide_eq_true htenths]
  · rw [Nat.isDigit_digitChar, decide_eq_true hhundredths]

/-- Decimals have the value that they stand for. -/
theorem digitsValue_decimals : ∀ count < 100, digitsValue (decimals count) = count := by
  decide +kernel

/-- A count of hundredths is printed as its wholes, a point and its decimals. -/
theorem twoDecimals_eq (count : Nat) :
    twoDecimals count = natDigits (count / 100) ++ '.' :: decimals (count % 100) := by
  rw [twoDecimals, decimals, Nat.mod_mod_of_dvd count (by decide)]

/-- A printed count of hundredths is read as so many hundredths. -/
theorem readRatio?_twoDecimals (negative : Bool) {count : Nat} (h : (natDigits (count / 100)).length ≤ digitLimit) :
    readRatio? ((if negative then ['-'] else []) ++ twoDecimals count) =
      some (if negative then -(count * (1 / 100) : Rat) else count * (1 / 100)) := by
  have hpart : count % 100 < 100 := Nat.mod_lt _ (by decide)
  have hlength : (decimals (count % 100)).length = 2 := rfl
  rw [twoDecimals_eq]
  apply readRatio?_point negative h (isDigit_of_mem_decimals hpart) (List.cons_ne_nil _ _)
  · rw [hlength]
    decide
  · have hcount : count / 100 * Nat.pow 10 2 + count % 100 = count := Nat.div_add_mod' count 100
    rw [digitsValue_decimals _ hpart, hlength, hcount, Rat.mkRat_eq_div, Int.cast_natCast, mul_one_div]
    rfl

/-- A magnitude is rounded to the nearest hundredth. -/
theorem isNearest_hundredths (d : Rat) : IsNearest (IsMultiple (1 / 100)) |d| (hundredths d * (1 / 100)) := by
  have hexact : ((d.num.natAbs * 100 : Nat) : Rat) / d.den * (1 / 100) = |d| := by
    rw [← Double.quotient_eq_abs]
    push_cast
    ring
  rw [← hexact]
  exact isNearest_roundQuotient d.den_pos (by decide +kernel)

/-- A number within a bound has no more wholes than the bound when it is rounded. -/
theorem hundredths_div_le {d : Rat} {bound : Nat} (h : |d| ≤ bound) : hundredths d / 100 ≤ bound := by
  have hbound : IsMultiple (1 / 100) (bound : Rat) := ⟨bound * 100, by push_cast; ring⟩
  have hle := (isNearest_hundredths d).mono (IsNearest.of_mem hbound) h
  have hcount : (hundredths d : Rat) ≤ (bound * 100 : Nat) := by
    push_cast
    linarith
  exact Nat.div_le_of_le_mul (Nat.mul_comm bound 100 ▸ Nat.cast_le.mp hcount)

/-- A number below half a hundredth is rounded to zero. -/
theorem eq_zero_of_nearest_hundredth {d v : Rat} (h : IsNearest (IsMultiple (1 / 100)) d v) (hd : |d| < 1 / 200) :
    v = 0 := by
  have hzero : IsMultiple (1 / 100) 0 := ⟨0, by rw [Int.cast_zero, zero_mul]⟩
  by_contra hne
  have hapart : 1 / 100 ≤ |v - 0| := hzero.le_abs_sub (by decide +kernel) h.mem hne
  have hnear : |v - d| ≤ |0 - d| := h.near 0 hzero
  have hsum : |v - 0| ≤ |v - d| + |d - 0| := abs_sub_le v d 0
  rw [zero_sub, abs_neg] at hnear
  rw [sub_zero d] at hsum
  linarith

/-! ## Ratios -/

/-- A text is printed for a ratio and read as a number. -/
structure Prints (x : Rat) (text : List Char) (value : Rat) : Prop where
  printed : printRatio x = .ok text
  read : readRatio? text = some value

/-- A text has two decimals: an optional minus sign, one or more digits, a point and two digits. -/
def HasTwoDecimals (text : List Char) : Prop :=
  ∃ sign whole part, text = sign ++ (whole ++ '.' :: part) ∧ (sign = [] ∨ sign = ['-']) ∧
    whole ≠ [] ∧ part.length = 2 ∧ ∀ c ∈ whole ++ part, c.isDigit = true

/-- A number is the hundredth nearest to the double nearest to an exact one. -/
def IsRoundedTwice (exact value : Rat) : Prop :=
  ∃ double, IsNearest Double.IsFinite exact double ∧ IsNearest (IsMultiple (1 / 100)) double value

/-- Rounding twice keeps the order. -/
theorem IsRoundedTwice.mono {x y v w : Rat} (hx : IsRoundedTwice x v) (hy : IsRoundedTwice y w) (h : x ≤ y) :
    v ≤ w := by
  obtain ⟨d, hd, hv⟩ := hx
  obtain ⟨e, he, hw⟩ := hy
  exact hv.mono hw (hd.mono he h)

/-- A writable whole ratio is printed as it is. -/
theorem prints_whole {x : Rat} (hwhole : x.den = 1) (hwritable : Writable x.num) :
    Prints x (intDigits x.num) x where
  printed := by rw [printRatio, if_pos hwhole, printInteger, if_pos hwritable]
  read := by
    have hone : Writable ((1 : Nat) : Int) := by decide +kernel
    have hread := readRatio?_ratioText hwritable (hwhole ▸ hone)
    rwa [toList_ratioText, denominatorText, if_pos hwhole, List.append_nil] at hread

/-- A ratio that is not whole is too large to be printed when it has no nearest double. -/
theorem printRatio_eq_ratioTooLarge_iff {x : Rat} (hpart : x.den ≠ 1) :
    printRatio x = .error .ratioTooLarge ↔ 2 ^ 1024 - 2 ^ 970 ≤ |x| := by
  rw [← Double.nearest?_eq_none_iff, printRatio, if_neg hpart]
  cases Double.nearest? x with
  | none => exact iff_of_true rfl rfl
  | some d => exact iff_of_false (fun h => by cases h) (Option.some_ne_none d)

section Rounded

variable {x d : Rat} (hd : Double.nearest? x = some d)

/-- Number that is printed for a ratio by its nearest double. -/
def printedValue (x d : Rat) : Rat := if x < 0 then -(hundredths d * (1 / 100) : Rat) else hundredths d * (1 / 100)

include hd

/-- The nearest double has the sign of the ratio, so that the sign of the ratio can be printed. -/
theorem isNearest_printedValue : IsNearest (IsMultiple (1 / 100)) d (printedValue x d) := by
  have hnearest := Double.isNearest_of_nearest? hd
  have hzero : IsNearest Double.IsFinite 0 0 := IsNearest.of_mem (Double.isFinite_intCast (n := 0) (by decide))
  exact (isNearest_hundredths d).of_abs (fun _ => IsMultiple.neg)
    (fun hnegative => hnearest.mono hzero hnegative.le)
    (fun hpositive => hzero.mono hnearest (le_of_not_gt hpositive))

/-- The wholes of a printed double have few digits. -/
theorem length_wholes_le : (natDigits (hundredths d / 100)).length ≤ digitLimit := by
  obtain ⟨-, hbound⟩ := (Double.isNearest_of_nearest? hd).mem
  rw [← Double.cast_bound] at hbound
  have hlimit : Nat.pow 2 1024 < Nat.pow 10 digitLimit := by decide +kernel
  exact length_natDigits_le (by decide) ((hundredths_div_le hbound.le).trans_lt hlimit)

/-- A ratio that is not whole is printed with two decimals, for the nearest hundredth to the nearest double. -/
theorem prints_rounded (hpart : x.den ≠ 1) :
    Prints x ((if x < 0 then ['-'] else []) ++ twoDecimals (hundredths d)) (printedValue x d) where
  printed := by rw [printRatio, if_neg hpart, hd]
  read := by
    have hread := readRatio?_twoDecimals (decide (x < 0)) (length_wholes_le hd)
    simp only [decide_eq_true_eq] at hread
    exact hread

/-- The printed number is off by half a hundredth and a part in `2 ^ 53` at most. -/
theorem abs_printedValue_sub_le (hx : x ≠ 0) : |printedValue x d - x| ≤ 1 / 200 + |x| / 2 ^ 53 := by
  have hnearest := isNearest_printedValue hd
  have hsmallest : (2 : Rat) ^ (-9 : Int) = 1 / 512 := by norm_num
  have hsecond : |printedValue x d - d| ≤ 1 / 100 / 2 := hnearest.abs_sub_le (by decide +kernel)
  obtain hfirst | ⟨hx_small, hfirst⟩ := Double.abs_sub_le_of_nearest? hx hd
  · have hsum : |printedValue x d - x| ≤ |printedValue x d - d| + |d - x| := abs_sub_le _ d x
    linarith
  · -- Both the ratio and its double are far below a hundredth here, and zero is printed.
    have hx_small' : |x| < 1 / 512 := hx_small.trans_le ((Double.two_zpow_le (by decide)).trans_eq hsmallest)
    have hfirst' : |d - x| ≤ 1 / 512 := hfirst.trans ((Double.two_zpow_le (by decide)).trans_eq hsmallest)
    have hd_small : |d| < 1 / 200 := by
      have hsum : |d - 0| ≤ |d - x| + |x - 0| := abs_sub_le d x 0
      rw [sub_zero, sub_zero] at hsum
      linarith
    rw [eq_zero_of_nearest_hundredth hnearest hd_small, zero_sub, abs_neg]
    linarith [abs_nonneg x]

end Rounded

/-- The text for a rounded ratio has two decimals. -/
theorem hasTwoDecimals (x : Rat) (count : Nat) :
    HasTwoDecimals ((if x < 0 then ['-'] else []) ++ twoDecimals count) := by
  have hpart : count % 100 < 100 := Nat.mod_lt _ (by decide)
  refine ⟨if x < 0 then ['-'] else [], natDigits (count / 100), decimals (count % 100), ?_, ?_,
    Nat.toDigits_ne_nil, rfl, ?_⟩
  · rw [twoDecimals_eq]
  · split
    · exact Or.inr rfl
    · exact Or.inl rfl
  · intro c hc
    obtain hwhole | hdecimal := List.mem_append.mp hc
    · exact isDigit_of_mem_natDigits hwhole
    · exact isDigit_of_mem_decimals hpart c hdecimal

/-- The sign of a ratio stays in front of zeros. -/
example : (printRatio (mkRat (-1) 1000)).toOption = some "-0.00".toList := by decide +kernel

/-- Integers up to `2 ^ 53` are not changed by rounding. -/
theorem isRoundedTwice_intCast {n : Int} (hn : |n| ≤ 2 ^ 53) : IsRoundedTwice n n := by
  have hmultiple : IsMultiple (1 / 100) (n : Rat) := ⟨n * 100, by push_cast; ring⟩
  exact ⟨n, IsNearest.of_mem (Double.isFinite_intCast hn), IsNearest.of_mem hmultiple⟩

/-- Integers up to `2 ^ 53` are within the digit limit. -/
theorem writable_of_abs_le {n : Int} (hn : |n| ≤ 2 ^ 53) : Writable n := by
  have hlimit : 2 ^ 53 < Nat.pow 10 digitLimit := by decide +kernel
  rw [← Int.natCast_natAbs] at hn
  exact lt_of_le_of_lt (by exact_mod_cast hn) hlimit

/-- A ratio that is not whole is printed unless it is too large. -/
theorem exists_prints_rounded {x : Rat} (hpart : x.den ≠ 1) (hx : |x| < 2 ^ 1024 - 2 ^ 970) :
    ∃ text v, Prints x text v ∧ HasTwoDecimals text ∧ IsRoundedTwice x v ∧ |v - x| ≤ 1 / 200 + |x| / 2 ^ 53 := by
  have hsome : Double.nearest? x ≠ none := mt (Double.nearest?_eq_none_iff x).mp (not_le_of_gt hx)
  obtain ⟨d, hd⟩ := Option.ne_none_iff_exists'.mp hsome
  have hx_ne : x ≠ 0 := by
    intro hzero
    exact hpart (hzero ▸ rfl)
  exact ⟨_, printedValue x d, prints_rounded hd hpart, hasTwoDecimals x _,
    ⟨d, Double.isNearest_of_nearest? hd, isNearest_printedValue hd⟩, abs_printedValue_sub_le hd hx_ne⟩

/-- A ratio up to `2 ^ 53` is printed, as the nearest hundredth to the nearest double. -/
theorem exists_prints {x : Rat} (hx : |x| ≤ 2 ^ 53) : ∃ text v, Prints x text v ∧ IsRoundedTwice x v := by
  by_cases hwhole : x.den = 1
  · have hnum : (x.num : Rat) = x := (Rat.den_eq_one_iff x).mp hwhole
    have hbits : |x.num| ≤ 2 ^ 53 := by
      rw [← hnum] at hx
      exact_mod_cast hx
    refine ⟨intDigits x.num, x, prints_whole hwhole (writable_of_abs_le hbits), ?_⟩
    rw [← hnum]
    exact isRoundedTwice_intCast hbits
  · have hthreshold : |x| < 2 ^ 1024 - 2 ^ 970 := hx.trans_lt Double.lt_threshold
    obtain ⟨text, v, hprints, -, hrounded, -⟩ := exists_prints_rounded hwhole hthreshold
    exact ⟨text, v, hprints, hrounded⟩

/-- A whole ratio within the digit limit is printed as it is. Any other one is too large exactly from the middle between
the largest double and `2 ^ 1024` on; below that it is printed with two decimals, off by half a hundredth and a part in
`2 ^ 53` at most. Up to `2 ^ 53`, the numbers printed are ordered as the ratios are. -/
theorem printed_ratios (x : Rat) :
    (x.den = 1 → Writable x.num → Prints x (intDigits x.num) x) ∧
    (x.den ≠ 1 → (printRatio x = .error .ratioTooLarge ↔ 2 ^ 1024 - 2 ^ 970 ≤ |x|)) ∧
    (x.den ≠ 1 → |x| < 2 ^ 1024 - 2 ^ 970 → ∃ text v,
      Prints x text v ∧ HasTwoDecimals text ∧ IsRoundedTwice x v ∧ |v - x| ≤ 1 / 200 + |x| / 2 ^ 53) ∧
    ∀ y, x ≤ y → |x| ≤ 2 ^ 53 → |y| ≤ 2 ^ 53 → ∃ text other v w,
      Prints x text v ∧ Prints y other w ∧ v ≤ w := by
  refine ⟨prints_whole, printRatio_eq_ratioTooLarge_iff, exists_prints_rounded, ?_⟩
  intro y hxy hx hy
  obtain ⟨text, v, hprints, hrounded⟩ := exists_prints hx
  obtain ⟨other, w, hprints', hrounded'⟩ := exists_prints hy
  exact ⟨text, other, v, w, hprints, hprints', hrounded.mono hrounded' hxy⟩

/-- Ten thirds are printed with two decimals and not above four, which is whole. A half more than `2 ^ 1024` is too
large. -/
theorem printed_ratios_tenThirds :
    Prints 4 ['4'] 4 ∧
    printRatio (mkRat (Nat.pow 2 1025 + 1) 2) = .error .ratioTooLarge ∧
    (∃ text v, Prints (mkRat 10 3) text v ∧ HasTwoDecimals text ∧ IsRoundedTwice (mkRat 10 3) v ∧
      |v - mkRat 10 3| ≤ 1 / 200 + |mkRat 10 3| / 2 ^ 53) ∧
    ∃ text other v w, Prints (mkRat 10 3) text v ∧ Prints 4 other w ∧ v ≤ w := by
  obtain ⟨hwhole, -⟩ := printed_ratios 4
  obtain ⟨-, hlarge, -⟩ := printed_ratios (mkRat (Nat.pow 2 1025 + 1) 2)
  obtain ⟨-, -, hrounded, hordered⟩ := printed_ratios (mkRat 10 3)
  refine ⟨hwhole (by decide +kernel) (by decide +kernel), (hlarge (by decide +kernel)).mpr (by decide +kernel),
    hrounded (by decide +kernel) (by decide +kernel),
    hordered 4 (by decide +kernel) (by decide +kernel) (by decide +kernel)⟩

end ServiceTopology
