import ServiceTopology.Proofs.Number.ReadBack
import ServiceTopology.Proofs.Time.Fields

/-!
# Buckets read back

The digits of a bucket are four of a year and two of each field that its step packs. A reader prefers two
digits for a field wherever they are in its range, so on these digits its preferred match takes every field as
it was written and leaves nothing over.

Together with what is known of a bucket that was read, this says which integers are buckets: those with the
digits of a moment that exists, in a year of four digits. Every other integer is refused with an error that
names it and its step.

A moment has whole seconds; finer parts of time are neither packed nor read.
-/

namespace ServiceTopology

/-! ## Written fields -/

namespace Moment

/-- Fields after the year that a step packs. -/
def fields (m : Moment) (step : Step) : List Nat :=
  [m.month, m.day, m.hour, m.minute, m.second].take (Bucket.fieldCount step)

/-- Digits of a moment down to a step: four of the year and two of each field. -/
def digits (m : Moment) (step : Step) : List Char :=
  padded 4 m.year ++ (m.fields step).flatMap (padded 2)

/-- A field of two digits is written as its tens and its ones. -/
theorem padded_two {value : Nat} (h : value ≤ 99) :
    padded 2 value = [(value / 10).digitChar, (value % 10).digitChar] := by
  by_cases hsmall : value < 10
  · rw [padded, Text.natDigits, Nat.toDigits_of_lt_base hsmall, Nat.div_eq_of_lt hsmall,
      Nat.mod_eq_of_lt hsmall]
    rfl
  · rw [padded, Text.natDigits, Nat.toDigits_of_base_le (by decide) (Nat.not_lt.mp hsmall),
      Nat.toDigits_of_lt_base (by omega)]
    rfl

/-- Two more digits behind a number are those of a field. -/
theorem natDigits_pushField {number value : Nat} (hnumber : 0 < number) (hvalue : value ≤ 99) :
    Text.natDigits (Bucket.pushField number value) = Text.natDigits number ++ padded 2 value := by
  have htens : Bucket.pushField number value / 10 = number * 10 + value / 10 := by
    unfold Bucket.pushField
    omega
  have hones : Bucket.pushField number value % 10 = value % 10 := by
    unfold Bucket.pushField
    omega
  have hnumber' : (number * 10 + value / 10) / 10 = number := by omega
  have hmiddle : (number * 10 + value / 10) % 10 = value / 10 := by omega
  rw [Text.natDigits, Nat.toDigits_of_base_le (by decide) (by unfold Bucket.pushField; omega), htens, hones,
    Nat.toDigits_of_base_le (by decide) (by omega), hnumber', hmiddle, padded_two hvalue,
    List.append_assoc]
  rfl

/-- Fields behind a number are written one after another. -/
theorem natDigits_foldl_pushField {number : Nat} (hnumber : 0 < number) {values : List Nat}
    (hvalues : ∀ value ∈ values, value ≤ 99) :
    Text.natDigits (values.foldl Bucket.pushField number) =
      Text.natDigits number ++ values.flatMap (padded 2) := by
  induction values generalizing number with
  | nil => rw [List.foldl_nil, List.flatMap_nil, List.append_nil]
  | cons value rest ih =>
    obtain ⟨hvalue, hrest⟩ := List.forall_mem_cons.mp hvalues
    have hpositive : 0 < Bucket.pushField number value := by
      unfold Bucket.pushField
      omega
    rw [List.foldl_cons, ih hpositive hrest, natDigits_pushField hnumber hvalue, List.flatMap_cons,
      List.append_assoc]

/-- A year of four digits is written as its century and the year in it. -/
theorem natDigits_year {year : Nat} (hlow : 1000 ≤ year) (hhigh : year ≤ 9999) :
    Text.natDigits year = padded 2 (year / 100) ++ padded 2 (year % 100) := by
  have hcentury : Text.natDigits (year / 100) = padded 2 (year / 100) := by
    rw [padded_two (by omega), Text.natDigits, Nat.toDigits_of_base_le (by decide) (by omega),
      Nat.toDigits_of_lt_base (by omega)]
    rfl
  have hyear : Bucket.pushField (year / 100) (year % 100) = year := by
    unfold Bucket.pushField
    omega
  rw [← hcentury, ← natDigits_pushField (by omega) (by omega), hyear]

/-- A year of four digits needs no leading zero. -/
theorem padded_four {year : Nat} (hlow : 1000 ≤ year) (hhigh : year ≤ 9999) :
    padded 4 year = Text.natDigits year := by
  rw [padded, natDigits_year hlow hhigh, padded_two (by omega), padded_two (by omega)]
  rfl

/-- Fields of a moment that exists have at most two digits. -/
theorem fields_le {m : Moment} (h : m.Valid) (step : Step) : ∀ value ∈ m.fields step, value ≤ 99 := by
  obtain ⟨-, -, hmonth, -, hday, hhour, hminute, hsecond⟩ := h
  have hlongest := Bucket.daysInMonth_le m.year m.month
  intro value hvalue
  have hvalue := List.mem_of_mem_take hvalue
  simp only [List.mem_cons, List.not_mem_nil, or_false] at hvalue
  omega

/-- A bucket is packed field by field. -/
theorem ofMoment_eq (m : Moment) (step : Step) :
    Bucket.ofMoment m step = ((m.fields step).foldl Bucket.pushField m.year : Nat) := by
  cases step <;> simp [Bucket.ofMoment, fields, Bucket.fieldCount, Bucket.pushField]

/-- The printed bucket of a moment has the digits of the moment. -/
theorem intDigits_ofMoment {m : Moment} (h : m.Valid) (hlow : 1000 ≤ m.year) (hhigh : m.year ≤ 9999)
    (step : Step) : Text.intDigits (Bucket.ofMoment m step) = m.digits step := by
  rw [ofMoment_eq, digits, padded_four hlow hhigh]
  exact natDigits_foldl_pushField (Nat.lt_of_lt_of_le (by decide) hlow) (fields_le h step)

end Moment

namespace Bucket

/-! ## Reading what was written -/

/-- The character of a digit has its value. -/
theorem digit?_digitChar {value : Nat} (h : value < 10) : digit? value.digitChar = some value := by
  have hpoint := Nat.toNat_digitChar_of_lt_ten h
  refine digit?_eq_some.mpr ⟨by simpa [Nat.isDigit_digitChar] using h, ?_⟩
  have hzero : '0'.toNat = 48 := rfl
  omega

/-- A written year is matched. -/
theorem matchYear?_padded {year : Nat} (hlow : 1000 ≤ year) (hhigh : year ≤ 9999) (rest : List Char) :
    matchYear? (Moment.padded 4 year ++ rest) = some (year, rest) := by
  rw [Moment.padded_four hlow hhigh, Moment.natDigits_year hlow hhigh, Moment.padded_two (by omega),
    Moment.padded_two (by omega)]
  simp only [List.cons_append, List.nil_append, matchYear?, digit?_digitChar (show year / 100 / 10 < 10 by omega),
    digit?_digitChar (show year / 100 % 10 < 10 by omega),
    digit?_digitChar (show year % 100 / 10 < 10 by omega),
    digit?_digitChar (show year % 100 % 10 < 10 by omega)]
  congr 2
  omega

/-- A written field in its range is matched with both of its digits. -/
theorem twoDigits_padded {range : FieldRange} {value : Nat} (hlow : range.low ≤ value)
    (hhigh : value ≤ range.high) (hdigits : value ≤ 99) (rest : List Char) :
    twoDigits range (Moment.padded 2 value ++ rest) = [(value, rest)] := by
  have hvalue : value / 10 * 10 + value % 10 = value := by omega
  rw [Moment.padded_two hdigits]
  simp only [List.cons_append, List.nil_append, twoDigits, digit?_digitChar (show value / 10 < 10 by omega),
    digit?_digitChar (show value % 10 < 10 by omega), hvalue]
  exact if_pos ⟨hlow, hhigh⟩

/-- A value can be written as a field of a range. -/
def Fits (range : FieldRange) (value : Nat) : Prop :=
  range.low ≤ value ∧ value ≤ range.high ∧ value ≤ 99

/-- The preferred match of written fields takes each as it was written. -/
theorem head?_matchFields_padded {ranges : List FieldRange} {values : List Nat}
    (h : List.Forall₂ Fits ranges values) :
    (matchFields ranges (values.flatMap (Moment.padded 2))).head? = some (values, []) := by
  induction h with
  | nil => rfl
  | @cons range value ranges values hfits _ ih =>
    obtain ⟨hlow, hhigh, hdigits⟩ := hfits
    rw [List.flatMap_cons, matchFields, matchField, twoDigits_padded hlow hhigh hdigits,
      List.singleton_append, List.flatMap_cons, List.head?_append, List.head?_map, ih]
    rfl

/-- The fields of a moment that exists fit the ranges of a step. -/
theorem fits_fields {m : Moment} (h : m.Valid) (step : Step) :
    List.Forall₂ Fits (fieldRanges.take (fieldCount step)) (m.fields step) := by
  have hdigits := Moment.fields_le h .second
  simp only [Moment.fields, fieldCount, List.take_succ_cons, List.take_zero, List.forall_mem_cons] at hdigits
  obtain ⟨hmonths, hdays, hhours, hminutes, hseconds, -⟩ := hdigits
  obtain ⟨-, hfirst, hmonth, hday, hlast, hhour, hminute, hsecond⟩ := h
  have hall : List.Forall₂ Fits fieldRanges [m.month, m.day, m.hour, m.minute, m.second] :=
    .cons ⟨hfirst, hmonth, hmonths⟩
      (.cons ⟨hday, hlast.trans (daysInMonth_le m.year m.month), hdays⟩
        (.cons ⟨Nat.zero_le _, hhour, hhours⟩
          (.cons ⟨Nat.zero_le _, hminute, hminutes⟩
            (.cons ⟨Nat.zero_le _, hsecond.trans (by decide), hseconds⟩ .nil))))
  exact List.forall₂_take (fieldCount step) hall

/-- Written fields have two digits each. -/
theorem length_flatMap_padded {values : List Nat} (h : ∀ value ∈ values, value ≤ 99) :
    (values.flatMap (Moment.padded 2)).length = 2 * values.length := by
  induction values with
  | nil => rfl
  | cons value rest ih =>
    obtain ⟨hvalue, hrest⟩ := List.forall_mem_cons.mp h
    rw [List.flatMap_cons, List.length_append, ih hrest, Moment.padded_two hvalue, List.length_cons]
    simp only [List.length_cons, List.length_nil]
    omega

/-- The digits of a moment have the length of a bucket. -/
theorem length_digits {m : Moment} (h : m.Valid) (hlow : 1000 ≤ m.year) (hhigh : m.year ≤ 9999)
    (step : Step) : (m.digits step).length = step.digits := by
  have hyear : (Moment.padded 4 m.year).length = 4 := by
    rw [Moment.padded_four hlow hhigh, Moment.natDigits_year hlow hhigh, Moment.padded_two (by omega),
      Moment.padded_two (by omega)]
    rfl
  rw [Moment.digits, List.length_append, hyear, length_flatMap_padded (Moment.fields_le h step), digits_eq,
    (fits_fields h step).length_eq]

/-- Fields that a step leaves out are read with their first values. -/
theorem momentOf_fields (m : Moment) (step : Step) : momentOf m.year (m.fields step) = m.truncate step := by
  cases step <;> rfl

/-- Cutting a moment off at a step leaves a moment that exists. -/
theorem valid_truncate {m : Moment} (h : m.Valid) (step : Step) : (m.truncate step).Valid := by
  obtain ⟨hyear, hfirst, hmonth, hday, hlast, hhour, hminute, hsecond⟩ := h
  cases step with
  | month =>
    exact ⟨hyear, hfirst, hmonth, Nat.le_refl 1, hday.trans hlast, Nat.zero_le _, Nat.zero_le _, Nat.zero_le _⟩
  | day => exact ⟨hyear, hfirst, hmonth, hday, hlast, Nat.zero_le _, Nat.zero_le _, Nat.zero_le _⟩
  | hour => exact ⟨hyear, hfirst, hmonth, hday, hlast, hhour, Nat.zero_le _, Nat.zero_le _⟩
  | minute => exact ⟨hyear, hfirst, hmonth, hday, hlast, hhour, hminute, Nat.zero_le _⟩
  | second => exact ⟨hyear, hfirst, hmonth, hday, hlast, hhour, hminute, hsecond⟩

/-- The digits of a moment are read as the moment cut off at the step. -/
theorem readDigits_digits {m : Moment} (h : m.Valid) (hlow : 1000 ≤ m.year) (hhigh : m.year ≤ 9999)
    (step : Step) : readDigits step (m.digits step) = .ok (m.truncate step) := by
  have hmatch : firstMatch? step (m.digits step) = some (m.year, m.fields step, []) := by
    simp only [firstMatch?, Moment.digits, matchYear?_padded hlow hhigh, Option.bind_some,
      head?_matchFields_padded (fits_fields h step), Option.map_some]
  obtain ⟨-, -, -, -, hday, -, -, hsecond⟩ := valid_truncate h step
  rw [readDigits, if_neg (not_not_intro (length_digits h hlow hhigh step)), hmatch]
  simp only [List.isEmpty_nil, Bool.not_true, Bool.false_eq_true, if_false, momentOf_fields,
    if_neg (Nat.not_lt.mpr hday), if_neg (Nat.not_lt.mpr hsecond)]

/-! ## Which integers are buckets -/

/-- A packed moment is read as the moment cut off at the step. -/
theorem parse_ofMoment {m : Moment} (h : m.Valid) (hlow : 1000 ≤ m.year) (hhigh : m.year ≤ 9999)
    (step : Step) : parse (ofMoment m step) step = .ok (m.truncate step) := by
  rw [parse, Moment.intDigits_ofMoment h hlow hhigh, readDigits_digits h hlow hhigh]
  rfl

/-- What is read from a bucket is the one moment that it packs and that has nothing finer than its step. -/
theorem parse_eq_ok_iff {bucket : Int} {step : Step} {m : Moment} :
    parse bucket step = .ok m ↔ Reads bucket step m := by
  refine ⟨reads_of_parse, fun h => ?_⟩
  rw [← h.pack, parse_ofMoment h.valid h.year_low h.year_high, h.truncate]

/-- A moment is packed into a bucket exactly when it has the bucket's digits. -/
theorem ofMoment_eq_iff {m : Moment} (h : m.Valid) (hlow : 1000 ≤ m.year) (hhigh : m.year ≤ 9999)
    (bucket : Int) (step : Step) : ofMoment m step = bucket ↔ Text.intDigits bucket = m.digits step := by
  rw [← Moment.intDigits_ofMoment h hlow hhigh]
  exact ⟨fun hpack => hpack ▸ rfl, fun hdigits => Number.decimal_injective (congrArg String.ofList hdigits.symm)⟩

/-- An integer that is not read is refused with an error about it and the step. -/
theorem parse_eq_error {bucket : Int} {step : Step} {error : Error} (h : parse bucket step = .error error) :
    error.bucket = bucket ∧ error.step = step := by
  unfold parse at h
  cases hread : readDigits step (Text.intDigits bucket) with
  | error fault =>
    rw [hread] at h
    cases h
    exact ⟨rfl, rfl⟩
  | ok m =>
    rw [hread] at h
    cases h

/-- An integer is read as a moment exactly when it has the digits of that moment, which exists in a year of
four digits and has nothing finer than the step; it is then the moment's bucket. Any other integer is refused
by a problem that carries it and the step. Every moment in a year of four digits has a bucket of each step, which
is read as the moment cut off at the step. -/
theorem parse_exactly (bucket : Int) (step : Step) :
    (∀ m, parse bucket step = .ok m ↔
      (m.Valid ∧ 1000 ≤ m.year ∧ m.year ≤ 9999) ∧ m.truncate step = m ∧
        Text.intDigits bucket = m.digits step) ∧
    (∀ m, parse bucket step = .ok m → ofMoment m step = bucket) ∧
    ((∀ m, parse bucket step ≠ .ok m) → ∃ error, parse bucket step = .error error ∧
      error.problem = .describe .timeBucket error.message
        [("time_bucket", .int bucket), ("step", .str step.name)]) ∧
    ∀ m : Moment, m.Valid → 1000 ≤ m.year → m.year ≤ 9999 →
      parse (ofMoment m step) step = .ok (m.truncate step) := by
  refine ⟨fun m => ?_, fun m h => (reads_of_parse h).pack, fun h => ?_, fun m h hlow hhigh =>
    parse_ofMoment h hlow hhigh step⟩
  · rw [parse_eq_ok_iff]
    constructor
    · intro h
      exact ⟨⟨h.valid, h.year_low, h.year_high⟩, h.truncate,
        (ofMoment_eq_iff h.valid h.year_low h.year_high bucket step).mp h.pack⟩
    · rintro ⟨⟨hvalid, hlow, hhigh⟩, htruncate, hdigits⟩
      exact ⟨hvalid, hlow, hhigh, htruncate, (ofMoment_eq_iff hvalid hlow hhigh bucket step).mpr hdigits⟩
  · cases hparse : parse bucket step with
    | ok m => exact absurd hparse (h m)
    | error error =>
      obtain ⟨rfl, rfl⟩ := parse_eq_error hparse
      exact ⟨error, rfl, rfl⟩

end Bucket

end ServiceTopology
