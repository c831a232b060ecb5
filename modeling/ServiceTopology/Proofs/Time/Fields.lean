import Mathlib.Data.List.Forall2
import ServiceTopology.Proofs.Text.Digits
import ServiceTopology.Time.Bucket

/-!
# The fields of a bucket

A field is matched with one digit or two, so a match of several fields uses up at most two digits for each.
When it uses up a text of exactly that length, every field has two digits, and the number that the text
stands for is packed from the fields.

The digits of a bucket have such a length. A bucket that was read is therefore the packing of the moment read
from it, and that moment exists.
-/

namespace ServiceTopology.Bucket

/-- A character has a value when it is a decimal digit. -/
theorem digit?_eq_some {c : Char} {value : Nat} :
    digit? c = some value ↔ c.isDigit = true ∧ c.toNat - '0'.toNat = value := by
  unfold digit?
  split
  · simp [‹c.isDigit = true›]
  · simp [‹¬ c.isDigit = true›]

/-- The value of a digit is below ten, and zero only for the digit zero. -/
theorem digit?_bounds {c : Char} {value : Nat} (h : digit? c = some value) :
    value ≤ 9 ∧ (c ≠ '0' → 1 ≤ value) := by
  obtain ⟨hdigit, hvalue⟩ := digit?_eq_some.mp h
  have hrange : 0x30 ≤ c.toNat ∧ c.toNat ≤ 0x39 := Char.isDigit_iff_toNat.mp hdigit
  have hzero : '0'.toNat = 0x30 := rfl
  refine ⟨by omega, fun hne => ?_⟩
  have hpoint : c.toNat ≠ '0'.toNat := fun heq => hne (Char.toNat_inj.mp heq)
  omega

/-- A leading digit counts ten times as much as the rest of a number read so far. -/
theorem ofDigitChars_digit {c : Char} {value : Nat} (h : digit? c = some value) (text : List Char)
    (start : Nat) :
    Nat.ofDigitChars 10 (c :: text) start = Nat.ofDigitChars 10 text (start * 10 + value) := by
  rw [Nat.ofDigitChars_cons, (digit?_eq_some.mp h).2, Nat.mul_comm]

/-! ## Matching fields -/

/-- A field matches two digits in its range. -/
theorem mem_twoDigits {range : FieldRange} {text rest : List Char} {value : Nat}
    (h : (value, rest) ∈ twoDigits range text) :
    ∃ a b tens ones, text = a :: b :: rest ∧ digit? a = some tens ∧ digit? b = some ones ∧
      value = tens * 10 + ones ∧ range.low ≤ value ∧ value ≤ range.high := by
  match text, h with
  | a :: b :: after, h =>
    simp only [twoDigits] at h
    split at h
    · split at h
      · obtain ⟨rfl, rfl⟩ := Prod.mk.inj (List.mem_singleton.mp h)
        exact ⟨a, b, _, _, rfl, ‹_›, ‹_›, rfl, ‹_›⟩
      · cases h
    · cases h

/-- A field matches one digit. -/
theorem mem_oneDigit {range : FieldRange} {text rest : List Char} {value : Nat}
    (h : (value, rest) ∈ oneDigit range text) : ∃ a, text = a :: rest := by
  match text, h with
  | a :: after, h =>
    simp only [oneDigit] at h
    split at h
    · split at h
      · obtain ⟨-, rfl⟩ := Prod.mk.inj (List.mem_singleton.mp h)
        exact ⟨a, rfl⟩
      · cases h
    · cases h

/-- A match of several fields is a match of the first one and of the others after it. -/
theorem mem_matchFields_cons {range : FieldRange} {ranges : List FieldRange} {text after : List Char}
    {values : List Nat} (h : (values, after) ∈ matchFields (range :: ranges) text) :
    ∃ value rest others, (value, rest) ∈ matchField range text ∧
      (others, after) ∈ matchFields ranges rest ∧ values = value :: others := by
  simp only [matchFields, List.mem_flatMap, List.mem_map] at h
  obtain ⟨⟨value, rest⟩, hfield, ⟨others, last⟩, hothers, hpair⟩ := h
  obtain ⟨rfl, rfl⟩ := Prod.mk.inj hpair
  exact ⟨value, rest, others, hfield, hothers, rfl⟩

/-- A match of several fields uses up at most two digits for each. -/
theorem length_le_of_mem_matchFields {ranges : List FieldRange} {text after : List Char}
    {values : List Nat} (h : (values, after) ∈ matchFields ranges text) :
    text.length ≤ after.length + 2 * ranges.length := by
  induction ranges generalizing text values with
  | nil =>
    obtain ⟨-, rfl⟩ := Prod.mk.inj (List.mem_singleton.mp h)
    exact Nat.le_add_right _ _
  | cons range ranges ih =>
    obtain ⟨value, rest, others, hfield, hothers, -⟩ := mem_matchFields_cons h
    have hrest := ih hothers
    rw [List.length_cons]
    obtain htwo | hone := List.mem_append.mp hfield
    · obtain ⟨a, b, tens, ones, rfl, -⟩ := mem_twoDigits htwo
      simp only [List.length_cons]
      omega
    · obtain ⟨a, rfl⟩ := mem_oneDigit hone
      simp only [List.length_cons]
      omega

/-- Put two more digits behind a number. -/
def pushField (number value : Nat) : Nat := number * 100 + value

/-- When a match of several fields uses up two digits for each, every field is in its range and the text
stands for the packed fields. -/
theorem packed_of_mem_matchFields {ranges : List FieldRange} {text : List Char} {values : List Nat}
    (h : (values, []) ∈ matchFields ranges text) (hlength : text.length = 2 * ranges.length) :
    List.Forall₂ (fun range value => range.low ≤ value ∧ value ≤ range.high) ranges values ∧
      ∀ start, Nat.ofDigitChars 10 text start = values.foldl pushField start := by
  induction ranges generalizing text values with
  | nil =>
    obtain ⟨rfl, rfl⟩ := Prod.mk.inj (List.mem_singleton.mp h)
    exact ⟨.nil, fun _ => rfl⟩
  | cons range ranges ih =>
    obtain ⟨value, rest, others, hfield, hothers, rfl⟩ := mem_matchFields_cons h
    rw [List.length_cons] at hlength
    obtain htwo | hone := List.mem_append.mp hfield
    · obtain ⟨a, b, tens, ones, rfl, htens, hones, hvalue, hrange⟩ := mem_twoDigits htwo
      obtain ⟨hranges, hpacked⟩ := ih hothers (by simp only [List.length_cons] at hlength; omega)
      refine ⟨.cons hrange hranges, fun start => ?_⟩
      rw [ofDigitChars_digit htens, ofDigitChars_digit hones, hpacked, List.foldl_cons, pushField, hvalue]
      congr 1
      omega
    -- A field with one digit leaves more digits than the other fields can use up.
    · obtain ⟨a, rfl⟩ := mem_oneDigit hone
      have hrest := length_le_of_mem_matchFields hothers
      simp only [List.length_cons, List.length_nil] at hlength hrest
      omega

/-- A year is matched with four digits, and has four of them when the first one is not zero. -/
theorem matchYear?_eq_some {text rest : List Char} {year : Nat} (h : matchYear? text = some (year, rest)) :
    text.length = rest.length + 4 ∧ year ≤ 9999 ∧ (text.head? ≠ some '0' → 1000 ≤ year) ∧
      Nat.ofDigitChars 10 text 0 = Nat.ofDigitChars 10 rest year := by
  match text, h with
  | a :: b :: c :: d :: after, h =>
    simp only [matchYear?] at h
    split at h
    · rename_i ha hb hc hd
      obtain ⟨rfl, rfl⟩ := Prod.mk.inj (Option.some.inj h)
      have hfirst := digit?_bounds ha
      have hsecond := (digit?_bounds hb).1
      have hthird := (digit?_bounds hc).1
      have hfourth := (digit?_bounds hd).1
      refine ⟨rfl, by omega, fun hhead => ?_, ?_⟩
      · have hpositive := hfirst.2 fun hzero => hhead (congrArg some hzero)
        omega
      · rw [ofDigitChars_digit ha, ofDigitChars_digit hb, ofDigitChars_digit hc, ofDigitChars_digit hd,
          Nat.zero_mul, Nat.zero_add]
    · cases h

/-! ## Reading buckets -/

instance (bucket : Int) (step : Step) : Decidable (WellFormed bucket step) :=
  match h : parse bucket step with
  | .ok m => isTrue ⟨m, h⟩
  | .error _ => isFalse fun ⟨_, hm⟩ => by cases h.symm.trans hm

/-- A moment as it is read from a bucket: it exists, its year has four digits, its finer fields have their
first values, and packing it gives the bucket. -/
structure Reads (bucket : Int) (step : Step) (m : Moment) : Prop where
  valid : m.Valid
  year_low : 1000 ≤ m.year
  year_high : m.year ≤ 9999
  truncate : m.truncate step = m
  pack : ofMoment m step = bucket

/-- Digits of a bucket have the length of a year and of two digits for each field. -/
theorem digits_eq (step : Step) :
    step.digits = 4 + 2 * (fieldRanges.take (fieldCount step)).length := by
  cases step <;> rfl

/-- The preferred match of a text is one of a year and of fields after it. -/
theorem firstMatch?_eq_some {step : Step} {text after : List Char} {year : Nat} {values : List Nat}
    (h : firstMatch? step text = some (year, values, after)) :
    ∃ rest, matchYear? text = some (year, rest) ∧
      (values, after) ∈ matchFields (fieldRanges.take (fieldCount step)) rest := by
  simp only [firstMatch?, Option.bind_eq_some_iff, Option.map_eq_some_iff] at h
  obtain ⟨⟨_, rest⟩, hyear, ⟨_, _⟩, hfields, hpair⟩ := h
  cases hpair
  exact ⟨rest, hyear, List.mem_of_mem_head? hfields⟩

/-- Reading digits takes a match that uses them up and names a day that exists and a second below sixty. -/
theorem readDigits_eq_ok {step : Step} {text : List Char} {m : Moment} (h : readDigits step text = .ok m) :
    ∃ year values, text.length = step.digits ∧ firstMatch? step text = some (year, values, []) ∧
      m = momentOf year values ∧ m.day ≤ daysInMonth m.year m.month ∧ m.second ≤ 59 := by
  unfold readDigits at h
  by_cases hlength : text.length = step.digits
  · rw [if_neg (not_not_intro hlength)] at h
    match hmatch : firstMatch? step text with
    | none => simp only [hmatch, reduceCtorEq] at h
    | some (year, values, _ :: _) =>
      simp only [hmatch, List.isEmpty_cons, Bool.not_false, if_true, reduceCtorEq] at h
    | some (year, values, []) =>
      simp only [hmatch, List.isEmpty_nil, Bool.not_true, Bool.false_eq_true, if_false] at h
      split at h
      · cases h
      · split at h
        · cases h
        · cases h
          exact ⟨year, values, hlength, rfl, rfl, Nat.le_of_not_lt ‹_›, Nat.le_of_not_lt ‹_›⟩
  · rw [if_pos hlength] at h
    cases h

/-- Digits that were read without a leading zero are the packing of a moment that exists. -/
theorem reads_of_readDigits {step : Step} {text : List Char} {m : Moment}
    (h : readDigits step text = .ok m) (hhead : text.head? ≠ some '0') :
    Reads (Text.digitsValue text : Nat) step m := by
  obtain ⟨year, values, hlength, hmatch, rfl, hday, hsecond⟩ := readDigits_eq_ok h
  obtain ⟨rest, hyear, hfields⟩ := firstMatch?_eq_some hmatch
  obtain ⟨hrest, hhigh, hlow, hvalue⟩ := matchYear?_eq_some hyear
  have hlow := hlow hhead
  have hpositive : 1 ≤ year := by omega
  have hdigits := digits_eq step
  obtain ⟨hranges, hpacked⟩ := packed_of_mem_matchFields hfields (by omega)
  rw [Text.digitsValue, hvalue, hpacked]
  -- The ranges of a step are known, so the values of its fields can be named.
  cases step with
  | month =>
    obtain _ | ⟨hmonth, _ | _⟩ := hranges
    exact ⟨⟨hpositive, hmonth.1, hmonth.2, Nat.le_refl 1, hday, Nat.zero_le _, Nat.zero_le _, hsecond⟩,
      hlow, hhigh, rfl, rfl⟩
  | day =>
    obtain _ | ⟨hmonth, _ | ⟨hdays, _ | _⟩⟩ := hranges
    exact ⟨⟨hpositive, hmonth.1, hmonth.2, hdays.1, hday, Nat.zero_le _, Nat.zero_le _, hsecond⟩, hlow, hhigh,
      rfl, rfl⟩
  | hour =>
    obtain _ | ⟨hmonth, _ | ⟨hdays, _ | ⟨hhours, _ | _⟩⟩⟩ := hranges
    exact ⟨⟨hpositive, hmonth.1, hmonth.2, hdays.1, hday, hhours.2, Nat.zero_le _, hsecond⟩, hlow, hhigh,
      rfl, rfl⟩
  | minute =>
    obtain _ | ⟨hmonth, _ | ⟨hdays, _ | ⟨hhours, _ | ⟨hminutes, _ | _⟩⟩⟩⟩ := hranges
    exact ⟨⟨hpositive, hmonth.1, hmonth.2, hdays.1, hday, hhours.2, hminutes.2, hsecond⟩, hlow, hhigh,
      rfl, rfl⟩
  | second =>
    obtain _ | ⟨hmonth, _ | ⟨hdays, _ | ⟨hhours, _ | ⟨hminutes, _ | ⟨hseconds, _ | _⟩⟩⟩⟩⟩ := hranges
    exact ⟨⟨hpositive, hmonth.1, hmonth.2, hdays.1, hday, hhours.2, hminutes.2, hsecond⟩, hlow, hhigh,
      rfl, rfl⟩

/-- No text with a sign is read. -/
theorem readDigits_minus (step : Step) (text : List Char) (m : Moment) :
    readDigits step ('-' :: text) ≠ .ok m := by
  intro h
  obtain ⟨year, values, -, hmatch, -⟩ := readDigits_eq_ok h
  obtain ⟨rest, hyear, -⟩ := firstMatch?_eq_some hmatch
  match text, hyear with
  | b :: c :: d :: after, hyear =>
    simp only [matchYear?, digit?] at hyear
    cases hyear

/-- A bucket that was read is the packing of a moment that exists. -/
theorem reads_of_parse {bucket : Int} {step : Step} {m : Moment} (h : parse bucket step = .ok m) :
    Reads bucket step m := by
  have hread : readDigits step (Text.intDigits bucket) = .ok m := by
    unfold parse at h
    cases hread : readDigits step (Text.intDigits bucket) with
    | error fault =>
      rw [hread] at h
      cases h
    | ok read =>
      rw [hread] at h
      cases h
      rfl
  cases bucket with
  | negSucc n => exact absurd hread (readDigits_minus step _ m)
  | ofNat n =>
    have hvalue := Text.digitsValue_natDigits n
    have hhead : (Text.natDigits n).head? ≠ some '0' := by
      obtain rfl | hpositive := Nat.eq_zero_or_pos n
      · cases step <;> cases hread
      · exact Text.head?_natDigits_ne_zero hpositive
    exact hvalue ▸ reads_of_readDigits hread hhead

/-! ## Coarser buckets -/

/-- Number of seconds' digits that a step leaves out, as a power of ten. -/
def unit (step : Step) : Nat := Nat.pow 10 (Step.second.digits - step.digits)

/-- Drop the digits of a second bucket that a step leaves out. -/
def coarsen (step : Step) (bucket : Int) : Int := bucket / unit step

/-- The powers of ten, from the coarsest step to the finest. -/
theorem unit_eq (step : Step) :
    unit step = match step with
      | .month => 100000000
      | .day => 1000000
      | .hour => 10000
      | .minute => 100
      | .second => 1 := by
  cases step <;> rfl

/-- No month is longer than 31 days. -/
theorem daysInMonth_le (year month : Nat) : daysInMonth year month ≤ 31 := by
  unfold daysInMonth
  split
  · split <;> decide
  · split <;> decide

/-- Dropping digits packs the same moment at the coarser step. -/
theorem coarsen_ofMoment {m : Moment} (h : m.Valid) (step : Step) :
    coarsen step (ofMoment m .second) = ofMoment m step := by
  obtain ⟨-, -, hmonth, -, hday, hhour, hminute, hsecond⟩ := h
  have hlongest := daysInMonth_le m.year m.month
  rw [coarsen, unit_eq]
  cases step with
  | month => simp only [ofMoment]; omega
  | day => simp only [ofMoment]; omega
  | hour => simp only [ofMoment]; omega
  | minute => simp only [ofMoment]; omega
  | second => exact Int.ediv_one _

end ServiceTopology.Bucket
