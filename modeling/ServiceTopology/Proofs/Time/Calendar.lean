import Mathlib.Order.Nat
import ServiceTopology.Proofs.Time.Fields

/-!
# The calendar

Years and months follow one another without gaps: the days before a year or a month are those before the last
one and the days of the last one. So moments that exist are ordered by their fields, from the year down to the
second, and both their buckets of seconds and the seconds that have passed keep that order.

The moment after a moment counts the field of a step up and carries into the coarser ones where a field is at
its last value. The clock then shows one second more, and no bucket of that step lies in between.
-/

namespace ServiceTopology

/-! ## Days of years and months -/

/-- Number of days of a year. -/
def daysInYear (year : Nat) : Nat := if isLeapYear year then 366 else 365

/-- The days before the next year are those of this year more. -/
theorem daysBeforeYear_succ {year : Nat} (h : 1 ≤ year) :
    daysBeforeYear (year + 1) = daysBeforeYear year + daysInYear year := by
  obtain ⟨past, rfl⟩ := Nat.exists_eq_add_of_le' h
  have hfour : (past + 1) / 4 = past / 4 + if (past + 1) % 4 = 0 then 1 else 0 := by split <;> omega
  have hcentury : (past + 1) / 100 = past / 100 + if (past + 1) % 100 = 0 then 1 else 0 := by split <;> omega
  have hcycle : (past + 1) / 400 = past / 400 + if (past + 1) % 400 = 0 then 1 else 0 := by split <;> omega
  have hcenturies : past / 100 ≤ past / 4 := Nat.div_le_div_left (by decide) (by decide)
  have hleap : isLeapYear (past + 1) = true ↔
      (past + 1) % 4 = 0 ∧ ((past + 1) % 100 ≠ 0 ∨ (past + 1) % 400 = 0) := by
    simp only [isLeapYear, Bool.and_eq_true, Bool.or_eq_true, beq_iff_eq, bne_iff_ne]
  have hfourth : (past + 1) % 100 = 0 → (past + 1) % 4 = 0 := by omega
  have hhundredth : (past + 1) % 400 = 0 → (past + 1) % 100 = 0 := by omega
  simp only [daysBeforeYear, daysInYear, hleap, Nat.add_sub_cancel, hfour, hcentury, hcycle]
  -- What is left compares quotients, whatever they are, for each way the year divides.
  generalize past / 4 = fours at *
  generalize past / 100 = centuries at *
  generalize past / 400 = cycles at *
  split_ifs <;> omega

/-- The days before the next month are those of this month more. -/
theorem daysBeforeMonth_succ (year : Nat) {month : Nat} (h : 1 ≤ month) :
    daysBeforeMonth year (month + 1) = daysBeforeMonth year month + daysInMonth year month := by
  obtain ⟨before, rfl⟩ := Nat.exists_eq_add_of_le' h
  rfl

/-- Twelve months make a year. -/
theorem daysBeforeMonth_thirteen (year : Nat) : daysBeforeMonth year 13 = daysInYear year := by
  simp only [daysBeforeMonth, daysInMonth, daysInYear]
  cases isLeapYear year <;> rfl

/-- Later years have no fewer days before them. -/
theorem daysBeforeYear_mono {early late : Nat} (hearly : 1 ≤ early) (h : early ≤ late) :
    daysBeforeYear early ≤ daysBeforeYear late := by
  induction late, h using Nat.le_induction with
  | base => exact Nat.le_refl _
  | succ late hle ih =>
    rw [daysBeforeYear_succ (hearly.trans hle)]
    exact ih.trans (Nat.le_add_right _ _)

/-- Later months of a year have no fewer days before them. -/
theorem daysBeforeMonth_mono (year : Nat) {early late : Nat} (hearly : 1 ≤ early) (h : early ≤ late) :
    daysBeforeMonth year early ≤ daysBeforeMonth year late := by
  induction late, h using Nat.le_induction with
  | base => exact Nat.le_refl _
  | succ late hle ih =>
    rw [daysBeforeMonth_succ year (hearly.trans hle)]
    exact ih.trans (Nat.le_add_right _ _)

namespace Moment

/-- Days from the start of year one to the day of a moment. -/
def dayNumber (m : Moment) : Nat := daysBeforeYear m.year + daysBeforeMonth m.year m.month + (m.day - 1)

/-- Seconds are counted from the days before and the time of day. -/
theorem seconds_eq (m : Moment) :
    m.seconds = ((m.dayNumber * 24 + m.hour) * 60 + m.minute) * 60 + m.second := rfl

/-- A day lies before the next month of its year. -/
theorem dayNumber_lt_nextMonth {m : Moment} (h : m.Valid) :
    m.dayNumber < daysBeforeYear m.year + daysBeforeMonth m.year (m.month + 1) := by
  obtain ⟨-, hmonth, -, hday, hlast, -⟩ := h
  rw [dayNumber, daysBeforeMonth_succ m.year hmonth]
  omega

/-- A day lies before the next year. -/
theorem dayNumber_lt_nextYear {m : Moment} (h : m.Valid) : m.dayNumber < daysBeforeYear (m.year + 1) := by
  have hnext := dayNumber_lt_nextMonth h
  obtain ⟨hyear, hmonth, hlast, -⟩ := h
  have hmonths := daysBeforeMonth_mono m.year (Nat.le_add_left 1 m.month) (Nat.succ_le_succ hlast)
  rw [daysBeforeMonth_thirteen] at hmonths
  rw [daysBeforeYear_succ hyear]
  omega

/-! ## Order of moments -/

/-- An earlier date has fewer days before it. -/
theorem dayNumber_lt {a b : Moment} (ha : a.Valid) (hb : b.Valid)
    (h : Bucket.ofMoment a .day < Bucket.ofMoment b .day) : a.dayNumber < b.dayNumber := by
  have hmonth := dayNumber_lt_nextMonth ha
  have hyear := dayNumber_lt_nextYear ha
  have hlongest := Bucket.daysInMonth_le b.year b.month
  obtain ⟨_, _, _, _, _, -⟩ := ha
  obtain ⟨_, _, _, _, _, -⟩ := hb
  simp only [Bucket.ofMoment] at h
  obtain hearlier | hsame | hlater := Nat.lt_trichotomy a.year b.year
  · calc a.dayNumber
      _ < daysBeforeYear (a.year + 1) := hyear
      _ ≤ daysBeforeYear b.year := daysBeforeYear_mono (Nat.le_add_left 1 _) hearlier
      _ ≤ b.dayNumber := by rw [dayNumber]; omega
  · rw [hsame] at hmonth h
    by_cases hmonths : a.month < b.month
    · calc a.dayNumber
        _ < daysBeforeYear b.year + daysBeforeMonth b.year (a.month + 1) := hmonth
        _ ≤ daysBeforeYear b.year + daysBeforeMonth b.year b.month :=
          Nat.add_le_add_left (daysBeforeMonth_mono _ (Nat.le_add_left 1 _) hmonths) _
        _ ≤ b.dayNumber := Nat.le_add_right _ _
    · have heq : a.month = b.month := by omega
      rw [dayNumber, dayNumber, hsame, heq]
      omega
  · omega

/-- Equal dates have the same days before them. -/
theorem dayNumber_eq {a b : Moment} (ha : a.Valid) (hb : b.Valid)
    (h : Bucket.ofMoment a .day = Bucket.ofMoment b .day) : a.dayNumber = b.dayNumber := by
  have hfirst := Bucket.daysInMonth_le a.year a.month
  have hsecond := Bucket.daysInMonth_le b.year b.month
  obtain ⟨_, _, _, _, _, -⟩ := ha
  obtain ⟨_, _, _, _, _, -⟩ := hb
  simp only [Bucket.ofMoment] at h
  have hyear : a.year = b.year := by omega
  have hmonth : a.month = b.month := by omega
  have hday : a.day = b.day := by omega
  rw [dayNumber, dayNumber, hyear, hmonth, hday]

/-- A smaller bucket of seconds is the earlier moment. -/
theorem seconds_lt_of_bucket_lt {a b : Moment} (ha : a.Valid) (hb : b.Valid)
    (h : Bucket.ofMoment a .second < Bucket.ofMoment b .second) : a.seconds < b.seconds := by
  have hlater := dayNumber_lt ha hb
  have hequal := dayNumber_eq ha hb
  obtain ⟨-, -, -, -, -, _, _, _⟩ := ha
  obtain ⟨-, -, -, -, -, _, _, _⟩ := hb
  rw [seconds_eq, seconds_eq]
  simp only [Bucket.ofMoment] at h hlater hequal
  omega

/-- Equal buckets of seconds are of the same moment in time. -/
theorem seconds_eq_of_bucket_eq {a b : Moment} (ha : a.Valid) (hb : b.Valid)
    (h : Bucket.ofMoment a .second = Bucket.ofMoment b .second) : a.seconds = b.seconds := by
  have hdays : a.dayNumber = b.dayNumber := by
    refine dayNumber_eq ha hb ?_
    rw [← Bucket.coarsen_ofMoment ha, ← Bucket.coarsen_ofMoment hb, h]
  obtain ⟨-, -, -, -, -, _, _, _⟩ := ha
  obtain ⟨-, -, -, -, -, _, _, _⟩ := hb
  rw [seconds_eq, seconds_eq, hdays]
  simp only [Bucket.ofMoment] at h
  omega

/-- Buckets of seconds are ordered as time is. -/
theorem bucket_lt_iff {a b : Moment} (ha : a.Valid) (hb : b.Valid) :
    Bucket.ofMoment a .second < Bucket.ofMoment b .second ↔ a.seconds < b.seconds := by
  refine ⟨seconds_lt_of_bucket_lt ha hb, fun h => ?_⟩
  obtain hless | hequal | hmore :=
    Int.lt_trichotomy (Bucket.ofMoment a .second) (Bucket.ofMoment b .second)
  · exact hless
  · exact absurd h (Nat.not_lt.mpr (seconds_eq_of_bucket_eq ha hb hequal).ge)
  · exact absurd h (Nat.lt_asymm (seconds_lt_of_bucket_lt hb ha hmore))

/-- Buckets of seconds are ordered as time is, also where they coincide. -/
theorem bucket_le_iff {a b : Moment} (ha : a.Valid) (hb : b.Valid) :
    Bucket.ofMoment a .second ≤ Bucket.ofMoment b .second ↔ a.seconds ≤ b.seconds := by
  rw [← Int.not_lt, ← Nat.not_lt, bucket_lt_iff hb ha]

/-! ## The moment after a moment -/

/-- The first moment of the next month. -/
def nextMonth (m : Moment) : Moment :=
  if m.month < 12 then ⟨m.year, m.month + 1, 1, 0, 0, 0⟩ else ⟨m.year + 1, 1, 1, 0, 0, 0⟩

/-- The first moment of the next day. -/
def nextDay (m : Moment) : Moment :=
  if m.day < daysInMonth m.year m.month then ⟨m.year, m.month, m.day + 1, 0, 0, 0⟩ else m.nextMonth

/-- The first moment of the next hour. -/
def nextHour (m : Moment) : Moment :=
  if m.hour < 23 then ⟨m.year, m.month, m.day, m.hour + 1, 0, 0⟩ else m.nextDay

/-- The first moment of the next minute. -/
def nextMinute (m : Moment) : Moment :=
  if m.minute < 59 then ⟨m.year, m.month, m.day, m.hour, m.minute + 1, 0⟩ else m.nextHour

/-- The next second. -/
def nextSecond (m : Moment) : Moment :=
  if m.second < 59 then { m with second := m.second + 1 } else m.nextMinute

/-- The first moment of the next unit of a step. -/
def next (m : Moment) : Step → Moment
  | .month => m.nextMonth
  | .day => m.nextDay
  | .hour => m.nextHour
  | .minute => m.nextMinute
  | .second => m.nextSecond

/-- A moment starts the unit of a step that follows the unit of another one: it has nothing finer than the step,
and every later bucket of the step is at or after its own. -/
structure StartsAfter (step : Step) (m next : Moment) : Prop where
  valid : next.Valid
  truncate : next.truncate step = next
  least {other : Moment} (h : other.Valid) :
    Bucket.ofMoment m step < Bucket.ofMoment other step ↔
      Bucket.ofMoment next step ≤ Bucket.ofMoment other step

/-- Every month has a first day. -/
theorem daysInMonth_pos (year month : Nat) : 1 ≤ daysInMonth year month := by
  unfold daysInMonth
  split_ifs <;> decide

/-- No day of a month comes after its last one. -/
theorem day_le_of_same_month {a b : Moment} (ha : a.Valid) (hb : b.Valid)
    (h : Bucket.ofMoment a .month = Bucket.ofMoment b .month) : a.day ≤ daysInMonth b.year b.month := by
  obtain ⟨-, _, _, -, hday, -⟩ := ha
  obtain ⟨-, _, _, -⟩ := hb
  simp only [Bucket.ofMoment] at h
  have hyear : a.year = b.year := by omega
  have hmonth : a.month = b.month := by omega
  rwa [hyear, hmonth] at hday

section Carry

variable {coarse fine : Step} {m next : Moment}

/-- The moment with the next number starts the next unit. -/
theorem startsAfter_of_succ (hvalid : next.Valid) (htruncate : next.truncate fine = next)
    (hsucc : Bucket.ofMoment next fine = Bucket.ofMoment m fine + 1) : StartsAfter fine m next :=
  ⟨hvalid, htruncate, fun _ => hsucc ▸ Iff.rfl⟩

/-- When a field is at the last value that it takes in a coarser unit, the next coarser unit starts the next finer
one, with the field at its first value. -/
theorem StartsAfter.carry (h : StartsAfter coarse m next) (hm : m.Valid) {field : Moment → Nat}
    (htruncate : ∀ x : Moment, (x.truncate coarse).truncate fine = x.truncate coarse)
    (hpack : ∀ x : Moment, Bucket.ofMoment x fine = Bucket.ofMoment x coarse * 100 + field x)
    (hdigits : ∀ x : Moment, x.Valid → field x < 100)
    (hfirst : ∀ other : Moment, other.Valid → field next ≤ field other)
    (hlast : ∀ other : Moment, other.Valid → Bucket.ofMoment other coarse = Bucket.ofMoment m coarse →
      field other ≤ field m) : StartsAfter fine m next := by
  refine ⟨h.valid, ?_, fun {other} hother => ?_⟩
  · have hcut := htruncate next
    rwa [h.truncate] at hcut
  · have hleast := h.least hother
    have hfield := hdigits m hm
    have hotherField := hdigits other hother
    have hstart := hfirst other hother
    have hend := hlast other hother
    rw [hpack, hpack, hpack]
    omega

end Carry

/-- After December comes January. -/
theorem startsAfter_nextMonth {m : Moment} (h : m.Valid) : StartsAfter .month m m.nextMonth := by
  obtain ⟨hyear, hmonth, hlast, -⟩ := h
  unfold nextMonth
  split
  case isTrue hless =>
    refine startsAfter_of_succ ⟨hyear, Nat.le_add_left 1 _, hless, Nat.le_refl 1, daysInMonth_pos _ _, Nat.zero_le _,
      Nat.zero_le _, Nat.zero_le _⟩ rfl ?_
    simp only [Bucket.ofMoment]
    omega
  case isFalse hmost =>
    refine ⟨⟨Nat.le_add_left 1 _, Nat.le_refl 1, (by decide : 1 ≤ 12), Nat.le_refl 1, daysInMonth_pos _ _,
      Nat.zero_le _, Nat.zero_le _, Nat.zero_le _⟩, rfl, fun hother => ?_⟩
    obtain ⟨-, _, _, -⟩ := hother
    simp only [Bucket.ofMoment]
    omega

/-- After the last day of a month comes the first one of the next. -/
theorem startsAfter_nextDay {m : Moment} (h : m.Valid) : StartsAfter .day m m.nextDay := by
  have hmonth := startsAfter_nextMonth h
  unfold nextDay
  split
  case isTrue hless =>
    obtain ⟨hyear, hfirst, hmonths, -⟩ := h
    refine startsAfter_of_succ ⟨hyear, hfirst, hmonths, Nat.le_add_left 1 _, hless, Nat.zero_le _, Nat.zero_le _,
      Nat.zero_le _⟩ rfl ?_
    simp only [Bucket.ofMoment]
    omega
  case isFalse hmost =>
    have hday : m.nextMonth.day = 1 := (congrArg day hmonth.truncate).symm
    have hdigits (x : Moment) (hx : x.Valid) : x.day < 100 := by
      have hlongest := Bucket.daysInMonth_le x.year x.month
      obtain ⟨-, -, -, -, hlast, -⟩ := hx
      omega
    refine hmonth.carry h (fun _ => rfl) (fun _ => rfl) hdigits (fun other hother => ?_)
      fun other hother hsame => ?_
    · exact hday ▸ hother.2.2.2.1
    · exact (day_le_of_same_month hother h hsame).trans (Nat.not_lt.mp hmost)

/-- After the last hour of a day comes the first one of the next. -/
theorem startsAfter_nextHour {m : Moment} (h : m.Valid) : StartsAfter .hour m m.nextHour := by
  have hnext := startsAfter_nextDay h
  have hhours (x : Moment) (hx : x.Valid) : x.hour ≤ 23 := hx.2.2.2.2.2.1
  unfold nextHour
  split
  case isTrue hless =>
    obtain ⟨hyear, hfirst, hmonths, hdays, hlast, -⟩ := h
    refine startsAfter_of_succ ⟨hyear, hfirst, hmonths, hdays, hlast, hless, Nat.zero_le _, Nat.zero_le _⟩ rfl ?_
    simp only [Bucket.ofMoment]
    omega
  case isFalse hmost =>
    have hzero : m.nextDay.hour = 0 := (congrArg hour hnext.truncate).symm
    exact hnext.carry h (fun _ => rfl) (fun _ => rfl) (fun x hx => Nat.lt_of_le_of_lt (hhours x hx) (by decide))
      (fun _ _ => hzero ▸ Nat.zero_le _) fun other hother _ => (hhours other hother).trans (Nat.not_lt.mp hmost)

/-- After the last minute of an hour comes the first one of the next. -/
theorem startsAfter_nextMinute {m : Moment} (h : m.Valid) : StartsAfter .minute m m.nextMinute := by
  have hnext := startsAfter_nextHour h
  have hminutes (x : Moment) (hx : x.Valid) : x.minute ≤ 59 := hx.2.2.2.2.2.2.1
  unfold nextMinute
  split
  case isTrue hless =>
    obtain ⟨hyear, hfirst, hmonths, hdays, hlast, hhour, -⟩ := h
    refine startsAfter_of_succ ⟨hyear, hfirst, hmonths, hdays, hlast, hhour, hless, Nat.zero_le _⟩ rfl ?_
    simp only [Bucket.ofMoment]
    omega
  case isFalse hmost =>
    have hzero : m.nextHour.minute = 0 := (congrArg minute hnext.truncate).symm
    exact hnext.carry h (fun _ => rfl) (fun _ => rfl) (fun x hx => Nat.lt_of_le_of_lt (hminutes x hx) (by decide))
      (fun _ _ => hzero ▸ Nat.zero_le _) fun other hother _ => (hminutes other hother).trans (Nat.not_lt.mp hmost)

/-- After the last second of a minute comes the first one of the next. -/
theorem startsAfter_nextSecond {m : Moment} (h : m.Valid) : StartsAfter .second m m.nextSecond := by
  have hnext := startsAfter_nextMinute h
  have hseconds (x : Moment) (hx : x.Valid) : x.second ≤ 59 := hx.2.2.2.2.2.2.2
  unfold nextSecond
  split
  case isTrue hless =>
    obtain ⟨hyear, hfirst, hmonths, hdays, hlast, hhour, hminute, -⟩ := h
    refine startsAfter_of_succ ⟨hyear, hfirst, hmonths, hdays, hlast, hhour, hminute, hless⟩ rfl ?_
    simp only [Bucket.ofMoment]
    omega
  case isFalse hmost =>
    have hzero : m.nextMinute.second = 0 := (congrArg second hnext.truncate).symm
    exact hnext.carry h (fun _ => rfl) (fun _ => rfl) (fun x hx => Nat.lt_of_le_of_lt (hseconds x hx) (by decide))
      (fun _ _ => hzero ▸ Nat.zero_le _) fun other hother _ => (hseconds other hother).trans (Nat.not_lt.mp hmost)

/-- The next unit of a step starts with no bucket in between. -/
theorem startsAfter_next {m : Moment} (h : m.Valid) (step : Step) : StartsAfter step m (m.next step) :=
  match step with
  | .month => startsAfter_nextMonth h
  | .day => startsAfter_nextDay h
  | .hour => startsAfter_nextHour h
  | .minute => startsAfter_nextMinute h
  | .second => startsAfter_nextSecond h

/-- The next day has one more day before it. -/
theorem dayNumber_nextDay {m : Moment} (h : m.Valid) : m.nextDay.dayNumber = m.dayNumber + 1 := by
  obtain ⟨hyear, hfirst, hmonths, hday, hlast, -⟩ := h
  have hmonth := daysBeforeMonth_succ m.year hfirst
  have hyears := daysBeforeYear_succ hyear
  have hjanuary : daysBeforeMonth (m.year + 1) 1 = 0 := rfl
  have htwelve : daysInYear m.year = daysBeforeMonth m.year 12 + daysInMonth m.year 12 :=
    (daysBeforeMonth_thirteen m.year).symm
  unfold nextDay nextMonth
  split
  · simp only [dayNumber]
    omega
  · split
    · simp only [dayNumber]
      omega
    · have hdecember : m.month = 12 := by omega
      have hend : m.day = daysInMonth m.year m.month := by omega
      rw [hdecember] at hend
      simp only [dayNumber, hdecember]
      omega

/-- The clock shows one second more at the next second. -/
theorem seconds_nextSecond {m : Moment} (h : m.Valid) : m.nextSecond.seconds = m.seconds + 1 := by
  have hnext := startsAfter_nextDay h
  have hhour : m.nextDay.hour = 0 := (congrArg hour hnext.truncate).symm
  have hminute : m.nextDay.minute = 0 := (congrArg minute hnext.truncate).symm
  have hsecond : m.nextDay.second = 0 := (congrArg second hnext.truncate).symm
  have hdays := dayNumber_nextDay h
  obtain ⟨-, -, -, -, -, _, _, _⟩ := h
  unfold nextSecond nextMinute nextHour
  split_ifs <;> simp only [seconds_eq, dayNumber] at * <;> omega

end Moment

end ServiceTopology
