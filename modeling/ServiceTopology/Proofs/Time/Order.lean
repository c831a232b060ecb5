import Mathlib.Algebra.Group.Int.Defs
import Mathlib.Order.Bounds.Basic
import ServiceTopology.Proofs.Time.Calendar
import ServiceTopology.Proofs.Time.ReadBack

/-!
# The order of buckets

Buckets of one step are compared as integers and as moments alike. Dropping the digits that a step leaves out gives
a bucket of that step, and after every bucket comes a next one as long as the year keeps four digits: the bucket
of the next unit of the calendar.
-/

namespace ServiceTopology

/-- A moment is in no earlier unit exactly when it is no earlier than the first moment of the unit. -/
theorem Moment.ofMoment_le_iff_truncate {opens m : Moment} (hopens : opens.Valid) (hm : m.Valid) (step : Step) :
    Bucket.ofMoment opens step ≤ Bucket.ofMoment m step ↔ (opens.truncate step).seconds ≤ m.seconds := by
  rw [← bucket_le_iff (Bucket.valid_truncate hopens step) hm]
  have hlongest := Bucket.daysInMonth_le m.year m.month
  obtain ⟨-, _, _, _, _, _, _, _⟩ := hm
  cases step with
  | month => simp only [Bucket.ofMoment, truncate]; omega
  | day => simp only [Bucket.ofMoment, truncate]; omega
  | hour => simp only [Bucket.ofMoment, truncate]; omega
  | minute => simp only [Bucket.ofMoment, truncate]; omega
  | second => exact Iff.rfl

namespace Bucket

variable {step : Step}

/-- Of two buckets of a step that were read, the smaller one is the earlier moment. -/
theorem le_iff_of_parse {a b : Int} {m n : Moment} (ha : parse a step = .ok m) (hb : parse b step = .ok n) :
    a ≤ b ↔ m.seconds ≤ n.seconds := by
  have hfirst := reads_of_parse ha
  have hsecond := reads_of_parse hb
  rw [← hfirst.pack, ← hsecond.pack, Moment.ofMoment_le_iff_truncate hfirst.valid hsecond.valid, hfirst.truncate]

/-- A bucket of seconds without the digits that a step leaves out is read as its moment cut off at the step. -/
theorem parse_coarsen {bucket : Int} {m : Moment} (h : parse bucket .second = .ok m) (step : Step) :
    parse (coarsen step bucket) step = .ok (m.truncate step) := by
  have hreads := reads_of_parse h
  rw [← hreads.pack, coarsen_ofMoment hreads.valid]
  exact parse_ofMoment hreads.valid hreads.year_low hreads.year_high step

/-- A later year has greater buckets. -/
theorem year_le_of_ofMoment_le {a b : Moment} (hb : b.Valid) (h : ofMoment a step ≤ ofMoment b step) :
    a.year ≤ b.year := by
  obtain ⟨-, -, hmonth, -, hday, hhour, hminute, hsecond⟩ := hb
  have hlongest := daysInMonth_le b.year b.month
  cases step <;> simp only [ofMoment] at h <;> omega

/-- The bucket of the next unit is read as its first moment. -/
theorem parse_next {bucket : Int} {m : Moment} (h : parse bucket step = .ok m) (hyear : (m.next step).year ≤ 9999) :
    bucket < ofMoment (m.next step) step ∧ parse (ofMoment (m.next step) step) step = .ok (m.next step) := by
  have hreads := reads_of_parse h
  have hnext := Moment.startsAfter_next hreads.valid step
  have hlater := (hnext.least hnext.valid).mpr (Int.le_refl _)
  have hlow : 1000 ≤ (m.next step).year :=
    hreads.year_low.trans (year_le_of_ofMoment_le hnext.valid (Int.le_of_lt hlater))
  have hparse := parse_ofMoment hnext.valid hlow hyear step
  rw [hnext.truncate] at hparse
  rw [hreads.pack] at hlater
  exact ⟨hlater, hparse⟩

/-- The bucket of the next unit is the least one after a bucket. -/
theorem isLeast_next {bucket : Int} {m : Moment} (h : parse bucket step = .ok m)
    (hyear : (m.next step).year ≤ 9999) :
    IsLeast {other | WellFormed other step ∧ bucket < other} (ofMoment (m.next step) step) := by
  have hreads := reads_of_parse h
  obtain ⟨hlater, hparse⟩ := parse_next h hyear
  refine ⟨⟨⟨_, hparse⟩, hlater⟩, ?_⟩
  rintro other ⟨⟨n, hn⟩, hother⟩
  have hread := reads_of_parse hn
  rw [← hread.pack]
  refine ((Moment.startsAfter_next hreads.valid step).least hread.valid).mp ?_
  rwa [hreads.pack, hread.pack]

/-- Before a bucket of its step, a bucket has a next unit in a year of four digits. -/
theorem year_next_le {bucket later : Int} {m : Moment} (h : parse bucket step = .ok m)
    (hlater : WellFormed later step) (hlt : bucket < later) : (m.next step).year ≤ 9999 := by
  obtain ⟨n, hn⟩ := hlater
  have hreads := reads_of_parse h
  have hread := reads_of_parse hn
  have hle : ofMoment (m.next step) step ≤ ofMoment n step := by
    refine ((Moment.startsAfter_next hreads.valid step).least hread.valid).mp ?_
    rwa [hreads.pack, hread.pack]
  exact (year_le_of_ofMoment_le hread.valid hle).trans hread.year_high

/-- Between two buckets of a step there is a next one after the first. -/
theorem exists_isLeast_after {bucket later : Int} (h : WellFormed bucket step)
    (hlater : WellFormed later step) (hlt : bucket < later) :
    ∃ following, IsLeast {other | WellFormed other step ∧ bucket < other} following := by
  obtain ⟨m, hm⟩ := h
  exact ⟨_, isLeast_next hm (year_next_le hm hlater hlt)⟩

/-- Buckets of a step are ordered as their moments are in time. A bucket of seconds, divided by the power of ten that
drops the digits which a step leaves out and rounded down, is the bucket of the step for the same moment; it is read as
the moment cut off at the step, which is not a later one. -/
theorem ordered_as_time (step : Step) :
    (∀ a b m n, parse a step = .ok m → parse b step = .ok n → (a < b ↔ m < n)) ∧
    ∀ bucket m, parse bucket .second = .ok m →
      ofMoment m step = bucket.fdiv (10 ^ (14 - step.digits)) ∧
      parse (bucket.fdiv (10 ^ (14 - step.digits))) step = .ok (m.truncate step) ∧ ¬m < m.truncate step := by
  refine ⟨fun a b m n ha hb => ?_, fun bucket m h => ?_⟩
  · rw [← Int.not_le, le_iff_of_parse hb ha]
    exact Nat.not_le
  · have hvalid := (reads_of_parse h).valid
    have hcoarse : bucket.fdiv (10 ^ (14 - step.digits)) = coarsen step bucket := by
      cases step <;> exact Int.fdiv_eq_ediv_of_nonneg bucket (by decide)
    have hpack : ofMoment m step = coarsen step bucket := by
      rw [← (reads_of_parse h).pack, coarsen_ofMoment hvalid]
    rw [hcoarse]
    exact ⟨hpack, parse_coarsen h step,
      Nat.not_lt.mpr ((Moment.ofMoment_le_iff_truncate hvalid hvalid step).mp (Int.le_refl _))⟩

/-- The last second of a leap day, without its time of day, is the bucket of the day, which comes before the first
one of March; it is read as the start of the day. -/
theorem ordered_as_time_leapDay :
    parse 20240229 .day = .ok ⟨2024, 2, 29, 0, 0, 0⟩ ∧ parse 20240301 .day = .ok ⟨2024, 3, 1, 0, 0, 0⟩ ∧
      parse 20240229235959 .second = .ok ⟨2024, 2, 29, 23, 59, 59⟩ ∧
      Moment.mk 2024 2 29 0 0 0 < Moment.mk 2024 3 1 0 0 0 ∧
      ofMoment ⟨2024, 2, 29, 23, 59, 59⟩ .day = 20240229 := by
  have hday : parse 20240229 .day = .ok ⟨2024, 2, 29, 0, 0, 0⟩ := rfl
  have hnext : parse 20240301 .day = .ok ⟨2024, 3, 1, 0, 0, 0⟩ := rfl
  have hlast : parse 20240229235959 .second = .ok ⟨2024, 2, 29, 23, 59, 59⟩ := rfl
  obtain ⟨hordered, hcoarse⟩ := ordered_as_time .day
  exact ⟨hday, hnext, hlast, (hordered _ _ _ _ hday hnext).mp (by decide), (hcoarse _ _ hlast).1⟩

end Bucket

end ServiceTopology
