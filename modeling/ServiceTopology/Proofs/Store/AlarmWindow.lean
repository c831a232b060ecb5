import ServiceTopology.Proofs.Time.Fields
import ServiceTopology.Store.AlarmArchive

/-!
# The window of an alarm query

A window of buckets of a step is widened to whole seconds in two ways: at its start by the moment that the
bucket is read as, at its end by putting the digits of the last second of the longest month behind it. The
second one need not be a bucket: no month but some have a 31st day.

For buckets of seconds this makes no difference. Such a bucket lies in the widened window exactly when it
lies in the window after its own digits are dropped.
-/

namespace ServiceTopology

namespace Bucket

/-- Digits of day, hour, minute and second at the start of a month. -/
def firstDigits : Nat := 1000000

/-- The digits that a step leaves out of a moment lie between those of the first second and those of the
last one. -/
theorem ofMoment_second_bounds {m : Moment} (h : m.Valid) (step : Step) :
    ofMoment m step * unit step + (firstDigits % unit step : Nat) ≤ ofMoment m .second ∧
      ofMoment m .second ≤
        ofMoment m step * unit step + (AlarmArchive.lastDigits % unit step : Nat) := by
  obtain ⟨-, -, hmonth, hfirst, hday, hhour, hminute, hsecond⟩ := h
  have hlongest := daysInMonth_le m.year m.month
  rw [unit_eq]
  cases step with
  | month => simp only [ofMoment, firstDigits, AlarmArchive.lastDigits]; omega
  | day => simp only [ofMoment, firstDigits, AlarmArchive.lastDigits]; omega
  | hour => simp only [ofMoment, firstDigits, AlarmArchive.lastDigits]; omega
  | minute => simp only [ofMoment, firstDigits, AlarmArchive.lastDigits]; omega
  | second => simp only [ofMoment, firstDigits, AlarmArchive.lastDigits]; omega

/-- The moment of a bucket of a step has the digits of the first second. -/
theorem Reads.ofMoment_second {bucket : Int} {step : Step} {m : Moment} (h : Reads bucket step m) :
    ofMoment m .second = bucket * unit step + (firstDigits % unit step : Nat) := by
  rw [← h.pack, ← h.truncate, unit_eq]
  cases step with
  | month => simp only [ofMoment, Moment.truncate, firstDigits]; omega
  | day => simp only [ofMoment, Moment.truncate, firstDigits]; omega
  | hour => simp only [ofMoment, Moment.truncate, firstDigits]; omega
  | minute => simp only [ofMoment, Moment.truncate, firstDigits]; omega
  | second => simp only [ofMoment, Moment.truncate, firstDigits]; omega

/-- The last digits exceed the first ones by less than a unit. -/
theorem lastDigits_lt (step : Step) :
    AlarmArchive.lastDigits % unit step < unit step + firstDigits % unit step :=
  Nat.lt_add_right _ (Nat.mod_lt _ (by rw [unit_eq]; cases step <;> decide))

end Bucket

/-- A number whose part below a unit lies in a range that is narrower than the unit is placed by its whole
units. -/
theorem between_iff {unit low high whole number : Int} (hlow : whole * unit + low ≤ number)
    (hhigh : number ≤ whole * unit + high) (hnarrow : high < unit + low) (first last : Int) :
    first * unit + low ≤ number ∧ number ≤ last * unit + high ↔ first ≤ whole ∧ whole ≤ last := by
  have hunit : 0 ≤ unit := by omega
  have hmono {a b : Int} (h : a ≤ b) : a * unit ≤ b * unit := Int.mul_le_mul_of_nonneg_right h hunit
  constructor
  · rintro ⟨hfirst, hlast⟩
    constructor
    · by_contra hlater
      have hnext := hmono (Int.add_one_le_of_lt (Int.not_le.mp hlater))
      rw [Int.add_mul, Int.one_mul] at hnext
      omega
    · by_contra hearlier
      have hnext := hmono (Int.add_one_le_of_lt (Int.not_le.mp hearlier))
      rw [Int.add_mul, Int.one_mul] at hnext
      omega
  · rintro ⟨hfirst, hlast⟩
    have hstart := hmono hfirst
    have hfinish := hmono hlast
    omega

namespace AlarmArchive

/-- A window of buckets goes from the digits of the first second of its first bucket to those of the last second
of the longest month behind its last one. -/
theorem secondWindow_eq {step : Step} {start finish : Int} (hstart : Bucket.WellFormed start step)
    (hfinish : Bucket.WellFormed finish step) :
    secondWindow step start finish =
      .ok (start * Bucket.unit step + (Bucket.firstDigits % Bucket.unit step : Nat),
        finish * Bucket.unit step + (lastDigits % Bucket.unit step : Nat)) := by
  obtain ⟨opens, hopens⟩ := hstart
  obtain ⟨closes, hcloses⟩ := hfinish
  rw [← (Bucket.reads_of_parse hopens).ofMoment_second, secondWindow, hopens, hcloses]
  rfl

/-- A window of well-formed buckets is widened to seconds so that a second bucket lies in it exactly when
its digits down to the step do not leave the window. -/
theorem secondWindow_of_wellFormed {step : Step} {start finish : Int}
    (hstart : Bucket.WellFormed start step) (hfinish : Bucket.WellFormed finish step) :
    ∃ first last, secondWindow step start finish = .ok (first, last) ∧
      ∀ bucket, Bucket.WellFormed bucket .second →
        (first ≤ bucket ∧ bucket ≤ last ↔
          start ≤ Bucket.coarsen step bucket ∧ Bucket.coarsen step bucket ≤ finish) := by
  refine ⟨_, _, secondWindow_eq hstart hfinish, ?_⟩
  rintro bucket ⟨m, hm⟩
  have hreads := Bucket.reads_of_parse hm
  obtain ⟨hlow, hhigh⟩ := Bucket.ofMoment_second_bounds hreads.valid step
  have hnarrow := Bucket.lastDigits_lt step
  rw [← hreads.pack, Bucket.coarsen_ofMoment hreads.valid]
  exact between_iff hlow hhigh (by omega) start finish

/-- A window with a malformed bucket is refused. -/
theorem secondWindow_of_malformed {step : Step} {start finish : Int}
    (h : ¬(Bucket.WellFormed start step ∧ Bucket.WellFormed finish step)) :
    ∃ error, secondWindow step start finish = .error error := by
  unfold secondWindow
  cases hstart : Bucket.parse start step with
  | error error => exact ⟨error, rfl⟩
  | ok opens =>
    cases hfinish : Bucket.parse finish step with
    | error error => exact ⟨error, rfl⟩
    | ok closes => exact absurd ⟨⟨opens, hstart⟩, ⟨closes, hfinish⟩⟩ h

end AlarmArchive

end ServiceTopology
