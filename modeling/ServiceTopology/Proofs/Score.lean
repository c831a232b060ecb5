import ServiceTopology.Score

/-!
# Scores of traffic

Both scores are shares: the points that the counted items have earned, divided by the number of items and rounded
down. An item earns a hundred points at most. Traffic without items has all the points that it could have, which is
why its score of a hundred needs no exception in what follows.

The laws are stated for shares first. Numbers of items that make no sense together, such as more errors than calls,
are not treated.
-/

namespace ServiceTopology.Score

/-! ## Shares -/

/-- Points per counted item, rounded down; a hundred when nothing is counted. -/
def share (points count : Int) : Int := if count ≤ 0 then 100 else points.fdiv count

/-- Every successful call earns a hundred points. -/
theorem sla_eq_share (errorCalls calls : Int) :
    sla errorCalls calls = share ((calls - errorCalls) * 100) calls := rfl

/-- A satisfied request earns a hundred points and a tolerating one fifty. -/
theorem apdex_eq_share (satisfied tolerating frustrated : Int) :
    apdex satisfied tolerating frustrated =
      share (satisfied * 100 + tolerating * 50) (satisfied + tolerating + frustrated) := rfl

/-- Some items can have earned a number of points, each a hundred at most. -/
structure Earned (points count : Int) : Prop where
  nonneg : 0 ≤ points
  le_hundreds : points ≤ 100 * count

variable {points more count larger : Int}

/-- Without items the share is a hundred. -/
theorem share_of_nothing (points : Int) (h : count ≤ 0) : share points count = 100 := if_pos h

/-- A share reaches a bound exactly when the points reach the bound for every item. -/
theorem le_share_iff {bound : Int} (h : 0 < count) : bound ≤ share points count ↔ bound * count ≤ points := by
  rw [share, if_neg (Int.not_le.mpr h), Int.fdiv_eq_ediv_of_nonneg _ (Int.le_of_lt h)]
  exact Int.le_ediv_iff_mul_le h

/-- Shares of items are ordered when the exact quotients are. -/
theorem share_le_share (hcount : 0 < count) (hlarger : 0 < larger) (h : points * larger ≤ more * count) :
    share points count ≤ share more larger := by
  have hearned : share points count * count ≤ points := (le_share_iff hcount).mp (Int.le_refl _)
  apply (le_share_iff hlarger).mpr
  apply Int.le_of_mul_le_mul_right _ hcount
  calc share points count * larger * count
      = share points count * count * larger := Int.mul_right_comm _ _ _
    _ ≤ points * larger := Int.mul_le_mul_of_nonneg_right hearned (Int.le_of_lt hlarger)
    _ ≤ more * count := h

/-- More points for the same items give no smaller share. -/
theorem share_mono (h : points ≤ more) (count : Int) : share points count ≤ share more count := by
  by_cases hcount : 0 < count
  · exact share_le_share hcount hcount (Int.mul_le_mul_of_nonneg_right h (Int.le_of_lt hcount))
  · have hnothing := Int.not_lt.mp hcount
    exact Int.le_of_eq ((share_of_nothing points hnothing).trans (share_of_nothing more hnothing).symm)

namespace Earned

variable (h : Earned points count)

include h

/-- A number of items that earned points is not negative. -/
theorem count_nonneg : 0 ≤ count := by
  obtain ⟨hnonneg, hle⟩ := h
  omega

/-- Without items no points are earned. -/
theorem eq_zero_of_nothing (hcount : count ≤ 0) : points = 0 ∧ count = 0 := by
  obtain ⟨hnonneg, hle⟩ := h
  omega

/-- A share is not negative. -/
theorem share_nonneg : 0 ≤ share points count := by
  by_cases hcount : 0 < count
  · rw [le_share_iff hcount, Int.zero_mul]
    exact h.nonneg
  · rw [share_of_nothing points (Int.not_lt.mp hcount)]
    decide

/-- A share is a hundred exactly when every item has earned a hundred points. -/
theorem share_eq_hundred_iff : share points count = 100 ↔ points = 100 * count := by
  have hle := h.le_hundreds
  by_cases hcount : 0 < count
  · have hhundred : 100 ≤ share points count ↔ 100 * count ≤ points := le_share_iff hcount
    have hmore : 101 ≤ share points count ↔ 101 * count ≤ points := le_share_iff hcount
    omega
  · obtain ⟨rfl, rfl⟩ := h.eq_zero_of_nothing (Int.not_lt.mp hcount)
    exact iff_of_true (share_of_nothing 0 (Int.le_refl 0)) rfl

/-- A share is a hundred at most. -/
theorem share_le_hundred : share points count ≤ 100 := by
  by_cases hcount : 0 < count
  · have hmore : 101 ≤ share points count ↔ 101 * count ≤ points := le_share_iff hcount
    have hle := h.le_hundreds
    omega
  · exact Int.le_of_eq (share_of_nothing points (Int.not_lt.mp hcount))

/-- A further item with all its points gives no smaller share. -/
theorem share_le_of_best : share points count ≤ share (points + 100) (count + 1) := by
  have hle := h.le_hundreds
  have hnext : 0 < count + 1 := Int.lt_add_one_of_le h.count_nonneg
  by_cases hcount : 0 < count
  · apply share_le_share hcount hnext
    rw [Int.mul_add, Int.mul_one, Int.add_mul]
    omega
  · obtain ⟨rfl, rfl⟩ := h.eq_zero_of_nothing (Int.not_lt.mp hcount)
    decide

/-- A further item without points gives no larger share. -/
theorem share_le_of_worst : share points (count + 1) ≤ share points count := by
  have hnext : 0 < count + 1 := Int.lt_add_one_of_le h.count_nonneg
  by_cases hcount : 0 < count
  · apply share_le_share hnext hcount
    exact Int.mul_le_mul_of_nonneg_left (Int.le_add_one (Int.le_refl count)) h.nonneg
  · obtain ⟨rfl, rfl⟩ := h.eq_zero_of_nothing (Int.not_lt.mp hcount)
    decide

end Earned

/-! ## Scores -/

/-- Calls of which some failed earn points. -/
theorem earned_calls {errorCalls calls : Int} (herrors : 0 ≤ errorCalls) (hcalls : errorCalls ≤ calls) :
    Earned ((calls - errorCalls) * 100) calls :=
  ⟨by omega, by omega⟩

/-- Requests of three kinds earn points. -/
theorem earned_requests {satisfied tolerating frustrated : Int} (hsatisfied : 0 ≤ satisfied)
    (htolerating : 0 ≤ tolerating) (hfrustrated : 0 ≤ frustrated) :
    Earned (satisfied * 100 + tolerating * 50) (satisfied + tolerating + frustrated) :=
  ⟨by omega, by omega⟩

/-- With no more errors than calls, the percentage of successful calls is between zero and a hundred, and a hundred
exactly without errors; a further successful call does not lower it and a further error does not raise it. For
numbers of requests, the percentage of satisfied ones is between zero and a hundred, and a hundred exactly when all
are satisfied; a further satisfied request does not lower it, a further frustrated one does not raise it, and a
request that turns from frustrated to tolerating or from tolerating to satisfied does not lower it. -/
theorem bounded_and_monotone :
    (∀ errorCalls calls : Int, 0 ≤ errorCalls → errorCalls ≤ calls →
      (0 ≤ sla errorCalls calls ∧ sla errorCalls calls ≤ 100) ∧
      (sla errorCalls calls = 100 ↔ errorCalls = 0) ∧
      sla errorCalls calls ≤ sla errorCalls (calls + 1) ∧
      sla (errorCalls + 1) (calls + 1) ≤ sla errorCalls calls) ∧
    ∀ satisfied tolerating frustrated : Int, 0 ≤ satisfied → 0 ≤ tolerating → 0 ≤ frustrated →
      (0 ≤ apdex satisfied tolerating frustrated ∧ apdex satisfied tolerating frustrated ≤ 100) ∧
      (apdex satisfied tolerating frustrated = 100 ↔ tolerating = 0 ∧ frustrated = 0) ∧
      apdex satisfied tolerating frustrated ≤ apdex (satisfied + 1) tolerating frustrated ∧
      apdex satisfied tolerating (frustrated + 1) ≤ apdex satisfied tolerating frustrated ∧
      apdex satisfied tolerating (frustrated + 1) ≤ apdex satisfied (tolerating + 1) frustrated ∧
      apdex satisfied (tolerating + 1) frustrated ≤ apdex (satisfied + 1) tolerating frustrated := by
  constructor
  · intro errorCalls calls herrors hcalls
    have hearned := earned_calls herrors hcalls
    simp only [sla_eq_share]
    refine ⟨⟨hearned.share_nonneg, hearned.share_le_hundred⟩, ?_, ?_, ?_⟩
    · rw [hearned.share_eq_hundred_iff]
      omega
    · have hpoints : (calls + 1 - errorCalls) * 100 = (calls - errorCalls) * 100 + 100 := by omega
      rw [hpoints]
      exact hearned.share_le_of_best
    · have hpoints : (calls + 1 - (errorCalls + 1)) * 100 = (calls - errorCalls) * 100 := by omega
      rw [hpoints]
      exact hearned.share_le_of_worst
  · intro satisfied tolerating frustrated hsatisfied htolerating hfrustrated
    have hearned := earned_requests hsatisfied htolerating hfrustrated
    have hmoreSatisfied : satisfied + 1 + tolerating + frustrated = satisfied + tolerating + frustrated + 1 := by omega
    have hmoreTolerating : satisfied + (tolerating + 1) + frustrated = satisfied + tolerating + frustrated + 1 := by omega
    have hmoreFrustrated : satisfied + tolerating + (frustrated + 1) = satisfied + tolerating + frustrated + 1 := by omega
    simp only [apdex_eq_share, hmoreSatisfied, hmoreTolerating, hmoreFrustrated]
    refine ⟨⟨hearned.share_nonneg, hearned.share_le_hundred⟩, ?_, ?_, hearned.share_le_of_worst, ?_, ?_⟩
    · rw [hearned.share_eq_hundred_iff]
      omega
    · have hpoints : (satisfied + 1) * 100 + tolerating * 50 = satisfied * 100 + tolerating * 50 + 100 := by omega
      rw [hpoints]
      exact hearned.share_le_of_best
    · exact share_mono (by omega) _
    · exact share_mono (by omega) _

/-- Of seven calls three failed, and of six requests one is tolerating and two are frustrated; the first calls and the
first requests of all are treated alike. -/
theorem bounded_and_monotone_mixed :
    ((0 : Int) ≤ 3 ∧ (3 : Int) ≤ 7 ∧ sla 3 7 = 57 ∧ sla 3 7 ≤ sla 3 8 ∧ sla 4 8 ≤ sla 3 7) ∧
    (sla 0 0 = 100 ∧ sla 1 1 ≤ sla 0 0) ∧
    ((0 : Int) ≤ 1 ∧ (0 : Int) ≤ 2 ∧ apdex 3 1 2 = 58 ∧ apdex 3 1 3 ≤ apdex 3 2 2) ∧
    apdex 0 0 0 = 100 ∧ apdex 0 0 1 ≤ apdex 0 0 0 := by
  obtain ⟨-, -, hsuccess, hfailure⟩ := bounded_and_monotone.1 3 7 (by decide) (by decide)
  obtain ⟨-, -, -, hfirst⟩ := bounded_and_monotone.1 0 0 (by decide) (by decide)
  obtain ⟨-, -, -, -, hturned, -⟩ := bounded_and_monotone.2 3 1 2 (by decide) (by decide) (by decide)
  obtain ⟨-, -, -, hlost, -, -⟩ := bounded_and_monotone.2 0 0 0 (by decide) (by decide) (by decide)
  exact ⟨⟨by decide, by decide, by decide, hsuccess, hfailure⟩, ⟨by decide, hfirst⟩,
    ⟨by decide, by decide, by decide, hturned⟩, by decide, hlost⟩

end ServiceTopology.Score
