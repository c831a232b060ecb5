import Mathlib.Data.Rat.Cast.Order
import ServiceTopology.Proofs.Time.Minutes

/-!
# Servers alive in a window

The fleet compares buckets of seconds as integers. For well-formed buckets this is a comparison of moments: the life of
a server instance, from its registration to its last heartbeat, shares a time with a window exactly when the instance
registered no later than the window's end and gave its last heartbeat no earlier than the window's start. Both ends of
a life and of a window count.

A time is any number of seconds, fractions of a second included; whole seconds would do, since two spans that meet do so
at the start of one of them. Instances with malformed buckets are not treated.
-/

namespace ServiceTopology

/-! ## Spans of time -/

/-- Two buckets of seconds of which the first is not after the last. -/
structure IsSpan (first last : Int) : Prop where
  opens : Bucket.WellFormed first .second
  closes : Bucket.WellFormed last .second
  ordered : first ≤ last

/-- A time, in seconds since the start of year one, lies between the moments of two buckets of seconds, both of which
count. -/
def Within (first last : Int) (time : ℚ) : Prop :=
  ∃ opens closes, ReadsAs first opens ∧ ReadsAs last closes ∧ opens.seconds ≤ time ∧ time ≤ closes.seconds

/-- When a time lies within two spans, none of them ends before the other one starts. -/
theorem le_of_within {first last start finish : Int} {time : ℚ} (h : Within first last time)
    (hother : Within start finish time) : first ≤ finish := by
  obtain ⟨opens, -, hopens, -, hafter, -⟩ := h
  obtain ⟨-, closes, -, hcloses, -, hbefore⟩ := hother
  apply (Bucket.le_iff_of_parse hopens hcloses).mpr
  exact_mod_cast hafter.trans hbefore

namespace IsSpan

variable {first last start finish : Int} (h : IsSpan first last) (hother : IsSpan start finish)

include h hother

/-- A span that starts in another one shares its first moment with it. -/
theorem exists_shared_first (hstart : start ≤ first) (hfinish : first ≤ finish) :
    ∃ m : Moment, m.Valid ∧ Within first last m.seconds ∧ Within start finish m.seconds := by
  obtain ⟨⟨m, hm⟩, ⟨closes, hcloses⟩, hordered⟩ := h
  obtain ⟨⟨opens, hopens⟩, ⟨ends, hends⟩, -⟩ := hother
  have hlast := (Bucket.le_iff_of_parse hm hcloses).mp hordered
  have hafter := (Bucket.le_iff_of_parse hopens hm).mp hstart
  have hbefore := (Bucket.le_iff_of_parse hm hends).mp hfinish
  exact ⟨m, (Bucket.reads_of_parse hm).valid, ⟨m, closes, hm, hcloses, le_rfl, Nat.cast_le.mpr hlast⟩,
    opens, ends, hopens, hends, Nat.cast_le.mpr hafter, Nat.cast_le.mpr hbefore⟩

/-- Two spans of which none ends before the other one starts share a moment. -/
theorem exists_shared (hfirst : first ≤ finish) (hstart : start ≤ last) :
    ∃ m : Moment, m.Valid ∧ Within first last m.seconds ∧ Within start finish m.seconds := by
  obtain hle | hle := Int.le_total start first
  · exact h.exists_shared_first hother hle hfirst
  · obtain ⟨m, hm, hin, hwithin⟩ := hother.exists_shared_first h hle hstart
    exact ⟨m, hm, hwithin, hin⟩

/-- Two spans share a time exactly when none ends before the other one starts. -/
theorem exists_within_iff :
    (∃ time, Within first last time ∧ Within start finish time) ↔ first ≤ finish ∧ start ≤ last := by
  constructor
  · rintro ⟨time, hin, hwithin⟩
    exact ⟨le_of_within hin hwithin, le_of_within hwithin hin⟩
  · rintro ⟨hfirst, hstart⟩
    obtain ⟨m, -, hin, hwithin⟩ := h.exists_shared hother hfirst hstart
    exact ⟨m.seconds, hin, hwithin⟩

end IsSpan

/-! ## Windows -/

namespace Fleet

variable {fleet : Fleet} {applicationId start finish : Int} {server : ServerInstance}

/-- An instance is found when it is one of the application, registered by the window's end, with a heartbeat since the
window's start. -/
theorem mem_aliveIn : server ∈ fleet.aliveIn applicationId start finish ↔
    server ∈ fleet.instances ∧ server.applicationId = applicationId ∧ server.registration ≤ finish ∧
      start ≤ server.heartbeat := by
  rw [aliveIn_eq, List.mem_filter, decide_eq_true_eq]

/-- A wider window finds whatever a window finds, in the same order. -/
theorem aliveIn_sublist {earlier later : Int} (hstart : earlier ≤ start) (hfinish : finish ≤ later) :
    (fleet.aliveIn applicationId start finish).Sublist (fleet.aliveIn applicationId earlier later) := by
  rw [aliveIn_eq, aliveIn_eq]
  apply List.monotone_filter_right
  intro server hserver
  rw [decide_eq_true_eq] at hserver ⊢
  obtain ⟨happlication, hregistration, hheartbeat⟩ := hserver
  exact ⟨happlication, hregistration.trans hfinish, hstart.trans hheartbeat⟩

/-- Of two windows that follow one another, at least one finds an instance that the whole one finds, and none finds
another one. -/
theorem mem_aliveIn_cut {cut following : Int} (hlives : IsSpan server.registration server.heartbeat)
    (hfollowing : IsLeast {other | Bucket.WellFormed other .second ∧ cut < other} following) (hstart : start ≤ cut)
    (hfinish : cut < finish) :
    server ∈ fleet.aliveIn applicationId start finish ↔
      server ∈ fleet.aliveIn applicationId start cut ∨ server ∈ fleet.aliveIn applicationId following finish := by
  have hlater : cut < following := hfollowing.1.2
  have hnext (h : cut < server.heartbeat) : following ≤ server.heartbeat := hfollowing.2 ⟨hlives.closes, h⟩
  have hordered := hlives.ordered
  simp only [mem_aliveIn]
  constructor
  · rintro ⟨hmem, happlication, hregistration, hheartbeat⟩
    by_cases hbefore : server.registration ≤ cut
    · exact .inl ⟨hmem, happlication, hbefore, hheartbeat⟩
    · exact .inr ⟨hmem, happlication, hregistration, hnext (by omega)⟩
  · rintro (⟨hmem, happlication, hregistration, hheartbeat⟩ | ⟨hmem, happlication, hregistration, hheartbeat⟩)
    · exact ⟨hmem, happlication, by omega, hheartbeat⟩
    · exact ⟨hmem, happlication, hregistration, by omega⟩

end Fleet

open scoped Classical in
/-- When the lives of all instances are spans, a window that is a span finds the instances of an application whose life
shares a time with it, which then is also that of a moment; it finds them in the order in which they were added, each as
often. A wider window loses none of them. When the window is cut at a bucket, the second after it has a bucket too, and
the two parts that end and start there find the same instances together as the whole. -/
theorem servers_alive (fleet : Fleet) (applicationId start finish : Int)
    (hlives : ∀ server ∈ fleet.instances, IsSpan server.registration server.heartbeat)
    (hwindow : IsSpan start finish) :
    let found (first last : Int) := fleet.aliveIn applicationId first last
    found start finish = fleet.instances.filter (fun server => server.applicationId = applicationId ∧
      ∃ time, Within start finish time ∧ Within server.registration server.heartbeat time) ∧
    (∀ server ∈ found start finish, ∃ m : Moment, m.Valid ∧ Within start finish m.seconds ∧
      Within server.registration server.heartbeat m.seconds) ∧
    (∀ earlier later, earlier ≤ start → finish ≤ later → (found start finish).Sublist (found earlier later)) ∧
    ∀ cut m, ReadsAs cut m → start ≤ cut → cut < finish →
      ∃ following next, ReadsAs following next ∧ next.seconds = m.seconds + 1 ∧
        ∀ server, server ∈ found start finish ↔ server ∈ found start cut ∨ server ∈ found following finish := by
  intro found
  refine ⟨?_, fun server hserver => ?_, fun earlier later => Fleet.aliveIn_sublist, fun cut m hm hstart hfinish => ?_⟩
  · apply (fleet.aliveIn_eq applicationId start finish).trans
    apply List.filter_congr
    intro server hserver
    rw [decide_eq_decide, hwindow.exists_within_iff (hlives server hserver), and_comm (a := start ≤ _)]
  · obtain ⟨hmem, -, hregistration, hheartbeat⟩ := Fleet.mem_aliveIn.mp hserver
    exact hwindow.exists_shared (hlives server hmem) hheartbeat hregistration
  · have hyear := Bucket.year_next_le hm hwindow.closes hfinish
    have hfollowing := Bucket.isLeast_next hm hyear
    refine ⟨_, _, (Bucket.parse_next hm hyear).2, Moment.seconds_nextSecond (Bucket.reads_of_parse hm).valid,
      fun server => ?_⟩
    by_cases hmem : server ∈ fleet.instances
    · exact Fleet.mem_aliveIn_cut (hlives server hmem) hfollowing hstart hfinish
    · simp only [found, Fleet.mem_aliveIn, hmem, false_and, or_false]

/-- A fleet around the end of a leap day: one instance that leaves with its last second, one that comes with the first
second of March, one of another application. -/
def Fleet.leapDay : Fleet where
  instances := [⟨1, 2, "orders-1", 20240228000000, 20240229235959⟩, ⟨2, 2, "orders-2", 20240301000000, 20240301000000⟩,
    ⟨3, 6, "gateway-1", 20240101000000, 20241231235959⟩]

/-- Two days that meet at the end of February find one instance of the orders each. Whoever one of the days finds is
found by both of them together, and no other instance. -/
theorem servers_alive_leapDay :
    let found (first last : Int) := Fleet.leapDay.aliveIn 2 first last
    (∀ server ∈ Fleet.leapDay.instances, IsSpan server.registration server.heartbeat) ∧
      IsSpan 20240229000000 20240301235959 ∧
      found 20240229000000 20240229235959 = [⟨1, 2, "orders-1", 20240228000000, 20240229235959⟩] ∧
      found 20240301000000 20240301235959 = [⟨2, 2, "orders-2", 20240301000000, 20240301000000⟩] ∧
      ∀ server, server ∈ found 20240229000000 20240301235959 ↔
        server ∈ found 20240229000000 20240229235959 ∨ server ∈ found 20240301000000 20240301235959 := by
  intro found
  have hlives : ∀ server ∈ Fleet.leapDay.instances, IsSpan server.registration server.heartbeat := by
    simp only [Fleet.leapDay, List.forall_mem_cons, List.not_mem_nil, false_implies, implies_true, and_true]
    exact ⟨⟨by decide +kernel, by decide +kernel, by decide⟩, ⟨by decide +kernel, by decide +kernel, by decide⟩,
      ⟨by decide +kernel, by decide +kernel, by decide⟩⟩
  have hwindow : IsSpan 20240229000000 20240301235959 := ⟨by decide +kernel, by decide +kernel, by decide⟩
  have hcut : ReadsAs 20240229235959 ⟨2024, 2, 29, 23, 59, 59⟩ := rfl
  obtain ⟨-, -, -, hparts⟩ := servers_alive .leapDay 2 _ _ hlives hwindow
  obtain ⟨following, next, hfollowing, hsecond, hfound⟩ := hparts _ _ hcut (by decide) (by decide)
  have hmarch : ReadsAs 20240301000000 ⟨2024, 3, 1, 0, 0, 0⟩ := rfl
  have hsame : next.seconds = Moment.seconds ⟨2024, 3, 1, 0, 0, 0⟩ := hsecond
  have hbucket : following = 20240301000000 := by
    apply le_antisymm
    · exact (Bucket.le_iff_of_parse hfollowing hmarch).mpr hsame.le
    · exact (Bucket.le_iff_of_parse hmarch hfollowing).mpr hsame.ge
  rw [hbucket] at hfound
  exact ⟨hlives, hwindow, by decide, by decide, hfound⟩

end ServiceTopology
