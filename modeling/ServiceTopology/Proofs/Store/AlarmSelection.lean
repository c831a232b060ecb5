import ServiceTopology.Proofs.Store.AlarmWindow
import ServiceTopology.Proofs.Text.Wide
import ServiceTopology.Proofs.Time.Order

/-!
# Alarms that a query selects

A query of a scope that does not fail, with a window of buckets of its step, answers with a page of the alarms
that it selects. An alarm with a bucket of a second is selected when its digits down to the step lie in the
window, which is when its moment lies from the first second of the window's first bucket to the last second of
its last one, and when the keyword occurs in its title or content.

A window can be cut between two buckets that follow one another: each alarm of the whole is then in one part.
Alarms with malformed buckets are selected by their numbers, as their window says.
-/

namespace ServiceTopology

/-! ## Keywords -/

/-- Code points occur among others exactly when they are a part of them without gaps. -/
theorem occursIn_iff {part text : List CodePoint} : occursIn part text = true ↔ part <:+: text := by
  induction text with
  | nil => simp [occursIn]
  | cons c rest ih =>
    rw [occursIn, Bool.or_eq_true, List.isPrefixOf_iff_prefix, ih, List.infix_cons_iff]

/-- A keyword occurs in a text. -/
def Occurs (keyword text : WideText) : Prop := keyword.codePoints <:+: text.codePoints

/-- A keyword selects an alarm when it is empty or occurs in the title or in the content. -/
theorem AlarmArchive.selects_iff {keyword : WideText} {item : AlarmItem} :
    selects keyword item = true ↔ keyword = "" ∨ Occurs keyword item.title ∨ Occurs keyword item.content := by
  simp only [selects, Bool.or_eq_true, List.isEmpty_iff, WideText.codePoints_eq_nil_iff, occursIn_iff,
    or_assoc, Occurs]

/-- A part of a keyword selects whatever the keyword selects. -/
theorem AlarmArchive.selects_of_occurs {part keyword : WideText} (h : Occurs part keyword) {item : AlarmItem}
    (hselects : selects keyword item = true) : selects part item = true := by
  rw [selects_iff] at hselects ⊢
  obtain rfl | htitle | hcontent := hselects
  · exact .inl (WideText.codePoints_eq_nil_iff.mp (List.infix_nil.mp h))
  · exact .inr (.inl (h.trans htitle))
  · exact .inr (.inr (h.trans hcontent))

/-! ## Windows in time -/

namespace Moment

/-- Set every field finer than a step to its last value. -/
def ending (m : Moment) : Step → Moment
  | .month => ⟨m.year, m.month, daysInMonth m.year m.month, 23, 59, 59⟩
  | .day => ⟨m.year, m.month, m.day, 23, 59, 59⟩
  | .hour => ⟨m.year, m.month, m.day, m.hour, 59, 59⟩
  | .minute => ⟨m.year, m.month, m.day, m.hour, m.minute, 59⟩
  | .second => m

/-- The last moment of a unit exists. -/
theorem valid_ending {m : Moment} (h : m.Valid) (step : Step) : (m.ending step).Valid := by
  obtain ⟨hyear, hfirst, hmonth, hday, hlast, hhour, hminute, hsecond⟩ := h
  cases step with
  | month =>
    exact ⟨hyear, hfirst, hmonth, daysInMonth_pos _ _, Nat.le_refl _, Nat.le_refl 23, Nat.le_refl 59,
      Nat.le_refl 59⟩
  | day => exact ⟨hyear, hfirst, hmonth, hday, hlast, Nat.le_refl 23, Nat.le_refl 59, Nat.le_refl 59⟩
  | hour => exact ⟨hyear, hfirst, hmonth, hday, hlast, hhour, Nat.le_refl 59, Nat.le_refl 59⟩
  | minute => exact ⟨hyear, hfirst, hmonth, hday, hlast, hhour, hminute, Nat.le_refl 59⟩
  | second => exact ⟨hyear, hfirst, hmonth, hday, hlast, hhour, hminute, hsecond⟩

/-- A moment is in no later unit exactly when it is no later than the last moment of the unit. -/
theorem ofMoment_le_iff_ending {m closes : Moment} (hm : m.Valid) (hcloses : closes.Valid) (step : Step) :
    Bucket.ofMoment m step ≤ Bucket.ofMoment closes step ↔ m.seconds ≤ (closes.ending step).seconds := by
  rw [← bucket_le_iff hm (valid_ending hcloses step)]
  have hsame := day_le_of_same_month hm hcloses
  have hlongest := Bucket.daysInMonth_le m.year m.month
  have hlast := Bucket.daysInMonth_le closes.year closes.month
  have hfirst := daysInMonth_pos closes.year closes.month
  obtain ⟨-, -, _, _, _, _, _, _⟩ := hm
  cases step with
  | month =>
    simp only [Bucket.ofMoment, ending] at hsame ⊢
    omega
  | day => simp only [Bucket.ofMoment, ending]; omega
  | hour => simp only [Bucket.ofMoment, ending]; omega
  | minute => simp only [Bucket.ofMoment, ending]; omega
  | second => exact Iff.rfl

end Moment

/-- The digits of a bucket of seconds lie in a window exactly when its moment lies from the first second of the
window's first bucket to the last second of its last one. -/
theorem Bucket.coarsen_between_iff {step : Step} {start finish bucket : Int} {opens closes m : Moment}
    (hopens : parse start step = .ok opens) (hcloses : parse finish step = .ok closes)
    (hm : parse bucket .second = .ok m) :
    start ≤ coarsen step bucket ∧ coarsen step bucket ≤ finish ↔
      opens.seconds ≤ m.seconds ∧ m.seconds ≤ (closes.ending step).seconds := by
  have hfirst := reads_of_parse hopens
  have hlast := reads_of_parse hcloses
  have hreads := reads_of_parse hm
  rw [← hreads.pack, coarsen_ofMoment hreads.valid, ← hfirst.pack, ← hlast.pack,
    Moment.ofMoment_le_iff_truncate hfirst.valid hreads.valid, hfirst.truncate,
    Moment.ofMoment_le_iff_ending hreads.valid hlast.valid]

/-! ## What a query answers -/

/-- Both ends of a query's window are buckets of its step. -/
def AlarmQuery.WellFormed (q : AlarmQuery) : Prop :=
  Bucket.WellFormed q.start q.step ∧ Bucket.WellFormed q.finish q.step

/-- Test whether a query at a scope selects an alarm. -/
def AlarmQuery.selects (q : AlarmQuery) (scope : AlarmScope) (item : AlarmItem) : Bool :=
  match AlarmArchive.secondWindow q.step q.start q.finish with
  | .ok (first, last) =>
    item.scope == scope && (first ≤ item.bucket && item.bucket ≤ last) && AlarmArchive.selects q.keyword item
  | .error _ => false

namespace AlarmArchive

/-- Alarms that a query at a scope selects, in their order. -/
def selected (archive : AlarmArchive) (scope : AlarmScope) (q : AlarmQuery) : List AlarmItem :=
  archive.items.filter (q.selects scope)

/-- The page of selected alarms that a query asks for, with the number of all of them. -/
def page (archive : AlarmArchive) (scope : AlarmScope) (q : AlarmQuery) : AlarmPage :=
  let items := archive.selected scope q
  ⟨slice items q.offset (q.offset + q.limit), items.length⟩

variable {archive : AlarmArchive} {scope : AlarmScope} {q : AlarmQuery}

/-- A scope that fails answers no query. -/
theorem value_query_of_failing (h : scope ∈ archive.failing) :
    (archive.query scope q).value = .error (.scopeFails scope) := by
  rw [query, if_pos (List.contains_iff_mem.mpr h)]
  rfl

/-- A window with a malformed bucket is refused, unless the scope fails anyway. -/
theorem value_query_of_malformed (h : scope ∉ archive.failing) (hq : ¬q.WellFormed) :
    ∃ error, (archive.query scope q).value = .error (.badBucket error) := by
  obtain ⟨error, herror⟩ := secondWindow_of_malformed hq
  rw [query, if_neg (mt List.contains_iff_mem.mp h), herror]
  exact ⟨error, rfl⟩

/-- In a window of seconds, the selected alarms are those that match in it. -/
theorem selected_of_secondWindow {first last : Int}
    (h : secondWindow q.step q.start q.finish = .ok (first, last)) :
    archive.selected scope q = archive.matching scope q.keyword first last := by
  refine List.filter_congr fun item _ => ?_
  simp only [AlarmQuery.selects, h]

/-- Any other query answers with a page of what it selects. -/
theorem value_query_of_wellFormed (h : scope ∉ archive.failing) (hq : q.WellFormed) :
    (archive.query scope q).value = .ok (archive.page scope q) := by
  obtain ⟨first, last, hwindow, -⟩ := secondWindow_of_wellFormed hq.1 hq.2
  rw [query, if_neg (mt List.contains_iff_mem.mp h), hwindow, page, selected_of_secondWindow hwindow]
  rfl

end AlarmArchive

namespace AlarmQuery

variable {q : AlarmQuery} {scope : AlarmScope} {item : AlarmItem}

/-- An alarm with a bucket of a second is selected when its digits down to the step lie in the window. -/
theorem selects_iff (hq : q.WellFormed) (hitem : Bucket.WellFormed item.bucket .second) :
    q.selects scope item = true ↔ item.scope = scope ∧
      (q.start ≤ Bucket.coarsen q.step item.bucket ∧ Bucket.coarsen q.step item.bucket ≤ q.finish) ∧
      (q.keyword = "" ∨ Occurs q.keyword item.title ∨ Occurs q.keyword item.content) := by
  obtain ⟨first, last, hwindow, hcovers⟩ := AlarmArchive.secondWindow_of_wellFormed hq.1 hq.2
  simp only [selects, hwindow, Bool.and_eq_true, beq_iff_eq, decide_eq_true_eq, and_assoc,
    AlarmArchive.selects_iff, ← hcovers item.bucket hitem]

/-- A wider window selects whatever a window selects, whether or not the buckets of the alarms are well formed. -/
theorem selects_of_wider {start finish : Int} (hq : q.WellFormed)
    (hwider : AlarmQuery.WellFormed { q with start, finish }) (hstart : start ≤ q.start)
    (hfinish : q.finish ≤ finish) (h : q.selects scope item = true) :
    AlarmQuery.selects { q with start, finish } scope item = true := by
  have hends := AlarmArchive.secondWindow_eq hq.1 hq.2
  have hwiderEnds := AlarmArchive.secondWindow_eq hwider.1 hwider.2
  have hunit : (0 : Int) ≤ Bucket.unit q.step := Int.natCast_nonneg _
  have hlow := Int.mul_le_mul_of_nonneg_right hstart hunit
  have hhigh := Int.mul_le_mul_of_nonneg_right hfinish hunit
  dsimp only at hwiderEnds
  simp only [selects, hends, Bool.and_eq_true, decide_eq_true_eq] at h
  simp only [selects, hwiderEnds, Bool.and_eq_true, decide_eq_true_eq]
  obtain ⟨⟨hscope, hfirst, hlast⟩, hkeyword⟩ := h
  exact ⟨⟨hscope, by omega, by omega⟩, hkeyword⟩

/-- A part of the keyword selects whatever the keyword selects. -/
theorem selects_of_part {part : WideText} (hpart : Occurs part q.keyword) (h : q.selects scope item = true) :
    AlarmQuery.selects { q with keyword := part } scope item = true := by
  simp only [selects] at h ⊢
  cases hwindow : AlarmArchive.secondWindow q.step q.start q.finish with
  | error error =>
    rw [hwindow] at h
    cases h
  | ok ends =>
    rw [hwindow] at h
    simp only [Bool.and_eq_true] at h ⊢
    exact ⟨h.1, AlarmArchive.selects_of_occurs hpart h.2⟩

/-- Of two windows that follow one another, exactly one selects an alarm that the whole one selects. -/
theorem selects_cut_iff {cut following : Int} (hq : q.WellFormed)
    (hcut : Bucket.WellFormed cut q.step)
    (hfollowing : IsLeast {other | Bucket.WellFormed other q.step ∧ cut < other} following)
    (hitem : Bucket.WellFormed item.bucket .second) (h : q.selects scope item = true) :
    AlarmQuery.selects { q with finish := cut } scope item = true ↔
      ¬AlarmQuery.selects { q with start := following } scope item = true := by
  obtain ⟨m, hm⟩ := hitem
  have hcoarse := Bucket.parse_coarsen hm q.step
  obtain ⟨hscope, ⟨hstart, hfinish⟩, hkeyword⟩ := (selects_iff hq ⟨m, hm⟩).mp h
  have hbefore : AlarmQuery.selects { q with finish := cut } scope item = true ↔
      Bucket.coarsen q.step item.bucket ≤ cut := by
    rw [selects_iff (q := { q with finish := cut }) ⟨hq.1, hcut⟩ ⟨m, hm⟩]
    exact ⟨fun h => h.2.1.2, fun h => ⟨hscope, ⟨hstart, h⟩, hkeyword⟩⟩
  have hafter : AlarmQuery.selects { q with start := following } scope item = true ↔
      following ≤ Bucket.coarsen q.step item.bucket := by
    rw [selects_iff (q := { q with start := following }) ⟨hfollowing.1.1, hq.2⟩ ⟨m, hm⟩]
    exact ⟨fun h => h.2.1.1, fun h => ⟨hscope, ⟨h, hfinish⟩, hkeyword⟩⟩
  have hnext (h : cut < Bucket.coarsen q.step item.bucket) : following ≤ Bucket.coarsen q.step item.bucket :=
    hfollowing.2 ⟨⟨_, hcoarse⟩, h⟩
  have hlater : cut < following := hfollowing.1.2
  rw [hbefore, hafter]
  omega

end AlarmQuery

/-- A query of a scope that does not fail, with a window of buckets of its step, answers with a page of what it
selects. It selects the alarms of the scope whose digits down to the step lie in the window and in whose title or
content the keyword occurs, if there is one; and digits lie in the window when the moment lies from the first second
of its first bucket to the last second of its last one. When the window is cut between a bucket and the next one,
exactly one part selects each alarm that it selects. A part of the keyword or a wider window loses no alarm, not even
one with a malformed bucket. -/
theorem alarms_selected (archive : AlarmArchive) (scope : AlarmScope) (q : AlarmQuery)
    (hscope : scope ∉ archive.failing) (hquery : q.WellFormed) :
    (archive.query scope q).value = .ok (archive.page scope q) ∧
    (∀ item, Bucket.WellFormed item.bucket .second →
      (item ∈ archive.selected scope q ↔ item ∈ archive.items ∧ item.scope = scope ∧
        (q.start ≤ Bucket.coarsen q.step item.bucket ∧ Bucket.coarsen q.step item.bucket ≤ q.finish) ∧
        (q.keyword = "" ∨ Occurs q.keyword item.title ∨ Occurs q.keyword item.content))) ∧
    (∀ opens closes bucket m, Bucket.parse q.start q.step = .ok opens →
      Bucket.parse q.finish q.step = .ok closes → Bucket.parse bucket .second = .ok m →
        (q.start ≤ Bucket.coarsen q.step bucket ∧ Bucket.coarsen q.step bucket ≤ q.finish ↔
          opens.seconds ≤ m.seconds ∧ m.seconds ≤ (closes.ending q.step).seconds)) ∧
    (∀ cut, Bucket.WellFormed cut q.step → cut < q.finish →
      ∃ following, IsLeast {other | Bucket.WellFormed other q.step ∧ cut < other} following ∧
        ∀ item ∈ archive.selected scope q, Bucket.WellFormed item.bucket .second →
          (item ∈ archive.selected scope { q with finish := cut } ↔
            item ∉ archive.selected scope { q with start := following })) ∧
    (∀ part, Occurs part q.keyword →
      (archive.selected scope q).Sublist (archive.selected scope { q with keyword := part })) ∧
    ∀ start finish, AlarmQuery.WellFormed { q with start, finish } → start ≤ q.start → q.finish ≤ finish →
      (archive.selected scope q).Sublist (archive.selected scope { q with start, finish }) := by
  refine ⟨AlarmArchive.value_query_of_wellFormed hscope hquery, fun item hitem => ?_,
    fun opens closes bucket m hopens hcloses hm => Bucket.coarsen_between_iff hopens hcloses hm,
    fun cut hcut hlt => ?_, fun part hpart => ?_, fun start finish hwider hstart hfinish => ?_⟩
  · rw [AlarmArchive.selected, List.mem_filter, AlarmQuery.selects_iff hquery hitem]
  · obtain ⟨following, hfollowing⟩ := Bucket.exists_isLeast_after hcut hquery.2 hlt
    refine ⟨following, hfollowing, fun item hselected hitem => ?_⟩
    obtain ⟨hmem, hselects⟩ := List.mem_filter.mp hselected
    simp only [AlarmArchive.selected, List.mem_filter, hmem, true_and]
    exact AlarmQuery.selects_cut_iff hquery hcut hfollowing hitem hselects
  · exact List.monotone_filter_right _ fun _ => AlarmQuery.selects_of_part hpart
  · exact List.monotone_filter_right _ fun _ => AlarmQuery.selects_of_wider hquery hwider hstart hfinish

/-- Alarms around a leap day: three of applications in the last days of February, one of a server and one of the
first second of March. -/
def AlarmArchive.leapDay : AlarmArchive where
  items :=
    [⟨"1", "orders slow", "", .application, 20240228235959⟩, ⟨"2", "", "slow database", .application, 20240229000000⟩,
      ⟨"3", "slow", "", .server, 20240229120000⟩, ⟨"4", "slow", "", .application, 20240229235959⟩,
      ⟨"5", "slow", "", .application, 20240301000000⟩]
  failing := [.service]

/-- The second page of slow applications in the last two days of February holds those of the leap day. -/
theorem alarms_selected_leapDay :
    let q : AlarmQuery := ⟨"slow", .day, 20240228, 20240229, 2, 1⟩
    .application ∉ AlarmArchive.leapDay.failing ∧ q.WellFormed ∧
      (AlarmArchive.leapDay.query .application q).value =
        .ok ⟨[⟨"2", "", "slow database", .application, 20240229000000⟩,
          ⟨"4", "slow", "", .application, 20240229235959⟩], 3⟩ := by
  intro q
  have hscope : AlarmScope.application ∉ AlarmArchive.leapDay.failing := by decide
  have hquery : q.WellFormed := ⟨by decide +kernel, by decide +kernel⟩
  exact ⟨hscope, hquery, (alarms_selected .leapDay .application q hscope hquery).1.trans
    (congrArg Except.ok (by decide +kernel))⟩

end ServiceTopology
