import Mathlib.Data.List.TakeDrop
import ServiceTopology.Proofs.Store.AlarmSelection

/-!
# Reading alarms page by page

A reader asks for a page at offset zero, then for the next one, and stops at the first offset that reaches the number
of matches, which every page tells. Whatever the size of a page, the reader sees each match once and in order.

A page is a slice of the matches between two positions. A position moves by no more than its index does, whether the
index counts from the start or from the end and also where it changes from one to the other; so no page is longer than
its limit. Pages with a negative limit are not treated.
-/

namespace ServiceTopology

/-! ## Slices -/

/-- A position lies in the list or at its end. -/
theorem slicePosition_le (length : Nat) (index : Int) : slicePosition length index ≤ length := by
  unfold slicePosition
  split <;> omega

/-- A position moves on by no more than its index does, also past the start of the list. -/
theorem slicePosition_add_le (length : Nat) (index : Int) {distance : Int} (h : 0 ≤ distance) :
    (slicePosition length (index + distance) : Int) ≤ slicePosition length index + distance := by
  unfold slicePosition
  split <;> split <;> omega

section Slice

variable {α : Type} (items : List α)

/-- A slice is a part of the list without gaps. -/
theorem slice_infix (start stop : Int) : slice items start stop <:+: items :=
  (List.drop_suffix _ _).isInfix.trans (List.take_prefix _ _).isInfix

/-- A slice has no more items than there are indices between its ends. -/
theorem length_slice_le (start : Int) {limit : Int} (h : 0 ≤ limit) :
    ((slice items start (start + limit)).length : Int) ≤ limit := by
  have hstop := slicePosition_le items.length (start + limit)
  have hmove := slicePosition_add_le items.length start h
  rw [slice, List.length_drop, List.length_take]
  omega

/-- A slice between indices that count from the start drops the items before the first one and takes as many as there
are indices. -/
theorem slice_of_nonneg {offset size : Int} (hoffset : 0 ≤ offset) (hsize : 0 ≤ size) :
    slice items offset (offset + size) = (items.drop offset.toNat).take size.toNat := by
  have hstop : (offset + size).toNat = offset.toNat + size.toNat := Int.toNat_add hoffset hsize
  rw [slice, slicePosition, slicePosition, if_neg (Int.not_lt.mpr hoffset),
    if_neg (Int.not_lt.mpr (Int.add_nonneg hoffset hsize)), ← List.take_eq_take_min, List.drop_take, hstop]
  by_cases hinside : offset.toNat ≤ items.length
  · rw [Nat.min_eq_left hinside, Nat.add_sub_cancel_left]
  · have hend : items.length ≤ offset.toNat := Nat.le_of_not_le hinside
    rw [Nat.min_eq_right hend, List.drop_length, List.drop_eq_nil_of_le hend, List.take_nil, List.take_nil]

/-- A slice and what comes after it are all that comes from its start on. -/
theorem slice_append_drop {offset size : Int} (hoffset : 0 ≤ offset) (hsize : 0 ≤ size) :
    slice items offset (offset + size) ++ items.drop (offset + size).toNat = items.drop offset.toNat := by
  rw [slice_of_nonneg items hoffset hsize, Int.toNat_add hoffset hsize, List.drop_take_append_drop]

end Slice

/-! ## Readers -/

/-- Pages that a reader gets from an offset on, when it asks for the next page as long as the offset does not reach the
number that the last page told. -/
inductive Paged (ask : Int → Except AlarmQueryError AlarmPage) (size : Int) : Int → List AlarmPage → Prop where
  | last {offset : Int} {page : AlarmPage} (hpage : ask offset = .ok page) (hend : page.total ≤ offset) :
      Paged ask size offset [page]
  | more {offset : Int} {page : AlarmPage} {rest : List AlarmPage} (hpage : ask offset = .ok page)
      (hmore : offset < page.total) (hrest : Paged ask size (offset + size) rest) :
      Paged ask size offset (page :: rest)

/-- Every offset is answered with a page of a list and the length of the list. -/
def GivesPagesOf (matched : List AlarmItem) (size : Int) (ask : Int → Except AlarmQueryError AlarmPage) : Prop :=
  ∀ offset, ask offset = .ok ⟨slice matched offset (offset + size), matched.length⟩

namespace Paged

section

variable {ask : Int → Except AlarmQueryError AlarmPage} {size offset : Int} {pages others : List AlarmPage}

/-- The answers decide what a reader gets. -/
theorem unique (h : Paged ask size offset pages) (hother : Paged ask size offset others) : others = pages := by
  induction h generalizing others with
  | last hpage hend =>
    cases hother with
    | last hsame _ => rw [Except.ok.inj (hsame.symm.trans hpage)]
    | more hsame hmore _ =>
      cases Except.ok.inj (hsame.symm.trans hpage)
      exact absurd hmore (Int.not_lt.mpr hend)
  | more hpage hmore _ ih =>
    cases hother with
    | last hsame hend =>
      cases Except.ok.inj (hsame.symm.trans hpage)
      exact absurd hmore (Int.not_lt.mpr hend)
    | more hsame _ hrest => rw [Except.ok.inj (hsame.symm.trans hpage), ih hrest]

end

variable {ask : Int → Except AlarmQueryError AlarmPage} {size offset : Int} {matched : List AlarmItem}
  (hask : GivesPagesOf matched size ask)

include hask

/-- Every page tells the length of the list. -/
theorem total_eq {pages : List AlarmPage} (h : Paged ask size offset pages) :
    ∀ page ∈ pages, page.total = matched.length := by
  induction h with
  | @last offset page hpage _ =>
    cases Except.ok.inj ((hask offset).symm.trans hpage)
    exact List.forall_mem_singleton.mpr rfl
  | @more offset page rest hpage _ _ ih =>
    cases Except.ok.inj ((hask offset).symm.trans hpage)
    exact List.forall_mem_cons.mpr ⟨rfl, ih⟩

/-- The pages from an offset on hold what the list has from there on. -/
theorem flatMap_items {pages : List AlarmPage} (h : Paged ask size offset pages) (hsize : 0 ≤ size)
    (hoffset : 0 ≤ offset) : pages.flatMap (·.items) = matched.drop offset.toNat := by
  induction h with
  | @last offset page hpage hend =>
    cases Except.ok.inj ((hask offset).symm.trans hpage)
    have hpast : (matched.length : Int) ≤ offset := hend
    have hnothing : matched.drop offset.toNat = [] := List.drop_eq_nil_of_le (by omega)
    have hsplit := slice_append_drop matched hoffset hsize
    rw [hnothing] at hsplit ⊢
    rw [List.flatMap_singleton, (List.append_eq_nil_iff.mp hsplit).1]
  | @more offset page rest hpage _ _ ih =>
    cases Except.ok.inj ((hask offset).symm.trans hpage)
    rw [List.flatMap_cons, ih (Int.add_nonneg hoffset hsize)]
    exact slice_append_drop matched hoffset hsize

/-- A reader comes to an end. -/
theorem exists_pages (hsize : 1 ≤ size) (offset : Int) : ∃ pages, Paged ask size offset pages := by
  -- What is left of the list gets shorter with every page.
  induction hleft : ((matched.length : Int) - offset).toNat using Nat.strong_induction_on generalizing offset with
  | _ left ih =>
    by_cases hend : (matched.length : Int) ≤ offset
    · exact ⟨_, .last (hask offset) hend⟩
    · obtain ⟨rest, hrest⟩ := ih ((matched.length : Int) - (offset + size)).toNat (by omega) (offset + size) rfl
      exact ⟨_, .more (hask offset) (Int.not_le.mp hend) hrest⟩

end Paged

/-! ## Pages of the archive -/

namespace AlarmArchive

variable {archive : AlarmArchive} {scope : AlarmScope} {q : AlarmQuery} {page : AlarmPage}

/-- A query that gets a page is one of a scope that does not fail, in a window of buckets. -/
theorem wellFormed_of_value_query (h : (archive.query scope q).value = .ok page) :
    scope ∉ archive.failing ∧ q.WellFormed := by
  have hscope : scope ∉ archive.failing := by
    intro hfails
    rw [value_query_of_failing hfails] at h
    cases h
  refine ⟨hscope, ?_⟩
  by_contra hmalformed
  obtain ⟨error, herror⟩ := value_query_of_malformed hscope hmalformed
  rw [herror] at h
  cases h

/-- When a query gets a page, so does the query for any other page of its matches. -/
theorem value_query_page (h : (archive.query scope q).value = .ok page) (offset limit : Int) :
    (archive.query scope { q with offset, limit }).value =
      .ok ⟨slice (archive.selected scope q) offset (offset + limit), (archive.selected scope q).length⟩ := by
  obtain ⟨hscope, hquery⟩ := wellFormed_of_value_query h
  exact value_query_of_wellFormed (q := { q with offset, limit }) hscope hquery

end AlarmArchive

/-- When a query succeeds, a reader of its matches gets the same pages whenever it asks with one size: at the offsets
that are multiples of the size, up to the first that reaches the number of matches. Together they hold the matches in
the order in which the alarms came, each once, and each page tells their number. At any other offset, a negative one
included, a page is a part of the matches without gaps and no longer than its limit. -/
theorem alarms_paged (archive : AlarmArchive) (scope : AlarmScope) (q : AlarmQuery) (found : AlarmPage)
    (h : (archive.query scope q).value = .ok found) :
    let matched := archive.items.filter (q.selects scope)
    let ask (limit offset : Int) := (archive.query scope { q with limit, offset }).value
    (∀ size, 1 ≤ size → ∃ pages, Paged (ask size) size 0 pages ∧
      (∀ others, Paged (ask size) size 0 others → others = pages) ∧
      pages.flatMap (·.items) = matched ∧ ∀ page ∈ pages, page.total = matched.length) ∧
    ∀ offset limit, 0 ≤ limit → ∃ page, ask limit offset = .ok page ∧
      page.items <:+: matched ∧ page.items.length ≤ limit ∧ page.total = matched.length := by
  intro matched ask
  have hask (size : Int) : GivesPagesOf matched size (ask size) := fun offset =>
    AlarmArchive.value_query_page h offset size
  refine ⟨fun size hsize => ?_, fun offset limit hlimit => ?_⟩
  · have hnonneg : 0 ≤ size := Int.le_trans (by decide) hsize
    obtain ⟨pages, hpages⟩ := Paged.exists_pages (hask size) hsize 0
    exact ⟨pages, hpages, fun others => hpages.unique, Paged.flatMap_items (hask size) hpages hnonneg (Int.le_refl 0),
      Paged.total_eq (hask size) hpages⟩
  · exact ⟨_, hask limit offset, slice_infix matched _ _, length_slice_le matched offset hlimit, rfl⟩

/-- Slow applications in the last two days of February are read in a page of two, a page of one and an empty one; the
page of one item that starts two items before the end holds the second of them. -/
theorem alarms_paged_leapDay :
    let q : AlarmQuery := ⟨"slow", .day, 20240228, 20240229, 10, 0⟩
    let ask (limit offset : Int) := (AlarmArchive.leapDay.query .application { q with limit, offset }).value
    let first : AlarmItem := ⟨"1", "orders slow", "", .application, 20240228235959⟩
    let second : AlarmItem := ⟨"2", "", "slow database", .application, 20240229000000⟩
    let third : AlarmItem := ⟨"4", "slow", "", .application, 20240229235959⟩
    (AlarmArchive.leapDay.query .application q).value = .ok ⟨[first, second, third], 3⟩ ∧
      (∃ pages, Paged (ask 2) 2 0 pages ∧ pages.flatMap (·.items) = [first, second, third] ∧
        ∀ page ∈ pages, page.total = 3) ∧
      ∃ page, ask 1 (-2) = .ok page ∧ page.items <:+: [first, second, third] ∧ (page.items.length : Int) ≤ 1 ∧
        page.total = 3 := by
  intro q ask first second third
  have hfound : (AlarmArchive.leapDay.query .application q).value = .ok ⟨[first, second, third], 3⟩ := by
    decide +kernel
  have hmatched : AlarmArchive.leapDay.items.filter (q.selects .application) = [first, second, third] := by
    decide +kernel
  obtain ⟨hpages, hpage⟩ := alarms_paged .leapDay .application q _ hfound
  rw [hmatched] at hpages hpage
  obtain ⟨pages, hread, -, hitems, htotal⟩ := hpages 2 (by decide)
  exact ⟨hfound, ⟨pages, hread, hitems, htotal⟩, hpage (-2) 1 (by decide)⟩

end ServiceTopology
