import Mathlib.Logic.Function.Defs

/-!
# The first item of each key

Items with integer keys, of which only the first with each key counts. The main statements say which items
count, that their keys are those of all items, each once, and that a choice of first items looks at
nothing but the keys. Two sections add what remains true when items with known keys are left out before the
choice, and what the order of the items can change about a tag that they carry.

The items after the first one are filtered before the choice goes on, so the lemmas are by an induction
that may assume a statement for every filtering of the rest.
-/

namespace ServiceTopology

variable {α β : Type}

/-- Prove a statement about lists from any filtering of the tail to the whole. -/
theorem filteredInduction {motive : List α → Prop} (nil : motive [])
    (cons : ∀ first rest, (∀ p, motive (rest.filter p)) → motive (first :: rest))
    (items : List α) : motive items := by
  match items with
  | [] => exact nil
  | first :: rest => exact cons first rest fun p => filteredInduction nil cons (rest.filter p)
termination_by items.length
decreasing_by exact Nat.lt_succ_of_le (List.length_filter_le p rest)

/-- The first item of each key, in the order of the items. -/
def firstByKey (key : α → Int) (items : List α) : List α :=
  items.eraseDupsBy fun later first => key later == key first

/-- The first item counts, and so do those that count among the ones with another key. -/
theorem firstByKey_cons (key : α → Int) (first : α) (rest : List α) :
    firstByKey key (first :: rest) =
      first :: firstByKey key (rest.filter fun item => key item != key first) := by
  have hother : (fun item => decide ((key item == key first) = false)) =
      fun item => key item != key first := by
    funext item
    cases h : key item == key first <;> simp [bne, h]
  rw [firstByKey, List.eraseDupsBy_cons, hother]
  rfl

/-- The items that count stand in the order of all items. -/
theorem firstByKey_sublist (key : α → Int) (items : List α) :
    (firstByKey key items).Sublist items := by
  induction items using filteredInduction with
  | nil => exact List.Sublist.refl []
  | cons first rest ih =>
    rw [firstByKey_cons]
    exact ((ih _).trans List.filter_sublist).cons_cons first

/-- Choosing among mapped items is mapping the chosen ones. -/
theorem firstByKey_map (key : β → Int) (f : α → β) (items : List α) :
    firstByKey key (items.map f) = (firstByKey (fun item => key (f item)) items).map f := by
  induction items using filteredInduction with
  | nil => rfl
  | cons first rest ih =>
    rw [List.map_cons, firstByKey_cons, firstByKey_cons, List.map_cons, List.filter_map, ih]
    rfl

/-- An injective change of the keys does not change the choice. -/
theorem firstByKey_comp {r : Int → Int} (hr : Function.Injective r) (key : α → Int) (items : List α) :
    firstByKey (fun item => r (key item)) items = firstByKey key items := by
  simp only [firstByKey, hr.beq_eq]

/-- An item counts exactly when a search for its key finds it first. -/
theorem mem_firstByKey (key : α → Int) (items : List α) (item : α) :
    item ∈ firstByKey key items ↔ items.find? (key · == key item) = some item := by
  induction items using filteredInduction with
  | nil => simp [firstByKey]
  | cons first rest ih =>
    rw [firstByKey_cons, List.mem_cons, ih]
    by_cases hkey : key first = key item
    · have hlater : (rest.filter fun item => key item != key first).find? (key · == key item) ≠
          some item := by
        intro hfound
        have hother := (List.mem_filter.mp (List.mem_of_find?_eq_some hfound)).2
        simp [hkey] at hother
      rw [List.find?_cons_of_pos (by simp [hkey])]
      simp only [hlater, or_false, Option.some.injEq]
      exact eq_comm
    · have hne : item ≠ first := fun h => hkey (h ▸ rfl)
      have hsame : (rest.filter fun other => key other != key first).find? (key · == key item) =
          rest.find? (key · == key item) := by
        rw [List.find?_filter]
        congr 1
        funext other
        by_cases h : key other = key item
        · simp [h, Ne.symm hkey]
        · simp [h]
      rw [List.find?_cons_of_neg (by simpa using hkey), hsame]
      simp only [hne, false_or]

/-- The keys of the items that count are those of all items, each once. -/
theorem map_firstByKey (key : α → Int) (items : List α) :
    (firstByKey key items).map key = (items.map key).eraseDups :=
  (firstByKey_map id key items).symm

/-- No two items that count share a key. -/
theorem nodup_map_firstByKey (key : α → Int) (items : List α) :
    ((firstByKey key items).map key).Nodup := by
  induction items using filteredInduction with
  | nil => exact List.nodup_nil
  | cons first rest ih =>
    rw [firstByKey_cons, List.map_cons, List.nodup_cons]
    refine ⟨?_, ih _⟩
    rw [map_firstByKey, List.mem_eraseDups]
    simp

/-! ## Keys that are already known -/

section Known

variable (key : α → Int) (known : List Int) (items : List α)

/-- A search among the items with a new key finds what a search among all items does, unless it is for a known
key. -/
theorem find?_filter_new (k : Int) :
    (items.filter fun item => !known.contains (key item)).find? (key · == k) =
      if k ∈ known then none else items.find? (key · == k) := by
  rw [List.find?_filter]
  by_cases hknown : k ∈ known
  · rw [if_pos hknown, List.find?_eq_none]
    intro item _ hitem
    have hkey : known.contains (key item) = false ∧ key item = k := by simpa using hitem
    rw [hkey.2, List.contains_eq_mem, decide_eq_false_iff_not] at hkey
    exact hkey.1 hknown
  · rw [if_neg hknown]
    congr 1
    funext item
    by_cases hkey : key item = k
    · simp [hkey, hknown]
    · simp [hkey]

/-- The new keys that count are those of the items apart from the known ones. -/
theorem mem_map_firstByKey_new (k : Int) :
    k ∈ (firstByKey key (items.filter fun item => !known.contains (key item))).map key ↔
      k ∉ known ∧ k ∈ items.map key := by
  rw [map_firstByKey, List.mem_eraseDups, List.mem_map, List.mem_map]
  constructor
  · rintro ⟨item, hitem, rfl⟩
    obtain ⟨hmem, hnew⟩ := List.mem_filter.mp hitem
    exact ⟨by simpa using hnew, item, hmem, rfl⟩
  · rintro ⟨hnew, item, hitem, rfl⟩
    exact ⟨item, List.mem_filter.mpr ⟨hitem, by simpa using hnew⟩, rfl⟩

end Known

/-! ## Items with a tag -/

section Tagged

variable (key : α → Int) (tag : α → β)

/-- The keys and tags of the items that count are those that searches for the keys find. -/
theorem mem_map_firstByKey_tagged (items : List α) (k : Int) (t : β) :
    (k, t) ∈ (firstByKey key items).map (fun item => (key item, tag item)) ↔
      (items.find? (key · == k)).map tag = some t := by
  rw [List.mem_map, Option.map_eq_some_iff]
  constructor
  · rintro ⟨item, hitem, hpair⟩
    obtain ⟨rfl, rfl⟩ := Prod.mk.inj hpair
    exact ⟨item, (mem_firstByKey key items item).mp hitem, rfl⟩
  · rintro ⟨item, hfound, rfl⟩
    have hkey := List.find?_some hfound
    obtain rfl := beq_iff_eq.mp hkey
    exact ⟨item, (mem_firstByKey key items item).mpr hfound, rfl⟩

/-- When all items with a key share their tag, the tag that a search for the key finds does not depend on the
order of the items. -/
theorem map_find?_of_perm {items reordered : List α} (hperm : reordered.Perm items) {k : Int}
    (hshared : ∀ first ∈ items, ∀ second ∈ items, key first = k → key second = k →
      tag first = tag second) :
    (reordered.find? (key · == k)).map tag = (items.find? (key · == k)).map tag := by
  cases hfirst : items.find? (key · == k) with
  | none =>
    have hnone : reordered.find? (key · == k) = none := by
      rw [List.find?_eq_none] at hfirst ⊢
      exact fun item hitem => hfirst item (hperm.mem_iff.mp hitem)
    rw [hnone]
  | some first =>
    have hmem := List.mem_of_find?_eq_some hfirst
    have hkey := List.find?_some hfirst
    have hsome : (reordered.find? (key · == k)).isSome := by
      rw [List.find?_isSome]
      exact ⟨first, hperm.mem_iff.mpr hmem, hkey⟩
    obtain ⟨second, hsecond⟩ := Option.isSome_iff_exists.mp hsome
    have hmem' := hperm.mem_iff.mp (List.mem_of_find?_eq_some hsecond)
    have hkey' := List.find?_some hsecond
    rw [hsecond, Option.map_some, Option.map_some, Option.some.injEq]
    exact hshared second hmem' first hmem (beq_iff_eq.mp hkey') (beq_iff_eq.mp hkey)

end Tagged

end ServiceTopology
