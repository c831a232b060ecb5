import Mathlib.Data.List.Nodup
import ServiceTopology.Json.Value
import ServiceTopology.Table

/-!
# Bindings with distinct keys

Tables and the members of an object are collected by binding keys one by one. When the keys are distinct, each
binding goes to the end, so that the collection is the list that it was made from.

A table that was collected has distinct keys, whatever it was made from; the type alone does not say so.
-/

namespace ServiceTopology

variable {κ α : Type}

/-- Binding distinct keys one by one appends them, when binding a new key puts it at the end. -/
theorem foldl_bind_eq_append {bind : κ → α → List (κ × α) → List (κ × α)}
    (hbind : ∀ key value known, key ∉ known.map Prod.fst → bind key value known = known ++ [(key, value)])
    (known : List (κ × α)) {entries : List (κ × α)} (h : ((known ++ entries).map Prod.fst).Nodup) :
    entries.foldl (fun known entry => bind entry.1 entry.2 known) known = known ++ entries := by
  induction entries generalizing known with
  | nil => exact (List.append_nil known).symm
  | cons entry rest ih =>
    have hnew : entry.1 ∉ known.map Prod.fst := by
      intro hmem
      rw [List.map_append, List.nodup_append] at h
      exact h.2.2 _ hmem _ List.mem_cons_self rfl
    have happend : known ++ entry :: rest = known ++ [entry] ++ rest := by simp
    rw [happend] at h ⊢
    rw [List.foldl_cons, hbind _ _ _ hnew]
    exact ih (known ++ [entry]) h

namespace Json

/-- A new name is bound at the end. -/
theorem Members.bind_of_notMem {name : WideText} (value : Json) {members : Members}
    (h : name ∉ members.map Prod.fst) : Members.bind name value members = members ++ [(name, value)] := by
  induction members with
  | nil => rfl
  | cons member rest ih =>
    obtain ⟨other, old⟩ := member
    rw [List.map_cons, List.mem_cons, not_or] at h
    rw [Members.bind, if_neg (Ne.symm h.1), ih h.2]
    rfl

/-- Members with distinct names are collected as they are. -/
theorem Members.ofList_eq_self {members : List (WideText × Json)} (h : (members.map Prod.fst).Nodup) :
    Members.ofList members = members :=
  foldl_bind_eq_append (fun _ value _ hnew => Members.bind_of_notMem value hnew) [] h

end Json

namespace Table

/-- Keys of a table in the order in which they first appeared. -/
def keys (table : Table α) : List Int := table.entries.map Prod.fst

/-- A new key is bound at the end. -/
theorem bindIn_of_notMem {key : Int} (value : α) {entries : List (Int × α)}
    (h : key ∉ entries.map Prod.fst) : bindIn key value entries = entries ++ [(key, value)] := by
  induction entries with
  | nil => rfl
  | cons entry rest ih =>
    obtain ⟨other, old⟩ := entry
    rw [List.map_cons, List.mem_cons, not_or] at h
    rw [bindIn, if_neg (Ne.symm h.1), ih h.2]
    rfl

/-- A known key is bound in its place. -/
theorem map_fst_bindIn_of_mem {key : Int} (value : α) {entries : List (Int × α)}
    (h : key ∈ entries.map Prod.fst) : (bindIn key value entries).map Prod.fst = entries.map Prod.fst := by
  induction entries with
  | nil => cases h
  | cons entry rest ih =>
    obtain ⟨other, old⟩ := entry
    by_cases hkey : other = key
    · rw [bindIn, if_pos hkey, List.map_cons, List.map_cons, hkey]
    · rw [List.map_cons, List.mem_cons] at h
      rw [bindIn, if_neg hkey, List.map_cons, List.map_cons, ih (h.resolve_left (Ne.symm hkey))]

/-- The bindings of a table, collected one by one, are those of a list. -/
theorem entries_ofList (bindings : List (Int × α)) :
    (ofList bindings).entries = bindings.foldl (fun known entry => bindIn entry.1 entry.2 known) [] :=
  (List.foldl_hom Table.entries (fun _ _ => rfl)).symm

/-- A table with distinct keys is collected from its own bindings. -/
theorem ofList_entries {table : Table α} (h : table.keys.Nodup) : ofList table.entries = table :=
  congrArg Table.mk ((entries_ofList table.entries).trans
    (foldl_bind_eq_append (fun _ value _ hnew => bindIn_of_notMem value hnew) [] h))

/-- Binding a key keeps keys distinct. -/
theorem nodup_keys_insert {table : Table α} (h : table.keys.Nodup) (key : Int) (value : α) :
    (table.insert key value).keys.Nodup := by
  by_cases hkey : key ∈ table.entries.map Prod.fst
  · rw [keys, insert, map_fst_bindIn_of_mem value hkey]
    exact h
  · rw [keys, insert, bindIn_of_notMem value hkey, List.map_append]
    refine List.nodup_append.mpr ⟨h, List.nodup_singleton _, fun other hother added hadded hsame => ?_⟩
    rw [hsame, List.mem_singleton.mp hadded] at hother
    exact hkey hother

/-- Binding a key adds it to the keys, unless it is there. -/
theorem mem_keys_insert {table : Table α} {key other : Int} {value : α} :
    other ∈ (table.insert key value).keys ↔ other = key ∨ other ∈ table.keys := by
  by_cases hkey : key ∈ table.entries.map Prod.fst
  · rw [keys, insert, map_fst_bindIn_of_mem value hkey]
    exact ⟨.inr, fun h => h.elim (fun hsame => hsame ▸ hkey) id⟩
  · rw [keys, insert, bindIn_of_notMem value hkey, List.map_append, List.mem_append, or_comm, List.map_singleton,
      List.mem_singleton]
    rfl

/-- A table that was collected from a list has distinct keys. -/
theorem nodup_keys_ofList (bindings : List (Int × α)) : (ofList bindings).keys.Nodup := by
  have hkeep (table : Table α) (h : table.keys.Nodup) :
      (bindings.foldl (fun table binding => table.insert binding.1 binding.2) table).keys.Nodup := by
    induction bindings generalizing table with
    | nil => exact h
    | cons binding rest ih => exact ih _ (nodup_keys_insert h binding.1 binding.2)
  exact hkeep empty List.nodup_nil

end Table

end ServiceTopology
