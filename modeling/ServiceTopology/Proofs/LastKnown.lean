import Mathlib.Data.List.Induction
import ServiceTopology.Graph.Labels
import ServiceTopology.Proofs.Bindings

/-!
# The last known label wins

The tables of labels and aliases are collected from rows, and each row says something of one key or, where a name is
missing, nothing at all. So a table tells of a key what the last row for it with something to say has said. Two
consequences compare tables: the rows that follow others override what these have said, and rows for different keys do
not disturb each other.

Overriding keeps the order in which keys first appeared. Swapping rows may change that order, but no lookup.
-/

namespace ServiceTopology

/-! ## Overridden tables -/

namespace Table

variable {α : Type}

/-- Bind every key of a second table to its value there, and leave the other keys of the first one alone. -/
def overriddenBy (first second : Table α) : Table α :=
  second.entries.foldl (fun table binding => table.insert binding.1 binding.2) first

/-- A key has the value of the second table, if it has one there, and else that of the first one. -/
theorem get?_overriddenBy (first : Table α) {second : Table α} (h : second.keys.Nodup) (key : Int) :
    (first.overriddenBy second).get? key = (second.get? key).or (first.get? key) := by
  rw [overriddenBy, get?_foldl_insert, ← get?_ofList, ofList_entries h]

/-- Of two bindings of one key only the second one counts. -/
theorem bindIn_bindIn_self (key : Int) (old value : α) (entries : List (Int × α)) :
    bindIn key value (bindIn key old entries) = bindIn key value entries := by
  induction entries with
  | nil => exact if_pos rfl
  | cons entry rest ih =>
    obtain ⟨other, known⟩ := entry
    by_cases hkey : other = key
    · rw [bindIn, if_pos hkey, bindIn, if_pos rfl, bindIn, if_pos hkey]
    · rw [bindIn, if_neg hkey, bindIn, if_neg hkey, ih, bindIn, if_neg hkey]

/-- A known key can be bound before another one as well as after it. -/
theorem bindIn_comm {key other : Int} (hne : key ≠ other) (value : α) (second : α) {entries : List (Int × α)}
    (h : key ∈ entries.map Prod.fst) :
    bindIn key value (bindIn other second entries) = bindIn other second (bindIn key value entries) := by
  induction entries with
  | nil => cases h
  | cons entry rest ih =>
    obtain ⟨first, old⟩ := entry
    by_cases hfirst : first = key
    · have hother : first ≠ other := fun heq => hne (hfirst.symm.trans heq)
      rw [bindIn, if_neg hother, bindIn, if_pos hfirst, bindIn, if_pos hfirst, bindIn, if_neg hne]
    · rw [List.map_cons, List.mem_cons] at h
      have hrest := h.resolve_left (Ne.symm hfirst)
      by_cases hother : first = other
      · rw [bindIn, if_pos hother, bindIn, if_neg (Ne.symm hne), bindIn, if_neg hfirst, bindIn, if_pos hother]
      · rw [bindIn, if_neg hother, bindIn, if_neg hfirst, bindIn, if_neg hfirst, bindIn, if_neg hother, ih hrest]

/-- A known key can be bound before a list of other keys as well as after it. -/
theorem insert_foldl_insert {key : Int} (value : α) {bindings : List (Int × α)} {table : Table α}
    (hnew : key ∉ bindings.map Prod.fst) (hknown : key ∈ table.keys) :
    (bindings.foldl (fun table binding => table.insert binding.1 binding.2) table).insert key value =
      bindings.foldl (fun table binding => table.insert binding.1 binding.2) (table.insert key value) := by
  induction bindings generalizing table with
  | nil => rfl
  | cons binding rest ih =>
    rw [List.map_cons, List.mem_cons, not_or] at hnew
    have hcomm : (table.insert binding.1 binding.2).insert key value =
        (table.insert key value).insert binding.1 binding.2 :=
      congrArg Table.mk (bindIn_comm hnew.1 value binding.2 hknown)
    rw [List.foldl_cons, ih hnew.2 (mem_keys_insert.mpr (.inr hknown)), hcomm]
    rfl

/-- Bindings in which a key was bound are followed by that binding alone. -/
theorem foldl_insert_bindIn (key : Int) (value : α) {bindings : List (Int × α)} (table : Table α)
    (h : (bindings.map Prod.fst).Nodup) :
    (bindIn key value bindings).foldl (fun table binding => table.insert binding.1 binding.2) table =
      (bindings.foldl (fun table binding => table.insert binding.1 binding.2) table).insert key value := by
  induction bindings generalizing table with
  | nil => rfl
  | cons binding rest ih =>
    obtain ⟨other, old⟩ := binding
    rw [List.map_cons, List.nodup_cons] at h
    by_cases hkey : other = key
    · subst hkey
      have hsame : (table.insert other old).insert other value = table.insert other value :=
        congrArg Table.mk (bindIn_bindIn_self other old value table.entries)
      rw [bindIn, if_pos rfl, List.foldl_cons, List.foldl_cons,
        insert_foldl_insert value h.1 (mem_keys_insert.mpr (.inl rfl)), hsame]
    · rw [bindIn, if_neg hkey, List.foldl_cons, List.foldl_cons, ih _ h.2]

/-- A table that is collected from two lists is that of the first one, overridden by that of the second one. -/
theorem ofList_append (first second : List (Int × α)) :
    ofList (first ++ second) = (ofList first).overriddenBy (ofList second) := by
  induction second using List.reverseRecOn with
  | nil => rw [List.append_nil]; rfl
  | append_singleton earlier binding ih =>
    have hlast (bindings : List (Int × α)) :
        ofList (bindings ++ [binding]) = (ofList bindings).insert binding.1 binding.2 := by
      rw [ofList, List.foldl_append]
      rfl
    rw [← List.append_assoc, hlast, hlast, ih]
    exact (foldl_insert_bindIn binding.1 binding.2 (ofList first) (nodup_keys_ofList earlier)).symm

end Table

/-! ## Tables of rows -/

section Rows

variable {ρ α : Type}

/-- A table of rows, each of which says something of its key or nothing at all: the last row that says something of a
key decides, rows that follow others override what those have said, and the order of rows matters for one key at a
time. -/
structure LastKnownWins (key : ρ → Int) (value? : ρ → Option α) (table : List ρ → Table α) : Prop where
  known : ∀ rows k value, (table rows).get? k = some value ↔
    ∃ earlier row later, rows = earlier ++ row :: later ∧ key row = k ∧ value? row = some value ∧
      ∀ other ∈ later, key other = k → value? other = none
  unknown : ∀ rows k, (table rows).get? k = none ↔ ∀ row ∈ rows, key row = k → value? row = none
  append : ∀ first second, table (first ++ second) = (table first).overriddenBy (table second)
  overridden : ∀ first second k,
    ((table first).overriddenBy (table second)).get? k = ((table second).get? k).or ((table first).get? k)
  swap : ∀ earlier row next later, key row ≠ key next → ∀ k,
    (table (earlier ++ row :: next :: later)).get? k = (table (earlier ++ next :: row :: later)).get? k

/-- Table of what rows say of their keys. -/
def Table.ofRows (key : ρ → Int) (value? : ρ → Option α) (rows : List ρ) : Table α :=
  .ofList (rows.filterMap fun row => (value? row).map fun value => (key row, value))

namespace Table

variable (key : ρ → Int) (value? : ρ → Option α)

/-- Later rows override earlier ones. -/
theorem ofRows_append (first second : List ρ) :
    ofRows key value? (first ++ second) = (ofRows key value? first).overriddenBy (ofRows key value? second) := by
  rw [ofRows, List.filterMap_append, ofList_append]
  rfl

/-- A key that later rows know has the value that they say, and else the value of the earlier rows. -/
theorem get?_ofRows_append (first second : List ρ) (k : Int) :
    (ofRows key value? (first ++ second)).get? k =
      ((ofRows key value? second).get? k).or ((ofRows key value? first).get? k) := by
  rw [ofRows_append]
  exact get?_overriddenBy _ (nodup_keys_ofList _) k

/-- A row alone binds its own key, if it says something. -/
theorem get?_ofRows_singleton (row : ρ) (k : Int) :
    (ofRows key value? [row]).get? k = if key row = k then value? row else none := by
  rw [ofRows, get?_ofList, List.filterMap_cons, List.filterMap_nil]
  cases value? row with
  | none => exact (ite_self none).symm
  | some value =>
    by_cases h : key row = k
    · simp [h]
    · simp [h, List.lookup_cons, beq_false_of_ne (Ne.symm h)]

/-- What a row says counts when no later row says something of its key. -/
theorem get?_ofRows_cons (row : ρ) (rest : List ρ) (k : Int) :
    (ofRows key value? (row :: rest)).get? k =
      ((ofRows key value? rest).get? k).or (if key row = k then value? row else none) := by
  rw [← List.singleton_append, get?_ofRows_append, get?_ofRows_singleton]

/-- Rows for different keys can be swapped. -/
theorem get?_ofRows_swap {row next : ρ} (h : key row ≠ key next) (later : List ρ) (k : Int) :
    (ofRows key value? (row :: next :: later)).get? k = (ofRows key value? (next :: row :: later)).get? k := by
  rw [get?_ofRows_cons, get?_ofRows_cons, get?_ofRows_cons, get?_ofRows_cons, Option.or_assoc, Option.or_assoc]
  congr 1
  by_cases hrow : key row = k
  · rw [if_neg fun hnext => h (hrow.trans hnext.symm), Option.none_or, Option.or_none]
  · rw [if_neg hrow, Option.none_or, Option.or_none]

/-- A key is unknown when no row for it says something. -/
theorem get?_ofRows_eq_none (rows : List ρ) (k : Int) :
    (ofRows key value? rows).get? k = none ↔ ∀ row ∈ rows, key row = k → value? row = none := by
  induction rows with
  | nil => exact ⟨fun _ _ hrow => (nomatch hrow), fun _ => rfl⟩
  | cons row rest ih =>
    rw [get?_ofRows_cons, Option.or_eq_none_iff, ih, List.forall_mem_cons, and_comm]
    exact and_congr_left' ite_eq_right_iff

/-- A key has the value of the last row for it that says something. -/
theorem get?_ofRows_eq_some (rows : List ρ) (k : Int) (value : α) :
    (ofRows key value? rows).get? k = some value ↔
      ∃ earlier row later, rows = earlier ++ row :: later ∧ key row = k ∧ value? row = some value ∧
        ∀ other ∈ later, key other = k → value? other = none := by
  induction rows with
  | nil =>
    refine ⟨fun h => (nomatch h), fun h => ?_⟩
    obtain ⟨earlier, row, later, hrows, -⟩ := h
    exact absurd hrows.symm (List.append_ne_nil_of_right_ne_nil earlier (List.cons_ne_nil row later))
  | cons row rest ih =>
    rw [get?_ofRows_cons, Option.or_eq_some_iff, ih, get?_ofRows_eq_none]
    constructor
    · intro h
      obtain ⟨earlier, decisive, later, rfl, hdecisive⟩ | ⟨hrest, hrow⟩ := h
      · exact ⟨row :: earlier, decisive, later, rfl, hdecisive⟩
      · obtain ⟨hkey, hvalue⟩ := Option.ite_none_right_eq_some.mp hrow
        exact ⟨[], row, rest, rfl, hkey, hvalue, hrest⟩
    · intro h
      obtain ⟨earlier, decisive, later, hrows, hkey, hvalue, hlater⟩ := h
      obtain ⟨rfl, hrest⟩ | ⟨before, rfl, hrest⟩ := List.cons_eq_append_iff.mp hrows
      · obtain ⟨rfl, rfl⟩ := List.cons.inj hrest
        exact .inr ⟨hlater, Option.ite_none_right_eq_some.mpr ⟨hkey, hvalue⟩⟩
      · exact .inl ⟨before, decisive, later, hrest, hkey, hvalue, hlater⟩

/-- In a table of rows the last known row of a key wins. -/
theorem lastKnownWins_ofRows : LastKnownWins key value? (ofRows key value?) where
  known := get?_ofRows_eq_some key value?
  unknown := get?_ofRows_eq_none key value?
  append := ofRows_append key value?
  overridden first second k := get?_overriddenBy _ (nodup_keys_ofList _) k
  swap earlier row next later h k := by
    rw [get?_ofRows_append, get?_ofRows_append, get?_ofRows_swap key value? h]

end Table

end Rows

/-! ## Labels and aliases -/

/-- Labels are the names that component rows give to their applications. -/
theorem labelTable_eq_ofRows (name? : Int → Option WideText) :
    labelTable name? = .ofRows (·.applicationId) (fun row : ComponentRow => name? row.componentId) := by
  funext rows
  rw [labelTable, Table.ofRows, Table.ofList, List.foldl_filterMap]
  congr 1
  funext labels row
  cases name? row.componentId <;> rfl

/-- Aliases are the applications that mapping rows give to their duplicates. -/
theorem aliasTable_eq_ofRows :
    aliasTable = .ofRows (·.duplicateId) (fun row : MappingRow => some row.applicationId) := by
  funext rows
  rw [aliasTable, Table.ofRows, Table.ofList, List.foldl_filterMap]
  rfl

/-- The name of the component of the last row for an application whose component has a name is its label, and the name
of a server type is in the same way; in stores the server type is what the catalog has for the component, or else the
component itself. The application of the last row for a duplicate is its alias. Whatever has no such row is not in the
table; the table of some rows and others after them is that of the former overridden by that of the latter; and the
order of two adjacent rows for different ids makes no difference. -/
theorem last_known_wins (services : Services) (stores : Stores) :
    LastKnownWins (·.applicationId) (fun row => services.componentName? row.componentId)
      (componentLabels services) ∧
    LastKnownWins (·.applicationId) (fun row => services.serverName? (services.serverOf row.componentId))
      (serverLabels services) ∧
    LastKnownWins (·.duplicateId) (fun row => some row.applicationId) aliasTable ∧
    LastKnownWins (·.applicationId) (fun row => stores.catalog.components.get? row.componentId)
      (componentLabels stores.services) ∧
    LastKnownWins (·.applicationId)
      (fun row => stores.catalog.servers.get?
        ((stores.catalog.componentServers.get? row.componentId).getD row.componentId))
      (serverLabels stores.services) := by
  have hlabels (name? : Int → Option WideText) :
      LastKnownWins (·.applicationId) (fun row => name? row.componentId) (labelTable name?) := by
    rw [labelTable_eq_ofRows]
    exact Table.lastKnownWins_ofRows _ _
  refine ⟨hlabels _, hlabels fun id => services.serverName? (services.serverOf id), ?_, hlabels _,
    hlabels fun id => stores.services.serverName? (stores.services.serverOf id)⟩
  rw [aliasTable_eq_ofRows]
  exact Table.lastKnownWins_ofRows _ _

/-- A later component without a name leaves the label of an application as it is. -/
example :
    (labelTable (Table.ofList [(7, .plain "Tomcat")]).get? [⟨2, 7⟩, ⟨2, 8⟩]).get? 2 = some "Tomcat" := by
  decide

end ServiceTopology
