/-!
# Tables with integer keys

A table binds integers to values and remembers the order in which its keys first appeared. Binding a key
again replaces its value and moves nothing.

The lemmas say what each operation does to `get?`.
-/

namespace ServiceTopology

/-- Bindings of integer keys, in the order in which the keys first appeared. -/
structure Table (α : Type) where
  entries : List (Int × α)
  deriving DecidableEq

namespace Table

variable {α : Type}

/-- The table without bindings. -/
def empty : Table α := ⟨[]⟩

instance : EmptyCollection (Table α) := ⟨empty⟩

/-- Bind a key within a list of bindings. -/
def bindIn (key : Int) (value : α) : List (Int × α) → List (Int × α)
  | [] => [(key, value)]
  | (other, old) :: rest =>
    if other = key then (key, value) :: rest else (other, old) :: bindIn key value rest

/-- Bind a key, replacing the value it had. -/
def insert (table : Table α) (key : Int) (value : α) : Table α :=
  ⟨bindIn key value table.entries⟩

/-- Look up a key. -/
def get? (table : Table α) (key : Int) : Option α := table.entries.lookup key

/-- Test whether a key is bound. -/
def contains (table : Table α) (key : Int) : Bool := (table.get? key).isSome

/-- Number of keys. -/
def size (table : Table α) : Nat := table.entries.length

/-- Bind the keys of a list from left to right. -/
def ofList (bindings : List (Int × α)) : Table α :=
  bindings.foldl (fun table binding => table.insert binding.1 binding.2) empty

/-- No key is bound in the empty table. -/
@[simp] theorem get?_empty (key : Int) : (empty : Table α).get? key = none := rfl

/-- Look up a key after binding it within a list. -/
theorem lookup_bindIn (key other : Int) (value : α) (entries : List (Int × α)) :
    (bindIn key value entries).lookup other =
      if other = key then some value else entries.lookup other := by
  induction entries with
  | nil =>
    by_cases h : other = key
    · simp [bindIn, h]
    · simp [bindIn, List.lookup_cons, h, beq_false_of_ne h]
  | cons entry rest ih =>
    obtain ⟨known, old⟩ := entry
    by_cases hk : known = key
    · subst hk
      by_cases h : other = known
      · simp [bindIn, h]
      · simp [bindIn, List.lookup_cons, h, beq_false_of_ne h]
    · by_cases h : other = known
      · subst h; simp [bindIn, hk]
      · simp [bindIn, List.lookup_cons, hk, beq_false_of_ne h, ih]

/-- Binding a key changes the value of that key alone. -/
@[simp] theorem get?_insert (table : Table α) (key other : Int) (value : α) :
    (table.insert key value).get? other = if other = key then some value else table.get? other :=
  lookup_bindIn key other value table.entries

/-- Of the bindings that follow a table, the last one of a key counts. -/
theorem get?_foldl_insert (bindings : List (Int × α)) (table : Table α) (key : Int) :
    (bindings.foldl (fun table binding => table.insert binding.1 binding.2) table).get? key =
      (bindings.reverse.lookup key).or (table.get? key) := by
  induction bindings generalizing table with
  | nil => rfl
  | cons binding rest ih =>
    obtain ⟨bound, value⟩ := binding
    rw [List.foldl_cons, ih, get?_insert, List.reverse_cons, List.lookup_append, Option.or_assoc, List.lookup_cons]
    by_cases h : key = bound
    · rw [if_pos h, h, beq_self_eq_true, Option.some_or]
    · rw [if_neg h, beq_false_of_ne h, List.lookup_nil, Option.none_or]

/-- Of the bindings of a key, the last one counts. -/
theorem get?_ofList (bindings : List (Int × α)) (key : Int) :
    (ofList bindings).get? key = bindings.reverse.lookup key := by
  rw [ofList, get?_foldl_insert, get?_empty, Option.or_none]

end Table

end ServiceTopology
