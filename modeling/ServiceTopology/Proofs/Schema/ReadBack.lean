import ServiceTopology.Proofs.Bindings
import ServiceTopology.Proofs.Number.ReadBack

/-!
# Decoding written values

What each decoder gives for a value that was written for it: integers, truth values and strings stand for
themselves, a ratio and an integer key are read back from their text, and lists, optional values and tables
are read back when their parts are.

A record is decoded member by member; the two lemmas on members find one behind the others.
-/

namespace ServiceTopology

namespace Schema

variable {α β : Type}

/-! ## Results -/

@[simp] theorem pure_eq_valid (a : α) : (pure a : Checked α) = .valid a := rfl

/-- A function was applied to a valid value when the result is valid. -/
theorem map_eq_valid {f : α → β} {a : Checked α} {b : β} (h : f <$> a = .valid b) :
    ∃ x, a = .valid x ∧ f x = b := by
  cases a with
  | valid x => exact ⟨x, rfl, Checked.valid.inj h⟩
  | invalid issues => cases h

/-- Two valid results were combined when the result is valid. -/
theorem seq_eq_valid {f : Checked (α → β)} {a : Checked α} {b : β} (h : f <*> a = .valid b) :
    ∃ g x, f = .valid g ∧ a = .valid x ∧ g x = b := by
  cases f with
  | valid g =>
    cases a with
    | valid x => exact ⟨g, x, rfl, rfl, Checked.valid.inj h⟩
    | invalid issues => cases h
  | invalid issues => cases a <;> cases h

/-! ## Scalars -/

@[simp] theorem integer_int (n : Int) : integer (.int n) = .valid n := rfl

@[simp] theorem boolean_bool (value : Bool) : boolean (.bool value) = .valid value := rfl

@[simp] theorem string_str (text : WideText) : string (.str text) = .valid text := rfl

/-- An integer is decoded from its decimal text. -/
theorem integerText_decimal {n : Int} (h : Text.Writable n) : integerText (Text.decimal n) = .valid n := by
  rw [integerText, ofString, Text.decimal, String.toList_ofList, Number.readInteger_intDigits h]

/-- A ratio is decoded from its text. -/
theorem ratio_ratioText {q : Rat} (hnum : Text.Writable q.num) (hden : Text.Writable q.den) :
    ratio (.str (ratioText q)) = .valid q := by
  simp only [ratio, Number.readRatio?_ratioText hnum hden]

/-- One of several values is decoded from its name when the name is found. -/
theorem enumerated_str {ofName? : String → Option α} {name : String} {value : α}
    (h : ofName? name = some value) : enumerated ofName? (.str name) = .valid value := by
  simp only [enumerated, ofString, h]

/-! ## Members -/

/-- A required member is the first one of its name. -/
@[simp] theorem required_cons (name other : String) (value : Json) (rest : Json.Members)
    (decode : Decoder α) :
    required ((other, value) :: rest) name decode =
      if name = other then (decode value).under (.name name) else required rest name decode := by
  by_cases h : name = other
  · simp [required, h]
  · have hother : (WideText.plain name == WideText.plain other) = false := beq_false_of_ne (h ∘ WideText.plain.inj)
    simp [required, List.lookup_cons, h, hother]

/-- An optional member is the first one of its name. -/
@[simp] theorem optional_cons (name other : String) (value : Json) (rest : Json.Members) (default : α)
    (decode : Decoder α) :
    optional ((other, value) :: rest) name default decode =
      if name = other then (decode value).under (.name name) else optional rest name default decode := by
  by_cases h : name = other
  · simp [optional, h]
  · have hother : (WideText.plain name == WideText.plain other) = false := beq_false_of_ne (h ∘ WideText.plain.inj)
    simp [optional, List.lookup_cons, h, hother]

/-- An optional member that was decoded is the default, or some value was decoded to it. -/
theorem optional_eq_valid {members : Json.Members} {name : String} {default a : α} {decode : Decoder α}
    (h : optional members name default decode = .valid a) :
    a = default ∨ ∃ value, decode value = .valid a := by
  unfold optional at h
  split at h
  case h_1 value _ =>
    cases hvalue : decode value with
    | valid b =>
      rw [hvalue] at h
      cases h
      exact Or.inr ⟨value, hvalue⟩
    | invalid issues =>
      rw [hvalue] at h
      cases h
  case h_2 =>
    cases h
    exact Or.inl rfl

/-! ## Compound values -/

/-- A list is decoded when its items are, from whatever index on. -/
theorem itemsFrom_map {write : α → Json} {decode : Decoder α} {items : List α}
    (h : ∀ a ∈ items, decode (write a) = .valid a) (index : Nat) :
    itemsFrom decode index (items.map write) = .valid items := by
  induction items generalizing index with
  | nil => rfl
  | cons a rest ih =>
    rw [List.map_cons, itemsFrom, h a List.mem_cons_self,
      ih (fun b hb => h b (List.mem_cons_of_mem a hb)) (index + 1)]
    rfl

/-- A list is decoded when its items are. -/
theorem list_map {write : α → Json} {decode : Decoder α} {items : List α}
    (h : ∀ a ∈ items, decode (write a) = .valid a) :
    list decode (.arr (items.map write)) = .valid items :=
  itemsFrom_map h 0

/-- An optional value is decoded when it is no null itself. -/
theorem nullable_ofOption {write : α → Json} {decode : Decoder α} {value : Option α}
    (hnull : ∀ a, write a ≠ .null) (h : ∀ a, decode (write a) = .valid a) :
    nullable decode (.ofOption write value) = .valid value := by
  cases value with
  | none => rfl
  | some a =>
    rw [Json.ofOption, nullable.eq_2 _ _ (hnull a), h a]
    rfl

/-- The bindings of a map are decoded when its values are; the keys are read back from their decimal text. -/
theorem bindings_map {write : α → Json} {decode : Decoder α} (h : ∀ a, decode (write a) = .valid a)
    {entries : List (Int × α)} (hkeys : ∀ entry ∈ entries, Text.Writable entry.1) :
    bindings decode (entries.map fun entry => (.plain (Text.decimal entry.1), write entry.2)) = .valid entries := by
  induction entries with
  | nil => rfl
  | cons entry rest ih =>
    rw [List.map_cons, bindings, integerText_decimal (hkeys entry List.mem_cons_self), h entry.2,
      ih fun other hother => hkeys other (List.mem_cons_of_mem entry hother)]
    rfl

/-- A table with distinct keys is decoded from its written bindings. -/
theorem table_map {write : α → Json} {decode : Decoder α} (h : ∀ a, decode (write a) = .valid a)
    {names : Table α} (hdistinct : names.keys.Nodup) (hkeys : ∀ key ∈ names.keys, Text.Writable key) :
    table decode (.obj (names.entries.map fun entry => (.plain (Text.decimal entry.1), write entry.2))) =
      .valid names := by
  rw [table, bindings_map h fun entry hentry => hkeys _ (List.mem_map_of_mem hentry), Checked.map_valid,
    Table.ofList_entries hdistinct]

/-- A decoded table has distinct keys, whatever it was decoded from. -/
theorem nodup_keys_of_table {decode : Decoder α} {value : Json} {names : Table α}
    (h : table decode value = .valid names) : names.keys.Nodup := by
  unfold table at h
  split at h
  case h_1 members =>
    obtain ⟨entries, -, rfl⟩ := map_eq_valid h
    exact Table.nodup_keys_ofList entries
  case h_2 => cases h

end Schema

end ServiceTopology
