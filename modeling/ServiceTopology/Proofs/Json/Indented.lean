import ServiceTopology.Proofs.Json.Compact

/-!
# The indented layout

What is printed over several lines is a spelling of the value as well, and printing it never stops, as long as
the value has a spelling and its integers are writable. The gaps are line feeds with blanks after them, and the
blank after a colon.
-/

namespace ServiceTopology.Json

open ServiceTopology.Text

/-- A new line is a gap. -/
theorem gap_newLine (level : Nat) : Gap (newLine level) := by
  intro c hc
  obtain rfl | hblank := List.mem_cons.mp hc
  · exact Or.inr (Or.inr rfl)
  · exact Or.inl (List.mem_replicate.mp hblank).2

/-- A value is printed without a stop, and what is printed spells it. -/
def IndentedAs (spells : Json → List Char → Prop) (level : Nat) (value : Json) : Prop :=
  ∃ text, indented level value = .ofText text ∧ spells value text

/-- Items printed over several lines are separated by commas. -/
theorem separated_indentedItems {spells : Json → List Char → Prop} {level : Nat} {first : Json}
    {text : List Char} {rest : List Json} (hfirst : spells first text)
    (h : ∀ item ∈ rest, IndentedAs spells (level + 1) item) :
    ∃ tail, indentedItems level rest = .ofText tail ∧
      Separated ']' spells (first :: rest) (text ++ tail) := by
  induction rest generalizing first text with
  | nil => exact ⟨_, by rw [indentedItems], .last hfirst (gap_newLine level)⟩
  | cons item rest ih =>
    obtain ⟨body, hbody, hitem⟩ := h item List.mem_cons_self
    obtain ⟨tail, htail, hrest⟩ := ih hitem fun other hother => h other (List.mem_cons_of_mem item hother)
    refine ⟨_, ?_, .more hfirst gap_nil (gap_newLine (level + 1)) hrest⟩
    rw [indentedItems, hbody, htail]
    rfl

/-- Members printed over several lines are separated by commas. -/
theorem separated_indentedMembers {spells : Json → List Char → Prop} {level : Nat} {first : WideText × Json}
    {text : List Char} {rest : List (WideText × Json)} (hfirst : MemberText spells first text)
    (h : ∀ member ∈ rest, IndentedAs spells (level + 1) member.2) :
    ∃ tail, indentedMembers level rest = .ofText tail ∧
      Separated '\x7d' (MemberText spells) (first :: rest) (text ++ tail) := by
  induction rest generalizing first text with
  | nil => exact ⟨_, by rw [indentedMembers], .last hfirst (gap_newLine level)⟩
  | cons member rest ih =>
    obtain ⟨body, hbody, hvalue⟩ := h member List.mem_cons_self
    obtain ⟨tail, htail, hrest⟩ :=
      ih (memberText_blank hvalue) fun other hother => h other (List.mem_cons_of_mem member hother)
    refine ⟨_, ?_, .more hfirst gap_nil (gap_newLine (level + 1)) hrest⟩
    rw [indentedMembers, hbody, htail]
    simp

/-- A scalar is printed over several lines as it always is. -/
theorem indentedAs_scalar {value : Json} (h : IsScalar value) (hints : ∀ n ∈ value.integers, Writable n)
    (level : Nat) : IndentedAs ScalarText level value := by
  cases value with
  | null => exact ⟨_, by rw [indented], .null⟩
  | bool value => exact ⟨_, by rw [indented], .bool value⟩
  | int n =>
    have hn : printInteger n = .ok (intDigits n) := if_pos (hints n (List.mem_singleton_self n))
    exact ⟨_, by rw [indented, hn]; rfl, .int n⟩
  | str text => exact ⟨_, by rw [indented], .str text⟩
  | float | arr | obj => exact h.elim

/-- A value that fits is printed without a stop, and what is printed spells it. -/
theorem indentedAs_spells {depth level : Nat} {value : Json} (h : Fits depth value)
    (hints : ∀ n ∈ value.integers, Writable n) : IndentedAs (Spells depth) level value := by
  induction depth generalizing level value with
  | zero => exact indentedAs_scalar h hints level
  | succ depth ih =>
    cases value with
    | arr items =>
      cases items with
      | nil => exact ⟨_, by rw [indented]; rfl, [']'], rfl, .none gap_nil⟩
      | cons first rest =>
        have hitem : ∀ item ∈ first :: rest, IndentedAs (Spells depth) (level + 1) item := fun item hitem =>
          ih (h item hitem) fun n hn => hints n (mem_itemIntegers hitem hn)
        obtain ⟨text, htext, hfirst⟩ := hitem first List.mem_cons_self
        obtain ⟨tail, htail, hbody⟩ := separated_indentedItems hfirst fun item hrest =>
          hitem item (List.mem_cons_of_mem first hrest)
        refine ⟨_, ?_, _, rfl, .some (gap_newLine (level + 1)) hbody⟩
        rw [indented, htext, htail]
        rfl
    | obj members =>
      cases members with
      | nil => exact ⟨_, by rw [indented]; rfl, ['\x7d'], rfl, List.nodup_nil, .none gap_nil⟩
      | cons first rest =>
        have hmember : ∀ member ∈ first :: rest, IndentedAs (Spells depth) (level + 1) member.2 :=
          fun member hmember => ih (h.2 member hmember) fun n hn => hints n (mem_memberIntegers hmember hn)
        obtain ⟨text, htext, hfirst⟩ := hmember first List.mem_cons_self
        obtain ⟨tail, htail, hbody⟩ := separated_indentedMembers (memberText_blank hfirst)
          fun member hrest => hmember member (List.mem_cons_of_mem first hrest)
        refine ⟨_, ?_, _, rfl, h.1, .some (gap_newLine (level + 1)) hbody⟩
        rw [indented, htext, htail]
        simp
    | null | bool | int | float | str => exact indentedAs_scalar h hints level

/-- A value that fits is printed as a document. -/
theorem exists_document {depth : Nat} {value : Json} (h : Fits depth value)
    (hints : ∀ n ∈ value.integers, Writable n) :
    ∃ text, value.document = .ofText text ∧ DocumentText depth value text := by
  have hvalue : IndentedAs (Spells depth) 0 value := indentedAs_spells h hints
  obtain ⟨body, hbody, hspells⟩ := hvalue
  refine ⟨body ++ ['\n'], ?_, [], ['\n'], body, gap_nil, ?_, hspells, rfl⟩
  · rw [document, hbody]
    rfl
  · simp [Gap]

end ServiceTopology.Json
