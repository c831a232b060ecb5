import ServiceTopology.Proofs.Json.Spelling

/-!
# The one-line layout

What is printed on one line is a spelling of the value, as long as the value has one. Its gaps are single
blanks after commas and colons.
-/

namespace ServiceTopology.Json

/-- A scalar is printed on one line as it always is. -/
theorem scalarText_compact {value : Json} (h : IsScalar value) : ScalarText value (compact value) := by
  cases value with
  | null => exact .null
  | bool value =>
    rw [compact]
    exact .bool value
  | int n =>
    rw [compact]
    exact .int n
  | str text =>
    rw [compact]
    exact .str text
  | float | arr | obj => exact h.elim

/-- Items printed on one line are separated by commas. -/
theorem separated_compactItems {element : Json → List Char → Prop} {first : Json} {rest : List Json}
    (h : ∀ item ∈ first :: rest, element item (compact item)) :
    Separated ']' element (first :: rest) (compact first ++ compactItems rest) := by
  induction rest generalizing first with
  | nil =>
    rw [compactItems]
    exact .last (h first List.mem_cons_self) gap_nil
  | cons item rest ih =>
    rw [compactItems]
    exact .more (h first List.mem_cons_self) gap_nil gap_blank
      (ih fun other hother => h other (List.mem_cons_of_mem first hother))

/-- A member is printed with a blank after its colon. -/
theorem memberText_blank {value : Json → List Char → Prop} {member : WideText × Json} {text : List Char}
    (h : value member.2 text) : MemberText value member (quote member.1 ++ ':' :: ' ' :: text) :=
  ⟨[], [' '], text, gap_nil, gap_blank, h, rfl⟩

/-- Members printed on one line are separated by commas. -/
theorem separated_compactMembers {value : Json → List Char → Prop} {first : WideText × Json}
    {rest : List (WideText × Json)} (h : ∀ member ∈ first :: rest, value member.2 (compact member.2)) :
    Separated '\x7d' (MemberText value) (first :: rest)
      (quote first.1 ++ ':' :: ' ' :: compact first.2 ++ compactMembers rest) := by
  induction rest generalizing first with
  | nil =>
    rw [compactMembers]
    exact .last (memberText_blank (h first List.mem_cons_self)) gap_nil
  | cons member rest ih =>
    have hrest := ih fun other hother => h other (List.mem_cons_of_mem first hother)
    rw [List.append_assoc, List.cons_append, List.cons_append] at hrest
    rw [compactMembers]
    exact .more (memberText_blank (h first List.mem_cons_self)) gap_nil gap_blank hrest

/-- What is printed on one line spells the value. -/
theorem spells_compact {depth : Nat} {value : Json} (h : Fits depth value) :
    Spells depth value (compact value) := by
  induction depth generalizing value with
  | zero => exact scalarText_compact h
  | succ depth ih =>
    cases value with
    | arr items =>
      cases items with
      | nil => exact ⟨[']'], rfl, .none gap_nil⟩
      | cons first rest =>
        have hbody :=
          Enclosed.some gap_nil (separated_compactItems fun item hitem => ih (h item hitem))
        rw [compact]
        exact ⟨_, rfl, hbody⟩
    | obj members =>
      cases members with
      | nil => exact ⟨['\x7d'], rfl, List.nodup_nil, .none gap_nil⟩
      | cons first rest =>
        have hmembers := separated_compactMembers fun member hmember => ih (h.2 member hmember)
        rw [List.append_assoc, List.cons_append, List.cons_append] at hmembers
        have hbody := Enclosed.some gap_nil hmembers
        rw [compact]
        exact ⟨_, rfl, h.1, hbody⟩
    | null | bool | int | float | str => exact scalarText_compact h

/-- A value that fits is a document on one line. -/
theorem documentText_compact {depth : Nat} {value : Json} (h : Fits depth value) :
    DocumentText depth value (compact value) :=
  ⟨[], [], _, gap_nil, gap_nil, spells_compact h, (List.append_nil _).symm⟩

end ServiceTopology.Json
