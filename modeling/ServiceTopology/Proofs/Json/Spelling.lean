import ServiceTopology.Json.Printer
import ServiceTopology.Proofs.Json.Strings
import ServiceTopology.Proofs.Text.Digits

/-!
# Spellings of JSON values

A value can be laid out in many ways. A spelling has the scalars as they are printed and any gaps of blanks,
tabs and line feeds around the tokens. It is described without the reader, and it is always ASCII.

Carriage returns are left out of gaps, since a reader of files turns them into line feeds. Floating-point
numbers have no spelling; no topology and no snapshot holds one.
-/

namespace ServiceTopology.Json

open ServiceTopology.Text

variable {α : Type}

/-! ## Layout -/

/-- What is printed for a value that is neither a container nor a floating-point number. -/
inductive ScalarText : Json → List Char → Prop where
  | null : ScalarText .null "null".toList
  | bool (value : Bool) : ScalarText (.bool value) (boolText value)
  | int (n : Int) : ScalarText (.int n) (intDigits n)
  | str (text : WideText) : ScalarText (.str text) (quote text)

/-- White space as it may stand between tokens. -/
def Gap (text : List Char) : Prop := ∀ c ∈ text, c = ' ' ∨ c = '\t' ∨ c = '\n'

/-- A single blank is a gap. -/
theorem gap_blank : Gap [' '] := by simp [Gap]

/-- No white space is a gap. -/
theorem gap_nil : Gap [] := fun _ hc => nomatch hc

/-- Elements with commas between them and a closing character behind them, at least one. -/
inductive Separated (close : Char) (element : α → List Char → Prop) : List α → List Char → Prop where
  | last {a : α} {text gap : List Char} : element a text → Gap gap →
      Separated close element [a] (text ++ (gap ++ [close]))
  | more {a : α} {items : List α} {text before after body : List Char} : element a text → Gap before →
      Gap after → Separated close element items body →
      Separated close element (a :: items) (text ++ (before ++ ',' :: (after ++ body)))

/-- The inside of a container and its closing character. -/
inductive Enclosed (close : Char) (element : α → List Char → Prop) : List α → List Char → Prop where
  | none {gap : List Char} : Gap gap → Enclosed close element [] (gap ++ [close])
  | some {items : List α} {gap body : List Char} : Gap gap → Separated close element items body →
      Enclosed close element items (gap ++ body)

/-- A quoted name, a colon and a value. -/
def MemberText (value : Json → List Char → Prop) (member : WideText × Json) (text : List Char) : Prop :=
  ∃ before after body, Gap before ∧ Gap after ∧ value member.2 body ∧
    text = quote member.1 ++ (before ++ ':' :: (after ++ body))

/-- A text spells a value whose containers are nested at most `depth` deep; the names within an object are
distinct. -/
def Spells : (depth : Nat) → Json → List Char → Prop
  | depth + 1, .arr items, text =>
    ∃ body, text = '[' :: body ∧ Enclosed ']' (Spells depth) items body
  | depth + 1, .obj members, text =>
    ∃ body, text = '\x7b' :: body ∧ (members.map Prod.fst).Nodup ∧
      Enclosed '\x7d' (MemberText (Spells depth)) members body
  | _, value, text => ScalarText value text

/-- A document is a spelling with gaps around it. -/
def DocumentText (depth : Nat) (value : Json) (text : List Char) : Prop :=
  ∃ before after body, Gap before ∧ Gap after ∧ Spells depth value body ∧
    text = before ++ (body ++ after)

/-! ## Values with spellings -/

/-- A value that is neither a container nor a floating-point number. -/
def IsScalar : Json → Prop
  | .null => True
  | .bool _ => True
  | .int _ => True
  | .str _ => True
  | _ => False

/-- A value that has a spelling: containers are nested at most `depth` deep, the names within an object are
distinct, and no number is a floating-point number. -/
def Fits : (depth : Nat) → Json → Prop
  | depth + 1, .arr items => ∀ item ∈ items, Fits depth item
  | depth + 1, .obj members =>
    (members.map Prod.fst).Nodup ∧ ∀ member ∈ members, Fits depth member.2
  | _, value => IsScalar value

section Fits

variable (depth : Nat)

@[simp] theorem fits_null : Fits depth .null := by cases depth <;> trivial

@[simp] theorem fits_bool (value : Bool) : Fits depth (.bool value) := by cases depth <;> trivial

@[simp] theorem fits_int (n : Int) : Fits depth (.int n) := by cases depth <;> trivial

@[simp] theorem fits_str (text : WideText) : Fits depth (.str text) := by cases depth <;> trivial

@[simp] theorem fits_arr (items : List Json) :
    Fits (depth + 1) (.arr items) ↔ ∀ item ∈ items, Fits depth item :=
  Iff.rfl

@[simp] theorem fits_obj (members : List (WideText × Json)) :
    Fits (depth + 1) (.obj members) ↔
      (members.map Prod.fst).Nodup ∧ ∀ member ∈ members, Fits depth member.2 :=
  Iff.rfl

end Fits

/-! ## Integers -/

mutual

/-- Integers of a value. -/
def integers : Json → List Int
  | .int n => [n]
  | .arr items => itemIntegers items
  | .obj members => memberIntegers members
  | _ => []

/-- Integers of the items of an array. -/
def itemIntegers : List Json → List Int
  | [] => []
  | item :: rest => integers item ++ itemIntegers rest

/-- Integers of the members of an object. -/
def memberIntegers : List (WideText × Json) → List Int
  | [] => []
  | (_, value) :: rest => integers value ++ memberIntegers rest

end

/-- An integer of an item is one of the array. -/
theorem mem_itemIntegers {items : List Json} {item : Json} {n : Int} (hitem : item ∈ items)
    (hn : n ∈ integers item) : n ∈ itemIntegers items := by
  induction items with
  | nil => cases hitem
  | cons first rest ih =>
    rw [itemIntegers, List.mem_append]
    obtain rfl | hrest := List.mem_cons.mp hitem
    · exact Or.inl hn
    · exact Or.inr (ih hrest)

/-- An integer of a member is one of the object. -/
theorem mem_memberIntegers {members : List (WideText × Json)} {member : WideText × Json} {n : Int}
    (hmember : member ∈ members) (hn : n ∈ integers member.2) : n ∈ memberIntegers members := by
  induction members with
  | nil => cases hmember
  | cons first rest ih =>
    rw [memberIntegers, List.mem_append]
    obtain rfl | hrest := List.mem_cons.mp hmember
    · exact Or.inl hn
    · exact Or.inr (ih hrest)

/-! ## ASCII -/

/-- ASCII that a reader of files leaves as it is. -/
def Plain (text : List Char) : Prop := ∀ c ∈ text, c.toNat < 0x80 ∧ c ≠ '\r'

@[simp] theorem plain_nil : Plain [] := fun _ hc => nomatch hc

@[simp] theorem plain_cons (c : Char) (rest : List Char) :
    Plain (c :: rest) ↔ (c.toNat < 0x80 ∧ c ≠ '\r') ∧ Plain rest :=
  List.forall_mem_cons

@[simp] theorem plain_append (first second : List Char) :
    Plain (first ++ second) ↔ Plain first ∧ Plain second :=
  List.forall_mem_append

/-- Gaps are plain. -/
theorem Gap.plain {gap : List Char} (h : Gap gap) : Plain gap := by
  intro c hc
  obtain rfl | rfl | rfl := h c hc <;> decide

/-- Hexadecimal digits are plain. -/
theorem plain_digitChar : ∀ {n : Nat}, n < 16 → (Nat.digitChar n).toNat < 0x80 ∧ Nat.digitChar n ≠ '\r' := by
  decide

/-- The escape of a code unit is plain. -/
theorem plain_unitEscape (unit : UInt16) : Plain (unitEscape unit) := by
  have hunit : unit.toNat < 0x10000 := unit.toNat_lt
  have hlast (n : Nat) : n % 16 < 16 := Nat.mod_lt n (by decide)
  rw [unitEscape, hexDigits_four hunit]
  simp [plain_digitChar (show unit.toNat / 16 / 16 / 16 < 16 by omega), plain_digitChar (hlast _)]

/-- What is written for a character is plain. -/
theorem plain_escapeChar (c : Char) : Plain (escapeChar c) := by
  unfold escapeChar
  split
  case h_1 letter hletter =>
    have hplain : letter.toNat < 0x80 ∧ letter ≠ '\r' := by
      unfold escapeLetter? at hletter
      repeat' split at hletter
      all_goals cases hletter
      all_goals decide
    simp [hplain]
  case h_2 =>
    split
    case isTrue hprintable =>
      simp only [Bool.and_eq_true, decide_eq_true_eq] at hprintable
      refine fun d hd => ⟨?_, ?_⟩
      · rw [List.mem_singleton.mp hd]
        omega
      · rintro rfl
        rw [← List.mem_singleton.mp hd] at hprintable
        exact absurd hprintable.1 (by decide)
    case isFalse =>
      intro d hd
      obtain ⟨unit, -, hd⟩ := List.mem_flatMap.mp hd
      exact plain_unitEscape unit d hd

/-- A quoted text is plain. -/
theorem plain_quote (text : WideText) : Plain (quote text) := by
  have hbody : Plain (text.codePoints.flatMap escapePoint) := by
    intro c hc
    obtain ⟨point, -, hpoint⟩ := List.mem_flatMap.mp hc
    cases point with
    | char d => exact plain_escapeChar d c hpoint
    | surrogate unit => exact plain_unitEscape unit c hpoint
  simp [quote, hbody]

/-- A printed integer is plain. -/
theorem plain_intDigits (n : Int) : Plain (intDigits n) := by
  intro c hc
  obtain ⟨hlow, hhigh⟩ := printable_of_mem_intDigits hc
  refine ⟨Nat.lt_succ_of_lt hhigh, ?_⟩
  rintro rfl
  exact absurd hlow (by decide)

/-- What is printed for a scalar is plain. -/
theorem ScalarText.plain {value : Json} {text : List Char} (h : ScalarText value text) : Plain text := by
  cases h with
  | null => simp
  | bool value => cases value <;> simp [boolText]
  | int n => exact plain_intDigits n
  | str text => exact plain_quote text

/-- The inside of a container is plain when its elements are. -/
theorem Enclosed.plain {close : Char} {element : α → List Char → Prop} {items : List α} {body : List Char}
    (hclose : close.toNat < 0x80 ∧ close ≠ '\r') (helement : ∀ a text, element a text → Plain text)
    (h : Enclosed close element items body) : Plain body := by
  have hseparated {items : List α} {body : List Char} (h : Separated close element items body) :
      Plain body := by
    induction h with
    | last ha hgap => simp [helement _ _ ha, hgap.plain, hclose]
    | more ha hbefore hafter _ ih => simp [helement _ _ ha, hbefore.plain, hafter.plain, ih]
  cases h with
  | none hgap => simp [hgap.plain, hclose]
  | some hgap hbody => simp [hgap.plain, hseparated hbody]

/-- A spelling is plain. -/
theorem Spells.plain {depth : Nat} {value : Json} {text : List Char} (h : Spells depth value text) :
    Plain text := by
  induction depth generalizing value text with
  | zero => exact ScalarText.plain h
  | succ depth ih =>
    cases value with
    | arr items =>
      obtain ⟨body, rfl, hbody⟩ := h
      simp [hbody.plain (by decide) fun _ _ hitem => ih hitem]
    | obj members =>
      obtain ⟨body, rfl, -, hbody⟩ := h
      have hmember : ∀ member text, MemberText (Spells depth) member text → Plain text := by
        rintro member _ ⟨before, after, body, hbefore, hafter, hvalue, rfl⟩
        simp [plain_quote, hbefore.plain, hafter.plain, ih hvalue]
      simp [hbody.plain (by decide) hmember]
    | null | bool | int | float | str => exact ScalarText.plain h

/-- A document is plain. -/
theorem DocumentText.plain {depth : Nat} {value : Json} {text : List Char} (h : DocumentText depth value text) :
    Plain text := by
  obtain ⟨before, after, body, hbefore, hafter, hbody, rfl⟩ := h
  simp [hbefore.plain, hafter.plain, hbody.plain]

end ServiceTopology.Json
