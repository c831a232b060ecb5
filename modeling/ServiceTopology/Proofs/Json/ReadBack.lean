import ServiceTopology.Proofs.Bindings
import ServiceTopology.Proofs.Json.Scalars

/-!
# Reading spellings

The reader gives back the value of every spelling whose integers are writable, whatever its layout is.

A gap is skipped up to the next token; an element starts with no white space and no closing bracket, so that the
reader of containers takes it for one. Each element takes at least one character, so that the fuel suffices.
-/

namespace ServiceTopology.Json

open ServiceTopology.Text

variable {α : Type}

/-! ## Gaps -/

/-- Everything in a gap is white space. -/
theorem Gap.isSpace {gap : List Char} (h : Gap gap) : ∀ c ∈ gap, Json.isSpace c = true := by
  intro c hc
  obtain rfl | rfl | rfl := h c hc <;> rfl

/-- A gap is skipped up to what follows it. -/
theorem skipSpace_gap {gap : List Char} (h : Gap gap) {c : Char} (hc : isSpace c = false) (rest : List Char) :
    skipSpace (gap ++ c :: rest) = c :: rest := by
  rw [skipSpace, List.dropWhile_append_of_pos h.isSpace,
    List.dropWhile_cons_of_neg (ne_true_of_eq_false hc)]

/-- A number ends in front of a gap, or where it would end without the gap. -/
theorem EndsNumber.gap {gap rest : List Char} (h : Gap gap) (hrest : EndsNumber rest) :
    EndsNumber (gap ++ rest) := by
  cases gap with
  | nil => exact hrest
  | cons c gap =>
    intro d hd
    cases hd
    obtain rfl | rfl | rfl := h c List.mem_cons_self <;> decide

/-! ## Starts -/

/-- A text that starts with something else than white space and the end of a container. -/
def StartsElement (text : List Char) : Prop :=
  ∃ c rest, text = c :: rest ∧ isSpace c = false ∧ c ≠ ']' ∧ c ≠ '\x7d'

/-- A scalar starts with no white space and no bracket. -/
theorem ScalarText.eq_cons {value : Json} {text : List Char} (h : ScalarText value text) :
    ∃ c rest, text = c :: rest ∧ isSpace c = false ∧ c ∉ ['[', ']', '\x7b', '\x7d'] := by
  cases h with
  | null => exact ⟨'n', _, rfl, rfl, by decide⟩
  | bool value =>
    cases value with
    | false => exact ⟨'f', _, rfl, rfl, by decide⟩
    | true => exact ⟨'t', _, rfl, rfl, by decide⟩
  | str text => exact ⟨'\x22', _, rfl, rfl, by decide⟩
  | int n =>
    obtain ⟨c, digits, hdigits, hc⟩ := natDigits_eq_cons n.natAbs
    rw [intDigits_eq, hdigits]
    by_cases hsign : n < 0
    · rw [if_pos hsign]
      exact ⟨'-', _, rfl, rfl, by decide⟩
    · rw [if_neg hsign]
      have hne (other : Char) (hother : other.isDigit = false) := ne_of_isDigit hc hother
      exact ⟨c, digits, rfl, by simp [isSpace, hne], by simp [hne]⟩

/-- A scalar starts an element. -/
theorem ScalarText.startsElement {value : Json} {text : List Char} (h : ScalarText value text) :
    StartsElement text := by
  obtain ⟨c, rest, rfl, hspace, hbracket⟩ := h.eq_cons
  simp only [List.mem_cons, not_or] at hbracket
  exact ⟨c, rest, rfl, hspace, hbracket.2.1, hbracket.2.2.2.1⟩

/-- A spelling starts an element. -/
theorem Spells.startsElement {depth : Nat} {value : Json} {text : List Char} (h : Spells depth value text) :
    StartsElement text := by
  unfold Spells at h
  split at h
  case h_1 =>
    obtain ⟨body, rfl, -⟩ := h
    exact ⟨'[', body, rfl, rfl, by decide, by decide⟩
  case h_2 =>
    obtain ⟨body, rfl, -⟩ := h
    exact ⟨'\x7b', body, rfl, rfl, by decide, by decide⟩
  case h_3 => exact h.startsElement

/-- A member starts with a quote. -/
theorem MemberText.startsElement {value : Json → List Char → Prop} {member : WideText × Json} {text : List Char}
    (h : MemberText value member text) : StartsElement text := by
  obtain ⟨before, after, body, -, -, -, rfl⟩ := h
  exact ⟨'\x22', _, rfl, rfl, by decide, by decide⟩

/-- A gap is skipped up to an element. -/
theorem skipSpace_element {gap text : List Char} (hgap : Gap gap) (htext : StartsElement text)
    (rest : List Char) : skipSpace (gap ++ (text ++ rest)) = text ++ rest := by
  obtain ⟨c, tail, rfl, hc, -⟩ := htext
  exact skipSpace_gap hgap hc (tail ++ rest)

/-! ## Containers -/

section Containers

variable {close : Char} {element : α → List Char → Prop} {items : List α} {body : List Char}

/-- Separated elements start with an element. -/
theorem Separated.startsElement (h : Separated close element items body)
    (hstart : ∀ a text, element a text → StartsElement text) : StartsElement body := by
  cases h with
  | last helement =>
    obtain ⟨c, rest, rfl, hc⟩ := hstart _ _ helement
    exact ⟨c, _, rfl, hc⟩
  | more helement =>
    obtain ⟨c, rest, rfl, hc⟩ := hstart _ _ helement
    exact ⟨c, _, rfl, hc⟩

/-- There are at least as many characters as elements. -/
theorem Separated.length_le (h : Separated close element items body) : items.length ≤ body.length := by
  induction h with
  | last => simp only [List.length_append, List.length_singleton]; omega
  | more _ _ _ _ ih => simp only [List.length_append, List.length_cons]; omega

/-- No closing bracket is white space. -/
theorem isSpace_close (hclose : close = ']' ∨ close = '\x7d') : isSpace close = false := by
  obtain rfl | rfl := hclose <;> rfl

variable {read : List Char → Scanned α} (hclose : close = ']' ∨ close = '\x7d')
  (hstart : ∀ a text, element a text → StartsElement text)
include hclose hstart

/-- Separated elements are read up to the closing character, given enough fuel. -/
theorem elements_separated (h : Separated close element items body)
    (hread : ∀ a ∈ items, ∀ text rest, element a text → EndsNumber rest →
      read (text ++ rest) = .ok (a, rest))
    (rest : List Char) {fuel : List Char} (hfuel : items.length ≤ fuel.length) :
    elements close read fuel (body ++ rest) = .ok (items, rest) := by
  induction h generalizing fuel with
  | @last a text gap helement hgap =>
    obtain ⟨f, fuel, rfl⟩ := List.exists_cons_of_length_pos hfuel
    have hends : EndsNumber (close :: rest) := by
      intro c hc
      cases hc
      obtain rfl | rfl := hclose <;> decide
    have hfirst := hread a List.mem_cons_self text (gap ++ close :: rest) helement (hends.gap hgap)
    have hassoc : text ++ (gap ++ [close]) ++ rest = text ++ (gap ++ close :: rest) := by simp
    rw [hassoc, elements, hfirst]
    simp only [skipSpace_gap hgap (isSpace_close hclose), if_true]
  | @more a items text before after body helement hbefore hafter hbody ih =>
    obtain ⟨f, fuel, rfl⟩ := List.exists_cons_of_length_pos (Nat.lt_of_lt_of_le (Nat.succ_pos _) hfuel)
    have hcomma : ',' ≠ close := by
      obtain rfl | rfl := hclose <;> decide
    have hends : EndsNumber (',' :: (after ++ (body ++ rest))) := by
      intro c hc
      cases hc
      decide
    have hfirst := hread a List.mem_cons_self text _ helement (hends.gap hbefore)
    have hmore := ih (fun b hb => hread b (List.mem_cons_of_mem a hb)) (Nat.le_of_succ_le_succ hfuel)
    have hassoc : text ++ (before ++ ',' :: (after ++ body)) ++ rest =
        text ++ (before ++ ',' :: (after ++ (body ++ rest))) := by simp
    rw [hassoc, elements, hfirst]
    simp only [skipSpace_gap hbefore (show isSpace ',' = false from rfl), if_neg hcomma, if_true,
      skipSpace_element hafter (hbody.startsElement hstart), hmore]

/-- The inside of a container is read up to its closing character. -/
theorem containerBody_enclosed (h : Enclosed close element items body)
    (hread : ∀ a ∈ items, ∀ text rest, element a text → EndsNumber rest →
      read (text ++ rest) = .ok (a, rest))
    (rest : List Char) : containerBody close read (body ++ rest) = .ok (items, rest) := by
  cases h with
  | @none gap hgap =>
    have hskip : skipSpace (gap ++ [close] ++ rest) = close :: rest := by
      rw [List.append_assoc]
      exact skipSpace_gap hgap (isSpace_close hclose) rest
    rw [containerBody, hskip]
    simp
  | @some _ gap body hgap hbody =>
    have hskip : skipSpace (gap ++ body ++ rest) = body ++ rest := by
      rw [List.append_assoc]
      exact skipSpace_element hgap (hbody.startsElement hstart) rest
    have hhead : (body ++ rest).head? ≠ some close := by
      obtain ⟨c, tail, rfl, -, hbracket, hbrace⟩ := hbody.startsElement hstart
      simp only [List.cons_append, List.head?_cons, ne_eq, Option.some.injEq]
      obtain rfl | rfl := hclose
      · exact hbracket
      · exact hbrace
    have hfuel : items.length ≤ (close :: (body ++ rest)).length := by
      have hlength := hbody.length_le
      simp only [List.length_cons, List.length_append]
      omega
    rw [containerBody, hskip]
    simp only [if_neg hhead]
    exact elements_separated hclose hstart hbody hread rest hfuel

end Containers

/-! ## Values -/

/-- A member is read when its value is. -/
theorem memberAt_memberText {value : Json → List Char → Prop} {read : List Char → Scanned Json}
    {member : WideText × Json} {text rest : List Char} (h : MemberText value member text)
    (hstart : ∀ text, value member.2 text → StartsElement text)
    (hread : ∀ text, value member.2 text → read (text ++ rest) = .ok (member.2, rest)) :
    memberAt read (text ++ rest) = .ok (member, rest) := by
  obtain ⟨before, after, body, hbefore, hafter, hbody, rfl⟩ := h
  have hassoc : quote member.1 ++ (before ++ ':' :: (after ++ body)) ++ rest =
      quote member.1 ++ (before ++ ':' :: (after ++ (body ++ rest))) := by simp
  have hname := stringAt_quote member.1 (before ++ ':' :: (after ++ (body ++ rest)))
  rw [hassoc]
  rw [quote, List.cons_append] at hname ⊢
  simp only [memberAt, hname, skipSpace_gap hbefore (show isSpace ':' = false from rfl),
    skipSpace_element hafter (hstart _ hbody), hread _ hbody]

/-- A scalar is read at any depth. -/
theorem valueAt_scalarText {value : Json} {text rest : List Char} (h : ScalarText value text)
    (hints : ∀ n ∈ value.integers, Writable n) (hrest : EndsNumber rest) (depth : Nat) :
    valueAt depth (text ++ rest) = .ok (value, rest) := by
  have hscalar : scalarAt (text ++ rest) = .ok (value, rest) :=
    scalarAt_scalarText h (fun n hn => hints n (hn ▸ List.mem_singleton_self n)) hrest
  obtain ⟨c, tail, rfl, -, hbracket⟩ := h.eq_cons
  simp only [List.mem_cons, not_or] at hbracket
  rw [List.cons_append] at hscalar ⊢
  cases depth <;> simpa [valueAt, hbracket] using hscalar

/-- A spelling is read as the value that it spells, up to a text that does not go on with a number. -/
theorem valueAt_spells {depth : Nat} {value : Json} {text rest : List Char} (h : Spells depth value text)
    (hints : ∀ n ∈ value.integers, Writable n) (hrest : EndsNumber rest) :
    valueAt depth (text ++ rest) = .ok (value, rest) := by
  induction depth generalizing value text rest with
  | zero => exact valueAt_scalarText h hints hrest 0
  | succ depth ih =>
    cases value with
    | arr items =>
      obtain ⟨body, rfl, hbody⟩ := h
      have hitems := containerBody_enclosed (Or.inl rfl) (fun _ _ hitem => hitem.startsElement) hbody
        (fun item hitem text rest htext hrest =>
          ih htext (fun n hn => hints n (mem_itemIntegers hitem hn)) hrest) rest
      simp only [List.cons_append, valueAt, hitems]
    | obj members =>
      obtain ⟨body, rfl, hnames, hbody⟩ := h
      have hmembers := containerBody_enclosed (Or.inr rfl) (fun _ _ hmember => hmember.startsElement) hbody
        (fun member hmember text rest htext hrest =>
          memberAt_memberText htext (fun _ hvalue => hvalue.startsElement) fun text hvalue =>
            ih hvalue (fun n hn => hints n (mem_memberIntegers hmember hn)) hrest) rest
      simp only [List.cons_append, valueAt, hmembers, Members.ofList_eq_self hnames]
    | null | bool | int | float | str => exact valueAt_scalarText h hints hrest (depth + 1)

/-! ## Documents -/

/-- A document whose integers are writable is read as the value that it spells. -/
theorem read_documentText {depth : Nat} {value : Json} {text : List Char} (h : DocumentText depth value text)
    (hints : ∀ n ∈ value.integers, Writable n) : read depth text = .ok value := by
  have hmark : text.head? ≠ some '\ufeff' := fun hhead =>
    absurd (h.plain _ (List.mem_of_head? hhead)).1 (by decide)
  obtain ⟨before, after, body, hbefore, hafter, hbody, rfl⟩ := h
  have hends : EndsNumber after := List.append_nil after ▸ EndsNumber.gap hafter fun _ hc => nomatch hc
  have hend : skipSpace after = [] := List.dropWhile_eq_nil_iff.mpr hafter.isSpace
  rw [read, wholeValue, if_neg hmark, skipSpace_element hbefore hbody.startsElement,
    valueAt_spells hbody hints hends]
  simp only [hend]
  rfl

end ServiceTopology.Json
