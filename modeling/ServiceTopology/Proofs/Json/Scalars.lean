import Mathlib.Data.List.TakeWhile
import ServiceTopology.Proofs.Json.Spelling
import ServiceTopology.Proofs.Number.ReadBack

/-!
# Reading printed scalars

Null, truth values, integers and strings are read back from what is printed for them. A word or a string ends
by itself; an integer ends where no character follows that would go on with a number.
-/

namespace ServiceTopology.Json

open ServiceTopology.Text

/-- A text that does not go on with a number in front of it. -/
def EndsNumber (text : List Char) : Prop :=
  ∀ c ∈ text.head?, c.isDigit = false ∧ c ≠ '.' ∧ c ≠ 'e' ∧ c ≠ 'E'

/-! ## Numbers -/

/-- The whole part of a number is what was printed, up to the end of the digits. -/
theorem splitWhole_natDigits (n : Nat) {rest : List Char} (hrest : EndsNumber rest) :
    splitWhole (natDigits n ++ rest) = (natDigits n, rest) := by
  have hdigits : ∀ c ∈ natDigits n, c.isDigit = true := fun c => isDigit_of_mem_natDigits
  have htake : rest.takeWhile Char.isDigit = [] := by
    cases rest with
    | nil => rfl
    | cons c rest => exact List.takeWhile_cons_of_neg (ne_true_of_eq_false (hrest c rfl).1)
  have hdrop : rest.dropWhile Char.isDigit = rest := by
    cases rest with
    | nil => rfl
    | cons c rest => exact List.dropWhile_cons_of_neg (ne_true_of_eq_false (hrest c rfl).1)
  unfold splitWhole
  split
  case h_1 tail heq =>
    -- Only zero is printed with a zero in front.
    obtain rfl | hpos := Nat.eq_zero_or_pos n
    · rw [natDigits, Nat.toDigits_zero] at heq ⊢
      cases heq
      rfl
    · obtain ⟨c, digits, hcons, -⟩ := natDigits_eq_cons n
      have hzero := head?_natDigits_ne_zero hpos
      rw [hcons] at hzero heq
      cases heq
      exact absurd rfl hzero
  case h_2 =>
    rw [List.takeWhile_append_of_pos hdigits, List.dropWhile_append_of_pos hdigits, htake, hdrop,
      List.append_nil]

/-- Nothing is split off as a fraction where a number ends. -/
theorem splitFraction_eq {rest : List Char} (hrest : EndsNumber rest) : splitFraction rest = (none, rest) := by
  unfold splitFraction
  split
  case h_1 => exact absurd rfl (hrest '.' rfl).2.1
  case h_2 => rfl

/-- Nothing is split off as an exponent where a number ends. -/
theorem splitExponent_eq {rest : List Char} (hrest : EndsNumber rest) : splitExponent rest = (none, rest) := by
  cases rest with
  | nil => rfl
  | cons c rest =>
    obtain ⟨-, -, he, hE⟩ := hrest c rfl
    simp [splitExponent, he, hE]

/-- The digits of a writable integer are read as the integer. -/
theorem numberAt_natDigits {n : Int} (hn : Writable n) {rest : List Char} (hrest : EndsNumber rest)
    (place : List Char) :
    numberAt (decide (n < 0)) (natDigits n.natAbs ++ rest) place = .ok (.int n, rest) := by
  have hsome : (natDigits n.natAbs).isEmpty = false := List.isEmpty_eq_false_iff.mpr Nat.toDigits_ne_nil
  have hlength : ¬digitLimit < (natDigits n.natAbs).length := Nat.not_lt.mpr hn.length_le
  have hvalue := Number.signed_natAbs n
  rw [Number.signed] at hvalue
  simp only [numberAt, splitWhole_natDigits _ hrest, hsome, Bool.false_eq_true, if_false,
    splitFraction_eq hrest, splitExponent_eq hrest, if_neg hlength, digitsValue_natDigits, hvalue]

/-- No word stands where a digit does. -/
theorem find?_words_of_isDigit {c : Char} (hc : c.isDigit = true) (rest : List Char) :
    (words.find? fun word => word.1.isPrefixOf (c :: rest)) = none ∧
      (words.find? fun word => word.1.isPrefixOf ('-' :: c :: rest)) = none := by
  have hne (other : Char) (hother : other.isDigit = false) : (other == c) = false :=
    beq_false_of_ne (ne_of_isDigit hc hother).symm
  simp [words, List.isPrefixOf, hne]

/-- A writable integer is read back. -/
theorem scalarAt_intDigits {n : Int} (hn : Writable n) {rest : List Char} (hrest : EndsNumber rest) :
    scalarAt (intDigits n ++ rest) = .ok (.int n, rest) := by
  obtain ⟨c, digits, hdigits, hc⟩ := natDigits_eq_cons n.natAbs
  have hquote : c ≠ '\x22' := ne_of_isDigit hc rfl
  have hminus : c ≠ '-' := ne_of_isDigit hc rfl
  have hnumber := numberAt_natDigits hn hrest (intDigits n ++ rest)
  obtain ⟨hunsigned, hsigned⟩ := find?_words_of_isDigit hc (digits ++ rest)
  rw [intDigits_eq, List.append_assoc, hdigits] at hnumber ⊢
  by_cases hsign : n < 0
  · rw [if_pos hsign, decide_eq_true hsign] at hnumber
    rw [if_pos hsign]
    simpa [scalarAt, hsigned] using hnumber
  · rw [if_neg hsign, decide_eq_false hsign] at hnumber
    rw [if_neg hsign]
    simpa [scalarAt, hunsigned, hquote, hminus] using hnumber

/-- A scalar is read back from what is printed for it. -/
theorem scalarAt_scalarText {value : Json} {text rest : List Char} (h : ScalarText value text)
    (hints : ∀ n, value = .int n → Writable n) (hrest : EndsNumber rest) :
    scalarAt (text ++ rest) = .ok (value, rest) := by
  cases h with
  | null => rfl
  | bool value => cases value <;> rfl
  | int n => exact scalarAt_intDigits (hints n rfl) hrest
  | str text =>
    have hat := stringAt_quote text rest
    rw [quote, List.cons_append] at hat ⊢
    simp only [scalarAt, hat]

end ServiceTopology.Json
