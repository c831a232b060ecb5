import ServiceTopology.Text.Blank
import ServiceTopology.Text.Decimal

/-!
# Printed digits

What a reader of numbers relies on when it meets printed ones: there is at least one digit, all of them are
decimal digits, the first one is zero only for zero, and there are no more of them than the limit when the
number is writable. An integer is printed as an optional sign and the digits of its magnitude.

Digits, signs and slashes are printable ASCII, and nothing of that counts as blank space.
-/

namespace ServiceTopology.Text

/-- Every printed digit is a decimal digit. -/
theorem isDigit_of_mem_natDigits {n : Nat} {c : Char} (h : c ∈ natDigits n) : c.isDigit = true :=
  Nat.isDigit_of_mem_toDigits (by decide) (by decide) h

/-- A decimal digit differs from every other character. -/
theorem ne_of_isDigit {c other : Char} (hc : c.isDigit = true) (hother : other.isDigit = false) :
    c ≠ other := by
  rintro rfl
  rw [hc] at hother
  cases hother

/-- A printed number starts with a decimal digit. -/
theorem natDigits_eq_cons (n : Nat) : ∃ c rest, natDigits n = c :: rest ∧ c.isDigit = true := by
  cases hdigits : natDigits n with
  | nil => exact absurd hdigits Nat.toDigits_ne_nil
  | cons c rest =>
    exact ⟨c, rest, rfl, isDigit_of_mem_natDigits (hdigits ▸ List.mem_cons_self)⟩

/-- A positive number is printed without a leading zero. -/
theorem head?_natDigits_ne_zero {n : Nat} (h : 0 < n) : (natDigits n).head? ≠ some '0' := by
  induction n using Nat.strongRecOn with
  | ind n ih =>
    by_cases hsmall : n < 10
    · rw [natDigits, Nat.toDigits_of_lt_base hsmall, List.head?_cons, ne_eq, Option.some.injEq,
        Nat.digitChar_eq_zero]
      omega
    · have hhead := ih (n / 10) (by omega) (by omega)
      obtain ⟨c, rest, hdigits, -⟩ := natDigits_eq_cons (n / 10)
      rw [natDigits, Nat.toDigits_of_base_le (by decide) (by omega), ← natDigits, hdigits]
      rw [hdigits] at hhead
      exact hhead

/-- A number below a power of ten has no more digits than the exponent says. -/
theorem length_natDigits_le {n k : Nat} (hk : 0 < k) (h : n < Nat.pow 10 k) :
    (natDigits n).length ≤ k :=
  (Nat.length_toDigits_le_iff (by decide) hk).mpr h

/-- The magnitude of a writable integer has no more digits than the limit. -/
theorem Writable.length_le {n : Int} (h : Writable n) : (natDigits n.natAbs).length ≤ digitLimit :=
  length_natDigits_le (by decide) h

/-- An integer is printed as the sign of a negative one and the digits of its magnitude. -/
theorem intDigits_eq (n : Int) :
    intDigits n = (if n < 0 then ['-'] else []) ++ natDigits n.natAbs := by
  cases n with
  | ofNat m => rfl
  | negSucc m => rw [if_pos (Int.negSucc_lt_zero m)]; rfl

/-- A decimal digit is printable ASCII. -/
theorem printable_of_isDigit {c : Char} (h : c.isDigit = true) : 0x20 < c.toNat ∧ c.toNat < 0x7F := by
  have hrange : 0x30 ≤ c.toNat ∧ c.toNat ≤ 0x39 := Char.isDigit_iff_toNat.mp h
  omega

/-- A printed integer is made of printable ASCII. -/
theorem printable_of_mem_intDigits {n : Int} {c : Char} (h : c ∈ intDigits n) :
    0x20 < c.toNat ∧ c.toNat < 0x7F := by
  rw [intDigits_eq, List.mem_append] at h
  obtain hsign | hdigit := h
  · split at hsign
    · rw [List.mem_singleton.mp hsign]
      decide
    · cases hsign
  · exact printable_of_isDigit (isDigit_of_mem_natDigits hdigit)

/-- A decimal digit stands for itself among the digits of all scripts. -/
theorem asciiDigit?_of_isDigit {c : Char} (h : c.isDigit = true) : asciiDigit? c = some c := by
  have hrange : 0x30 ≤ c.toNat ∧ c.toNat ≤ 0x39 := Char.isDigit_iff_toNat.mp h
  have hfirst : decimalDigitStarts.find? (fun start => start ≤ c.toNat && c.toNat < start + 10) =
      some 0x30 := by
    rw [decimalDigitStarts, List.find?_cons_of_pos]
    simp only [Bool.and_eq_true, decide_eq_true_eq]
    omega
  rw [asciiDigit?, hfirst, Option.map_some, Nat.add_sub_cancel' hrange.1, Char.ofNat_toNat]

/-- Printable ASCII apart from the blank is no spacing. -/
theorem isSpacing_eq_false {c : Char} (hlow : 0x20 < c.toNat) (hhigh : c.toNat < 0x7F) :
    isSpacing c = false := by
  simp only [isSpacing, isWhiteSpace, inRanges, whiteSpaceRanges, List.any_cons, List.any_nil,
    Bool.or_eq_false_iff, Bool.and_eq_false_iff, decide_eq_false_iff_not, and_true]
  omega

/-- A text without characters of a class is left as it is by trimming them. -/
theorem trim_eq_self {drop : Char → Bool} {text : List Char} (h : ∀ c ∈ text, drop c = false) :
    trim drop text = text := by
  have hkept (rest : List Char) (hrest : ∀ c ∈ rest, drop c = false) : rest.dropWhile drop = rest := by
    cases rest with
    | nil => rfl
    | cons c rest => rw [List.dropWhile_cons_of_neg (by rw [hrest c List.mem_cons_self]; decide)]
  rw [trim, hkept text h, hkept text.reverse fun c hc => h c (List.mem_reverse.mp hc),
    List.reverse_reverse]

end ServiceTopology.Text
