import Mathlib.Data.List.TakeWhile
import ServiceTopology.Graph.Topology
import ServiceTopology.Proofs.Text.Digits

/-!
# Reading printed numbers

A writable integer that stands as text is read back as it was, and so is a ratio whose numerator and
denominator are writable. Digits with a point and further digits are read as the decimal fraction that they are,
whatever their sign. Both grammars accept more than what is printed: underscores, a plus sign and exponents never occur
here.
-/

namespace ServiceTopology.Number

open ServiceTopology.Text

/-- Digits that are accepted one by one are accepted as a run. -/
theorem plainDigits?_eq_some {digit? : Char → Option Char} {digits : List Char}
    (hdigits : ∀ c ∈ digits, digit? c = some c) {afterDigit : Bool}
    (hsome : afterDigit = true ∨ digits ≠ []) : plainDigits? digit? afterDigit digits = some digits := by
  induction digits generalizing afterDigit with
  | nil => rw [plainDigits?, if_pos (hsome.resolve_right fun h => h rfl)]
  | cons c rest ih =>
    have hrest : plainDigits? digit? true rest = some rest :=
      ih (fun d hd => hdigits d (List.mem_cons_of_mem c hd)) (Or.inl rfl)
    rw [plainDigits?, hdigits c List.mem_cons_self, hrest]
    rfl

/-- An integer is read off its sign and its magnitude. -/
theorem signed_natAbs (n : Int) : signed (decide (n < 0)) n.natAbs = n := by
  cases n with
  | ofNat m => rfl
  | negSucc m => rw [decide_eq_true (Int.negSucc_lt_zero m)]; rfl

/-- A printed sign is split off the digits behind it. -/
theorem splitSign_append (negative : Bool) (n : Nat) (rest : List Char) :
    splitSign ((if negative then ['-'] else []) ++ (natDigits n ++ rest)) = (negative, natDigits n ++ rest) := by
  cases negative with
  | true => rfl
  | false =>
    obtain ⟨c, digits, hdigits, hc⟩ := natDigits_eq_cons n
    rw [if_neg Bool.false_ne_true, hdigits, List.nil_append, List.cons_append]
    unfold splitSign
    split
    next heq => cases heq; cases hc
    next heq => cases heq; cases hc
    next => rfl

/-- The sign of a printed integer is split off, whatever follows the digits. -/
theorem splitSign_intDigits (n : Int) (rest : List Char) :
    splitSign (intDigits n ++ rest) = (decide (n < 0), natDigits n.natAbs ++ rest) := by
  rw [intDigits_eq, List.append_assoc, ← splitSign_append]
  simp only [decide_eq_true_eq]

/-- Different integers are printed differently. -/
theorem decimal_injective {m n : Int} (h : decimal m = decimal n) : m = n := by
  have hdigits : intDigits m = intDigits n := String.ofList_injective h
  have hm := splitSign_intDigits m []
  rw [hdigits, splitSign_intDigits, List.append_nil, List.append_nil] at hm
  obtain ⟨hsign, hmagnitude⟩ := Prod.mk.inj hm
  have hvalue := congrArg digitsValue hmagnitude
  rw [digitsValue_natDigits, digitsValue_natDigits] at hvalue
  rw [← signed_natAbs m, ← signed_natAbs n, hsign, hvalue]

/-- A writable integer is read back from its digits. -/
theorem readInteger_intDigits {n : Int} (h : Writable n) : readInteger (intDigits n) = .ok n := by
  have hspace : ∀ c ∈ intDigits n, isWhiteSpace c = false := by
    intro c hc
    obtain ⟨hlow, hhigh⟩ := printable_of_mem_intDigits hc
    exact (Bool.or_eq_false_iff.mp (isSpacing_eq_false hlow hhigh)).1
  have hwhole : (natDigits n.natAbs).takeWhile (· != '.') = natDigits n.natAbs := by
    refine List.takeWhile_eq_self_iff.mpr fun c hc => ?_
    exact bne_iff_ne.mpr (ne_of_isDigit (isDigit_of_mem_natDigits hc) rfl)
  have hdigits : plainDigits? keepDigit? false (natDigits n.natAbs) = some (natDigits n.natAbs) :=
    plainDigits?_eq_some (fun c hc => if_pos (isDigit_of_mem_natDigits hc)) (Or.inr Nat.toDigits_ne_nil)
  have hlength : ¬digitLimit < ((natDigits n.natAbs).dropWhile (· == '0')).length :=
    Nat.not_lt.mpr (Nat.le_trans (List.dropWhile_suffix _).length_le h.length_le)
  have hsign : splitSign (intDigits n) = (decide (n < 0), natDigits n.natAbs) := by
    rw [← List.append_nil (intDigits n), splitSign_intDigits, List.append_nil]
  simp only [readInteger, trim_eq_self hspace, hsign, hwhole, hdigits, List.drop_length, isZeroFraction,
    Bool.not_true, Bool.false_eq_true, if_false, if_neg hlength, digitsValue_natDigits, signed_natAbs]

/-! ## Ratios -/

/-- A run of digits within the limit has their value. -/
theorem digitGroup?_eq_some {digits : List Char} (hdigits : ∀ c ∈ digits, c.isDigit = true) (hsome : digits ≠ [])
    (hlength : digits.length ≤ digitLimit) : digitGroup? digits = some (digitsValue digits) := by
  have hplain : plainDigits? asciiDigit? false digits = some digits :=
    plainDigits?_eq_some (fun c hc => asciiDigit?_of_isDigit (hdigits c hc)) (Or.inr hsome)
  rw [digitGroup?, hplain, Option.bind_some, if_pos hlength]

/-- A run of printed digits within the limit has the value that was printed. -/
theorem digitGroup?_natDigits {n : Nat} (h : (natDigits n).length ≤ digitLimit) :
    digitGroup? (natDigits n) = some n := by
  rw [digitGroup?_eq_some (fun c hc => isDigit_of_mem_natDigits hc) Nat.toDigits_ne_nil h, digitsValue_natDigits]

/-- Multiplying by the power zero of ten changes nothing. -/
theorem scaleByTen_zero (value : Rat) : scaleByTen value 0 = value := by
  have hone : mkRat (Nat.pow 10 (0 : Int).toNat) (Nat.pow 10 (-(0 : Int)).toNat) = 1 := by decide
  rw [scaleByTen, hone, Rat.mul_one]

/-- Digits without a tail denote the integer that they print. -/
theorem ratioTail?_nil (n : Nat) : ratioTail? (some n) [] = some (n : Rat) := by
  have hvalue : ratioTail? (some n) [] = some (scaleByTen ((n * Nat.pow 10 0 + 0 : Nat) : Rat) 0) := rfl
  rw [hvalue, scaleByTen_zero, Nat.add_zero]
  exact congrArg (fun m : Nat => some (m : Rat)) (Nat.mul_one n)

/-- Digits with a slash and a denominator denote the quotient. -/
theorem ratioTail?_slash {n d : Nat} (hd : (natDigits d).length ≤ digitLimit) (hpos : d ≠ 0) :
    ratioTail? (some n) ('/' :: natDigits d) = some (mkRat n d) := by
  simp only [ratioTail?, digitGroup?_natDigits hd, if_neg hpos]

/-- What is written after the numerator of a ratio: nothing when it is whole. -/
def denominatorText (q : Rat) : List Char := if q.den = 1 then [] else '/' :: natDigits q.den

/-- A ratio is written as its numerator and, unless it is whole, a slash and its denominator. -/
theorem toList_ratioText (q : Rat) : (ratioText q).toList = intDigits q.num ++ denominatorText q := by
  rw [ratioText, denominatorText]
  split
  · rw [decimal, String.toList_ofList, List.append_nil]
  · rw [String.toList_ofList]

/-- A written ratio is made of printable ASCII. -/
theorem printable_of_mem_ratioText {q : Rat} {c : Char} (h : c ∈ (ratioText q).toList) :
    0x20 < c.toNat ∧ c.toNat < 0x7F := by
  rw [toList_ratioText, List.mem_append, denominatorText] at h
  obtain hnum | hden := h
  · exact printable_of_mem_intDigits hnum
  · split at hden
    · cases hden
    · obtain rfl | hden := List.mem_cons.mp hden
      · decide
      · exact printable_of_mem_intDigits (n := q.den) hden

/-- Decimal digits belong to a digit group. -/
theorem isGroupChar_of_isDigit {c : Char} (h : c.isDigit = true) : isGroupChar c = true := by
  rw [isGroupChar, asciiDigit?_of_isDigit h]
  exact Bool.or_true _

/-- The run of digits at the start of a written magnitude ends before a character of another kind. -/
theorem takeWhile_isGroupChar (n : Nat) {rest : List Char} (h : ∀ c ∈ rest.head?, isGroupChar c = false) :
    (natDigits n ++ rest).takeWhile isGroupChar = natDigits n := by
  rw [List.takeWhile_append_of_pos fun c hc => isGroupChar_of_isDigit (isDigit_of_mem_natDigits hc)]
  cases rest with
  | nil => exact List.append_nil _
  | cons c rest => rw [List.takeWhile_cons_of_neg (ne_true_of_eq_false (h c rfl)), List.append_nil]

/-- What is written after the numerator is no part of its digits. -/
theorem head?_denominatorText (q : Rat) : ∀ c ∈ (denominatorText q).head?, isGroupChar c = false := by
  intro c hc
  rw [denominatorText] at hc
  split at hc
  · cases hc
  · cases hc
    decide

/-- What follows the numerator of a written ratio is read as the ratio's magnitude. -/
theorem ratioTail?_denominatorText {q : Rat} (hden : Writable q.den) :
    ratioTail? (some q.num.natAbs) (denominatorText q) = some (mkRat q.num.natAbs q.den) := by
  rw [denominatorText]
  split
  case isTrue hwhole =>
    rw [ratioTail?_nil, hwhole, Rat.mkRat_one]
    rfl
  case isFalse => exact ratioTail?_slash hden.length_le q.den_nz

/-- A ratio is its magnitude with the sign of its numerator. -/
theorem signed_mkRat_natAbs (q : Rat) :
    (if q.num < 0 then -mkRat q.num.natAbs q.den else mkRat q.num.natAbs q.den) = q := by
  split
  case isTrue hnegative =>
    rw [Rat.neg_mkRat, Int.ofNat_natAbs_of_nonpos (Int.le_of_lt hnegative), Int.neg_neg, Rat.mkRat_self]
  case isFalse hpositive =>
    rw [Int.natAbs_of_nonneg (Int.not_lt.mp hpositive), Rat.mkRat_self]

/-- A number that starts with a sign and digits is read from its digits and what follows them. -/
theorem readRatio?_append (negative : Bool) {n : Nat} {rest : List Char} (hn : (natDigits n).length ≤ digitLimit)
    (hprintable : ∀ c ∈ rest, 0x20 < c.toNat ∧ c.toNat < 0x7F)
    (hhead : ∀ c ∈ rest.head?, isGroupChar c = false) :
    readRatio? ((if negative then ['-'] else []) ++ (natDigits n ++ rest)) =
      (ratioTail? (some n) rest).map fun magnitude => if negative then -magnitude else magnitude := by
  have hspace : ∀ c ∈ (if negative then ['-'] else []) ++ (natDigits n ++ rest), isSpacing c = false := by
    intro c hc
    obtain hsign | hbody := List.mem_append.mp hc
    · split at hsign
      · rw [List.mem_singleton.mp hsign]
        decide
      · cases hsign
    · obtain hdigit | hrest := List.mem_append.mp hbody
      · obtain ⟨hlow, hhigh⟩ := printable_of_isDigit (isDigit_of_mem_natDigits hdigit)
        exact isSpacing_eq_false hlow hhigh
      · obtain ⟨hlow, hhigh⟩ := hprintable c hrest
        exact isSpacing_eq_false hlow hhigh
  have hempty : (natDigits n).isEmpty = false := List.isEmpty_eq_false_iff.mpr Nat.toDigits_ne_nil
  simp only [readRatio?, trim_eq_self hspace, splitSign_append, takeWhile_isGroupChar n hhead, hempty,
    Bool.false_eq_true, if_false, digitGroup?_natDigits hn, Option.bind_some, List.drop_left]

/-- A ratio whose numerator and denominator are writable is read back from its text. -/
theorem readRatio?_ratioText {q : Rat} (hnum : Writable q.num) (hden : Writable q.den) :
    readRatio? (ratioText q).toList = some q := by
  have hprintable : ∀ c ∈ denominatorText q, 0x20 < c.toNat ∧ c.toNat < 0x7F := by
    intro c hc
    exact printable_of_mem_ratioText (q := q) (toList_ratioText q ▸ List.mem_append_right _ hc)
  have hread := readRatio?_append (decide (q.num < 0)) hnum.length_le hprintable (head?_denominatorText q)
  simp only [decide_eq_true_eq] at hread
  rw [toList_ratioText, intDigits_eq, List.append_assoc, hread, ratioTail?_denominatorText hden, Option.map_some,
    signed_mkRat_natAbs]

/-! ## Decimal fractions -/

/-- Places after the point divide by a power of ten. -/
theorem scaleByTen_places (value places : Nat) :
    scaleByTen (value : Rat) (0 - places) = mkRat value (Nat.pow 10 places) := by
  have hup : (0 - (places : Int)).toNat = 0 := by omega
  have hdown : (-(0 - (places : Int))).toNat = places := by omega
  have hwhole : (value : Rat) = mkRat value 1 := (Rat.mkRat_one value).symm
  rw [scaleByTen, hup, hdown, hwhole, Rat.mkRat_mul_mkRat, Nat.one_mul]
  exact congrArg (fun n : Int => mkRat n _) (Int.mul_one _)

/-- Digits with a point and further digits denote the decimal fraction. -/
theorem ratioTail?_point (n : Nat) {decimals : List Char} (hdigits : ∀ c ∈ decimals, c.isDigit = true)
    (hsome : decimals ≠ []) (hlength : decimals.length ≤ digitLimit) :
    ratioTail? (some n) ('.' :: decimals) =
      some (mkRat ((n * Nat.pow 10 decimals.length + digitsValue decimals : Nat) : Int)
        (Nat.pow 10 decimals.length)) := by
  have hgroup : ∀ c ∈ decimals, isGroupChar c = true := fun c hc => isGroupChar_of_isDigit (hdigits c hc)
  have hplaces : decimals.filter (· != '_') = decimals :=
    List.filter_eq_self.mpr fun c hc => bne_iff_ne.mpr (ne_of_isDigit (hdigits c hc) rfl)
  have hempty : decimals.isEmpty = false := List.isEmpty_eq_false_iff.mpr hsome
  rw [ratioTail?]
  simp only [Option.getD_some, List.takeWhile_eq_self_iff.mpr hgroup, List.dropWhile_eq_nil_iff.mpr hgroup,
    hempty, Bool.and_false, Bool.false_eq_true, if_false, digitGroup?_eq_some hdigits hsome hlength, hplaces,
    scaleByTen_places]

/-- A decimal fraction is read as its value, a negative one as the opposite. -/
theorem readRatio?_point (negative : Bool) {n : Nat} {decimals : List Char}
    (hn : (natDigits n).length ≤ digitLimit) (hdigits : ∀ c ∈ decimals, c.isDigit = true)
    (hsome : decimals ≠ []) (hlength : decimals.length ≤ digitLimit) {value : Rat}
    (hvalue : mkRat ((n * Nat.pow 10 decimals.length + digitsValue decimals : Nat) : Int)
      (Nat.pow 10 decimals.length) = value) :
    readRatio? ((if negative then ['-'] else []) ++ (natDigits n ++ '.' :: decimals)) =
      some (if negative then -value else value) := by
  have hprintable : ∀ c ∈ '.' :: decimals, 0x20 < c.toNat ∧ c.toNat < 0x7F := by
    intro c hc
    obtain rfl | hdigit := List.mem_cons.mp hc
    · decide
    · exact printable_of_isDigit (hdigits c hdigit)
  have hpoint : ∀ c ∈ ('.' :: decimals).head?, isGroupChar c = false := by
    intro c hc
    cases hc
    decide
  rw [readRatio?_append negative hn hprintable hpoint, ratioTail?_point n hdigits hsome hlength, hvalue,
    Option.map_some]

end ServiceTopology.Number
