import ServiceTopology.Text.Wide
import Mathlib.Data.List.Basic

/-!
# Code units and code points of texts

Code units and code points determine each other, and so do a text and its code units: what is read unit by unit is the
text whose units were written.
-/

namespace ServiceTopology

open Text

namespace CodePoint

/-- A code point that is no surrogate is the one of its character. -/
theorem toNat_ofNat {n : Nat} (h : n.isValidChar) : (Char.ofNat n).toNat = n := by
  rw [Char.ofNat, dif_pos h]
  rfl

/-- A unit that is no part of a pair is the only one of its code point. -/
theorem units_ofUnit (unit : UInt16) : (ofUnit unit).units = [unit] := by
  unfold ofUnit
  split
  case isTrue => rfl
  case isFalse h =>
    simp only [isHighSurrogate, isLowSurrogate, Bool.or_eq_true, Bool.and_eq_true, decide_eq_true_eq] at h
    have hbound : unit.toNat < 0x10000 := unit.toNat_lt
    have hvalid : unit.toNat.isValidChar := by
      unfold Nat.isValidChar
      omega
    rw [units, codeUnits, toNat_ofNat hvalid, if_pos hbound, UInt16.ofNat_toNat]

/-- The units of a pair are those of its character. -/
theorem codeUnits_pairChar {high low : UInt16} (hhigh : isHighSurrogate high = true)
    (hlow : isLowSurrogate low = true) : codeUnits (pairChar high low) = [high, low] := by
  simp only [isHighSurrogate, isLowSurrogate, Bool.and_eq_true, decide_eq_true_eq] at hhigh hlow
  generalize hpoint : 0x10000 + (high.toNat - 0xD800) * 0x400 + (low.toNat - 0xDC00) = point
  have hvalid : point.isValidChar := by
    unfold Nat.isValidChar
    omega
  have hnat : (pairChar high low).toNat = point := by
    rw [pairChar, hpoint, toNat_ofNat hvalid]
  have hhighNat : 0xD800 + (point - 0x10000) / 0x400 = high.toNat := by omega
  have hlowNat : 0xDC00 + (point - 0x10000) % 0x400 = low.toNat := by omega
  rw [codeUnits, hnat, if_neg (by omega), hhighNat, hlowNat, UInt16.ofNat_toNat, UInt16.ofNat_toNat]

/-- Code points make up the code units that they were read from. -/
theorem flatMap_units_ofUnits (given : List UInt16) : (ofUnits given).flatMap units = given := by
  induction given using ofUnits.induct with
  | case1 => rfl
  | case2 unit => rw [ofUnits, List.flatMap_singleton, units_ofUnit]
  | case3 high low rest hpair ih =>
    obtain ⟨hhigh, hlow⟩ := Bool.and_eq_true_iff.mp hpair
    rw [ofUnits, if_pos hpair, List.flatMap_cons, ih, units, codeUnits_pairChar hhigh hlow]
    rfl
  | case4 high low rest hpair ih =>
    rw [ofUnits, if_neg hpair, List.flatMap_cons, ih, units_ofUnit]
    rfl

/-- The code units of a character are read as that character. -/
theorem ofUnits_codeUnits_append (c : Char) (rest : List UInt16) :
    ofUnits (codeUnits c ++ rest) = char c :: ofUnits rest := by
  have hvalid : c.toNat < 0xD800 ∨ 0xDFFF < c.toNat ∧ c.toNat < 0x110000 := c.valid
  unfold codeUnits
  split
  case isTrue hsmall =>
    generalize hunit : UInt16.ofNat c.toNat = unit
    have hnat : unit.toNat = c.toNat := by rw [← hunit, UInt16.toNat_ofNat_of_lt' hsmall]
    have hhigh : isHighSurrogate unit = false := by
      simp only [isHighSurrogate, Bool.and_eq_false_iff, decide_eq_false_iff_not]
      omega
    have hlow : isLowSurrogate unit = false := by
      simp only [isLowSurrogate, Bool.and_eq_false_iff, decide_eq_false_iff_not]
      omega
    have hpoint : ofUnit unit = char c := by
      rw [ofUnit, hhigh, hlow, hnat, Char.ofNat_toNat]
      rfl
    cases rest with
    | nil => rw [List.append_nil, ofUnits, ofUnits, hpoint]
    | cons next rest => rw [List.singleton_append, ofUnits, hhigh, Bool.false_and, if_neg nofun, hpoint]
  case isFalse hlarge =>
    have hhighBound : 0xD800 + (c.toNat - 0x10000) / 0x400 < UInt16.size := by
      unfold UInt16.size
      omega
    have hlowBound : 0xDC00 + (c.toNat - 0x10000) % 0x400 < UInt16.size := by
      unfold UInt16.size
      omega
    generalize hh : UInt16.ofNat (0xD800 + (c.toNat - 0x10000) / 0x400) = high
    generalize hl : UInt16.ofNat (0xDC00 + (c.toNat - 0x10000) % 0x400) = low
    have hhighNat : high.toNat = 0xD800 + (c.toNat - 0x10000) / 0x400 := by
      rw [← hh, UInt16.toNat_ofNat_of_lt' hhighBound]
    have hlowNat : low.toNat = 0xDC00 + (c.toNat - 0x10000) % 0x400 := by
      rw [← hl, UInt16.toNat_ofNat_of_lt' hlowBound]
    have hpair : (isHighSurrogate high && isLowSurrogate low) = true := by
      simp only [isHighSurrogate, isLowSurrogate, Bool.and_eq_true, decide_eq_true_eq]
      omega
    have hpoint : 0x10000 + (high.toNat - 0xD800) * 0x400 + (low.toNat - 0xDC00) = c.toNat := by omega
    rw [List.cons_append, List.singleton_append, ofUnits, if_pos hpair, pairChar, hpoint, Char.ofNat_toNat]

/-- The code units of a string are read as its characters. -/
theorem ofUnits_flatMap_codeUnits (chars : List Char) : ofUnits (chars.flatMap codeUnits) = chars.map char := by
  induction chars with
  | nil => rfl
  | cons c chars ih => rw [List.flatMap_cons, ofUnits_codeUnits_append, ih, List.map_cons]

end CodePoint

namespace WideText

/-- A text is found again from its code units. -/
theorem ofUnits_units (text : WideText) : ofUnits text.units = text := by
  unfold ofUnits
  cases text with
  | plain text =>
    have hdecoded : decodeUtf16? (plain text).units = some text.toList := by
      rw [decodeUtf16?, units, codePoints, List.flatMap_map]
      exact CodePoint.chars?_eq_some_iff.mpr (CodePoint.ofUnits_flatMap_codeUnits text.toList)
    split
    case h_1 chars h =>
      cases h.symm.trans hdecoded
      rw [String.ofList_toList]
    case h_2 h => cases h.symm.trans hdecoded
  | broken given h =>
    have hunits : (broken given h).units = given := CodePoint.flatMap_units_ofUnits given
    split
    case h_1 chars hchars =>
      rw [hunits, h] at hchars
      cases hchars
    case h_2 => simp only [hunits]

/-- Only the empty string has no code points. -/
theorem codePoints_eq_nil_iff {text : WideText} : text.codePoints = [] ↔ text = "" := by
  constructor
  · intro h
    rw [← ofUnits_units text, units, h]
    rfl
  · rintro rfl
    rfl

end WideText

end ServiceTopology
