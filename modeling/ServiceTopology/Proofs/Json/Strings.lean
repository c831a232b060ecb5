import ServiceTopology.Json.Escape
import ServiceTopology.Json.Reader
import ServiceTopology.Proofs.Text.Wide

/-!
# Reading quoted texts

A quoted text is read back as it was, whatever follows it. Each character is written as itself, as an
escape letter, or as one or two escaped code units, and a surrogate that stands alone as an escaped code unit; one
lemma for each way says what the reader makes of it, and the text follows code point by code point.

The reader needs something after the digits of an escape. Inside a quoted text there is always the closing
quote.
-/

namespace ServiceTopology.Json

open ServiceTopology.Text

/-! ## Hexadecimal digits -/

/-- The last hexadecimal digit of a number follows those of its sixteenth. -/
theorem hexDigits_succ {width : Nat} (hwidth : 0 < width) (n : Nat) :
    hexDigits (width + 1) n = hexDigits width (n / 16) ++ [Nat.digitChar (n % 16)] := by
  by_cases h : n < 16
  · have hzero : n / 16 = 0 := Nat.div_eq_of_lt h
    obtain ⟨zeros, rfl⟩ : ∃ zeros, width = zeros + 1 := ⟨width - 1, by omega⟩
    rw [hexDigits, hexDigits, Nat.toDigits_of_lt_base h, hzero, Nat.toDigits_zero, Nat.mod_eq_of_lt h]
    simp [List.replicate_succ']
  · rw [hexDigits, hexDigits, Nat.toDigits_of_base_le (by decide) (Nat.not_lt.mp h)]
    simp [List.append_assoc]

/-- A hexadecimal digit has the value that it was written for. -/
theorem hexValue?_digitChar : ∀ {n : Nat}, n < 16 → hexValue? (Nat.digitChar n) = some n := by
  decide

/-- A code unit has four hexadecimal digits. -/
theorem hexDigits_four {unit : Nat} (h : unit < 0x10000) :
    hexDigits 4 unit =
      [Nat.digitChar (unit / 16 / 16 / 16), Nat.digitChar (unit / 16 / 16 % 16),
        Nat.digitChar (unit / 16 % 16), Nat.digitChar (unit % 16)] := by
  have hfirst : unit / 16 / 16 / 16 < 16 := by omega
  rw [hexDigits_succ (by decide), hexDigits_succ (by decide), hexDigits_succ (by decide), hexDigits,
    Nat.toDigits_of_lt_base hfirst]
  rfl

/-- A code unit is read back from its hexadecimal digits. -/
theorem exists_hexDigits (unit : UInt16) :
    ∃ a b c d, hexDigits 4 unit.toNat = [a, b, c, d] ∧ codeUnit? a b c d = some unit := by
  have hunit : unit.toNat < 0x10000 := unit.toNat_lt
  have hfirst : unit.toNat / 16 / 16 / 16 < 16 := by omega
  refine ⟨_, _, _, _, hexDigits_four hunit, ?_⟩
  have hvalue : ((unit.toNat / 16 / 16 / 16 * 16 + unit.toNat / 16 / 16 % 16) * 16 + unit.toNat / 16 % 16) * 16 +
      unit.toNat % 16 = unit.toNat := by omega
  simp only [codeUnit?, hexValue?_digitChar hfirst,
    hexValue?_digitChar (Nat.mod_lt _ (show 0 < 16 by decide)), hvalue, UInt16.ofNat_toNat]

/-! ## Escapes -/

/-- An escape letter is read as the character that it was written for. -/
theorem letterChar?_of_escapeLetter? {c letter : Char} (h : escapeLetter? c = some letter) :
    letter ≠ 'u' ∧ letterChar? letter = some c := by
  unfold escapeLetter? at h
  repeat' split at h
  all_goals cases h
  all_goals subst_vars; decide

/-- An escaped code unit is read. -/
theorem escapeAt_unit (opening : List Char) {rest : List Char} (unit : UInt16) (hrest : rest ≠ []) :
    escapeAt opening ('u' :: hexDigits 4 unit.toNat ++ rest) =
      .ok ([unit], ('u' :: hexDigits 4 unit.toNat).length) := by
  obtain ⟨a, b, c, d, hdigits, hvalue⟩ := exists_hexDigits unit
  simp [escapeAt, hdigits, unicodeEscape, hrest, hvalue]

/-! ## Texts -/

/-- Code units are put in front one after another or all at once. -/
theorem prependUnits_append (first second : List UInt16) (scanned : Scanned (List UInt16)) :
    prependUnits (first ++ second) scanned = prependUnits first (prependUnits second scanned) := by
  cases scanned with
  | ok result => simp [prependUnits]
  | error fault => rfl

/-- Characters to be skipped are dropped. -/
theorem stringBody_length (opening skipped rest : List Char) :
    stringBody opening skipped.length (skipped ++ rest) = stringBody opening 0 rest := by
  induction skipped with
  | nil => rfl
  | cons c skipped ih => rw [List.length_cons, List.cons_append, stringBody, ih]

/-- A text goes on after an escape that was read. -/
theorem stringBody_escape {opening escape rest : List Char} {units : List UInt16}
    (h : escapeAt opening (escape ++ rest) = .ok (units, escape.length)) :
    stringBody opening 0 ('\x5c' :: (escape ++ rest)) = prependUnits units (stringBody opening 0 rest) := by
  rw [stringBody, if_neg (by decide), if_pos rfl, h]
  simp only [stringBody_length]

/-- Escaped code units are read one by one. -/
theorem stringBody_unitEscapes {opening rest : List Char} (units : List UInt16) (hrest : rest ≠ []) :
    stringBody opening 0 (units.flatMap unitEscape ++ rest) = prependUnits units (stringBody opening 0 rest) := by
  induction units with
  | nil => cases hscanned : stringBody opening 0 rest <;> simp [prependUnits, hscanned]
  | cons unit units ih =>
    have hmore : units.flatMap unitEscape ++ rest ≠ [] := List.append_ne_nil_of_right_ne_nil _ hrest
    rw [List.flatMap_cons, List.append_assoc, unitEscape, List.cons_append,
      stringBody_escape (escapeAt_unit opening unit hmore), ih, ← prependUnits_append, List.singleton_append]

/-- What is written for a character is read as its code units. -/
theorem stringBody_escapeChar {opening rest : List Char} (c : Char) (hrest : rest ≠ []) :
    stringBody opening 0 (escapeChar c ++ rest) = prependUnits (codeUnits c) (stringBody opening 0 rest) := by
  unfold escapeChar
  split
  case h_1 letter hletter =>
    obtain ⟨hu, hc⟩ := letterChar?_of_escapeLetter? hletter
    have hescape : escapeAt opening ([letter] ++ rest) = .ok (codeUnits c, [letter].length) := by
      simp [escapeAt, hu, hc]
    exact stringBody_escape hescape
  case h_2 hletter =>
    split
    case isTrue hprintable =>
      have hlow : ¬c.toNat < 0x20 := by
        simp only [Bool.and_eq_true, decide_eq_true_eq] at hprintable
        omega
      have hbackslash : c ≠ '\x5c' := by
        rintro rfl
        cases hletter
      have hquote : c ≠ '\x22' := by
        rintro rfl
        cases hletter
      rw [List.singleton_append, stringBody, if_neg hquote, if_neg hbackslash, if_neg hlow]
    case isFalse => exact stringBody_unitEscapes _ hrest

/-- What is written for a code point is read as its code units. -/
theorem stringBody_escapePoint {opening rest : List Char} (point : CodePoint) (hrest : rest ≠ []) :
    stringBody opening 0 (escapePoint point ++ rest) = prependUnits point.units (stringBody opening 0 rest) := by
  cases point with
  | char c => exact stringBody_escapeChar c hrest
  | surrogate unit =>
    have hsingle : unitEscape unit = [unit].flatMap unitEscape := (List.flatMap_singleton _ _).symm
    rw [escapePoint, hsingle, stringBody_unitEscapes _ hrest, CodePoint.units]

/-- The code points between the quotes are read up to the closing quote. -/
theorem stringBody_flatMap_escapePoint (opening rest : List Char) (points : List CodePoint) :
    stringBody opening 0 (points.flatMap escapePoint ++ '\x22' :: rest) =
      .ok (points.flatMap CodePoint.units, rest) := by
  induction points with
  | nil => rfl
  | cons point points ih =>
    rw [List.flatMap_cons, List.append_assoc,
      stringBody_escapePoint point (List.append_ne_nil_of_right_ne_nil _ (List.cons_ne_nil _ _)), ih]
    rfl

/-- A quoted text is read back. -/
theorem stringAt_quote (text : WideText) (rest : List Char) :
    stringAt (quote text ++ rest) = .ok (text, rest) := by
  have hbody : (quote text ++ rest).drop 1 = text.codePoints.flatMap escapePoint ++ '\x22' :: rest := by
    simp [quote]
  rw [stringAt, hbody, stringBody_flatMap_escapePoint]
  exact congrArg (fun s => Except.ok (s, rest)) text.ofUnits_units

end ServiceTopology.Json
