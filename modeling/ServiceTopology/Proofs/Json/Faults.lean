import ServiceTopology.Json.Reader

/-!
# Faults of reading JSON

A text accounts for the faults of reading it that are no complaints: an integer with too many digits is a run of
digits in the text, and containers nested too deep have their opening brackets in it. A text with neither is
read, or there is a complaint about it.

Every reader leaves an end of its text, so what is found in the rest of a text is found in the text. This alone
carries a fault from the place where it occurs to the whole document.
-/

namespace ServiceTopology.Json

open ServiceTopology.Text

/-- Number of opening brackets of a text. -/
def openings (text : List Char) : Nat := text.countP fun c => c = '[' || c = '\x7b'

/-- A text has a run of digits beyond the limit. -/
def HasLongRun (text : List Char) : Prop :=
  ∃ digits, digits <:+: text ∧ (∀ c ∈ digits, c.isDigit = true) ∧ digitLimit < digits.length

/-- A text accounts for a fault, where containers may be nested up to a depth. -/
def Fault.FoundIn (depth : Nat) (text : List Char) : Fault → Prop
  | .malformed _ _ => True
  | .integerTooLong _ => HasLongRun text
  | .tooDeep _ => depth < openings text

/-- A reader has left an end of a text, or ended with a fault that the text accounts for. -/
def Scanned.Within {α : Type} (depth : Nat) (text : List Char) : Scanned α → Prop
  | .ok (_, rest) => rest <:+ text
  | .error fault => fault.FoundIn depth text

/-- What is found in the end of a text is found in the text. -/
theorem Fault.FoundIn.of_suffix {depth : Nat} {rest text : List Char} (hrest : rest <:+ text) {fault : Fault}
    (h : fault.FoundIn depth rest) : fault.FoundIn depth text := by
  cases fault with
  | malformed what left => exact trivial
  | integerTooLong digits =>
    obtain ⟨run, hrun, hdigits, hlong⟩ := h
    exact ⟨run, hrun.trans hrest.isInfix, hdigits, hlong⟩
  | tooDeep container => exact Nat.lt_of_lt_of_le h (hrest.sublist.countP_le)

/-- Reading the end of a text is reading within the text. -/
theorem Scanned.Within.of_suffix {α : Type} {depth : Nat} {rest text : List Char} {scanned : Scanned α}
    (h : scanned.Within depth rest) (hrest : rest <:+ text) : scanned.Within depth text := by
  cases scanned with
  | ok result => exact List.IsSuffix.trans h hrest
  | error fault => exact Fault.FoundIn.of_suffix hrest h

/-- An opening bracket in front of a text accounts for one more level of nesting. -/
theorem Fault.FoundIn.of_opening {depth : Nat} {c : Char} (hc : c = '[' ∨ c = '\x7b') {text : List Char}
    {fault : Fault} (h : fault.FoundIn depth text) : fault.FoundIn (depth + 1) (c :: text) := by
  cases fault with
  | malformed what left => exact trivial
  | integerTooLong digits => exact of_suffix (List.suffix_cons c text) h
  | tooDeep container =>
    have hcount : openings (c :: text) = openings text + 1 :=
      List.countP_cons_of_pos (by simpa using hc)
    rw [FoundIn, hcount]
    exact Nat.succ_lt_succ h

/-- Reading behind an opening bracket is reading within the text with one more level of nesting. -/
theorem Scanned.Within.of_opening {α : Type} {depth : Nat} {c : Char} (hc : c = '[' ∨ c = '\x7b')
    {text : List Char} {scanned : Scanned α} (h : scanned.Within depth text) :
    scanned.Within (depth + 1) (c :: text) := by
  cases scanned with
  | ok result => exact List.IsSuffix.trans h (List.suffix_cons c text)
  | error fault => exact Fault.FoundIn.of_opening hc h

/-- Skipping white space leaves an end of the text. -/
theorem skipSpace_suffix (text : List Char) : skipSpace text <:+ text := List.dropWhile_suffix _

/-! ## Texts -/

/-- A fault in an escape of four digits is a complaint. -/
theorem unicodeEscape_found {text : List Char} {fault : Fault} (h : unicodeEscape text = .error fault)
    (depth : Nat) (whole : List Char) : fault.FoundIn depth whole := by
  unfold unicodeEscape at h
  split at h
  · split at h
    · cases h
      exact trivial
    · split at h
      · cases h
      · cases h
        exact trivial
  · cases h
    exact trivial

/-- A fault in an escape is a complaint. -/
theorem escapeAt_found {opening text : List Char} {fault : Fault} (h : escapeAt opening text = .error fault)
    (depth : Nat) (whole : List Char) : fault.FoundIn depth whole := by
  unfold escapeAt at h
  split at h
  · cases h
    exact trivial
  · split at h
    · split at h
      · cases h
      · cases h
        exact unicodeEscape_found ‹_› depth whole
    · split at h
      · cases h
      · cases h
        exact trivial

/-- Code units in front of what was read change nothing about what is left. -/
theorem within_prependUnits {depth : Nat} {text : List Char} {scanned : Scanned (List UInt16)}
    (h : scanned.Within depth text) (units : List UInt16) : (prependUnits units scanned).Within depth text := by
  cases scanned with
  | ok result => exact h
  | error fault => exact h

/-- The rest of a quoted text is read within it. -/
theorem within_stringBody (depth : Nat) (opening : List Char) (skip : Nat) (text : List Char) :
    (stringBody opening skip text).Within depth text := by
  induction text generalizing skip with
  | nil =>
    rw [stringBody]
    exact trivial
  | cons c rest ih =>
    have hrest : rest <:+ c :: rest := List.suffix_cons c rest
    cases skip with
    | succ skip => exact (ih skip).of_suffix hrest
    | zero =>
      rw [stringBody]
      split
      · exact hrest
      · split
        · split
          · exact within_prependUnits ((ih _).of_suffix hrest) _
          · exact escapeAt_found ‹_› depth _
        · split
          · exact trivial
          · exact within_prependUnits ((ih 0).of_suffix hrest) _

/-- A quoted text is read within what is left. -/
theorem within_stringAt (depth : Nat) (text : List Char) : (stringAt text).Within depth text := by
  have hbody := (within_stringBody depth text 0 (text.drop 1)).of_suffix (List.drop_suffix 1 text)
  unfold stringAt
  generalize stringBody text 0 (text.drop 1) = scanned at hbody ⊢
  cases scanned <;> exact hbody

/-! ## Numbers and words -/

/-- The whole part of a number and the text after it make up the text. -/
theorem splitWhole_append (text : List Char) : (splitWhole text).1 ++ (splitWhole text).2 = text := by
  unfold splitWhole
  split
  · rfl
  · exact List.takeWhile_append_dropWhile

/-- The whole part of a number is a run of digits. -/
theorem isDigit_of_mem_splitWhole {text : List Char} {c : Char} (h : c ∈ (splitWhole text).1) :
    c.isDigit = true := by
  unfold splitWhole at h
  split at h
  · rw [List.mem_singleton.mp h]
    rfl
  · exact List.all_eq_true.mp List.all_takeWhile c h

/-- Splitting off a fraction leaves an end of the text. -/
theorem splitFraction_suffix (text : List Char) : (splitFraction text).2 <:+ text := by
  unfold splitFraction
  split
  · dsimp only
    split
    · exact List.suffix_rfl
    · exact (List.dropWhile_suffix _).trans (List.suffix_cons _ _)
  · exact List.suffix_rfl

/-- Splitting off the digits of an exponent leaves an end of the text. -/
theorem splitExponentDigits_suffix {negative : Bool} {text rest : List Char} {exponent : Int}
    (h : splitExponentDigits negative text = some (exponent, rest)) : rest <:+ text := by
  unfold splitExponentDigits at h
  dsimp only at h
  split at h
  · cases h
  · cases h
    exact List.dropWhile_suffix _

/-- Splitting off an exponent leaves an end of the text. -/
theorem splitExponent_suffix (text : List Char) : (splitExponent text).2 <:+ text := by
  unfold splitExponent
  dsimp only
  split
  · rename_i exponent rest hfound
    split at hfound
    · rename_i mark after
      have hmark : after <:+ mark :: after := List.suffix_cons mark after
      split at hfound
      · split at hfound
        · exact ((splitExponentDigits_suffix hfound).trans (List.suffix_cons _ _)).trans hmark
        · exact ((splitExponentDigits_suffix hfound).trans (List.suffix_cons _ _)).trans hmark
        · exact (splitExponentDigits_suffix hfound).trans hmark
      · cases hfound
    · cases hfound
  · exact List.suffix_rfl

/-- A number is read within its text. -/
theorem within_numberAt (depth : Nat) (negative : Bool) (text place : List Char) :
    (numberAt negative text place).Within depth text := by
  have happend := splitWhole_append text
  have hdigits := fun c (hc : c ∈ (splitWhole text).1) => isDigit_of_mem_splitWhole hc
  unfold numberAt
  generalize splitWhole text = parts at happend hdigits
  obtain ⟨whole, afterWhole⟩ := parts
  have hwhole : afterWhole <:+ text := ⟨whole, happend⟩
  have hend : (splitExponent (splitFraction afterWhole).2).2 <:+ text :=
    ((splitExponent_suffix _).trans (splitFraction_suffix _)).trans hwhole
  dsimp only
  split
  · exact trivial
  · split
    · split
      · rename_i hlong
        exact ⟨whole, ⟨[], afterWhole, happend⟩, hdigits, hlong⟩
      · exact hend
    · exact hend

/-- A string, a word or a number is read within its text. -/
theorem within_scalarAt (depth : Nat) (text : List Char) : (scalarAt text).Within depth text := by
  unfold scalarAt
  split
  · rename_i rest
    have hstring := within_stringAt depth ('\x22' :: rest)
    generalize stringAt ('\x22' :: rest) = scanned at hstring ⊢
    cases scanned <;> exact hstring
  · split
    · exact List.drop_suffix _ _
    · split
      · exact (within_numberAt depth true _ _).of_suffix (List.suffix_cons _ _)
      · exact within_numberAt depth false text text

/-! ## Containers -/

section Containers

variable {α : Type} {depth : Nat} (close : Char) {element : List Char → Scanned α}
  (helement : ∀ text, (element text).Within depth text)

include helement

/-- Elements are read within their text when each of them is. -/
theorem within_elements (fuel text : List Char) :
    (elements close element fuel text).Within depth text := by
  induction fuel generalizing text with
  | nil => exact trivial
  | cons _ fuel ih =>
    have hfirst := helement text
    rw [elements]
    split
    · rename_i fault heq
      rw [heq] at hfirst
      exact hfirst
    · rename_i first afterFirst heq
      rw [heq] at hfirst
      have hspace : skipSpace afterFirst <:+ text := (skipSpace_suffix afterFirst).trans hfirst
      split
      · exact trivial
      · rename_i c rest hrest
        have hafter : rest <:+ text := (List.suffix_cons c rest).trans (hrest ▸ hspace)
        split
        · exact hafter
        · split
          · have hmore := (ih (skipSpace rest)).of_suffix ((skipSpace_suffix rest).trans hafter)
            generalize elements close element fuel (skipSpace rest) = scanned at hmore ⊢
            cases scanned <;> exact hmore
          · exact trivial

/-- A container is read within its text when each of its elements is. -/
theorem within_containerBody (text : List Char) :
    (containerBody close element text).Within depth text := by
  have hstart := skipSpace_suffix text
  unfold containerBody
  dsimp only
  split
  · exact (List.drop_suffix 1 _).trans hstart
  · exact (within_elements close helement _ _).of_suffix hstart

end Containers

/-- A member is read within its text when its value is. -/
theorem within_memberAt {depth : Nat} {value : List Char → Scanned Json}
    (hvalue : ∀ text, (value text).Within depth text) (text : List Char) :
    (memberAt value text).Within depth text := by
  unfold memberAt
  split
  · rename_i tail
    have hname := within_stringAt depth ('\x22' :: tail)
    split
    · rename_i heq
      rw [heq] at hname
      exact hname
    · rename_i name afterName heq
      rw [heq] at hname
      have hspace := (skipSpace_suffix afterName).trans hname
      split
      · rename_i rest hrest
        have hafter : skipSpace rest <:+ '\x22' :: tail :=
          ((skipSpace_suffix rest).trans (List.suffix_cons ':' rest)).trans (hrest ▸ hspace)
        have hmember := (hvalue (skipSpace rest)).of_suffix hafter
        generalize value (skipSpace rest) = scanned at hmember ⊢
        cases scanned <;> exact hmember
      · exact trivial
  · exact trivial

/-- A value is read within its text. -/
theorem within_valueAt (depth : Nat) (text : List Char) : (valueAt depth text).Within depth text := by
  induction depth generalizing text with
  | zero =>
    unfold valueAt
    split
    · exact List.countP_pos_iff.mpr ⟨'[', List.mem_cons_self, by decide⟩
    · exact List.countP_pos_iff.mpr ⟨'\x7b', List.mem_cons_self, by decide⟩
    · exact within_scalarAt 0 text
  | succ depth ih =>
    unfold valueAt
    split
    · rename_i rest
      have hitems := (within_containerBody ']' ih rest).of_opening (.inl rfl)
      generalize containerBody ']' (valueAt depth) rest = scanned at hitems ⊢
      cases scanned <;> exact hitems
    · rename_i rest
      have hmembers := (within_containerBody '\x7d' (within_memberAt ih) rest).of_opening (.inr rfl)
      generalize containerBody '\x7d' (memberAt (valueAt depth)) rest = scanned at hmembers ⊢
      cases scanned <;> exact hmembers
    · exact within_scalarAt (depth + 1) text

/-! ## Documents -/

/-- A text accounts for the fault of reading it as a document. -/
theorem found_of_wholeValue {depth : Nat} {text : List Char} {fault : Fault}
    (h : wholeValue depth text = .error fault) : fault.FoundIn depth text := by
  unfold wholeValue at h
  split at h
  · cases h
    exact trivial
  · have hvalue := (within_valueAt depth (skipSpace text)).of_suffix (skipSpace_suffix text)
    split at h
    · rename_i heq
      rw [heq] at hvalue
      cases h
      exact hvalue
    · split at h
      · cases h
      · cases h
        exact trivial

/-- A text without a run of too many digits and without too many opening brackets is read, or there is a
complaint about it. -/
theorem read_of_short {depth : Nat} {text : List Char} (hdigits : ¬HasLongRun text)
    (hdepth : openings text ≤ depth) :
    (∃ value, read depth text = .ok value) ∨
      ∃ what position, read depth text = .error (.malformed what position) := by
  unfold read
  cases hwhole : wholeValue depth text with
  | ok value => exact .inl ⟨value, rfl⟩
  | error fault =>
    have hfound := found_of_wholeValue hwhole
    cases fault with
    | malformed what left => exact .inr ⟨what, positionOf text left, rfl⟩
    | integerTooLong digits => exact absurd hfound hdigits
    | tooDeep container => exact absurd hfound (Nat.not_lt.mpr hdepth)

end ServiceTopology.Json
