/-!
# Control sequences

Lines meant for a terminal may carry control sequences: an escape character and an opening bracket,
parameter characters, intermediate characters and one final character. They are removed from every
line that is echoed.

An escape character that starts no complete sequence stays in the line.
-/

namespace ServiceTopology.Text

/-- Parameter characters of a control sequence. -/
def isParameter (c : Char) : Bool := 0x30 ≤ c.toNat && c.toNat ≤ 0x3F

/-- Intermediate characters of a control sequence. -/
def isIntermediate (c : Char) : Bool := 0x20 ≤ c.toNat && c.toNat ≤ 0x2F

/-- Final characters of a control sequence. -/
def isFinal (c : Char) : Bool := 0x40 ≤ c.toNat && c.toNat ≤ 0x7E

/-- Length of the control sequence at the start of a text, or zero when none starts there. -/
def controlLength : List Char → Nat
  | '\x1b' :: '[' :: rest =>
    let parameters := rest.takeWhile isParameter
    let intermediates := (rest.drop parameters.length).takeWhile isIntermediate
    match rest.drop (parameters.length + intermediates.length) with
    | c :: _ => if isFinal c then parameters.length + intermediates.length + 3 else 0
    | [] => 0
  | _ => 0

/-- Drop the next `skip` characters, then go on removing control sequences. -/
def withoutControlsFrom : Nat → List Char → List Char
  | _, [] => []
  | skip + 1, _ :: rest => withoutControlsFrom skip rest
  | 0, c :: rest =>
    match controlLength (c :: rest) with
    | 0 => c :: withoutControlsFrom 0 rest
    | length + 1 => withoutControlsFrom length rest

/-- Remove every control sequence from a line. -/
def withoutControls (line : List Char) : List Char := withoutControlsFrom 0 line

/-- Echo a line: without control sequences, and with a line end. -/
def echo (line : List Char) : List Char := withoutControls line ++ ['\n']

/-- A line without escape characters is echoed unchanged. -/
theorem withoutControls_eq_self (line : List Char) (h : '\x1b' ∉ line) :
    withoutControls line = line := by
  unfold withoutControls
  induction line with
  | nil => rfl
  | cons c rest ih =>
    have hc : c ≠ '\x1b' := by rintro rfl; simp at h
    have hr : '\x1b' ∉ rest := fun hm => h (List.mem_cons_of_mem _ hm)
    have hl : controlLength (c :: rest) = 0 := by
      unfold controlLength
      split
      · rename_i heq; simp at heq; exact absurd heq.1 hc
      · rfl
    simp [withoutControlsFrom, hl, ih hr]

end ServiceTopology.Text
