import ServiceTopology.Proofs.FileTree
import ServiceTopology.Proofs.Json.Faults
import ServiceTopology.Proofs.Text.Digits
import ServiceTopology.Proofs.Text.Utf8
import ServiceTopology.Snapshot.Load

/-!
# Files that give no snapshot

What loading a file can end with. A file that the system does not open is a snapshot problem, and so is a text that
is not JSON or does not fit the schema, as long as reading it stays within the limits of the reader. Short texts do:
no run of digits in them is too long, and they have too few opening brackets to be nested too deep.

Four failures are no snapshot problems but are passed on as they are: a path with a null character, that of the
decoder on bytes that encode no text, and those of the reader on an integer with too many digits and on containers
nested deeper than it can follow. How deep that is depends on the stack of the caller and is left open.
-/

namespace ServiceTopology

open Json Text

/-! ## Line ends -/

/-- Digits at the start of a text with unified line ends were there before. -/
theorem prefix_of_unified {digits text : List Char} (hdigits : ∀ c ∈ digits, c.isDigit = true)
    (h : digits <+: unifyLineEnds text) : digits <+: text := by
  induction digits generalizing text with
  | nil => exact List.nil_prefix
  | cons d digits ih =>
    have hfeed : d ≠ '\n' := ne_of_isDigit (hdigits d List.mem_cons_self) (by decide)
    have hrest := fun c hc => hdigits c (List.mem_cons_of_mem d hc)
    unfold unifyLineEnds at h
    split at h
    · exact absurd (List.cons_prefix_cons.mp h).1 hfeed
    · exact absurd (List.cons_prefix_cons.mp h).1 hfeed
    · obtain ⟨rfl, htail⟩ := List.cons_prefix_cons.mp h
      exact List.cons_prefix_cons.mpr ⟨rfl, ih hrest htail⟩
    · cases List.prefix_nil.mp h

/-- A run of digits in a text with unified line ends was there before. -/
theorem infix_of_unified {digits text : List Char} (hdigits : ∀ c ∈ digits, c.isDigit = true)
    (h : digits <:+: unifyLineEnds text) : digits <:+: text := by
  -- The run starts at the front of the text, or it lies in what the recursion goes on with.
  have hstep {c : Char} {text rest : List Char} (hunified : unifyLineEnds text = c :: unifyLineEnds rest)
      (hrest : rest <:+ text) (ih : digits <:+: unifyLineEnds rest → digits <:+: rest)
      (h : digits <:+: unifyLineEnds text) : digits <:+: text := by
    obtain hfront | hlater := List.infix_cons_iff.mp (hunified ▸ h)
    · exact (prefix_of_unified hdigits (hunified ▸ hfront)).isInfix
    · exact (ih hlater).trans hrest.isInfix
  induction text using unifyLineEnds.induct with
  | case1 rest ih =>
    exact hstep (unifyLineEnds.eq_1 rest) ((List.suffix_cons _ _).trans (List.suffix_cons _ _)) ih h
  | case2 rest hfeed ih => exact hstep (unifyLineEnds.eq_2 rest hfeed) (List.suffix_cons _ _) ih h
  | case3 c rest hpair hreturn ih =>
    exact hstep (unifyLineEnds.eq_3 c rest hpair hreturn) (List.suffix_cons _ _) ih h
  | case4 => exact h

/-- Unifying line ends changes no bracket. -/
theorem openings_unifyLineEnds (text : List Char) : openings (unifyLineEnds text) = openings text := by
  induction text using unifyLineEnds.induct with
  | case1 rest ih =>
    rw [unifyLineEnds.eq_1]
    simpa [openings] using ih
  | case2 rest hfeed ih =>
    rw [unifyLineEnds.eq_2 rest hfeed]
    simpa [openings] using ih
  | case3 c rest hpair hreturn ih =>
    rw [unifyLineEnds.eq_3 c rest hpair hreturn, openings, openings, List.countP_cons, List.countP_cons]
    exact congrArg (· + _) ih
  | case4 => rfl

/-! ## Texts within the limits -/

section Limits

variable (depth : Nat)

/-- Reading a text as a document meets no integer with too many digits and no container nested too deep. -/
def WithinLimits (text : List Char) : Prop :=
  (∀ digits, read depth text ≠ .error (.integerTooLong digits)) ∧
    ∀ container, read depth text ≠ .error (.tooDeep container)

/-- A text is short when it has no run of digits beyond the limit and no more opening brackets than containers
may be nested. -/
def ShortText (text : List Char) : Prop := ¬HasLongRun text ∧ openings text ≤ depth

variable {depth}

/-- A short text stays within the limits after its line ends are unified. -/
theorem ShortText.withinLimits {text : List Char} (h : ShortText depth text) :
    WithinLimits depth (unifyLineEnds text) := by
  have hdigits : ¬HasLongRun (unifyLineEnds text) := fun ⟨digits, hinfix, hrun, hlong⟩ =>
    h.1 ⟨digits, infix_of_unified hrun hinfix, hrun, hlong⟩
  have hdepth : openings (unifyLineEnds text) ≤ depth := openings_unifyLineEnds text ▸ h.2
  unfold WithinLimits
  obtain ⟨value, hvalue⟩ | ⟨what, position, hfault⟩ := read_of_short hdigits hdepth
  · rw [hvalue]
    exact ⟨nofun, nofun⟩
  · rw [hfault]
    exact ⟨nofun, nofun⟩

end Limits

/-! ## Loading -/

namespace Snapshot

/-- Loading ends with a snapshot or with a snapshot problem. -/
def Reported (result : Except LoadFailure Snapshot) : Prop :=
  (∃ snapshot, result = .ok snapshot) ∨ ∃ error, result = .error (.snapshot error)

section Reading

variable (depth : Nat)

/-- A path has no null character in it, and a file that is opened holds a text within the limits. -/
structure ReadableFile (state : FileState) : Prop where
  path : state ≠ .error .nullInPath
  text : ∀ bytes, state = .ok bytes →
    ∃ text, bytes = text.flatMap String.utf8EncodeChar ∧ WithinLimits depth (unifyLineEnds text)

/-- Reading a file that holds a text is reported exactly when the text is within the limits. -/
theorem reported_ofFile_encode (path : String) (text : List Char) :
    Reported (ofFile depth path (.ok (text.flatMap String.utf8EncodeChar))) ↔
      WithinLimits depth (unifyLineEnds text) := by
  rw [ofFile_of_decoded depth path (decodeUtf8_encode text), readDocument, WithinLimits]
  cases read depth (unifyLineEnds text) with
  | ok value =>
    refine iff_of_true ?_ ⟨nofun, nofun⟩
    change Reported ((Snapshot.ofJson value).toExcept.mapError _)
    cases (Snapshot.ofJson value).toExcept with
    | ok snapshot => exact .inl ⟨snapshot, rfl⟩
    | error issues => exact .inr ⟨_, rfl⟩
  | error fault =>
    cases fault with
    | malformed what position => exact iff_of_true (.inr ⟨_, rfl⟩) ⟨nofun, nofun⟩
    | integerTooLong digits =>
      refine iff_of_false ?_ fun h => h.1 digits rfl
      rintro (⟨snapshot, h⟩ | ⟨error, h⟩) <;> cases h
    | tooDeep container =>
      refine iff_of_false ?_ fun h => h.2 container rfl
      rintro (⟨snapshot, h⟩ | ⟨error, h⟩) <;> cases h

/-- Reading what is found at a path is reported exactly when it is readable. -/
theorem reported_ofFile (path : String) (state : FileState) :
    Reported (ofFile depth path state) ↔ ReadableFile depth state := by
  cases state with
  | error fault =>
    cases fault with
    | refused refusal => exact iff_of_true (.inr ⟨_, rfl⟩) ⟨nofun, nofun⟩
    | nullInPath =>
      refine iff_of_false ?_ fun hreadable => hreadable.path rfl
      rintro (⟨snapshot, h⟩ | ⟨problem, h⟩) <;> cases h
  | ok bytes =>
    cases hdecode : decodeUtf8 bytes with
    | ok text =>
      obtain rfl := decodeUtf8_eq_ok_iff.mp hdecode
      rw [reported_ofFile_encode]
      constructor
      · intro hlimits
        refine ⟨nofun, ?_⟩
        rintro _ ⟨⟩
        exact ⟨text, rfl, hlimits⟩
      · intro hreadable
        obtain ⟨other, hother, hlimits⟩ := hreadable.text _ rfl
        rw [← decodeUtf8_eq_ok_iff, hdecode] at hother
        cases hother
        exact hlimits
    | error error =>
      rw [ofFile_of_undecodable depth path hdecode]
      refine iff_of_false ?_ fun hreadable => ?_
      · rintro (⟨snapshot, h⟩ | ⟨problem, h⟩) <;> cases h
      · obtain ⟨text, htext, -⟩ := hreadable.text bytes rfl
        rw [← decodeUtf8_eq_ok_iff, hdecode] at htext
        cases htext

/-- What is found at a path decides what loading gives. -/
theorem value_load (lookup : String → FileState) (path : String) :
    (load depth lookup path).value =
      ofFile depth (PathName.normalize path) (lookup (PathName.normalize path)) := by
  unfold load
  dsimp only
  split
  · rename_i snapshot heq
    rw [heq]
    rfl
  · rename_i failure heq
    rw [heq]
    rfl

end Reading

/-- Loading ends with a snapshot or a snapshot problem exactly when the system refuses to open the file or the file
holds a text within the limits of the reader, however deep that can follow containers, and every file with a short
text is such a file. Bytes that encode no text are not: the failure of the decoder is passed on as it is. Neither is
a path with a null character, at which a tree of files lets nothing be opened. -/
theorem load_reported (depth : Nat) (lookup : String → FileState) (path : String) :
    (Reported (load depth lookup path).value ↔ ReadableFile depth (lookup (PathName.normalize path))) ∧
      (∀ text, ShortText depth text →
        lookup (PathName.normalize path) = .ok (text.flatMap String.utf8EncodeChar) →
          Reported (load depth lookup path).value) ∧
      ∀ tree : FileTree, '\x00' ∈ path.toList → ¬Reported (load depth tree.lookup path).value := by
  rw [value_load]
  refine ⟨reported_ofFile depth _ _, fun text htext hfile => ?_, fun tree hnull => ?_⟩
  · rw [hfile, reported_ofFile_encode]
    exact htext.withinLimits
  · rw [value_load, reported_ofFile, tree.lookup_normalize]
    exact fun hreadable => hreadable.path (tree.lookup_eq_nullInPath_iff.mpr hnull)

/-- A quoted letter in Latin-1: its byte starts a sequence of three, and the quote after it does not go on with
it. -/
def latin1 : List UInt8 := [0x22, 0xE9, 0x22]

/-- Loading the quoted letter in Latin-1 gives neither a snapshot nor a snapshot problem, however deep the reader can
follow containers. -/
theorem load_latin1 : ¬∃ depth, Reported (load depth (fun _ => .ok latin1) "snapshot.json").value := by
  intro ⟨depth, hreported⟩
  have hload : (load depth (fun _ => .ok latin1) "snapshot.json").value =
      .error (.undecodable ⟨1, 0xE9, 1, .invalidContinuation⟩) := rfl
  rw [hload] at hreported
  rcases hreported with ⟨snapshot, h⟩ | ⟨error, h⟩ <;> cases h

/-- A missing file and a file with an empty object are reported, a file in Latin-1 and a path with a null character
are not. -/
theorem load_reported_files :
    Reported (load 1 (fun _ => .error (.refused .missing)) "gone.json").value ∧
      ShortText 1 "\x7b\x7d".toList ∧
      Reported (load 1 (fun _ => .ok [0x7B, 0x7D]) "empty.json").value ∧
      ¬Reported (load 1 (fun _ => .ok latin1) "snapshot.json").value ∧
      '\x00' ∈ "./a\x00b".toList ∧
      ¬Reported (load 1 (FileTree.directory []).lookup "./a\x00b").value := by
  have hshort : ShortText 1 "\x7b\x7d".toList := by
    refine ⟨?_, by decide⟩
    rintro ⟨digits, hinfix, -, hlong⟩
    exact absurd (Nat.le_trans hinfix.length_le (by decide)) (Nat.not_le.mpr hlong)
  have hundecodable : ¬ReadableFile 1 (.ok latin1) := by
    intro hreadable
    obtain ⟨text, htext, -⟩ := hreadable.text latin1 rfl
    have hdecode : decodeUtf8 latin1 = .error ⟨1, 0xE9, 1, .invalidContinuation⟩ := rfl
    rw [decodeUtf8_eq_ok_iff.mpr htext] at hdecode
    cases hdecode
  have hnull : '\x00' ∈ "./a\x00b".toList := by decide
  exact ⟨(load_reported 1 _ "gone.json").1.mpr ⟨nofun, nofun⟩, hshort,
    (load_reported 1 _ "empty.json").2.1 _ hshort rfl,
    fun hreported => hundecodable ((load_reported 1 _ "snapshot.json").1.mp hreported), hnull,
    (load_reported 1 (fun _ => .error .nullInPath) "./a\x00b").2.2 _ hnull⟩

end Snapshot

end ServiceTopology
