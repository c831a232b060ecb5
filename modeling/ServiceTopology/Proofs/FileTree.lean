import ServiceTopology.FileTree

/-!
# Paths in their shortest spelling

The shortest spelling of a path starts at the same root and has the same names as the path itself, so the same
is found at both in any tree of files.

Outside a tree less is needed: a path that leads to a directory still does so in its shortest spelling.
-/

namespace ServiceTopology

namespace PathName

/-! ## Names -/

/-- No part of a text that was split contains the separator. -/
theorem not_mem_of_mem_splitOn {part text : List Char} (h : part ∈ text.splitOn '/') : '/' ∉ part := by
  rw [List.splitOn_eq_splitOnP] at h
  induction text generalizing part with
  | nil =>
    rw [List.mem_singleton.mp h]
    exact List.not_mem_nil
  | cons c rest ih =>
    rw [List.splitOnP_cons_eq_if_modifyHead] at h
    split at h
    · obtain rfl | hrest := List.mem_cons.mp h
      · exact List.not_mem_nil
      · exact ih hrest
    · rename_i hc
      cases hparts : rest.splitOnP (· == '/') with
      | nil =>
        rw [hparts] at h
        cases h
      | cons first others =>
        rw [hparts] at h ih
        obtain rfl | hother := List.mem_cons.mp h
        · rw [List.mem_cons, not_or]
          exact ⟨fun heq => hc (beq_iff_eq.mpr heq.symm), ih List.mem_cons_self⟩
        · exact ih (List.mem_cons_of_mem first hother)

/-- A name is neither empty nor the one for the same directory, and has no separator in it. -/
theorem of_mem_names {path name : String} (h : name ∈ names path) :
    name ≠ "" ∧ name ≠ "." ∧ '/' ∉ name.toList := by
  obtain ⟨hname, hkept⟩ := List.mem_filter.mp h
  obtain ⟨part, hpart, rfl⟩ := List.mem_map.mp hname
  rw [Bool.and_eq_true, bne_iff_ne, bne_iff_ne] at hkept
  exact ⟨hkept.1, hkept.2, by simpa using not_mem_of_mem_splitOn hpart⟩

/-- A character other than the separator is in a text exactly when it is in a part of the text. -/
theorem exists_mem_splitOn_iff {c : Char} (hc : c ≠ '/') (text : List Char) :
    (∃ part ∈ text.splitOn '/', c ∈ part) ↔ c ∈ text := by
  have hjoined (parts : List (List Char)) :
      c ∈ List.intercalate ['/'] parts ↔ ∃ part ∈ parts, c ∈ part := by
    induction parts with
    | nil => simp
    | cons first rest ih =>
      cases rest with
      | nil => simp
      | cons second rest => simp [List.intercalate_cons_cons, hc, ih]
  rw [← hjoined, List.intercalate_splitOn]

/-- A character that is neither the separator nor a dot is in a path exactly when it is in a name of the path. -/
theorem mem_names_iff {c : Char} (hslash : c ≠ '/') (hdot : c ≠ '.') {path : String} :
    (∃ name ∈ names path, c ∈ name.toList) ↔ c ∈ path.toList := by
  rw [← exists_mem_splitOn_iff hslash path.toList]
  constructor
  · intro ⟨name, hname, hc⟩
    obtain ⟨part, hpart, rfl⟩ := List.mem_map.mp (List.mem_filter.mp hname).1
    exact ⟨part, hpart, by simpa using hc⟩
  · intro ⟨part, hpart, hc⟩
    refine ⟨String.ofList part, List.mem_filter.mpr ⟨List.mem_map_of_mem hpart, ?_⟩, by simpa using hc⟩
    -- The names that are dropped hold dots only.
    rw [Bool.and_eq_true, bne_iff_ne, bne_iff_ne]
    constructor
    · intro hempty
      obtain rfl : part = [] := by simpa using congrArg String.toList hempty
      exact absurd hc List.not_mem_nil
    · intro hsame
      obtain rfl : part = ['.'] := by simpa using congrArg String.toList hsame
      exact hdot (List.mem_singleton.mp hc)

/-- Names that are joined by separators are found again. -/
theorem names_intercalate {parts : List String}
    (h : ∀ name ∈ parts, name ≠ "" ∧ name ≠ "." ∧ '/' ∉ name.toList) :
    names ("/".intercalate parts) = parts := by
  by_cases hparts : parts = []
  · rw [hparts]
    decide
  · have hsplit : ("/".intercalate parts).toList.splitOn '/' = parts.map String.toList := by
      rw [String.toList_intercalate]
      refine List.splitOn_intercalate '/' ?_ (by simpa using hparts)
      exact List.forall_mem_map.mpr fun name hname => (h name hname).2.2
    have hback : (parts.map String.toList).map String.ofList = parts := by simp
    rw [names, hsplit, hback, List.filter_eq_self]
    intro name hname
    rw [Bool.and_eq_true, bne_iff_ne, bne_iff_ne]
    exact ⟨(h name hname).1, (h name hname).2.1⟩

/-- A slash in front of a path adds no name. -/
theorem names_slash_append (path : String) : names ("/" ++ path) = names path := by
  have hsplit : ("/" ++ path).toList.splitOn '/' = [] :: path.toList.splitOn '/' := by
    simp [List.splitOn_eq_splitOnP, List.splitOnP_cons_eq_if_modifyHead]
  rw [names, hsplit]
  rfl

/-- A path starts at no slash, at one or at two. -/
theorem root_cases (path : String) : root path = "" ∨ root path = "/" ∨ root path = "//" := by
  unfold root
  split
  · exact .inl rfl
  · exact .inr (.inr rfl)
  · exact .inr (.inl rfl)

/-- The root of a path adds no name. -/
theorem names_root_append (path rest : String) : names (root path ++ rest) = names rest := by
  obtain hroot | hroot | hroot := root_cases path
  · rw [hroot, String.empty_append]
  · rw [hroot, names_slash_append]
  · rw [hroot, show "//" = "/" ++ "/" from rfl, String.append_assoc, names_slash_append,
      names_slash_append]

/-- The shortest spelling of a path has the same names. -/
theorem names_normalize (path : String) : names (normalize path) = names path := by
  have hshown : names (root path ++ "/".intercalate (names path)) = names path := by
    rw [names_root_append, names_intercalate fun _ => of_mem_names]
  by_cases hempty : root path ++ "/".intercalate (names path) = ""
  · rw [normalize, if_pos hempty, ← hshown, hempty]
    decide
  · rw [normalize, if_neg hempty, hshown]

/-! ## Roots -/

/-- A path starts at no root exactly when its first character is no slash. -/
theorem root_eq_empty_iff (path : String) : root path = "" ↔ path.toList.head? ≠ some '/' := by
  unfold root
  cases path.toList with
  | nil => simp
  | cons c rest =>
    by_cases hc : c = '/'
    · rw [hc, List.takeWhile_cons_of_pos (by decide)]
      split <;> simp_all
    · rw [List.takeWhile_cons_of_neg (by simpa using hc)]
      simpa using hc

/-- Names that are joined by separators start with no slash. -/
theorem head?_intercalate_ne {parts : List String} (h : ∀ name ∈ parts, name ≠ "" ∧ '/' ∉ name.toList) :
    ("/".intercalate parts).toList.head? ≠ some '/' := by
  rw [String.toList_intercalate]
  cases parts with
  | nil => simp
  | cons first others =>
    obtain ⟨hfirst, hslash⟩ := h first List.mem_cons_self
    cases hchars : first.toList with
    | nil => exact absurd (String.toList_eq_nil_iff.mp hchars) hfirst
    | cons c rest =>
      rw [hchars, List.mem_cons, not_or] at hslash
      have hc : c ≠ '/' := fun heq => hslash.1 heq.symm
      cases others <;> simp [hchars, hc]

/-- The shortest spelling of a path starts at no root exactly when the path does not. -/
theorem root_normalize_eq_empty (path : String) : root (normalize path) = "" ↔ root path = "" := by
  rw [root_eq_empty_iff (normalize path)]
  obtain hroot | hroot | hroot := root_cases path
  · have hhead : ("/".intercalate (names path)).toList.head? ≠ some '/' :=
      head?_intercalate_ne fun name hname => ⟨(of_mem_names hname).1, (of_mem_names hname).2.2⟩
    by_cases hempty : "/".intercalate (names path) = ""
    · simp [normalize, hroot, hempty]
    · simpa [normalize, hroot, hempty] using hhead
  · simp [normalize, hroot]
  · simp [normalize, hroot]

end PathName

/-! ## Lookups -/

/-- The same is found at a path and at its shortest spelling. -/
theorem FileTree.lookup_normalize (tree : FileTree) (path : String) :
    tree.lookup (PathName.normalize path) = tree.lookup path := by
  simp only [lookup, PathName.names_normalize, PathName.root_normalize_eq_empty]

/-- Nothing is looked for at a path exactly when it has a null character in it. -/
theorem FileTree.lookup_eq_nullInPath_iff (tree : FileTree) {path : String} :
    tree.lookup path = .error .nullInPath ↔ '\x00' ∈ path.toList := by
  have hnames : (PathName.names path).any (·.toList.contains '\x00') = true ↔ '\x00' ∈ path.toList := by
    rw [← PathName.mem_names_iff (show '\x00' ≠ '/' by decide) (by decide)]
    simp
  unfold lookup
  dsimp only
  split
  case isTrue hnull => exact iff_of_true rfl (hnames.mp hnull)
  case isFalse hnull =>
    refine iff_of_false ?_ fun hmem => hnull (hnames.mpr hmem)
    generalize follow [] _ _ = found
    cases found <;> nofun

/-- A directory is also found at the shortest spelling of its path. -/
def KeepsDirectories (lookup : String → FileState) : Prop :=
  ∀ path, (lookup path).isDirectory = true → (lookup (PathName.normalize path)).isDirectory = true

/-- Trees keep directories. -/
theorem FileTree.keepsDirectories (tree : FileTree) : KeepsDirectories tree.lookup := by
  intro path h
  rwa [tree.lookup_normalize]

end ServiceTopology
