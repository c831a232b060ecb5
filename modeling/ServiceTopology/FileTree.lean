import ServiceTopology.Text.Quoted

/-!
# Files by path

What is found at a path: the bytes of a file, or the reason why no file can be opened there. Paths are
sequences of names separated by slashes; they are shown without empty names and names that stand for the
same directory.

`FileTree` holds files in memory, so that everything that reads files can run without a disk. Links and
permissions are not modelled, and nothing is known of directories above the tree.
-/

namespace ServiceTopology

/-- Reasons why the system opens no file. -/
inductive OpenRefusal where
  | missing
  | isDirectory
  | notDirectory
  | nameTooLong
  deriving DecidableEq

/-- Number and wording of a refusal. -/
def OpenRefusal.label : OpenRefusal → String
  | missing => "[Errno 2] No such file or directory"
  | isDirectory => "[Errno 21] Is a directory"
  | notDirectory => "[Errno 20] Not a directory"
  | nameTooLong => "[Errno 36] File name too long"

/-- What prevents a file from being opened: the system refuses to, or it is not asked since a path with a null
character in it cannot be passed on. -/
inductive OpenFault where
  | refused (refusal : OpenRefusal)
  | nullInPath
  deriving DecidableEq

/-- What is found at a path. -/
abbrev FileState := Except OpenFault (List UInt8)

/-- Test whether a directory is found. -/
def FileState.isDirectory : FileState → Bool
  | .error fault => fault = .refused .isDirectory
  | .ok _ => false

namespace PathName

/-- Names of a path, without empty ones and those for the same directory. -/
def names (path : String) : List String :=
  ((path.toList.splitOn '/').map String.ofList).filter fun name => name != "" && name != "."

/-- Leading slashes of a path, as they are shown. -/
def root (path : String) : String :=
  match path.toList.takeWhile (· == '/') with
  | [] => ""
  | [_, _] => "//"
  | _ => "/"

/-- Show a path in its shortest spelling. -/
def normalize (path : String) : String :=
  let shown := root path ++ "/".intercalate (names path)
  if shown = "" then "." else shown

end PathName

/-- A file, or a directory with named entries. -/
inductive FileTree where
  | file (bytes : List UInt8)
  | directory (entries : List (String × FileTree))

namespace FileTree

/-- Longest name of an entry, in bytes. -/
def nameLimit : Nat := 255

/-- Follow names from a tree; `parents` are the directories above it, the nearest first. -/
def follow (parents : List FileTree) (tree : FileTree) : List String → Except OpenRefusal (List UInt8)
  | [] =>
    match tree with
    | file bytes => .ok bytes
    | directory _ => .error .isDirectory
  | name :: rest =>
    match tree with
    | file _ => .error .notDirectory
    | directory entries =>
      if name = ".." then
        match parents with
        | [] => follow [] (directory []) rest
        | parent :: others => follow others parent rest
      else if nameLimit < name.utf8ByteSize then .error .nameTooLong
      else
        match entries.lookup name with
        | some child => follow (tree :: parents) child rest
        | none => .error .missing

/-- Look up a path relative to a tree. -/
def lookup (tree : FileTree) (path : String) : FileState :=
  let names := PathName.names path
  if names.any (·.toList.contains '\x00') then .error .nullInPath
  else (follow [] (if PathName.root path = "" then tree else directory []) names).mapError .refused

/-- Make a directory, and the ones it lies in; files stay as they are. -/
def addDirectory : List String → FileTree → FileTree
  | [], tree => tree
  | _ :: _, file bytes => file bytes
  | name :: rest, directory entries =>
    match entries.lookup name with
    | some child =>
      directory (entries.map fun entry =>
        if entry.1 = name then (name, addDirectory rest child) else entry)
    | none => directory (entries ++ [(name, addDirectory rest (directory []))])

end FileTree

end ServiceTopology
