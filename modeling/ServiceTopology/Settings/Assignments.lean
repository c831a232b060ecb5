import ServiceTopology.Text.Blank
import ServiceTopology.Text.Utf8

/-!
# Files of assignments

A file of assignments gives values to names. An assignment is a name, an equals sign and a value, which
takes the rest of the line or stands between quotes; a quoted value may span lines. A name alone is noted
without a value. Comments end lines, and what is no assignment is skipped up to the end of its line.

A value may refer to names that were assigned before it and to variables of the environment. References
are resolved once: what they stand for is not looked at again.
-/

namespace ServiceTopology.Settings

open ServiceTopology.Text

/-- A variable of the environment and its value. -/
abbrev Variable := String × String

/-- A name with the value assigned to it, if any. -/
structure Assignment where
  name : String
  value : Option String
  deriving DecidableEq

/-! ## Lines -/

/-- Drop blank space within a line. -/
def skipInline (text : List Char) : List Char := text.dropWhile fun c => isSpacing c && c != '\n'

/-- Drop the rest of a line and its end. -/
def skipLine (text : List Char) : List Char := (text.dropWhile (· != '\n')).drop 1

/-- Text after a line of which nothing but a comment is left, or the place where something else is. -/
def finishLine (text : List Char) : Except (List Char) (List Char) :=
  match skipInline text with
  | [] => .ok []
  | c :: rest =>
    if c = '\n' then .ok rest else if c = '#' then .ok (skipLine rest) else .error text

/-! ## Values -/

/-- Drop a comment that follows blank space; blank space in front of it stays. -/
def dropComment : (afterBlank : Bool) → List Char → List Char
  | _, [] => []
  | afterBlank, c :: rest =>
    if c = '#' && afterBlank then [] else c :: dropComment (isSpacing c) rest

/-- Value on the rest of a line. -/
def plainValue (line : List Char) : String :=
  String.ofList ((dropComment false line).reverse.dropWhile isSpacing).reverse

/-- Escape letters of values between double quotes. -/
def doubleQuotedLetter? (c : Char) : Option Char :=
  if c = '\x5c' || c = '\x27' || c = '\x22' then some c
  else if c = 'a' then some '\x07'
  else if c = 'b' then some '\x08'
  else if c = 'f' then some '\x0c'
  else if c = 'n' then some '\n'
  else if c = 'r' then some '\r'
  else if c = 't' then some '\t'
  else if c = 'v' then some '\x0b'
  else none

/-- Escape letters of values between single quotes. -/
def singleQuotedLetter? (c : Char) : Option Char :=
  if c = '\x5c' || c = '\x27' then some c else none

/-- Resolve the escapes of a quoted value. A backslash before any other character stays. -/
def unescape (letter? : Char → Option Char) : List Char → List Char
  | [] => []
  | [c] => [c]
  | c :: d :: rest =>
    match if c = '\x5c' then letter? d else none with
    | some escaped => escaped :: unescape letter? rest
    | none => c :: unescape letter? (d :: rest)

/-- Split a text at the closing quote. A quote after a backslash closes only when no other one does. -/
def splitQuoted? (quote : Char) : List Char → Option (List Char × List Char)
  | [] => none
  | [c] => if c = quote then some ([], []) else none
  | c :: d :: rest =>
    if c = quote then some ([], d :: rest)
    else if c = '\x5c' && d = quote then
      match splitQuoted? quote rest with
      | some (value, after) => some (c :: d :: value, after)
      | none => some ([c], rest)
    else (splitQuoted? quote (d :: rest)).map fun (value, after) => (c :: value, after)

/-- Read a value and give the text after it, or the place where no value can be read. -/
def readValue (text : List Char) : Except (List Char) (String × List Char) :=
  let quoted (quote : Char) (letter? : Char → Option Char) (rest : List Char) :=
    match splitQuoted? quote rest with
    | some (value, after) => .ok (String.ofList (unescape letter? value), after)
    | none => .error text
  match text with
  | '\x27' :: rest => quoted '\x27' singleQuotedLetter? rest
  | '\x22' :: rest => quoted '\x22' doubleQuotedLetter? rest
  | _ =>
    let line := text.takeWhile (· != '\n')
    .ok (plainValue line, text.drop line.length)

/-! ## Assignments -/

/-- Drop the word that marks a variable for export. -/
def dropExport (text : List Char) : List Char :=
  let word := "export".toList
  let rest := text.drop word.length
  if word.isPrefixOf text && skipInline rest != rest then skipInline rest else text

/-- Read a name, which may stand between single quotes; a comment has none. -/
def readName (text : List Char) : Except (List Char) (Option String × List Char) :=
  match text with
  | '#' :: _ => .ok (none, text)
  | '\x27' :: rest =>
    let name := rest.takeWhile (· != '\x27')
    match rest.drop name.length with
    | _ :: after => if name.isEmpty then .error text else .ok (some (String.ofList name), after)
    | [] => .error text
  | _ =>
    let name := text.takeWhile fun c => c != '=' && c != '#' && !isSpacing c
    if name.isEmpty then .error text
    else .ok (some (String.ofList name), text.drop name.length)

/-- Read an assignment or a comment with the line end, or give the place where it breaks off. -/
def readAssignment (text : List Char) : Except (List Char) (Option Assignment × List Char) := do
  let (name, afterName) ← readName (dropExport text)
  let next := skipInline afterName
  let (value, afterValue) ←
    match next with
    | '=' :: rest => do
      let (value, after) ← readValue (skipInline rest)
      pure (some value, after)
    | _ => pure (none, next)
  let rest ← finishLine afterValue
  return (name.map fun name => ⟨name, value⟩, rest)

/-- Read the assignments of a text, one after the other. -/
def assignmentsIn (text : List Char) : List Assignment :=
  match text.dropWhile isSpacing with
  | [] => []
  | start =>
    let (found, rest) :=
      match readAssignment start with
      | .ok result => result
      | .error place => (none, skipLine place)
    if rest.length < text.length then found.toList ++ assignmentsIn rest else found.toList
termination_by text.length

/-! ## References -/

/-- Read a reference at the start of a text: the name, the default for an unknown name, and its length. -/
def reference? : List Char → Option (String × String × Nat)
  | '$' :: '\x7b' :: rest =>
    let name := rest.takeWhile fun c => c != ':' && c != '\x7d'
    match rest.drop name.length with
    | '\x7d' :: _ => some (String.ofList name, "", name.length + 3)
    | ':' :: '-' :: more =>
      let default := more.takeWhile (· != '\x7d')
      if default.length < more.length then
        some (String.ofList name, String.ofList default, name.length + default.length + 5)
      else none
    | _ => none
  | _ => none

/-- Drop the next `skip` characters, then resolve the references of a text. -/
def resolveFrom (value? : String → Option String) : (skip : Nat) → List Char → List Char
  | _, [] => []
  | skip + 1, _ :: rest => resolveFrom value? skip rest
  | 0, c :: rest =>
    match reference? (c :: rest) with
    | some (name, default, length) =>
      ((value? name).getD default).toList ++ resolveFrom value? (length - 1) rest
    | none => c :: resolveFrom value? 0 rest

/-- What a name stands for: its last assignment, or else the variable of the environment. A name that was
noted without a value stands for the empty text. -/
def valueOf? (environment : List Variable) (assigned : List Assignment) (name : String) :
    Option String :=
  match assigned.find? (·.name == name) with
  | some assignment => some (assignment.value.getD "")
  | none => environment.lookup name

/-- Resolve the references of assignments; `assigned` holds the resolved ones before them, the last one
first. -/
def resolveAll (environment : List Variable) : (assigned : List Assignment) → List Assignment →
    List Assignment
  | _, [] => []
  | assigned, assignment :: rest =>
    let value := assignment.value.map fun text =>
      String.ofList (resolveFrom (valueOf? environment assigned) 0 text.toList)
    let resolved := { assignment with value }
    resolved :: resolveAll environment (resolved :: assigned) rest

/-- Read the assignments of a file, with their references resolved. -/
def assignments (environment : List Variable) (file : List Char) : List Assignment :=
  resolveAll environment [] (assignmentsIn (unifyLineEnds file))

end ServiceTopology.Settings
