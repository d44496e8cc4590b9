import RemoteDebug.Toml.Node
import RemoteDebug.Toml.Number
import RemoteDebug.Toml.Text

/-!
TOML documents: values, statements and the whole.

`parse?` reads a document into the entries of its top table. A document that breaks a rule of the
language has no entries: nothing is read in part.
-/

namespace RemoteDebug.Toml

/-- Split a key into the way to its table and its name there. -/
def splitKey (parts : List String) : Option (List String × String) :=
  parts.getLast?.map fun name => (parts.dropLast, name)

/-! ### Values -/

mutual

/-- A value at a depth of nesting. -/
def value : Nat → Nat → Scan Node
  | 0, _ => failure
  | fuel + 1, depth => do
    match ← Scan.peek with
    | some '"' | some '\'' => .text <$> string
    | some '[' =>
      if depthLimit ≤ depth + 1 then failure
      Scan.char '['
      .array <$> items fuel (depth + 1)
    | some '\x7b' =>
      if depthLimit ≤ depth + 1 then failure
      Scan.char '\x7b'
      blanks
      match ← Scan.peek with
      | some '\x7d' =>
        Scan.char '\x7d'
        return .inline []
      | _ => .inline <$> pairs fuel (depth + 1) []
    | some 't' =>
      Scan.word "true"
      return .flag true
    | some 'f' =>
      Scan.word "false"
      return .flag false
    | _ =>
      number
      return .scalar

/-- The items of an array, through its closing bracket. -/
def items : Nat → Nat → Scan (List Node)
  | 0, _ => failure
  | fuel + 1, depth => do
    Scan.bounded spacing
    match ← Scan.peek with
    | some ']' =>
      Scan.char ']'
      return []
    | _ =>
      let item ← value fuel depth
      Scan.bounded spacing
      match ← Scan.one fun c => c = ',' || c = ']' with
      | ',' => return item :: (← items fuel depth)
      | _ => return [item]

/-- The pairs of an inline table on top of those before, through its closing brace. -/
def pairs : Nat → Nat → Entries → Scan Entries
  | 0, _, _ => failure
  | fuel + 1, depth, entries => do
    let (path, name) ← splitKey (← key)
    Scan.char '='
    blanks
    let node ← value fuel depth
    blanks
    let entries ← Node.insert? name node path entries
    match ← Scan.one fun c => c = ',' || c = '\x7d' with
    | ',' => pairs fuel depth entries
    | _ => return entries

end

/-! ### Statements -/

/-- The document as far as it is read: its top table and the way to the table that keys belong to. -/
structure Progress where
  top : Entries := []
  here : List String := []

/-- A table header, after its first bracket. -/
def header (progress : Progress) : Scan Progress := do
  let element ← Scan.optional (Scan.char '[')
  let parts ← key
  Scan.word (if element.isSome then "]]" else "]")
  trailing
  let (path, name) ← splitKey parts
  let opened := if element.isSome then Node.openElement? path name else Node.openTable? path name
  return { top := ← opened progress.top, here := parts }

/-- A key and its value. -/
def assignment (progress : Progress) : Scan Progress := do
  let (path, name) ← splitKey (← key)
  Scan.char '='
  blanks
  let node ← Scan.bounded (value · 0)
  trailing
  return { progress with
    top := ← Node.change? (Node.insert? name node path) progress.here progress.top }

/-- All statements of a document. -/
def statements : Nat → Progress → Scan Progress
  | 0, _ => failure
  | fuel + 1, progress => do
    blanks
    match ← Scan.peek with
    | none => return progress
    | some '#' =>
      comment
      lineEnd
      statements fuel progress
    | some '\n' | some '\r' =>
      newline
      statements fuel progress
    | some '[' =>
      Scan.char '['
      statements fuel (← header progress)
    | some _ => statements fuel (← assignment progress)

/-- The entries of the top table of a document. A byte order mark at its start is no part of it. -/
def parse? (text : String) : Option Entries :=
  let characters :=
    match text.toList with
    | '\ufeff' :: rest => rest
    | characters => characters
  ((Scan.bounded (statements · {})).run characters).map fun (progress, _) => progress.top

end RemoteDebug.Toml
