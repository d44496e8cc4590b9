import RemoteDebug.Toml.Scan

/-!
Strings and keys of TOML.

Strings stand between quotation marks, with escapes, or between apostrophes, without. Three marks open a
string over several lines; up to two more marks of its kind may stand right before the three that close it.
-/

namespace RemoteDebug.Toml

/-- The digit that a hexadecimal character stands for. -/
def hexValue? (c : Char) : Option Nat :=
  if '0' ≤ c ∧ c ≤ '9' then some (c.toNat - '0'.toNat)
  else if 'a' ≤ c ∧ c ≤ 'f' then some (c.toNat - 'a'.toNat + 10)
  else if 'A' ≤ c ∧ c ≤ 'F' then some (c.toNat - 'A'.toNat + 10)
  else none

/-- A number of exactly so many hexadecimal digits. -/
def hexNumber : Nat → Nat → Scan Nat
  | 0, value => return value
  | count + 1, value => do
    let digit ← Scan.one fun c => (hexValue? c).isSome
    hexNumber count (value * 16 + (hexValue? digit).getD 0)

/-- The character of a code point given by so many digits; halves of surrogate pairs are none. -/
def codePoint (digits : Nat) : Scan Char := do
  let value ← hexNumber digits 0
  if value.isValidChar then return Char.ofNat value else failure

/-- The character that an escape stands for, after its backslash. -/
def escaped : Scan Char := do
  match ← Scan.one fun _ => true with
  | 'b' => return '\x08'
  | 't' => return '\t'
  | 'n' => return '\n'
  | 'f' => return '\x0c'
  | 'r' => return '\r'
  | '"' => return '"'
  | '\\' => return '\\'
  | 'u' => codePoint 4
  | 'U' => codePoint 8
  | _ => failure

/-- The rest of a quoted string on one line, through its closing mark. -/
def quotedRest : Nat → Scan (List Char)
  | 0 => failure
  | fuel + 1 => do
    match ← Scan.one isPlain with
    | '"' => return []
    | '\\' => return (← escaped) :: (← quotedRest fuel)
    | c => return c :: (← quotedRest fuel)

/-- The rest of a literal string on one line, through its closing mark. -/
def literalRest : Nat → Scan (List Char)
  | 0 => failure
  | fuel + 1 => do
    match ← Scan.one isPlain with
    | '\'' => return []
    | c => return c :: (← literalRest fuel)

/-- A run of marks inside a string over several lines: so many belong to the text, and whether the
string ends with them. -/
def marks (run : Nat) : Option (Nat × Bool) :=
  if run < 3 then some (run, false) else if run ≤ 5 then some (run - 3, true) else none

/-- Blanks and line ends after a backslash at the end of a line. -/
def lineJoint : Nat → Scan Unit
  | 0 => return
  | fuel + 1 => do
    blanks
    match ← Scan.optional newline with
    | some _ => lineJoint fuel
    | none => return

/-- The rest of a string over several lines, through its closing marks; `mark` tells its kind. -/
def blockRest (mark : Char) : Nat → Scan (List Char)
  | 0 => failure
  | fuel + 1 => do
    let run ← Scan.many (· = mark)
    if run.length ≠ 0 then
      match marks run.length with
      | some (kept, true) => return run.take kept
      | some (_, false) => return run ++ (← blockRest mark fuel)
      | none => failure
    else
      match ← Scan.optional newline with
      | some _ => return '\n' :: (← blockRest mark fuel)
      | none =>
        let c ← Scan.one isPlain
        if c = '\\' ∧ mark = '"' then
          let joint ← Scan.optional do
            blanks
            newline
            Scan.bounded lineJoint
          match joint with
          | some _ => blockRest mark fuel
          | none => return (← escaped) :: (← blockRest mark fuel)
        else return c :: (← blockRest mark fuel)

/-- A string over several lines; a line end right after its opening marks is no part of it. -/
def block (mark : Char) : Scan String := do
  Scan.word (String.ofList [mark, mark, mark])
  let _ ← Scan.optional newline
  String.ofList <$> Scan.bounded (blockRest mark)

/-- A string on one line. -/
def line : Scan String := do
  match ← Scan.one fun c => c = '"' || c = '\'' with
  | '"' => String.ofList <$> Scan.bounded quotedRest
  | _ => String.ofList <$> Scan.bounded literalRest

/-- A string of any form. -/
def string : Scan String := do
  match ← get with
  | '"' :: '"' :: '"' :: _ => block '"'
  | '\'' :: '\'' :: '\'' :: _ => block '\''
  | _ => line

/-- Characters of a key that needs no marks. -/
def isBare (c : Char) : Bool := c.isAlphanum || c = '_' || c = '-'

/-- One part of a key. -/
def keyPart : Scan String := do
  match ← Scan.peek with
  | some '"' | some '\'' => line
  | _ =>
    match ← Scan.many isBare with
    | [] => failure
    | name => return String.ofList name

/-- The deepest nesting of keys and values that is accepted. -/
def depthLimit : Nat := 80

/-- The further parts of a dotted key. -/
def keyParts : Nat → Scan (List String)
  | 0 => return []
  | fuel + 1 => do
    blanks
    let name ← keyPart
    blanks
    match ← Scan.peek with
    | some '.' =>
      Scan.char '.'
      return name :: (← keyParts fuel)
    | _ => return [name]

/-- A key: its parts, of which the last names a place in the table that the others lead to. -/
def key : Scan (List String) := do
  let parts ← Scan.bounded keyParts
  if parts.length < depthLimit then return parts else failure

end RemoteDebug.Toml
