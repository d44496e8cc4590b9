/-!
Scanning the characters of a TOML document.

A `Scan` takes characters off the front of the text and yields what they mean, or refuses. Alternatives
start again where the refused one started. Repetitions are bounded by the number of characters that are
left, since every round takes at least one.
-/

namespace RemoteDebug.Toml

/-- Take something off the front of a text. -/
abbrev Scan (α : Type) : Type := StateT (List Char) Option α

namespace Scan

/-- The next character, left where it is. -/
def peek : Scan (Option Char) := do return (← get).head?

/-- Take a character that satisfies a condition. -/
def one (p : Char → Bool) : Scan Char := do
  match ← get with
  | c :: rest =>
    if p c then
      set rest
      return c
    else failure
  | [] => failure

/-- Take the given character. -/
def char (c : Char) : Scan Unit := do let _ ← one (· = c)

/-- Take the given characters. -/
def word (text : String) : Scan Unit := text.toList.forM char

/-- Take characters as long as they satisfy a condition. -/
def many (p : Char → Bool) : Scan (List Char) := do
  let text ← get
  set (text.dropWhile p)
  return text.takeWhile p

/-- Take something if it is there. -/
def optional {α : Type} (scan : Scan α) : Scan (Option α) := (some <$> scan) <|> return none

/-- Scan with a bound on repetitions that always suffices. -/
def bounded {α : Type} (scan : Nat → Scan α) : Scan α := do scan ((← get).length + 1)

/-- The end of the text. -/
def finish : Scan Unit := do
  match ← get with
  | [] => return
  | _ => failure

end Scan

/-! ### Blanks -/

def isBlank (c : Char) : Bool := c = ' ' || c = '\t'

/-- Characters that may stand in comments: the tab and everything but control characters. -/
def isPlain (c : Char) : Bool := c = '\t' || (0x20 ≤ c.toNat && c.toNat ≠ 0x7f)

def blanks : Scan Unit := do let _ ← Scan.many isBlank

/-- A line ends with a line feed, before which a carriage return may stand. -/
def newline : Scan Unit := Scan.char '\n' <|> Scan.word "\r\n"

def comment : Scan Unit := do
  Scan.char '#'
  let _ ← Scan.many isPlain

/-- The end of a line, or of the text. -/
def lineEnd : Scan Unit := newline <|> Scan.finish

/-- What may follow a statement on its line. -/
def trailing : Scan Unit := do
  blanks
  let _ ← Scan.optional comment
  lineEnd

/-- Blanks, comments and line ends, as far as they go. -/
def spacing : Nat → Scan Unit
  | 0 => return
  | fuel + 1 => do
    blanks
    match ← Scan.peek with
    | some '#' =>
      comment
      newline
      spacing fuel
    | some '\n' | some '\r' =>
      newline
      spacing fuel
    | _ => return

end RemoteDebug.Toml
