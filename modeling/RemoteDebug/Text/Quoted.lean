import RemoteDebug.Text.Property

/-!
Quoted text: a text between double quotes in which every character can be seen.

Quotes, backslashes and the common control characters have short escapes. A character that extends
the grapheme before it, or that has no visible form, is given by its code point.
-/

namespace RemoteDebug.Text

/-- A code point in hexadecimal between braces. -/
def codePointEscape (c : Char) : String :=
  "\\u\x7b" ++ String.ofList (Nat.toDigits 16 c.toNat) ++ "\x7d"

/-- A character as it stands between the quotes. -/
def escape (c : Char) : String :=
  if c = '\x00' then "\\0"
  else if c = '\t' then "\\t"
  else if c = '\r' then "\\r"
  else if c = '\n' then "\\n"
  else if c = '"' then "\\\""
  else if c = '\\' then "\\\\"
  else if within extending c || within unprintable c then codePointEscape c
  else String.singleton c

/-- A text between double quotes. -/
def quote (text : String) : String :=
  "\"" ++ String.join (text.toList.map escape) ++ "\""

end RemoteDebug.Text
