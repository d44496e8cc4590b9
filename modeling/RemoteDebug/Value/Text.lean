import RemoteDebug.Binary.Layout
import RemoteDebug.Value

/-!
Texts of values: the text that the language of the target joins to strings, and the form in which a
value is shown to a user.
-/

namespace RemoteDebug.Value

/-- The language of the target writes a float positionally from a thousandth up to ten million. -/
def floatLayout : Binary.Layout := ⟨-3, 7, 'E', true, "Infinity"⟩

/-- The character of a code unit; half of a surrogate pair alone is shown as the replacement. -/
def charText (unit : UInt16) : String :=
  String.singleton (if unit.toNat.isValidChar then Char.ofNat unit.toNat else '\ufffd')

/-- The text of a primitive value as the language of the target writes it. -/
def primitiveText? : Value → Option String
  | .boolean b => some (if b then "true" else "false")
  | .byte v => some (Int.repr v.toInt)
  | .short v => some (Int.repr v.toInt)
  | .char unit => some (charText unit)
  | .int v => some (Int.repr v.toInt)
  | .long v => some (Int.repr v.toInt)
  | .float v => some (floatLayout.write .single (Binary.ofSingle v))
  | .double v => some (floatLayout.write .double (Binary.ofDouble v))
  | _ => none

/-- The form in which a value is shown. -/
def text (value : Value) : String :=
  match value with
  | .string handle => "string(" ++ handle.text ++ ")"
  | .object handle => "object(" ++ handle.text ++ ")"
  | .null => "null"
  | .void => "void"
  | primitive => primitive.primitiveText?.getD ""

end RemoteDebug.Value
