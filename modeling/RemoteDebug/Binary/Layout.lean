import RemoteDebug.Binary.Shortest

/-!
Written forms of floats.

A `Layout` records the decisions of a written form. `Layout.write` applies them to the shortest
digits of a float: positional where the layout says so, always with a digit after the point, and
otherwise with one digit before the point and an exponent.
-/

namespace RemoteDebug.Binary

/-- The decisions of a written form. -/
structure Layout where
  /-- Numbers whose first digit stands at ten to the `lowest` or above are positional, -/
  lowest : Int
  /-- as long as it stands below ten to the `highest`. -/
  highest : Int
  /-- The letter between the digits and the exponent. -/
  mark : Char
  /-- Whether a single digit before an exponent gets a zero after the point. -/
  fraction : Bool
  infinity : String
deriving Repr

/-- The digits of a decimal in positional form. -/
def Decimal.positional (d : Decimal) : String :=
  let digits := Nat.repr d.digits
  let zeros (n : Int) : String := String.ofList (List.replicate n.toNat '0')
  if 0 ≤ d.exponent then digits ++ zeros d.exponent ++ ".0"
  else
    let padded := zeros (-d.exponent + 1 - digits.length) ++ digits
    let point := padded.length - (-d.exponent).toNat
    String.ofList (padded.toList.take point) ++ "." ++ String.ofList (padded.toList.drop point)

/-- The digits of a decimal with one digit before the point and an exponent. -/
def Layout.scientific (layout : Layout) (d : Decimal) : String :=
  let mantissa :=
    match (Nat.repr d.digits).toList with
    | [] => ""
    | [digit] => String.ofList [digit] ++ (if layout.fraction then ".0" else "")
    | digit :: rest => String.ofList (digit :: '.' :: rest)
  mantissa ++ String.ofList [layout.mark] ++ Int.repr d.leading

/-- The written form of a float. -/
def Layout.write (layout : Layout) (f : Format) : Number → String
  | .nan => "NaN"
  | .infinite negative => (if negative then "-" else "") ++ layout.infinity
  | .finite negative mantissa exponent =>
    let unsigned :=
      if mantissa = 0 then "0.0"
      else
        let d := f.shortest mantissa exponent
        if layout.lowest ≤ d.leading ∧ d.leading < layout.highest then d.positional
        else layout.scientific d
    (if negative then "-" else "") ++ unsigned

end RemoteDebug.Binary
