import RemoteDebug.Binary.Format

/-!
The shortest decimal that reads back as a given float.

Around every float lies the interval of reals that round to it; its ends belong to it exactly when
the mantissa is even. For one digit, two digits and so on the two neighbours of the float on that
decimal grid are tested; the first grid with a neighbour inside the interval wins. Of two hits the
nearer is taken and a tie goes to the upper one.
-/

namespace RemoteDebug.Binary

/-- A positive decimal number, `digits` times ten to the `exponent`. -/
structure Decimal where
  digits : Nat
  exponent : Int
deriving DecidableEq, Repr

/-- The same number without zeros at the end of its digits. -/
def Decimal.trim : Nat → Decimal → Decimal
  | 0, d => d
  | fuel + 1, d =>
    if d.digits ≠ 0 ∧ d.digits % 10 = 0 then trim fuel ⟨d.digits / 10, d.exponent + 1⟩ else d

/-- Position of the first digit: ten to the `leading` is the place of the first digit. -/
def Decimal.leading (d : Decimal) : Int := d.exponent + (Nat.repr d.digits).length - 1

/-- A float and the ends of its interval as fractions over one denominator. -/
structure Neighbourhood where
  low : Nat
  value : Nat
  high : Nat
  denominator : Nat
  /-- The ends round to the float too. -/
  closed : Bool
deriving DecidableEq, Repr

/-- The interval of reals that round to a finite positive float. The gap below a power of two is half
the gap above it, except at the foot of the range. -/
def Format.neighbourhood (f : Format) (mantissa : Nat) (exponent : Int) : Neighbourhood :=
  let below := if mantissa = Nat.pow 2 f.fractionBits ∧ f.minExponent < exponent then 1 else 2
  let scale := Nat.pow 2 (exponent - 2).toNat
  ⟨(4 * mantissa - below) * scale, 4 * mantissa * scale, (4 * mantissa + 2) * scale,
    Nat.pow 2 (2 - exponent).toNat, mantissa % 2 = 0⟩

/-- Number of digits before the decimal point; zero or less counts the zeros after it. -/
def Neighbourhood.integerDigits (n : Neighbourhood) : Int :=
  if n.denominator ≤ n.value then (Nat.repr (n.value / n.denominator)).length
  else
    let length := (Nat.repr (n.denominator / n.value)).length
    if n.value * Nat.pow 10 (length - 1) = n.denominator then 2 - length else 1 - length

/-- The hit of the grid of multiples of ten to the `exponent`, if it has one. -/
def Neighbourhood.onGrid? (n : Neighbourhood) (exponent : Int) : Option Decimal :=
  let up := Nat.pow 10 (-exponent).toNat
  let unit := Nat.pow 10 exponent.toNat * n.denominator
  let digits := n.value * up / unit
  let rest := n.value * up % unit
  let inside (d : Nat) : Bool :=
    if n.closed then n.low * up ≤ d * unit ∧ d * unit ≤ n.high * up
    else n.low * up < d * unit ∧ d * unit < n.high * up
  match inside digits, inside (digits + 1) with
  | true, true => some ⟨if 2 * rest < unit then digits else digits + 1, exponent⟩
  | true, false => some ⟨digits, exponent⟩
  | false, true => some ⟨digits + 1, exponent⟩
  | false, false => none

/-- Digits that always suffice to read a float of a format back. -/
def Format.digitsEnough (f : Format) : Nat := f.fractionBits * 3 / 10 + 3

/-- The shortest decimal that reads back as a finite positive float. -/
def Format.shortest (f : Format) (mantissa : Nat) (exponent : Int) : Decimal :=
  let n := f.neighbourhood mantissa exponent
  let places := n.integerDigits
  let hit := (List.range f.digitsEnough).findSome? fun (used : Nat) =>
    n.onGrid? (places - 1 - used)
  (hit.getD ⟨mantissa, exponent⟩).trim (f.digitsEnough + 1)

end RemoteDebug.Binary
