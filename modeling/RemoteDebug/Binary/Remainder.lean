import RemoteDebug.Binary.Format

/-!
The remainder of the truncating division of two doubles.

Both operands are integral multiples of one power of two. The remainder of those integers, with the
sign of the dividend, is again a double, so nothing is rounded.
-/

namespace RemoteDebug.Binary

/-- The double that is an integer below two to the 53 times a power of two. -/
private def scaled (negative : Bool) (mantissa : Nat) (exponent : Int) : Float :=
  let magnitude := mantissa.toUInt64.toFloat.scaleB exponent
  if negative then -magnitude else magnitude

/-- The remainder of dividing `dividend` by `divisor` with the quotient cut toward zero. A finite
dividend is its own remainder by an infinite divisor; an infinite dividend or a zero divisor has none. -/
def remainder (dividend divisor : Float) : Float :=
  match ofDouble dividend, ofDouble divisor with
  | .finite negative m e, .finite _ n d =>
    if n = 0 then 0 / 0
    else
      let exponent := min e d
      let left := m * Nat.pow 2 (e - exponent).toNat
      let right := n * Nat.pow 2 (d - exponent).toNat
      scaled negative (left % right) exponent
  | .finite .., .infinite _ => dividend
  | _, _ => 0 / 0

end RemoteDebug.Binary
