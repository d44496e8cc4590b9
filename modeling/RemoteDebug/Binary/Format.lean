/-!
Binary floating point formats, read as exact numbers.

`Format.decode` splits the bits of a float into a sign, an integral mantissa and a power of two, so
that questions about floats become questions about natural numbers.
-/

namespace RemoteDebug.Binary

/-- Widths of the stored fraction and of the exponent of a format. -/
structure Format where
  fractionBits : Nat
  exponentBits : Nat
deriving DecidableEq, Repr

namespace Format

def single : Format := ⟨23, 8⟩

def double : Format := ⟨52, 11⟩

/-- Exponent of the last place of the smallest numbers of a format. -/
def minExponent (f : Format) : Int := 2 - Nat.pow 2 (f.exponentBits - 1) - f.fractionBits

end Format

/-- A float as a number. A finite one is the mantissa times two to the exponent. -/
inductive Number where
  | nan
  | infinite (negative : Bool)
  | finite (negative : Bool) (mantissa : Nat) (exponent : Int)
deriving DecidableEq, Repr

/-- The number that the bits of a float stand for. -/
def Format.decode (f : Format) (bits : Nat) : Number :=
  let fraction := bits % Nat.pow 2 f.fractionBits
  let biased := bits / Nat.pow 2 f.fractionBits % Nat.pow 2 f.exponentBits
  let negative := bits / Nat.pow 2 (f.fractionBits + f.exponentBits) % 2 = 1
  if biased = Nat.pow 2 f.exponentBits - 1 then
    if fraction = 0 then .infinite negative else .nan
  else if biased = 0 then .finite negative fraction f.minExponent
  else .finite negative (Nat.pow 2 f.fractionBits + fraction) (f.minExponent + biased - 1)

/-- The number of a double. -/
def ofDouble (v : Float) : Number := Format.double.decode v.toBits.toNat

/-- The number of a single precision float. -/
def ofSingle (v : Float32) : Number := Format.single.decode v.toBits.toNat

end RemoteDebug.Binary
