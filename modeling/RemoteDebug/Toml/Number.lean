import RemoteDebug.Toml.Scan

/-!
Numbers, dates and times of TOML. Only their form and their range are checked; no setting holds one.
-/

namespace RemoteDebug.Toml

/-- Groups of digits with single underscores between them. -/
def digitGroups (p : Char → Bool) : Nat → Scan (List Char)
  | 0 => failure
  | fuel + 1 => do
    let first ← Scan.one p
    let group := first :: (← Scan.many p)
    match ← Scan.peek with
    | some '_' =>
      Scan.char '_'
      return group ++ (← digitGroups p fuel)
    | _ => return group

/-- The number of some digits in a base. -/
def numberOf (base : Nat) (digits : List Char) : Nat :=
  digits.foldl
    (fun n c =>
      let digit := if c.isDigit then c.toNat - '0'.toNat else c.toLower.toNat - 'a'.toNat + 10
      n * base + digit) 0

def sign : Scan Bool := do
  match ← Scan.optional (Scan.one fun c => c = '+' || c = '-') with
  | some '-' => return true
  | _ => return false

/-- Decimal digits without a zero at the front, unless the number is zero. -/
def decimalDigits : Scan (List Char) := do
  match ← Scan.peek with
  | some '0' =>
    Scan.char '0'
    return ['0']
  | _ => Scan.bounded (digitGroups Char.isDigit)

def isHexDigit (c : Char) : Bool :=
  c.isDigit || ('a' ≤ c && c ≤ 'f') || ('A' ≤ c && c ≤ 'F')

/-- The digits of a number in another base, after its mark. -/
def basedDigits (mark : String) (p : Char → Bool) (base : Nat) : Scan Nat := do
  Scan.word mark
  numberOf base <$> Scan.bounded (digitGroups p)

/-- An integer that fits into 64 bits. -/
def integer : Scan Unit := do
  let based ← Scan.optional
    (basedDigits "0x" isHexDigit 16 <|>
      basedDigits "0o" (fun c => '0' ≤ c && c ≤ '7') 8 <|>
      basedDigits "0b" (fun c => c = '0' || c = '1') 2)
  match based with
  | some n => if n < Nat.pow 2 63 then return else failure
  | none =>
    let negative ← sign
    let n := numberOf 10 (← decimalDigits)
    if n < Nat.pow 2 63 ∨ (negative ∧ n = Nat.pow 2 63) then return else failure

/-- Whether a decimal is nearer to the end of the range of doubles than to its largest number. -/
def overflows (digits : List Char) (exponent : Int) : Bool :=
  let n := numberOf 10 digits
  let size := (Nat.repr n).length + exponent
  if n = 0 ∨ size ≤ 300 then false
  else if 310 < size then true
  else
    let limit := Nat.pow 2 1024 - Nat.pow 2 970
    decide (limit * Nat.pow 10 (-exponent).toNat ≤ n * Nat.pow 10 exponent.toNat)

/-- The exponent of a float. -/
def exponent : Scan Int := do
  let _ ← Scan.one fun c => c = 'e' || c = 'E'
  let negative ← sign
  let n := numberOf 10 (← Scan.bounded (digitGroups Char.isDigit))
  return if negative then -n else n

/-- A float: a fraction, an exponent or both after the integral part, or a special name. -/
def float : Scan Unit := do
  let negative ← sign
  match ← Scan.peek with
  | some 'i' => Scan.word "inf"
  | some 'n' => Scan.word "nan"
  | _ =>
    let whole ← decimalDigits
    let fraction ← Scan.optional do
      Scan.char '.'
      Scan.bounded (digitGroups Char.isDigit)
    let power ← Scan.optional exponent
    if fraction.isNone ∧ power.isNone then failure
    let digits := whole ++ fraction.getD []
    if !negative ∧ overflows digits (power.getD 0 - (fraction.getD []).length) then failure

/-! ### Dates and times -/

/-- A number of exactly so many decimal digits. -/
def fixed : Nat → Nat → Scan Nat
  | 0, value => return value
  | count + 1, value => do
    let digit ← Scan.one Char.isDigit
    fixed count (value * 10 + (digit.toNat - '0'.toNat))

/-- A number of two digits within bounds. -/
def pair (low high : Nat) : Scan Unit := do
  let n ← fixed 2 0
  if low ≤ n ∧ n ≤ high then return else failure

def daysOf (year month : Nat) : Nat :=
  match month with
  | 2 => if year % 4 = 0 ∧ (year % 100 ≠ 0 ∨ year % 400 = 0) then 29 else 28
  | 4 | 6 | 9 | 11 => 30
  | _ => 31

def date : Scan Unit := do
  let year ← fixed 4 0
  Scan.char '-'
  let month ← fixed 2 0
  Scan.char '-'
  let day ← fixed 2 0
  if 1 ≤ month ∧ month ≤ 12 ∧ 1 ≤ day ∧ day ≤ daysOf year month then return else failure

/-- A time of day; a minute may end with a leap second. -/
def time : Scan Unit := do
  pair 0 23
  Scan.char ':'
  pair 0 59
  Scan.char ':'
  pair 0 60
  let _ ← Scan.optional do
    Scan.char '.'
    let _ ← Scan.one Char.isDigit
    Scan.many Char.isDigit

/-- The distance of a time from universal time. -/
def timeOffset : Scan Unit :=
  (do let _ ← Scan.one fun c => c = 'Z' || c = 'z') <|> do
    let _ ← Scan.one fun c => c = '+' || c = '-'
    pair 0 23
    Scan.char ':'
    pair 0 59

/-- A date, a time, or both with or without an offset. -/
def dateTime : Scan Unit :=
  (do
    date
    let _ ← Scan.optional do
      let _ ← Scan.one fun c => c = 'T' || c = 't' || c = ' '
      time
      Scan.optional timeOffset) <|> time

/-- Any number, date or time. -/
def number : Scan Unit := dateTime <|> float <|> integer

end RemoteDebug.Toml
