import Mathlib.Data.Int.ModEq
import RemoteDebug.Proofs.Primitive

/-!
Integral values as numbers.

An integral kind of `w` bits holds `2 ^ w` consecutive numbers, one for each of its values. A conversion to
it keeps a number modulo `2 ^ w`, and this settles the result: no two numbers of the kind agree modulo
`2 ^ w`. A detour through a kind that is no narrower does no harm, whatever the signs.

* `Kind.width?` is the width of an integral kind, `Kind.Holds` says which numbers it holds,
* `Value.convert_of_integer?` reduces the conversion of an integral value to that of its number,
* `Value.convert_modular` is the statement about all integral values and kinds.
-/

namespace RemoteDebug

namespace Kind

/-- The number of bits of an integral kind; other kinds have none. -/
def width? : Kind → Option Nat
  | .byte => some 8
  | .short | .char => some 16
  | .int => some 32
  | .long => some 64
  | _ => none

/-- The numbers of an integral kind. Code units are unsigned, all others are in two's complement. -/
def Holds : Kind → Int → Prop
  | .byte, n => -2 ^ 7 ≤ n ∧ n < 2 ^ 7
  | .short, n => -2 ^ 15 ≤ n ∧ n < 2 ^ 15
  | .char, n => 0 ≤ n ∧ n < 2 ^ 16
  | .int, n => -2 ^ 31 ≤ n ∧ n < 2 ^ 31
  | .long, n => -2 ^ 63 ≤ n ∧ n < 2 ^ 63
  | _, _ => False

/-- No two numbers of a kind agree modulo its width. -/
theorem Holds.eq_of_modEq {kind : Kind} {w : Nat} {m n : Int} (first : kind.Holds m)
    (second : kind.Holds n) (width : kind.width? = some w) (alike : m ≡ n [ZMOD 2 ^ w]) : m = n := by
  unfold Int.ModEq at alike
  cases kind <;> cases width <;> simp only [Holds] at first second <;> omega

theorem Holds.exists_width {kind : Kind} {n : Int} (holds : kind.Holds n) :
    ∃ w, kind.width? = some w := by
  cases kind <;> first | exact ⟨_, rfl⟩ | cases holds

end Kind

namespace Value

variable {value other : Value} {kind : Kind} {m n : Int} {w : Nat}

/-! ### Values and their numbers -/

theorem holds_of_integer? (stands : value.integer? = some n) : value.kind.Holds n := by
  cases value <;> cases stands
  case byte v => exact ⟨v.le_toInt, v.toInt_lt⟩
  case short v => exact ⟨v.le_toInt, v.toInt_lt⟩
  case char unit => exact ⟨Int.natCast_nonneg _, by exact_mod_cast unit.toNat_lt⟩
  case int v => exact ⟨v.le_toInt, v.toInt_lt⟩
  case long v => exact ⟨v.le_toInt, v.toInt_lt⟩

theorem ofInt_toNat (unit : UInt16) : UInt16.ofInt unit.toNat = unit := by
  apply UInt16.toNat.inj
  have bound := unit.toNat_lt
  simp only [UInt16.ofInt, UInt16.toNat_ofNat']
  omega

/-- A value is made from its own number. -/
theorem ofInteger?_kind (stands : value.integer? = some n) : ofInteger? n value.kind = some value := by
  cases value <;> cases stands
  case byte v => exact congrArg (some ∘ byte) (Int8.ofInt_toInt v)
  case short v => exact congrArg (some ∘ short) (Int16.ofInt_toInt v)
  case char unit => exact congrArg (some ∘ char) (ofInt_toNat unit)
  case int v => exact congrArg (some ∘ int) (Int32.ofInt_toInt v)
  case long v => exact congrArg (some ∘ long) (Int64.ofInt_toInt v)

/-- A kind has one value for a number. -/
theorem eq_of_integer? (kinds : value.kind = other.kind) (stands : value.integer? = some n)
    (stands' : other.integer? = some n) : value = other := by
  have made := ofInteger?_kind stands
  rw [kinds, ofInteger?_kind stands'] at made
  exact (Option.some.inj made).symm

theorem bmod_modEq (n : Int) (w : Nat) : n.bmod (2 ^ w) ≡ n [ZMOD 2 ^ w] := by
  have reduced : n.bmod (2 ^ w) % (2 ^ w : Nat) = n % (2 ^ w : Nat) := Int.bmod_emod
  unfold Int.ModEq
  rwa [Nat.cast_pow] at reduced

theorem toNat_ofInt_modEq (n : Int) : ((UInt16.ofInt n).toNat : Int) ≡ n [ZMOD 2 ^ 16] := by
  simp only [Int.ModEq, UInt16.ofInt, UInt16.toNat_ofNat']
  omega

/-- The value of an integral kind that is made from a number agrees with it modulo the width. -/
theorem exists_ofInteger? (width : kind.width? = some w) (n : Int) :
    ∃ made m, ofInteger? n kind = some made ∧ made.integer? = some m ∧ m ≡ n [ZMOD 2 ^ w] := by
  cases kind <;> cases width
  case byte => exact ⟨_, _, rfl, rfl, Int8.toInt_ofInt ▸ bmod_modEq n 8⟩
  case short => exact ⟨_, _, rfl, rfl, Int16.toInt_ofInt ▸ bmod_modEq n 16⟩
  case char => exact ⟨_, _, rfl, rfl, toNat_ofInt_modEq n⟩
  case int => exact ⟨_, _, rfl, rfl, Int32.toInt_ofInt ▸ bmod_modEq n 32⟩
  case long => exact ⟨_, _, rfl, rfl, Int64.toInt_ofInt ▸ bmod_modEq n 64⟩

/-! ### Conversions -/

theorem convert_of_integer? (stands : value.integer? = some n) (kind : Kind) :
    value.convert kind = ofInteger? n kind := by
  unfold convert
  split
  · rename_i same
    rw [← same.1, ofInteger?_kind stands]
  · cases value <;> cases stands <;> rfl

/-- A conversion to an integral kind keeps the number modulo the width of the kind. -/
theorem exists_convert (stands : value.integer? = some n) (width : kind.width? = some w) :
    ∃ result m, value.convert kind = some result ∧ result.kind = kind ∧ result.integer? = some m ∧
      m ≡ n [ZMOD 2 ^ w] := by
  obtain ⟨result, m, made, stands', alike⟩ := exists_ofInteger? width n
  rw [convert_of_integer? stands]
  exact ⟨result, m, made, kind_of_ofInteger? made, stands', alike⟩

/-- Nothing but the result of a conversion has the kind and agrees with the number. -/
theorem eq_of_convert {result : Value} (stands : value.integer? = some n)
    (width : kind.width? = some w) (converted : value.convert kind = some result)
    (kinds : other.kind = kind) (stands' : other.integer? = some m) (alike : m ≡ n [ZMOD 2 ^ w]) :
    other = result := by
  obtain ⟨found, m', found_eq, found_kind, found_stands, found_alike⟩ := exists_convert stands width
  rw [converted] at found_eq
  cases found_eq
  have holds : kind.Holds m := kinds ▸ holds_of_integer? stands'
  have holds' : kind.Holds m' := found_kind ▸ holds_of_integer? found_stands
  have same := holds.eq_of_modEq holds' width (alike.trans found_alike.symm)
  exact eq_of_integer? (kinds.trans found_kind.symm) stands' (same ▸ found_stands)

/-- A conversion keeps a number that the kind holds. -/
theorem convert_of_holds {result : Value} (stands : value.integer? = some n)
    (converted : value.convert kind = some result) (holds : kind.Holds n) :
    result.integer? = some n := by
  obtain ⟨w, width⟩ := holds.exists_width
  obtain ⟨found, m, found_eq, found_kind, found_stands, alike⟩ := exists_convert stands width
  rw [converted] at found_eq
  cases found_eq
  have holds' : kind.Holds m := found_kind ▸ holds_of_integer? found_stands
  rw [found_stands, holds'.eq_of_modEq holds width alike]

/-- A kind that is no narrower can come between. -/
theorem convert_of_between {between : Kind} {middle : Value} {v : Nat}
    (stands : value.integer? = some n) (width : kind.width? = some w)
    (wider : between.width? = some v) (le : w ≤ v) (first : value.convert between = some middle) :
    middle.convert kind = value.convert kind := by
  obtain ⟨found, b, found_eq, -, found_stands, alike⟩ := exists_convert stands wider
  rw [first] at found_eq
  cases found_eq
  obtain ⟨result, m, converted, kinds, stands', alike'⟩ := exists_convert found_stands width
  obtain ⟨direct, -, direct_eq, -⟩ := exists_convert stands width
  have narrowed : b ≡ n [ZMOD 2 ^ w] := alike.of_dvd (pow_dvd_pow 2 le)
  rw [converted, direct_eq, eq_of_convert stands width direct_eq kinds stands' (alike'.trans narrowed)]

/-- The conversion of an integral value to an integral kind gives the one value of the kind that agrees with
it modulo the width of the kind. That is the same number wherever the kind holds it, and the result of
every detour through a kind that is no narrower. -/
theorem convert_modular (stands : value.integer? = some n) (width : kind.width? = some w) :
    ∃ result m, value.convert kind = some result ∧
      result.kind = kind ∧ result.integer? = some m ∧ kind.Holds m ∧ m ≡ n [ZMOD 2 ^ w] ∧
      (∀ other : Value, ∀ m', other.kind = kind → other.integer? = some m' → m' ≡ n [ZMOD 2 ^ w] →
        other = result) ∧
      (kind.Holds n → m = n) ∧
      ∀ between v, between.width? = some v → w ≤ v →
        ∃ middle, value.convert between = some middle ∧ middle.convert kind = some result := by
  obtain ⟨result, m, converted, kinds, stands', alike⟩ := exists_convert stands width
  have holds : kind.Holds m := kinds ▸ holds_of_integer? stands'
  refine ⟨result, m, converted, kinds, stands', holds, alike, ?_, ?_, ?_⟩
  · intro other m' kinds' found alike'
    exact eq_of_convert stands width converted kinds' found alike'
  · intro kept
    have same := convert_of_holds stands converted kept
    rw [stands'] at same
    exact Option.some.inj same
  · intro between v wider le
    obtain ⟨middle, -, first, -⟩ := exists_convert stands wider
    exact ⟨middle, first, (convert_of_between stands width wider le first).trans converted⟩

/-- The code unit of `-1` is the largest, also by way of `short`. -/
theorem convert_modular_unit :
    (int (-1)).integer? = some (-1) ∧ Kind.char.width? = some 16 ∧
      (int (-1)).convert .char = some (char 65535) ∧
      ∃ middle, (int (-1)).convert .short = some middle ∧ middle.convert .char = some (char 65535) := by
  obtain ⟨result, m, converted, -, -, -, -, only, -, detour⟩ :=
    @convert_modular (int (-1)) .char (-1) 16 rfl rfl
  cases only (char 65535) 65535 rfl rfl (by decide)
  exact ⟨rfl, rfl, converted, detour .short 16 rfl (by decide)⟩

end Value

end RemoteDebug
