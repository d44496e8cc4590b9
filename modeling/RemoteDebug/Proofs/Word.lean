import Mathlib.Data.Int.Bitwise
import RemoteDebug.Proofs.Integral

/-!
Words in two's complement as numbers.

What an operator makes of two words of `w` bits is what it makes of their numbers, reduced to the number of
`w` bits with a sign that agrees with it modulo `2 ^ w`. For the operators on single bits the numbers are
taken as endless rows of bits, which a negative number begins with ones.

* `SignedWord` lists these laws for a type of words, together with the order; 32 and 64 bits are instances.
* `BinaryOp.shifted` is a shift by a distance that is less than the width, `BinaryOp.shift32_toBitVec` and
  `BinaryOp.shift64_toBitVec` say which distance that is.
-/

namespace RemoteDebug

namespace Word

variable {w : Nat}

theorem bmod_eq_of_modEq {m n : Int} (alike : m ≡ n [ZMOD 2 ^ w]) : m.bmod (2 ^ w) = n.bmod (2 ^ w) := by
  have same : m % (2 ^ w : Nat) = n % (2 ^ w : Nat) := by
    rw [Nat.cast_pow]
    exact alike
  rw [← Int.emod_bmod m, same, Int.emod_bmod]

theorem toNat_modEq (x : BitVec w) : (x.toNat : Int) ≡ x.toInt [ZMOD 2 ^ w] := by
  rw [BitVec.toInt_eq_toNat_bmod]
  exact (Value.bmod_modEq x.toNat w).symm

/-- The pattern of a word is its number without a sign. -/
theorem toNat_eq_emod (x : BitVec w) : (x.toNat : Int) = x.toInt % 2 ^ w := by
  have bound : (x.toNat : Int) < 2 ^ w := by exact_mod_cast x.isLt
  rw [← Int.emod_eq_of_lt (Int.natCast_nonneg x.toNat) bound]
  exact toNat_modEq x

/-! ### Single bits -/

theorem getElem_ofInt (n : Int) {i : Nat} (inside : i < w) :
    (BitVec.ofInt w n)[i] = n.testBit i := by
  cases n with
  | ofNat n =>
      rw [Int.ofNat_eq_natCast, BitVec.ofInt_natCast, ← BitVec.getLsbD_eq_getElem, BitVec.getLsbD_ofNat]
      simp [Int.testBit, inside]
  | negSucc n =>
      rw [BitVec.ofInt_negSucc_eq_not_ofNat, BitVec.getElem_not, ← BitVec.getLsbD_eq_getElem,
        BitVec.getLsbD_ofNat]
      simp [Int.testBit, inside]

/-- An operator that works on each bit alone does so on numbers. -/
theorem toInt_of_bits {f : Bool → Bool → Bool} {op : BitVec w → BitVec w → BitVec w}
    {exact : Int → Int → Int}
    (bits : ∀ (x y : BitVec w) (i : Nat) (inside : i < w), (op x y)[i] = f x[i] y[i])
    (exactBits : ∀ m n i, (exact m n).testBit i = f (m.testBit i) (n.testBit i)) (x y : BitVec w) :
    (op x y).toInt = (exact x.toInt y.toInt).bmod (2 ^ w) := by
  have same : op x y = BitVec.ofInt w (exact x.toInt y.toInt) := by
    apply BitVec.eq_of_getElem_eq
    intro i inside
    have number (z : BitVec w) : z[i] = z.toInt.testBit i := by
      rw [← getElem_ofInt z.toInt inside]
      simp only [BitVec.ofInt_toInt]
    rw [bits, getElem_ofInt, exactBits, number x, number y]
  rw [same, BitVec.toInt_ofInt]

/-! ### Shifts -/

theorem toInt_shiftLeft (x : BitVec w) (n : Nat) : (x <<< n).toInt = (x.toInt * 2 ^ n).bmod (2 ^ w) := by
  rw [BitVec.toInt_shiftLeft, Nat.shiftLeft_eq, Nat.cast_mul, Nat.cast_pow]
  exact bmod_eq_of_modEq ((toNat_modEq x).mul_right _)

theorem toInt_sshiftRight (x : BitVec w) (n : Nat) :
    (x.sshiftRight n).toInt = (x.toInt.fdiv (2 ^ n)).bmod (2 ^ w) := by
  have exact : (x.sshiftRight n).toInt = x.toInt.fdiv (2 ^ n) := by
    rw [BitVec.toInt_sshiftRight, Int.shiftRight_eq_div_pow, Nat.cast_pow]
    exact (Int.fdiv_eq_ediv_of_nonneg _ (Int.pow_nonneg (by decide))).symm
  rw [← exact, BitVec.toInt_bmod_cancel]

theorem toInt_ushiftRight (x : BitVec w) (n : Nat) :
    (x >>> n).toInt = ((x.toInt % 2 ^ w).fdiv (2 ^ n)).bmod (2 ^ w) := by
  rw [BitVec.toInt_eq_toNat_bmod, BitVec.toNat_ushiftRight, Nat.shiftRight_eq_div_pow, ← toNat_eq_emod,
    Int.fdiv_eq_ediv_of_nonneg _ (Int.pow_nonneg (by decide)), Int.natCast_ediv, Int.natCast_pow]
  rfl

/-- To keep the last `k` bits is to take the number modulo `2 ^ k`. -/
theorem toInt_masked {k : Nat} (x : BitVec w) (less : k < w) :
    (x &&& BitVec.ofNat w (2 ^ k - 1)).toInt = x.toInt % 2 ^ k := by
  have positive : 0 < 2 ^ k := Nat.two_pow_pos k
  have double : 2 * 2 ^ k ≤ 2 ^ w := by
    rw [← Nat.pow_succ']
    exact Nat.pow_le_pow_right (by decide) less
  have kept : (x &&& BitVec.ofNat w (2 ^ k - 1)).toNat = x.toNat % 2 ^ k := by
    rw [BitVec.toNat_and, BitVec.toNat_ofNat, Nat.mod_eq_of_lt (by omega),
      Nat.and_two_pow_sub_one_eq_mod]
  have small : x.toNat % 2 ^ k < 2 ^ k := Nat.mod_lt _ positive
  have alike : (x.toNat : Int) ≡ x.toInt [ZMOD 2 ^ k] :=
    (toNat_modEq x).of_dvd (pow_dvd_pow 2 less.le)
  rw [BitVec.toInt_eq_toNat_of_lt (by omega), kept]
  push_cast
  exact alike

/-- A distance that is less than the width is not reduced any more, with a sign or without. -/
theorem toNat_reduced {s m : BitVec w} {n : Nat} (number : s.toInt = n) (less : (n : Int) < m.toInt) :
    (s.smod m).toNat = n ∧ (s % m).toNat = n := by
  have patterns (x : BitVec w) (k : Nat) (numbered : x.toInt = k) : x.toNat = k := by
    have bound : 2 * x.toInt < 2 ^ w := BitVec.two_mul_toInt_lt
    have pattern := toNat_eq_emod x
    rw [Int.emod_eq_of_lt (by omega) (by omega), numbered] at pattern
    exact_mod_cast pattern
  have kept : (s.smod m).toInt = n := by
    rw [BitVec.toInt_smod, number, Int.fmod_eq_emod_of_nonneg _ (by omega)]
    exact Int.emod_eq_of_lt (by omega) less
  refine ⟨patterns _ n kept, ?_⟩
  have width : m.toInt ≤ m.toNat := by
    rw [BitVec.toInt_eq_toNat_cond]
    split <;> omega
  rw [BitVec.toNat_umod, patterns s n number]
  exact Nat.mod_eq_of_lt (by omega)

end Word

namespace BinaryOp

variable {w : Nat} {op : BinaryOp}

/-- A shift by a distance that is less than the width. -/
def shifted (op : BinaryOp) (x : BitVec w) (n : Nat) : BitVec w :=
  match op with
  | .shl => x <<< n
  | .shr => x.sshiftRight n
  | _ => x >>> n

/-- The shifts of a word type reduce a distance that is less than the width once more. -/
theorem shifted_of_reduced (op : BinaryOp) (x : BitVec w) {s m : BitVec w} {n : Nat}
    (number : s.toInt = n) (less : (n : Int) < m.toInt) :
    (match op with
      | .shl => x <<< s.smod m
      | .shr => x.sshiftRight' (s.smod m)
      | _ => x >>> (s % m)) = op.shifted x n := by
  obtain ⟨signed, unsigned⟩ := Word.toNat_reduced number less
  unfold shifted
  split
  · rw [BitVec.shiftLeft_eq', signed]
  · rw [BitVec.sshiftRight_eq', signed]
  · rw [BitVec.ushiftRight_eq', unsigned]

theorem shift32_toBitVec (op : BinaryOp) (l : Int32) (distance : Int64) :
    (op.shift32 l distance).toBitVec = op.shifted l.toBitVec (distance.toInt % 32).toNat := by
  have masked : (distance &&& 31).toInt = distance.toInt % 32 :=
    Word.toInt_masked (k := 5) distance.toBitVec (by decide)
  have number : (distance &&& 31).toInt32.toInt = ((distance.toInt % 32).toNat : Int) := by
    rw [Int64.toInt_toInt32, masked, Int.bmod_eq_of_le (by omega) (by omega)]
    omega
  rw [← shifted_of_reduced (m := 32#32) op l.toBitVec number (show _ < (32 : Int) by omega)]
  cases op <;> rfl

theorem shift64_toBitVec (op : BinaryOp) (l distance : Int64) :
    (op.shift64 l distance).toBitVec = op.shifted l.toBitVec (distance.toInt % 64).toNat := by
  have masked : (distance &&& 63).toInt = distance.toInt % 64 :=
    Word.toInt_masked (k := 6) distance.toBitVec (by decide)
  have number : (distance &&& 63).toInt = ((distance.toInt % 64).toNat : Int) := by
    omega
  rw [← shifted_of_reduced (m := 64#64) op l.toBitVec number (show _ < (64 : Int) by omega)]
  cases op <;> rfl

end BinaryOp

/-! ### Types of words -/

/-- Words of `w` bits that stand for numbers: operators compute modulo `2 ^ w`, and the order is that of
the numbers. -/
class SignedWord (α : Type) (w : outParam Nat) [Add α] [Sub α] [Mul α] [Div α] [Mod α] [AndOp α] [OrOp α]
    [XorOp α] [LT α] [LE α] [BEq α] where
  number : α → Int
  number_add (x y : α) : number (x + y) = (number x + number y).bmod (2 ^ w)
  number_sub (x y : α) : number (x - y) = (number x - number y).bmod (2 ^ w)
  number_mul (x y : α) : number (x * y) = (number x * number y).bmod (2 ^ w)
  number_div (x y : α) : number (x / y) = ((number x).tdiv (number y)).bmod (2 ^ w)
  number_mod (x y : α) : number (x % y) = ((number x).tmod (number y)).bmod (2 ^ w)
  number_and (x y : α) : number (x &&& y) = ((number x).land (number y)).bmod (2 ^ w)
  number_or (x y : α) : number (x ||| y) = ((number x).lor (number y)).bmod (2 ^ w)
  number_xor (x y : α) : number (x ^^^ y) = ((number x).xor (number y)).bmod (2 ^ w)
  lt_iff (x y : α) : x < y ↔ number x < number y
  le_iff (x y : α) : x ≤ y ↔ number x ≤ number y
  beq_iff (x y : α) : (x == y) = true ↔ number x = number y

instance : SignedWord Int32 32 where
  number := Int32.toInt
  number_add := Int32.toInt_add
  number_sub := Int32.toInt_sub
  number_mul := Int32.toInt_mul
  number_div := Int32.toInt_div
  number_mod x y := by
    rw [← Int32.toInt_mod]
    exact (Int32.toInt_bmod _).symm
  number_and x y := Word.toInt_of_bits (fun _ _ _ _ => BitVec.getElem_and _) Int.testBit_land _ _
  number_or x y := Word.toInt_of_bits (fun _ _ _ _ => BitVec.getElem_or _) Int.testBit_lor _ _
  number_xor x y := Word.toInt_of_bits (fun _ _ _ _ => BitVec.getElem_xor _) Int.testBit_lxor _ _
  lt_iff _ _ := Int32.lt_iff_toInt_lt
  le_iff _ _ := Int32.le_iff_toInt_le
  beq_iff _ _ := beq_iff_eq.trans Int32.toInt_inj.symm

instance : SignedWord Int64 64 where
  number := Int64.toInt
  number_add := Int64.toInt_add
  number_sub := Int64.toInt_sub
  number_mul := Int64.toInt_mul
  number_div := Int64.toInt_div
  number_mod x y := by
    rw [← Int64.toInt_mod]
    exact (Int64.toInt_bmod _).symm
  number_and x y := Word.toInt_of_bits (fun _ _ _ _ => BitVec.getElem_and _) Int.testBit_land _ _
  number_or x y := Word.toInt_of_bits (fun _ _ _ _ => BitVec.getElem_or _) Int.testBit_lor _ _
  number_xor x y := Word.toInt_of_bits (fun _ _ _ _ => BitVec.getElem_xor _) Int.testBit_lxor _ _
  lt_iff _ _ := Int64.lt_iff_toInt_lt
  le_iff _ _ := Int64.le_iff_toInt_le
  beq_iff _ _ := beq_iff_eq.trans Int64.toInt_inj.symm

end RemoteDebug
