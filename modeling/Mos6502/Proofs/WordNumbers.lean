import Mathlib.Data.Int.Bitwise
import Mos6502.Arithmetic
import Mos6502.Layout

set_option autoImplicit false

namespace Mos6502

namespace Byte

theorem bounds (byte : Byte) : (0 : Int) ≤ byte.toNat ∧ (byte.toNat : Int) ≤ 255 := by
  have bound := byte.isLt
  omega

theorem intCast_toNat_wrap {number : Int} (inRange : 0 ≤ number ∧ number ≤ 255) :
    ((wrap number).toNat : Int) = number := by
  rw [toNat_wrap]
  omega

theorem add_mod (left right : Byte) :
    ((left.toNat : Int) + right.toNat) % 256 = (left + right).toNat := by
  rw [BitVec.toNat_add]
  rfl

theorem sub_mod (left right : Byte) :
    ((left.toNat : Int) - right.toNat) % 256 = (left - right).toNat := by
  have leftBound := left.isLt
  have rightBound := right.isLt
  rw [BitVec.toNat_sub]
  omega

theorem add_toInt_mod (value change : Byte) :
    ((value.toNat : Int) + change.toInt) % 256 = (value + change).toNat := by
  have moved : value + change = wrap (value.toNat + change.toInt) := by
    simp [wrap, BitVec.ofInt_add]
  rw [moved, toNat_wrap]
  omega

theorem succ_mod (byte : Byte) : ((byte.toNat : Int) + 1) % 256 = (byte + 1).toNat :=
  byte.add_mod 1

theorem pred_mod (byte : Byte) : ((byte.toNat : Int) - 1) % 256 = (byte + -1).toNat :=
  byte.add_toInt_mod (-1)

theorem toInt_not (value : Byte) : (~~~value).toInt = -1 - value.toInt := by
  have bound := value.isLt
  simp only [BitVec.toInt, BitVec.toNat_not]
  split <;> split <;> omega

theorem intCast_toNat_not (value : Byte) : ((~~~value).toNat : Int) = 255 - value.toNat := by
  have bound := value.isLt
  rw [BitVec.toNat_not]
  omega

theorem toInt_wrap {number : Int} (inRange : -128 ≤ number ∧ number ≤ 127) :
    (wrap number).toInt = number := by
  rw [wrap, BitVec.toInt_ofInt]
  exact Int.bmod_eq_of_le (by omega) (by omega)

theorem wrap_sub_add (number : Int) (down up : Nat) :
    wrap number - BitVec.ofNat 8 down + BitVec.ofNat 8 up = wrap (number - down + up) := by
  apply BitVec.eq_of_toNat_eq
  simp only [BitVec.toNat_add, BitVec.toNat_sub, BitVec.toNat_ofNat, toNat_wrap]
  omega

theorem extend_nextInPage (pointer : Byte) :
    pointer.extend.nextInPage = (pointer + 1).extend := by
  have low : pointer.extend.low = pointer := by
    apply BitVec.eq_of_toNat_eq
    rw [Address.toNat_low, toNat_extend]
    exact Nat.mod_eq_of_lt pointer.isLt
  have high : pointer.extend.high = 0 := by
    apply BitVec.eq_of_toNat_eq
    rw [Address.toNat_high, toNat_extend]
    exact Nat.div_eq_of_lt pointer.isLt
  apply BitVec.eq_of_toNat_eq
  rw [Address.nextInPage, low, high, Address.toNat_ofBytes, toNat_extend]
  rfl

end Byte

namespace Address

theorem intCast_toNat_wrap {number : Int} (inRange : 0 ≤ number ∧ number ≤ 65535) :
    ((wrap number).toNat : Int) = number := by
  rw [toNat_wrap]
  omega

theorem succ_mod (address : Address) :
    ((address.toNat : Int) + 1) % 65536 = (address + 1).toNat := by
  rw [BitVec.toNat_add]
  rfl

theorem pred_mod (address : Address) :
    ((address.toNat : Int) - 1) % 65536 = (address - 1).toNat := by
  have bound := address.isLt
  rw [BitVec.toNat_sub]
  change _ = (((65536 - 1 + address.toNat) % 65536 : Nat) : Int)
  omega

theorem add_extend_mod (word : Address) (index : Byte) :
    ((word.toNat : Int) + index.toNat) % 65536 = (word + index.extend).toNat := by
  rw [BitVec.toNat_add, Byte.toNat_extend]
  rfl

theorem add_signExtend_mod (address : Address) (displacement : Byte) :
    ((address.toNat : Int) + displacement.toInt) % 65536 =
      (address + displacement.signExtend 16).toNat := by
  have moved : address + displacement.signExtend 16 =
      wrap (address.toNat + displacement.toInt) := by
    rw [wrap_add, wrap_toNat]
    rfl
  rw [moved, toNat_wrap]
  omega

theorem toNat_nextInPage (word : Address) :
    (word.nextInPage.toNat : Int) =
      if (word.toNat : Int) % 256 = 255 then (word.toNat : Int) - 255 else word.toNat + 1 := by
  have bound := word.isLt
  rw [nextInPage, toNat_ofBytes, toNat_high, BitVec.toNat_add, toNat_low]
  change (((word.toNat % 256 + 1) % 256 + 256 * (word.toNat / 256) : Nat) : Int) = _
  split <;> omega

end Address

namespace Arithmetic

variable (left right : Byte) (carry : Bool)

theorem addWithCarry_result :
    ((addWithCarry left right carry).result.toNat : Int) =
      (left.toNat + right.toNat + carry.toNat) % 256 := by
  simp only [addWithCarry, BitVec.toNat_ofNat]
  rfl

theorem addWithCarry_carry :
    (addWithCarry left right carry).carry =
      decide ((256 : Int) ≤ left.toNat + right.toNat + carry.toNat) := by
  rw [addWithCarry, decide_eq_decide]
  omega

-- The bit trick finds the signed totals that no byte can hold.
theorem addWithCarry_overflow :
    (addWithCarry left right carry).overflow =
      decide (left.toInt + right.toInt + carry.toNat < -128 ∨
        127 < left.toInt + right.toInt + carry.toNat) := by
  have result := addWithCarry_result left right carry
  have leftBound := left.isLt
  have rightBound := right.isLt
  have carryBound := carry.toNat_lt
  have trick : (addWithCarry left right carry).overflow =
      (left.msb == right.msb && left.msb != (addWithCarry left right carry).result.msb) := rfl
  generalize (addWithCarry left right carry).result = sum at result trick
  rw [trick, Bool.eq_iff_iff, decide_eq_true_iff, Bool.and_eq_true, beq_iff_eq, bne_iff_ne]
  simp only [BitVec.msb_eq_decide, BitVec.toInt, ne_eq, decide_eq_decide]
  split <;> split <;> omega

-- With the overflow as its ninth bit the result has the sign of the whole total.
theorem addWithCarry_sign :
    ((addWithCarry left right carry).result.msb ^^ (addWithCarry left right carry).overflow) =
      decide (left.toInt + right.toInt + carry.toNat < 0) := by
  have result := addWithCarry_result left right carry
  have overflow := addWithCarry_overflow left right carry
  have leftBound := left.isLt
  have rightBound := right.isLt
  have carryBound := carry.toNat_lt
  generalize (addWithCarry left right carry).result = sum at result ⊢
  rw [overflow, Bool.eq_iff_iff, decide_eq_true_iff, Bool.xor_iff_ne, ne_eq,
    BitVec.msb_eq_decide, decide_eq_decide]
  simp only [BitVec.toInt]
  split <;> split <;> omega

-- A difference is the sum with the complement, and with the carry of no borrow.
theorem addWithCarry_complement :
    (addWithCarry left (~~~right) true).result = left - right ∧
      (addWithCarry left (~~~right) true).carry = decide (right ≤ left) := by
  have complement := Byte.intCast_toNat_not right
  constructor
  next =>
    have result := addWithCarry_result left (~~~right) true
    have difference := Byte.sub_mod left right
    apply BitVec.eq_of_toNat_eq
    simp only [Bool.toNat_true] at result
    omega
  next =>
    rw [addWithCarry_carry, complement, decide_eq_decide, BitVec.le_def]
    simp only [Bool.toNat_true]
    omega

theorem shiftLeft_numbers : ∀ value : Byte,
    2 * (value.toNat : Int) % 256 = (Shift.shiftLeft.apply value false).toNat ∧
      (value.toNat : Int) / 128 = (Shift.shiftLeft.outgoing value).toNat := by
  decide +kernel

theorem rotateLeft_numbers : ∀ (value : Byte) (carry : Bool),
    (2 * (value.toNat : Int) + carry.toNat) % 256 = (Shift.rotateLeft.apply value carry).toNat := by
  decide +kernel

theorem shiftRight_numbers : ∀ value : Byte,
    (value.toNat : Int) / 2 = (Shift.shiftRight.apply value false).toNat ∧
      (value.toNat : Int) % 2 = (Shift.shiftRight.outgoing value).toNat := by
  decide +kernel

theorem rotateRight_numbers : ∀ (value : Byte) (carry : Bool),
    (value.toNat : Int) / 2 + 128 * carry.toNat = (Shift.rotateRight.apply value carry).toNat := by
  decide +kernel

end Arithmetic

section Bitwise

variable {width : Nat} (left right : BitVec width)

theorem land_toNat : Int.land left.toNat right.toNat = (left &&& right).toNat := by
  rw [BitVec.toNat_and]
  rfl

theorem lor_toNat : Int.lor left.toNat right.toNat = (left ||| right).toNat := by
  rw [BitVec.toNat_or]
  rfl

theorem xor_toNat : Int.xor left.toNat right.toNat = (left ^^^ right).toNat := by
  rw [BitVec.toNat_xor]
  rfl

end Bitwise

theorem Layout.add_toNat_stackCell (pointer : Byte) :
    (stackPage.toNat : Int) + pointer.toNat = (stackCell pointer).toNat := by
  have bound := pointer.isLt
  rw [stackCell, BitVec.toNat_add, Byte.toNat_extend]
  change (256 : Int) + _ = (((256 + pointer.toNat) % 65536 : Nat) : Int)
  omega

end Mos6502
