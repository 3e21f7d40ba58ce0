import Mos6502.Word

set_option autoImplicit false

namespace Mos6502.Arithmetic

structure Sum where
  result : Byte
  carry : Bool
  overflow : Bool
deriving DecidableEq

-- Overflow: the result has not the sign that both terms share.
def addWithCarry (left right : Byte) (carry : Bool) : Sum :=
  let total := left.toNat + right.toNat + carry.toNat
  let result := BitVec.ofNat 8 total
  { result := result
    carry := 256 ≤ total
    overflow := left.msb == right.msb && left.msb != result.msb }

inductive Bitwise where
  | and
  | or
  | xor
deriving DecidableEq

def Bitwise.apply : Bitwise → Byte → Byte → Byte
  | .and => (· &&& ·)
  | .or => (· ||| ·)
  | .xor => (· ^^^ ·)

inductive Shift where
  | shiftLeft
  | shiftRight
  | rotateLeft
  | rotateRight
deriving DecidableEq

def Shift.apply (shift : Shift) (value : Byte) (carry : Bool) : Byte :=
  match shift with
  | .shiftLeft => value <<< 1
  | .shiftRight => value >>> 1
  | .rotateLeft => value <<< 1 ||| if carry then 0x01 else 0
  | .rotateRight => value >>> 1 ||| if carry then 0x80 else 0

def Shift.outgoing (shift : Shift) (value : Byte) : Bool :=
  match shift with
  | .shiftLeft | .rotateLeft => value.getLsbD 7
  | .shiftRight | .rotateRight => value.getLsbD 0

theorem addWithCarry_total (left right : Byte) (carry : Bool) :
    (addWithCarry left right carry).result.toNat +
        256 * (addWithCarry left right carry).carry.toNat =
      left.toNat + right.toNat + carry.toNat := by
  have leftBound := left.isLt
  have rightBound := right.isLt
  have carryBound := carry.toNat_lt
  simp only [addWithCarry, BitVec.toNat_ofNat]
  by_cases exceeds : 256 ≤ left.toNat + right.toNat + carry.toNat <;> simp [exceeds] <;> omega

end Mos6502.Arithmetic
