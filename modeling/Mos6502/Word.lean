set_option autoImplicit false

namespace Mos6502

abbrev Byte := BitVec 8
abbrev Address := BitVec 16

namespace Byte

def wrap (value : Int) : Byte :=
  BitVec.ofInt 8 value

def extend (byte : Byte) : Address :=
  byte.setWidth 16

@[simp] theorem toNat_wrap (value : Int) : (wrap value).toNat = (value % 256).toNat := by
  simp [wrap, BitVec.toNat_ofInt]

@[simp] theorem toNat_extend (byte : Byte) : byte.extend.toNat = byte.toNat := by
  have bound := byte.isLt
  simp only [extend, BitVec.toNat_setWidth]
  omega

@[simp] theorem wrap_toNat (byte : Byte) : wrap byte.toNat = byte := by
  simp [wrap]

theorem wrap_eq_wrap {left right : Int} : wrap left = wrap right ↔ left % 256 = right % 256 := by
  rw [← BitVec.toNat_inj, toNat_wrap, toNat_wrap]
  omega

end Byte

namespace Address

def wrap (location : Int) : Address :=
  BitVec.ofInt 16 location

def ofBytes (low high : Byte) : Address :=
  high ++ low

def low (address : Address) : Byte :=
  address.setWidth 8

def high (address : Address) : Byte :=
  (address >>> 8).setWidth 8

def nextInPage (address : Address) : Address :=
  ofBytes (address.low + 1) address.high

@[simp] theorem toNat_wrap (location : Int) :
    (wrap location).toNat = (location % 65536).toNat := by
  simp [wrap, BitVec.toNat_ofInt]

@[simp] theorem wrap_toNat (address : Address) : wrap address.toNat = address := by
  simp [wrap]

theorem wrap_eq_wrap {left right : Int} :
    wrap left = wrap right ↔ left % 65536 = right % 65536 := by
  rw [← BitVec.toNat_inj, toNat_wrap, toNat_wrap]
  omega

theorem wrap_add (location offset : Int) :
    wrap (location + offset) = wrap location + wrap offset := by
  simp [wrap, BitVec.ofInt_add]

@[simp] theorem toNat_low (address : Address) : address.low.toNat = address.toNat % 256 := by
  simp [low]

@[simp] theorem toNat_high (address : Address) : address.high.toNat = address.toNat / 256 := by
  have bound := address.isLt
  simp only [high, BitVec.toNat_setWidth, BitVec.toNat_ushiftRight, Nat.shiftRight_eq_div_pow]
  omega

@[simp] theorem toNat_ofBytes (low high : Byte) :
    (ofBytes low high).toNat = low.toNat + 256 * high.toNat := by
  have bound := low.isLt
  rw [ofBytes, BitVec.toNat_append, ← Nat.shiftLeft_add_eq_or_of_lt bound,
    Nat.shiftLeft_eq]
  omega

@[simp] theorem ofBytes_low_high (address : Address) :
    ofBytes address.low address.high = address := by
  apply BitVec.eq_of_toNat_eq
  rw [toNat_ofBytes, toNat_low, toNat_high]
  omega

end Address

-- Bit 7 is the sign: on a byte this is its two's complement value.
def signedByte (value : Int) : Int :=
  if value % 256 < 128 then value else value - 256

theorem signedByte_toNat (byte : Byte) : signedByte byte.toNat = byte.toInt := by
  have bound := byte.isLt
  simp only [signedByte, BitVec.toInt]
  split <;> split <;> omega

end Mos6502
