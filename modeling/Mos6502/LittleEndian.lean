import Mos6502.Fault
import Mos6502.Word

set_option autoImplicit false

namespace Mos6502.LittleEndian

-- Base 256, least significant first, and no digit at all for zero.
def digits (number : Nat) : List Byte :=
  if number = 0 then [] else BitVec.ofNat 8 number :: digits (number / 256)
termination_by number

def encode (number : Nat) (minimum : Int := 2) : List Byte :=
  (digits number).rightpad minimum.toNat 0

def decode : List Byte → Nat
  | [] => 0
  | byte :: rest => byte.toNat + 256 * decode rest

-- Two's complement: the last byte carries the sign.
def decodeSigned : List Byte → Int
  | [] => 0
  | [last] => last.toInt
  | byte :: next :: rest => byte.toNat + 256 * decodeSigned (next :: rest)

def ofNumbers (numbers : List Int) : Except Fault (List Byte) :=
  if numbers.all (fun number => 0 ≤ number ∧ number ≤ 255) then .ok (numbers.map Byte.wrap)
  else .error .notBytes

def decodeNumbers (numbers : List Int) (signed : Bool := false) : Except Fault Int :=
  (ofNumbers numbers).map fun bytes => if signed then decodeSigned bytes else decode bytes

theorem digits_zero : digits 0 = [] := by
  rw [digits, if_pos rfl]

theorem digits_pos {number : Nat} (positive : 0 < number) :
    digits number = BitVec.ofNat 8 number :: digits (number / 256) := by
  rw [digits, if_neg (by omega)]

@[simp] theorem decode_digits (number : Nat) : decode (digits number) = number := by
  induction number using Nat.strongRecOn with
  | ind number ih =>
    by_cases positive : 0 < number
    next =>
      rw [digits_pos positive, decode, ih (number / 256) (by omega), BitVec.toNat_ofNat]
      omega
    next =>
      obtain rfl : number = 0 := by omega
      simp [digits_zero, decode]

end Mos6502.LittleEndian
