import Mos6502.Fault
import Mos6502.Word

set_option autoImplicit false

namespace Mos6502

inductive Operand where
  | register (register : Register)
  | byte (value : Byte)
  | location (address : Address)
deriving DecidableEq

namespace Operand

def byteKind : String := "byte"
def locationKind : String := "loc"

def kind : Operand → String
  | .register which => which.name
  | .byte _ => byteKind
  | .location _ => locationKind

def value : Operand → Option Nat
  | .register _ => none
  | .byte value => some value.toNat
  | .location address => some address.toNat

def upTo (limit : Int) (value : Option Int) : Option Int :=
  value.filter fun number => 0 ≤ number ∧ number ≤ limit

def ofKind (kind : Option String) (value : Option Int) : Except Fault Operand :=
  match kind.bind Register.ofName? with
  | some which =>
    if value.isSome then .error (.registerWithValue which) else .ok (.register which)
  | none =>
    if kind = some byteKind then
      match upTo 0xff value with
      | some number => .ok (.byte (.wrap number))
      | none => .error (.byteOutOfRange value)
    else if kind = some locationKind then
      match upTo 0xffff value with
      | some number => .ok (.location (.wrap number))
      | none => .error (.locationOutOfRange value)
    else .error (.unknownOperandKind kind)

def render (operand : Operand) : String :=
  match operand.value with
  | none => "OperandRef(" ++ operand.kind ++ ")"
  | some number => "OperandRef(" ++ operand.kind ++ ", $" ++ Text.hex 1 number ++ ")"

def target : Operand → Except Fault Address
  | .register which => .error (.registerAsTarget which)
  | .byte value => .ok value.extend
  | .location address => .ok address

theorem upTo_natCast {limit : Int} {number : Nat} (bounded : (number : Int) ≤ limit) :
    upTo limit (some number) = some (number : Int) := by
  simp [upTo, bounded]

theorem ofKind_kind (operand : Operand) :
    ofKind (some operand.kind) (operand.value.map Int.ofNat) = .ok operand := by
  cases operand with
  | register which => cases which <;> rfl
  | byte value =>
    have bound : (value.toNat : Int) ≤ 0xff := by have := value.isLt; omega
    have named : Register.ofName? byteKind = none := by decide
    simp [ofKind, kind, Operand.value, named, upTo_natCast bound]
  | location address =>
    have bound : (address.toNat : Int) ≤ 0xffff := by have := address.isLt; omega
    have named : Register.ofName? locationKind = none := by decide
    have other : locationKind ≠ byteKind := by decide
    simp [ofKind, kind, Operand.value, named, other, upTo_natCast bound]

end Operand

end Mos6502
