import Mos6502.Machine.Basic

set_option autoImplicit false

namespace Mos6502

inductive Mode where
  | implied
  | accumulator
  | immediate
  | zeroPage
  | zeroPageX
  | zeroPageY
  | absolute
  | absoluteX
  | absoluteY
  | indirect
  | indexedIndirect
  | indirectIndexed
  | relative
deriving DecidableEq

namespace Mode

def all : List Mode :=
  [.implied, .accumulator, .immediate, .zeroPage, .zeroPageX, .zeroPageY, .absolute, .absoluteX,
    .absoluteY, .indirect, .indexedIndirect, .indirectIndexed, .relative]

def name : Mode → String
  | .implied => "implied"
  | .accumulator => "accumulator"
  | .immediate => "immediate"
  | .zeroPage => "zeropage"
  | .zeroPageX => "zeropage,x"
  | .zeroPageY => "zeropage,y"
  | .absolute => "absolute"
  | .absoluteX => "absolute,x"
  | .absoluteY => "absolute,y"
  | .indirect => "indirect"
  | .indexedIndirect => "(indirect,x)"
  | .indirectIndexed => "(indirect),y"
  | .relative => "relative"

def ofName? (name : String) : Option Mode :=
  all.find? (·.name == name)

@[simp] theorem ofName_name (mode : Mode) : ofName? mode.name = some mode := by
  cases mode <;> decide

def operandBytes : Mode → Nat
  | .implied | .accumulator => 0
  | .immediate | .zeroPage | .zeroPageX | .zeroPageY | .indexedIndirect | .indirectIndexed
  | .relative => 1
  | .absolute | .absoluteX | .absoluteY | .indirect => 2

def fromByte (machine : Machine) (operand : Byte → Operand) : Option Operand × Machine :=
  (some (operand machine.fetch.1), machine.fetch.2)

def fromWord (machine : Machine) (operand : Address → Operand) : Option Operand × Machine :=
  (some (operand machine.fetchWord.1), machine.fetchWord.2)

-- An index into the zero page stays in it.
def resolve (mode : Mode) (machine : Machine) : Option Operand × Machine :=
  match mode with
  | .implied => (none, machine)
  | .accumulator => (some (.register .a), machine)
  | .immediate => fromByte machine .byte
  | .zeroPage => fromByte machine fun byte => .location byte.extend
  | .zeroPageX => fromByte machine fun byte => .location (byte + machine.x).extend
  | .zeroPageY => fromByte machine fun byte => .location (byte + machine.y).extend
  | .absolute => fromWord machine .location
  | .absoluteX => fromWord machine fun word => .location (word + machine.x.extend)
  | .absoluteY => fromWord machine fun word => .location (word + machine.y.extend)
  | .indirect => fromWord machine fun word => .location (machine.memory.readPointer word)
  | .indexedIndirect => fromByte machine fun byte =>
    .location (machine.memory.readPointer (byte + machine.x).extend)
  | .indirectIndexed => fromByte machine fun byte =>
    .location (machine.memory.readPointer byte.extend + machine.y.extend)
  -- the displacement counts from the address after it
  | .relative => fromByte machine fun byte =>
    .location (machine.fetch.2.pc + byte.signExtend 16)

end Mode

end Mos6502
