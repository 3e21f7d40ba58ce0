import Mathlib.Data.Int.Bitwise
import Mathlib.Logic.Function.Basic
import Mos6502.LittleEndian
import Mos6502.Machine.Step

set_option autoImplicit false

namespace Mos6502.Unbounded

open Int (land lor)

-- Registers and cells are integers of any size. Only the masks written below keep them small,
-- and every range check can fail.
structure State where
  a : Int
  x : Int
  y : Int
  sp : Int
  pc : Int
  flags : Int
  lastInstruction : Option Int
  instructionCount : Nat
  settings : Settings
  cells : Address → Int

def mask (flag : Flag) : Int :=
  flag.mask.toNat

def clear (flags masks : Int) : Int :=
  land flags (255 - masks)

def isSet (number masks : Int) : Bool :=
  land number masks != 0

def byteOperand (number : Int) : Except Fault Operand :=
  Operand.ofKind (some Operand.byteKind) (some number)

def cellOperand (number : Int) : Except Fault Operand :=
  Operand.ofKind (some Operand.locationKind) (some number)

def resultBits (flags number : Int) : Int :=
  let signed :=
    if number = 0 then lor (clear flags (mask .negative)) (mask .zero)
    else lor (clear flags (mask .negative + mask .zero)) (land number (mask .negative))
  lor signed (mask .unused)

def putBits (flags : Int) (flag : Flag) (on : Bool) : Int :=
  lor (if on then lor flags (mask flag) else clear flags (mask flag)) (mask .unused)

def comparisonBits (flags left right : Int) : Int :=
  let difference := (left - right) % 256
  let cleared := clear flags (mask .carry + mask .negative + mask .zero)
  let signed := lor (lor cleared (land difference (mask .negative))) (mask .unused)
  let zeroed := if difference = 0 then lor signed (mask .zero) else signed
  if right ≤ left then lor zeroed (mask .carry) else zeroed

def testBits (flags accumulator number : Int) : Int :=
  let both := mask .negative + mask .overflow
  putBits (lor (lor (clear flags both) (land number both)) (mask .unused)) .zero
    (!isSet number accumulator)

def pushedBits (flags : Int) : Int :=
  lor (lor flags (mask .brk)) (mask .unused)

def pulledBits (number : Int) : Int :=
  lor (clear number (mask .brk)) (mask .unused)

namespace State

def read (state : State) (location : Int) : Int :=
  state.cells (.wrap location)

def write (state : State) (location value : Int) : State :=
  { state with cells := Function.update state.cells (.wrap location) (value % 256) }

def readWord (state : State) (location : Int) : Except Fault Int :=
  LittleEndian.decodeNumbers [state.read location, state.read (location + 1)]

def fetch (state : State) : Int × State :=
  (state.read state.pc, { state with pc := (state.pc + 1) % 65536 })

def fetchWord (state : State) : Int × State :=
  let low := state.fetch
  let high := low.2.fetch
  (lor low.1 (256 * high.1), high.2)

def push (state : State) (value : Int) : State :=
  { state.write (Layout.stackPage.toNat + state.sp) value with sp := (state.sp - 1) % 256 }

def pull (state : State) : Int × State :=
  let moved := { state with sp := (state.sp + 1) % 256 }
  (moved.read (Layout.stackPage.toNat + moved.sp), moved)

def pullWord (state : State) : Int × State :=
  let low := state.pull
  let high := low.2.pull
  (lor low.1 (256 * high.1), high.2)

def register (state : State) : Register → Int
  | .a => state.a
  | .x => state.x
  | .y => state.y
  | .sp => state.sp

def setRegister (state : State) (register : Register) (value : Int) : State :=
  match register with
  | .a => { state with a := value }
  | .x => { state with x := value }
  | .y => { state with y := value }
  | .sp => { state with sp := value }

def operandByte (state : State) : Operand → Int
  | .register register => state.register register
  | .byte value => value.toNat
  | .location address => state.read address.toNat

def store (state : State) (operand : Operand) (value : Int) : Except Fault State :=
  match operand with
  | .register register => .ok (state.setRegister register (value % 256))
  | .byte _ => .error .storeIntoByte
  | .location address => .ok (state.write address.toNat (value % 256))

def flagResult (state : State) (number : Int) : Except Fault State :=
  if 0 ≤ number ∧ number ≤ 255 then .ok { state with flags := resultBits state.flags number }
  else .error .flagsOfNonByte

def putFlag (state : State) (flag : Flag) (on : Bool) : State :=
  { state with flags := putBits state.flags flag on }

end State

end Mos6502.Unbounded
