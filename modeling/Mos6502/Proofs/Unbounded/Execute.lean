import Mos6502.Proofs.Unbounded.State

set_option autoImplicit false

namespace Mos6502.Unbounded

open Arithmetic
open Int (land lor)

namespace State

def readPointer (state : State) (pointer second : Int) : Int :=
  lor (state.read pointer) (256 * state.read second)

def resolveByte (state : State) (work : Int → Except Fault Operand) :
    Except Fault (Option Operand × State) :=
  (work state.fetch.1).map fun operand => (some operand, state.fetch.2)

def resolveWord (state : State) (work : Int → Except Fault Operand) :
    Except Fault (Option Operand × State) :=
  (work state.fetchWord.1).map fun operand => (some operand, state.fetchWord.2)

def resolve (state : State) (mode : Mode) : Except Fault (Option Operand × State) :=
  match mode with
  | .implied => .ok (none, state)
  | .accumulator => .ok (some (.register .a), state)
  | .immediate => state.resolveByte byteOperand
  | .zeroPage => state.resolveByte cellOperand
  | .zeroPageX => state.resolveByte fun byte => cellOperand ((byte + state.x) % 256)
  | .zeroPageY => state.resolveByte fun byte => cellOperand ((byte + state.y) % 256)
  | .absolute => state.resolveWord cellOperand
  | .absoluteX => state.resolveWord fun word => cellOperand ((word + state.x) % 65536)
  | .absoluteY => state.resolveWord fun word => cellOperand ((word + state.y) % 65536)
  | .indirect => state.resolveWord fun word =>
    cellOperand (state.readPointer word (lor (land word 0xff00) ((word + 1) % 256)))
  | .indexedIndirect => state.resolveByte fun byte =>
    cellOperand (state.readPointer ((byte + state.x) % 256) (((byte + state.x) % 256 + 1) % 256))
  | .indirectIndexed => state.resolveByte fun byte =>
    cellOperand ((state.readPointer byte ((byte + 1) % 256) + state.y) % 65536)
  | .relative => state.resolveByte fun byte =>
    cellOperand ((state.fetch.2.pc + signedByte byte) % 65536)

def assign (state : State) (target source : Operand) : Except Fault State :=
  state.store target (state.operandByte source)

def assignResult (state : State) (target source : Operand) : Except Fault State := do
  let stored ← state.store target (state.operandByte source)
  stored.flagResult (state.operandByte source)

-- Stores a computed byte, which has to pass as an operand first.
def assignNumber (state : State) (target : Operand) (number : Int) : Except Fault State := do
  let source ← byteOperand number
  state.assignResult target source

def setResult (state : State) (register : Register) (number : Int) : Except Fault State :=
  (state.setRegister register number).flagResult number

def add (state : State) (number : Int) : Except Fault State := do
  let total := state.a + number + land state.flags (mask .carry)
  let result := total % 256
  let flagged ← state.flagResult result
  let overflow := isSet (Int.xor state.a result) 0x80 && !isSet (Int.xor state.a number) 0x80
  let flagged := (flagged.putFlag .overflow overflow).putFlag .carry (255 < total)
  return { flagged with a := result }

-- The shifted number before it is cut to a byte: 9 bits, with the outgoing bit at one end.
def widened (kind : Shift) (number : Int) (carry : Bool) : Int :=
  match kind with
  | .shiftLeft => 2 * number
  | .rotateLeft => if carry then lor (2 * number) 1 else 2 * number
  | .shiftRight => number
  | .rotateRight => if carry then lor number 0x100 else number

def outgoing (kind : Shift) (wide : Int) : Bool :=
  match kind with
  | .shiftLeft | .rotateLeft => isSet wide 0x100
  | .shiftRight | .rotateRight => isSet wide 1

def narrowed (kind : Shift) (wide : Int) : Int :=
  match kind with
  | .shiftLeft | .rotateLeft => wide % 256
  | .shiftRight | .rotateRight => wide / 2

def shift (state : State) (kind : Shift) (operand : Operand) : Except Fault State :=
  let wide := widened kind (state.operandByte operand) (isSet state.flags (mask .carry))
  (state.putFlag .carry (outgoing kind wide)).assignNumber operand (narrowed kind wide)

def combined (bitwise : Bitwise) (left right : Int) : Int :=
  match bitwise with
  | .and => land left right
  | .or => lor left right
  | .xor => Int.xor left right

def jump (state : State) (operand : Operand) : Except Fault State :=
  operand.target.map fun address => { state with pc := address.toNat }

def call (state : State) (operand : Operand) : Except Fault State :=
  let back := (state.pc - 1) % 65536
  ((state.push (back / 256)).push (back % 256)).jump operand

def returnFromCall (state : State) : State :=
  { state.pullWord.2 with pc := (state.pullWord.1 + 1) % 65536 }

def pullStatus (state : State) : State :=
  { state.pull.2 with flags := pulledBits state.pull.1 }

def returnFromInterrupt (state : State) : State :=
  { state.pullStatus.pullWord.2 with pc := state.pullStatus.pullWord.1 }

def saveState (state : State) : State :=
  let back := (state.pc + 1) % 65536
  ((state.push (back / 256)).push (back % 256)).push (pushedBits state.flags)

def interrupt (state : State) : Except Fault State :=
  let flags := if state.settings.enabled Core.breakPushesState then state.flags
    else lor state.flags (mask .brk)
  let entered := if state.settings.enabled Core.breakPushesState then state.saveState else state
  (entered.readWord Layout.interruptVector.toNat).map fun word =>
    { entered with
      pc := word
      flags := lor flags (mask .interrupt + mask .unused) }

def pullAccumulator (state : State) : Except Fault State :=
  state.pull.2.assignNumber (.register .a) state.pull.1

def onOperand (operand : Option Operand) (work : Operand → Except Fault State) :
    Except Fault State :=
  operand.elim (.error .operandMissing) work

def run (state : State) (operation : Operation) (operand : Option Operand) : Except Fault State :=
  match operation with
  | .add => onOperand operand fun operand => state.add (state.operandByte operand)
  | .subtract => onOperand operand fun operand =>
    state.add (Int.xor (state.operandByte operand) 0xff)
  | .combine bitwise => onOperand operand fun operand =>
    state.setResult .a (combined bitwise state.a (state.operandByte operand))
  | .testBits => onOperand operand fun operand =>
    .ok { state with flags := testBits state.flags state.a (state.operandByte operand) }
  | .compare register => onOperand operand fun operand =>
    .ok { state with
      flags := comparisonBits state.flags (state.register register) (state.operandByte operand) }
  | .shift kind => onOperand operand (state.shift kind)
  | .adjust change => onOperand operand fun operand =>
    state.assignNumber operand ((state.operandByte operand + change.toInt) % 256)
  | .adjustRegister register change =>
    state.setResult register ((state.register register + change.toInt) % 256)
  | .load register => onOperand operand (state.assignResult (.register register))
  | .store register => onOperand operand fun operand => state.assign operand (.register register)
  | .transfer source .sp => state.assign (.register .sp) (.register source)
  | .transfer source target => state.assignResult (.register target) (.register source)
  | .branch flag wanted => onOperand operand fun operand =>
    if isSet state.flags (mask flag) = wanted then state.jump operand else .ok state
  | .jump => onOperand operand state.jump
  | .call => onOperand operand state.call
  | .returnFromCall => .ok state.returnFromCall
  | .returnFromInterrupt => .ok state.returnFromInterrupt
  | .interrupt => state.interrupt
  | .pushAccumulator => .ok (state.push state.a)
  | .pushStatus => .ok (state.push (pushedBits state.flags))
  | .pullAccumulator => state.pullAccumulator
  | .pullStatus => .ok state.pullStatus
  | .putFlag flag on => .ok (state.putFlag flag on)
  | .nothing => .ok state

def execute (state : State) (instruction : Instruction) : Except Fault State := do
  let (operand, resolved) ← state.resolve instruction.mode
  resolved.run instruction.mnemonic.operation operand

-- A fault within a body leaves the machine where the body began.
def step (state : State) : State × Option Fault :=
  let opcode := state.read state.pc
  let fetched := state.fetch.2
  match Instruction.decode (.wrap opcode) with
  | none => (fetched, some (.unimplementedOpcode opcode (some ((fetched.pc - 1) % 65536))))
  | some instruction =>
    let begun := { fetched with lastInstruction := some opcode }
    match begun.execute instruction with
    | .ok finished =>
      ({ finished with instructionCount := finished.instructionCount + 1 }, none)
    | .error fault => (begun, some fault)

def reset (state : State) : Except Fault State :=
  (state.readWord Layout.resetVector.toNat).map fun word =>
    { state with
      a := 0
      x := 0
      y := 0
      sp := Layout.resetStackPointer.toNat
      flags := Layout.resetStatus.toNat
      pc := word
      lastInstruction := none
      instructionCount := 0 }

end State

end Mos6502.Unbounded
