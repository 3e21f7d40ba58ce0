import Mos6502.Instruction.Operation
import Mos6502.Machine.Basic

set_option autoImplicit false

namespace Mos6502

namespace Machine

open Arithmetic

def setResult (machine : Machine) (register : Register) (value : Byte) : Machine :=
  (machine.setRegister register value).flagResult value

def add (machine : Machine) (value : Byte) : Machine :=
  let sum := addWithCarry machine.a value machine.status.carry
  { machine with
    a := sum.result
    status :=
      { machine.status.withResult sum.result with
        overflow := sum.overflow
        carry := sum.carry } }

-- The carry is the absence of a borrow.
def compare (machine : Machine) (left right : Byte) : Machine :=
  { machine with
    status :=
      { machine.status.withResult (left - right) with
        carry := right ≤ left } }

def testBits (machine : Machine) (value : Byte) : Machine :=
  { machine with
    status :=
      { machine.status with
        negative := value.getLsbD 7
        overflow := value.getLsbD 6
        zero := value &&& machine.a == 0
        unused := true } }

def shift (machine : Machine) (kind : Shift) (operand : Operand) : Effect :=
  let value := machine.operandByte operand
  -- the carry changes first, and stays changed where the store fails
  (machine.putFlag .carry (kind.outgoing value)).assignResult operand
    (kind.apply value machine.status.carry)

def transfer (machine : Machine) (source target : Register) : Machine :=
  match target with
  -- the stack pointer is no result: the flags stay
  | .sp => machine.setRegister .sp (machine.register source)
  | _ => machine.setResult target (machine.register source)

def call (machine : Machine) (operand : Operand) : Effect :=
  -- the stack keeps the address of the last byte of the call
  .attempt machine (operand.target.map fun address =>
    { machine.pushWord (machine.pc - 1) with pc := address })

def returnFromCall (machine : Machine) : Machine :=
  { machine.pullWord.2 with pc := machine.pullWord.1 + 1 }

def pullStatus (machine : Machine) : Machine :=
  { machine.pull.2 with status := .ofPulled machine.pull.1 }

def returnFromInterrupt (machine : Machine) : Machine :=
  let flagged := machine.pullStatus
  { flagged.pullWord.2 with pc := flagged.pullWord.1 }

def pullAccumulator (machine : Machine) : Machine :=
  machine.pull.2.setResult .a machine.pull.1

def saveState (machine : Machine) : Machine :=
  -- the byte after the opcode is padding
  (machine.pushWord (machine.pc + 1)).push machine.status.pushed

def interrupt (machine : Machine) : Machine :=
  let entered :=
    if machine.settings.enabled Core.breakPushesState then machine.saveState
    else machine.putFlag .brk true
  { entered.putFlag .interrupt true with
    pc := entered.memory.readWord Layout.interruptVector }

end Machine

namespace Operation

def onOperand (machine : Machine) (operand : Option Operand) (work : Operand → Effect) : Effect :=
  match operand with
  | some operand => work operand
  | none => { machine := machine, fault := some .operandMissing }

def onByte (machine : Machine) (operand : Option Operand) (work : Byte → Machine) : Effect :=
  onOperand machine operand fun operand => { machine := work (machine.operandByte operand) }

def run (operation : Operation) (operand : Option Operand) (machine : Machine) : Effect :=
  match operation with
  | .add => onByte machine operand machine.add
  | .subtract => onByte machine operand fun value => machine.add (~~~value)
  | .combine bitwise => onByte machine operand fun value =>
    machine.setResult .a (bitwise.apply machine.a value)
  | .testBits => onByte machine operand machine.testBits
  | .compare register => onByte machine operand (machine.compare (machine.register register))
  | .shift kind => onOperand machine operand (machine.shift kind)
  | .adjust change => onOperand machine operand fun operand =>
    machine.assignResult operand (machine.operandByte operand + change)
  | .adjustRegister register change =>
    { machine := machine.setResult register (machine.register register + change) }
  | .load register => onByte machine operand (machine.setResult register)
  | .store register => onOperand machine operand fun operand =>
    machine.assign operand (machine.register register)
  | .transfer source target => { machine := machine.transfer source target }
  | .branch flag wanted => onOperand machine operand
    (machine.branchIf (machine.status.get flag == wanted))
  | .jump => onOperand machine operand machine.jump
  | .call => onOperand machine operand machine.call
  | .returnFromCall => { machine := machine.returnFromCall }
  | .returnFromInterrupt => { machine := machine.returnFromInterrupt }
  | .interrupt => { machine := machine.interrupt }
  | .pushAccumulator => { machine := machine.push machine.a }
  | .pushStatus => { machine := machine.push machine.status.pushed }
  | .pullAccumulator => { machine := machine.pullAccumulator }
  | .pullStatus => { machine := machine.pullStatus }
  | .putFlag flag on => { machine := machine.putFlag flag on }
  | .nothing => { machine := machine }

end Operation

end Mos6502
