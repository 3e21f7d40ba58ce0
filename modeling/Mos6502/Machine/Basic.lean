import Mos6502.Core
import Mos6502.Memory
import Mos6502.Operand

set_option autoImplicit false

namespace Mos6502

structure Machine extends Core where
  memory : Memory

-- What is left of a machine, whether or not a fault ended the work on it.
structure Effect where
  machine : Machine
  fault : Option Fault := none

def Effect.attempt (machine : Machine) (result : Except Fault Machine) : Effect :=
  match result with
  | .ok changed => { machine := changed }
  | .error fault => { machine := machine, fault := some fault }

namespace Machine

def create (options : List (String × Value) := []) : Except Fault Machine :=
  (Core.create options).map fun core => { core with memory := Memory.blank }

def reset (machine : Machine) : Machine :=
  { machine with
    toCore :=
      { pc := machine.memory.readWord Layout.resetVector
        settings := machine.settings } }

def write (machine : Machine) (address : Address) (value : Byte) : Machine :=
  { machine with memory := machine.memory.write address value }

def fetch (machine : Machine) : Byte × Machine :=
  (machine.memory.read machine.pc, { machine with pc := machine.pc + 1 })

def fetchWord (machine : Machine) : Address × Machine :=
  let low := machine.fetch
  let high := low.2.fetch
  (.ofBytes low.1 high.1, high.2)

def push (machine : Machine) (value : Byte) : Machine :=
  { machine with
    memory := machine.memory.write (Layout.stackCell machine.sp) value
    sp := machine.sp - 1 }

def pull (machine : Machine) : Byte × Machine :=
  (machine.memory.read (Layout.stackCell (machine.sp + 1)), { machine with sp := machine.sp + 1 })

def pushWord (machine : Machine) (word : Address) : Machine :=
  (machine.push word.high).push word.low

def pullWord (machine : Machine) : Address × Machine :=
  let low := machine.pull
  let high := low.2.pull
  (.ofBytes low.1 high.1, high.2)

def setRegister (machine : Machine) (register : Register) (value : Byte) : Machine :=
  { machine with toCore := machine.toCore.setRegister register value }

def putFlag (machine : Machine) (flag : Flag) (on : Bool) : Machine :=
  { machine with status := machine.status.put flag on }

def assignFlags (machine : Machine) (mask : Byte) (on : Bool) : Machine :=
  { machine with status := machine.status.assign mask on }

def flagResult (machine : Machine) (result : Byte) : Machine :=
  { machine with status := machine.status.withResult result }

def flagNumber (machine : Machine) (number : Int) : Except Fault Machine :=
  if 0 ≤ number ∧ number ≤ 255 then .ok (machine.flagResult (.wrap number))
  else .error .flagsOfNonByte

def operandByte (machine : Machine) : Operand → Byte
  | .register register => machine.register register
  | .byte value => value
  | .location address => machine.memory.read address

def store (machine : Machine) (operand : Operand) (value : Byte) : Except Fault Machine :=
  match operand with
  | .register register => .ok (machine.setRegister register value)
  | .byte _ => .error .storeIntoByte
  | .location address => .ok (machine.write address value)

def assign (machine : Machine) (operand : Operand) (value : Byte) : Effect :=
  .attempt machine (machine.store operand value)

def assignResult (machine : Machine) (operand : Operand) (value : Byte) : Effect :=
  .attempt machine ((machine.store operand value).map (·.flagResult value))

def jump (machine : Machine) (operand : Operand) : Effect :=
  .attempt machine (operand.target.map fun address => { machine with pc := address })

def branchIf (machine : Machine) (condition : Bool) (operand : Operand) : Effect :=
  if condition then machine.jump operand else { machine := machine }

def dumpStack (machine : Machine) : List String :=
  machine.memory.dump Layout.stackPage.toNat 256 ++
    ["current stack pointer $" ++ Text.hex 2 machine.sp.toNat]

theorem operandByte_store {machine stored : Machine} {operand : Operand} {value : Byte}
    (success : machine.store operand value = .ok stored) :
    stored.operandByte operand = value := by
  cases operand with
  | register register =>
    obtain rfl : machine.setRegister register value = stored := by simpa [store] using success
    simp [operandByte, setRegister, Core.register_setRegister]
  | byte _ => simp [store] at success
  | location address =>
    obtain rfl : machine.write address value = stored := by simpa [store] using success
    simp [operandByte, write]

end Machine

end Mos6502
