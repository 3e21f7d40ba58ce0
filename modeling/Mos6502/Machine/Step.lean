import Mos6502.Instruction.Opcodes
import Mos6502.Machine.Execute

set_option autoImplicit false

namespace Mos6502

def Instruction.execute (instruction : Instruction) (machine : Machine) : Effect :=
  let resolved := instruction.mode.resolve machine
  instruction.mnemonic.operation.run resolved.1 resolved.2

-- Only work without a fault counts as an instruction.
def Effect.counted (effect : Effect) : Effect :=
  match effect.fault with
  | some _ => effect
  | none =>
    { machine :=
        { effect.machine with instructionCount := effect.machine.instructionCount + 1 } }

structure Outcome extends Effect where
  printed : List String := []

namespace Machine

-- An opcode that is not official moves the program counter and nothing else.
def cycle (machine : Machine) : Effect :=
  let opcode := machine.fetch.1
  let fetched := machine.fetch.2
  match Instruction.decode opcode with
  | none =>
    { machine := fetched
      fault := some (.unimplementedOpcode opcode.toNat (some machine.pc.toNat)) }
  | some instruction =>
    (instruction.execute { fetched with lastInstruction := some opcode }).counted

theorem cycle_of_decode {machine : Machine} {instruction : Instruction}
    (decoded : Instruction.decode (machine.memory.read machine.pc) = some instruction) :
    machine.cycle =
      (instruction.execute
        { machine with
          pc := machine.pc + 1
          lastInstruction := some (machine.memory.read machine.pc) }).counted := by
  simp only [cycle, fetch, decoded]

theorem cycle_of_decode_none {machine : Machine}
    (unknown : Instruction.decode (machine.memory.read machine.pc) = none) :
    machine.cycle =
      { machine := { machine with pc := machine.pc + 1 }
        fault := some (.unimplementedOpcode (machine.memory.read machine.pc).toNat
          (some machine.pc.toNat)) } := by
  simp only [cycle, fetch, unknown]

def traceLines (machine : Machine) : List String :=
  if machine.settings.enabled Core.debug then [machine.trace] else []

def step (machine : Machine) : Outcome :=
  { machine.cycle with printed := machine.traceLines }

end Machine

end Mos6502
