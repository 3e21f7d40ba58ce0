import Mos6502.Machine.Step

set_option autoImplicit false

namespace Mos6502

namespace Instruction

theorem decode_eq_none_iff (opcode : Byte) :
    decode opcode = none ↔ opcode ∉ opcodes.map Prod.fst := by
  rw [decode, List.lookup_eq_none_iff, List.mem_map]
  constructor
  next =>
    rintro missed ⟨entry, listed, rfl⟩
    simpa using missed entry listed
  next =>
    intro absent entry listed
    have different : opcode ≠ entry.1 := fun same => absent ⟨entry, listed, same.symm⟩
    simpa using different

theorem exists_decode_iff (opcode : Byte) :
    (∃ instruction, decode opcode = some instruction) ↔ opcode ∈ opcodes.map Prod.fst := by
  rw [← Option.ne_none_iff_exists', ne_eq, decode_eq_none_iff, Decidable.not_not]

end Instruction

namespace Mode

def operand (mode : Mode) (machine : Machine) : Option Operand :=
  (mode.resolve machine).1

theorem resolve_machine (mode : Mode) (machine : Machine) :
    (mode.resolve machine).2 =
      { machine with pc := machine.pc + BitVec.ofNat 16 mode.operandBytes } := by
  cases mode <;>
    simp [resolve, fromByte, fromWord, Machine.fetchWord, Machine.fetch, operandBytes,
      BitVec.add_assoc]

end Mode

namespace Machine

def opcode (machine : Machine) : Byte :=
  machine.memory.read machine.pc

def instruction? (machine : Machine) : Option Instruction :=
  Instruction.decode machine.opcode

def pastOpcode (machine : Machine) : Machine :=
  { machine with
    pc := machine.pc + 1
    lastInstruction := some machine.opcode }

-- Past the operand bytes too, where the body of the instruction works.
def pastOperand (machine : Machine) (mode : Mode) : Machine :=
  { machine.pastOpcode with pc := machine.pc + 1 + BitVec.ofNat 16 mode.operandBytes }

def operand (machine : Machine) (mode : Mode) : Option Operand :=
  mode.operand machine.pastOpcode

def body (machine : Machine) (instruction : Instruction) : Effect :=
  instruction.mnemonic.operation.run (machine.operand instruction.mode)
    (machine.pastOperand instruction.mode)

theorem step_eq_body {machine : Machine} {instruction : Instruction}
    (decoded : machine.instruction? = some instruction) :
    machine.step.toEffect = (machine.body instruction).counted := by
  have shape := instruction.mode.resolve_machine machine.pastOpcode
  rw [step, cycle_of_decode decoded]
  change (instruction.execute machine.pastOpcode).counted = _
  simp only [Instruction.execute, shape]
  rfl

theorem step_eq_refused {machine : Machine} (unknown : machine.instruction? = none) :
    machine.step.toEffect =
      { machine := { machine with pc := machine.pc + 1 }
        fault := some (.unimplementedOpcode machine.opcode.toNat (some machine.pc.toNat)) } :=
  cycle_of_decode_none unknown

end Machine

end Mos6502
