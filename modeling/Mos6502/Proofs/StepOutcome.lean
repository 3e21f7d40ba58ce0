import Mos6502.Proofs.Footprint

set_option autoImplicit false

namespace Mos6502

namespace Mode

-- The value in the operand means nothing.
def form : Mode → Option Operand
  | .implied => none
  | .accumulator => some (.register .a)
  | .immediate => some (.byte 0)
  | .zeroPage | .zeroPageX | .zeroPageY | .absolute | .absoluteX | .absoluteY | .indirect
  | .indexedIndirect | .indirectIndexed | .relative => some (.location 0)

theorem isSome_operand (mode : Mode) (machine : Machine) :
    (mode.operand machine).isSome = mode.form.isSome := by
  cases mode <;> rfl

theorem any_storable_operand (mode : Mode) (machine : Machine) :
    (mode.operand machine).any Operand.storable = mode.form.any Operand.storable := by
  cases mode <;> rfl

theorem any_reachable_operand (mode : Mode) (machine : Machine) :
    (mode.operand machine).any Operand.reachable = mode.form.any Operand.reachable := by
  cases mode <;> rfl

theorem accepts_operand (operation : Operation) (mode : Mode) (machine : Machine) :
    operation.accepts (mode.operand machine) = operation.accepts mode.form := by
  cases operation
  case add | subtract | combine | testBits | compare | load =>
    exact mode.isSome_operand machine
  case shift | adjust | store => exact mode.any_storable_operand machine
  case branch | jump | call => exact mode.any_reachable_operand machine
  all_goals rfl

end Mode

theorem Mnemonic.operation_interrupt {mnemonic : Mnemonic} :
    mnemonic.operation = .interrupt ↔ mnemonic = .brk := by
  cases mnemonic <;> simp [operation]

namespace Instruction

variable {opcode : Byte} {instruction : Instruction}

-- No official opcode pairs an operation with a mode whose operand it cannot take.
theorem accepts_of_decode (decoded : decode opcode = some instruction) (machine : Machine) :
    instruction.mnemonic.operation.accepts (instruction.mode.operand machine) := by
  have every : ∀ entry ∈ opcodes, entry.2.mnemonic.operation.accepts entry.2.mode.form := by
    decide +kernel
  rw [Mode.accepts_operand]
  exact every (opcode, instruction) (mem_of_decode decoded)

theorem opcode_of_interrupt (decoded : decode opcode = some instruction)
    (breaks : instruction.mnemonic.operation = .interrupt) : opcode = 0 := by
  have every : ∀ entry ∈ opcodes, entry.2.mnemonic = .brk → entry.1 = 0 := by
    decide +kernel
  exact every (opcode, instruction) (mem_of_decode decoded) (Mnemonic.operation_interrupt.mp breaks)

end Instruction

theorem Effect.counted_of_fault {effect : Effect} (success : effect.fault = none) :
    effect.counted =
      { machine :=
          { effect.machine with instructionCount := effect.machine.instructionCount + 1 } } := by
  rw [counted, success]

namespace Machine

variable {machine : Machine} {instruction : Instruction}

theorem completes_body (decoded : machine.instruction? = some instruction) :
    instruction.mnemonic.operation.Completes (machine.operand instruction.mode)
      (machine.pastOperand instruction.mode) (machine.body instruction) :=
  Operation.completes (Instruction.accepts_of_decode decoded machine.pastOpcode) _

theorem step_of_decode (decoded : machine.instruction? = some instruction) :
    machine.step.toEffect =
      { machine :=
          { (machine.body instruction).machine with
            instructionCount := machine.instructionCount + 1 } } := by
  have spec := completes_body decoded
  have count : (machine.body instruction).machine.instructionCount = machine.instructionCount :=
    congrArg (·.2.1) spec.ledger
  rw [step_eq_body decoded, Effect.counted_of_fault spec.fault, count]

theorem machine_step_of_decode (decoded : machine.instruction? = some instruction) :
    machine.step.machine =
      { (machine.body instruction).machine with
        instructionCount := machine.instructionCount + 1 } :=
  congrArg Effect.machine (step_of_decode decoded)

theorem ledger_step (decoded : machine.instruction? = some instruction) :
    machine.step.machine.ledger =
      (some machine.opcode, machine.instructionCount + 1, machine.settings) := by
  have spec := (completes_body decoded).ledger
  rw [machine_step_of_decode decoded]
  exact Prod.ext (congrArg (·.1) spec) (Prod.ext rfl (congrArg (·.2.2) spec))

theorem pc_step (decoded : machine.instruction? = some instruction)
    (stays : instruction.mnemonic.operation.jumps machine.status = false) :
    machine.step.machine.pc = (machine.pastOperand instruction.mode).pc := by
  rw [machine_step_of_decode decoded]
  exact (completes_body decoded).pc stays

theorem settings_step (machine : Machine) : machine.step.machine.settings = machine.settings := by
  cases found : machine.instruction? with
  | some instruction => exact congrArg (·.2.2) (ledger_step found)
  | none => exact congrArg (·.machine.settings) (step_eq_refused found)

def afterBreak (machine : Machine) (saves : Bool) : Machine :=
  let marked :=
    if saves then
      machine.pushAll [(machine.pc + 2).high, (machine.pc + 2).low, machine.status.pushed]
    else machine.putFlag .brk true
  { marked with
    status := marked.status.put .interrupt true
    pc := machine.memory.readWord Layout.interruptVector
    lastInstruction := some 0
    instructionCount := machine.instructionCount + 1 }

theorem step_break (breaks : machine.opcode = 0) :
    machine.step.toEffect =
      { machine := machine.afterBreak (machine.settings.enabled Core.breakPushesState) } := by
  have found : machine.instruction? = some ⟨.brk, .implied⟩ :=
    congrArg Instruction.decode breaks
  have padded : machine.pc + 1 + 0 + 1 = machine.pc + 2 := by bv_omega
  have body : (machine.body ⟨.brk, .implied⟩).machine = (machine.pastOperand .implied).interrupt :=
    rfl
  rw [step_of_decode found, body, afterBreak, ← breaks]
  cases saving : machine.settings.enabled Core.breakPushesState with
  | true =>
    have saves : (machine.pastOperand .implied).settings.enabled Core.breakPushesState := saving
    rw [interrupt_of_saves saves, saveState_eq_pushAll, readWord_pushAll, ← padded]
    rfl
  | false =>
    have ignores : (machine.pastOperand .implied).settings.enabled Core.breakPushesState = false :=
      saving
    rw [interrupt_of_ignores ignores]
    rfl

end Machine

end Mos6502
