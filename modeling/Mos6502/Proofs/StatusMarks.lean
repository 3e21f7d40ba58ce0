import Mos6502.Proofs.StepOutcome

set_option autoImplicit false

namespace Mos6502

open Arithmetic

-- A write to the status: the new value of each flag that it sets, and nothing for the others.
abbrev Marks := Flag → Option Bool

namespace Marks

def still : Marks :=
  fun _ => none

def withFlag (marks : Marks) (flag : Flag) (on : Bool) : Marks :=
  fun other => if other = flag then some on else marks other

def ofFlag (flag : Flag) (on : Bool) : Marks :=
  (still.withFlag flag on).withFlag .unused true

def ofResult (result : Byte) : Marks
  | .negative => some result.msb
  | .zero => some (result == 0)
  | .unused => some true
  | _ => none

def ofSum (sum : Sum) : Marks :=
  ((ofResult sum.result).withFlag .overflow sum.overflow).withFlag .carry sum.carry

def ofBits (value accumulator : Byte) : Marks
  | .negative => some (value.getLsbD 7)
  | .overflow => some (value.getLsbD 6)
  | .zero => some (value &&& accumulator == 0)
  | .unused => some true
  | _ => none

def ofPulled (byte : Byte) : Marks :=
  fun flag => some ((Status.ofPulled byte).get flag)

end Marks

namespace Flag

-- What a pushed status tells of the live one; its other two bits are always set.
def shown : List Flag :=
  [.negative, .overflow, .decimal, .interrupt, .zero, .carry]

end Flag

namespace Status

def mark (status : Status) (marks : Marks) : Status where
  negative := (marks .negative).getD status.negative
  overflow := (marks .overflow).getD status.overflow
  unused := (marks .unused).getD status.unused
  brk := (marks .brk).getD status.brk
  decimal := (marks .decimal).getD status.decimal
  interrupt := (marks .interrupt).getD status.interrupt
  zero := (marks .zero).getD status.zero
  carry := (marks .carry).getD status.carry

@[simp] theorem get_mark (status : Status) (marks : Marks) (flag : Flag) :
    (status.mark marks).get flag = (marks flag).getD (status.get flag) := by
  cases flag <;> rfl

@[simp] theorem mark_still (status : Status) : status.mark .still = status := rfl

theorem pushed_congr {left right : Status}
    (same : ∀ flag ∈ Flag.shown, left.get flag = right.get flag) : left.pushed = right.pushed := by
  have negative := same .negative (by decide)
  have overflow := same .overflow (by decide)
  have decimal := same .decimal (by decide)
  have interrupt := same .interrupt (by decide)
  have zero := same .zero (by decide)
  have carry := same .carry (by decide)
  simp only [get] at negative overflow decimal interrupt zero carry
  simp only [pushed, negative, overflow, decimal, interrupt, zero, carry]

end Status

namespace Operation

def consults (operation : Operation) (saves : Bool) : List Flag :=
  match operation with
  | .add | .subtract | .shift .rotateLeft | .shift .rotateRight => [.carry]
  | .branch flag _ => [flag]
  | .pushStatus => Flag.shown
  | .interrupt => if saves then Flag.shown else []
  | _ => []

def marks (operation : Operation) (value : Byte) (machine : Machine) : Marks :=
  match operation with
  | .add => .ofSum (addWithCarry machine.a value machine.status.carry)
  | .subtract => .ofSum (addWithCarry machine.a (~~~value) machine.status.carry)
  | .combine bitwise => .ofResult (bitwise.apply machine.a value)
  | .testBits => .ofBits value machine.a
  | .compare register =>
    (Marks.ofResult (machine.register register - value)).withFlag .carry
      (value ≤ machine.register register)
  | .shift kind =>
    (Marks.ofResult (kind.apply value machine.status.carry)).withFlag .carry (kind.outgoing value)
  | .adjust change => .ofResult (value + change)
  | .adjustRegister register change => .ofResult (machine.register register + change)
  | .load _ => .ofResult value
  | .transfer _ .sp => .still
  | .transfer source _ => .ofResult (machine.register source)
  | .pullAccumulator => .ofResult machine.pull.1
  | .pullStatus | .returnFromInterrupt => .ofPulled machine.pull.1
  | .interrupt =>
    if machine.settings.enabled Core.breakPushesState then .ofFlag .interrupt true
    else (Marks.ofFlag .interrupt true).withFlag .brk true
  | .putFlag flag on => .ofFlag flag on
  | .store _ | .branch .. | .jump | .call | .returnFromCall | .pushAccumulator | .pushStatus
  | .nothing => .still

end Operation

namespace Machine

def withStatus (machine : Machine) (status : Status) : Machine :=
  { machine with status := status }

def withSettings (machine : Machine) (settings : Settings) : Machine :=
  { machine with settings := settings }

def recast (machine : Machine) (status : Status) (settings : Settings) : Machine :=
  (machine.withStatus status).withSettings settings

def operandValue (machine : Machine) (operand : Option Operand) : Byte :=
  operand.elim 0 machine.operandByte

section Recast

variable {machine : Machine} {status : Status} {settings : Settings}

theorem stored_recast (operand : Operand) (value : Byte) :
    (machine.recast status settings).stored operand value =
      (machine.stored operand value).recast status settings := by
  cases operand with
  | register register => cases register <;> rfl
  | byte _ => rfl
  | location _ => rfl

theorem operandByte_recast (operand : Operand) :
    (machine.recast status settings).operandByte operand = machine.operandByte operand := by
  cases operand with
  | register register => cases register <;> rfl
  | byte _ => rfl
  | location _ => rfl

theorem setResult_recast (register : Register) (value : Byte) :
    (machine.recast status settings).setResult register value =
      (machine.setResult register value).recast (status.mark (.ofResult value)) settings := by
  cases register <;> rfl

end Recast

end Machine

namespace Operation

variable {operation : Operation} {operand : Option Operand} {status : Status}
  {settings : Settings}

theorem run_recast (accepted : operation.accepts operand) (machine : Machine)
    (saves : operation = .interrupt → settings.enabled Core.breakPushesState =
      machine.settings.enabled Core.breakPushesState)
    (consulted : ∀ flag ∈ operation.consults (machine.settings.enabled Core.breakPushesState),
      status.get flag = machine.status.get flag) :
    operation.run operand (machine.recast status settings) =
      { machine := (operation.run operand machine).machine.recast
          (status.mark (operation.marks (machine.operandValue operand) machine)) settings } := by
  cases operation
  case add | subtract =>
    obtain ⟨operand, rfl⟩ := Option.isSome_iff_exists.mp accepted
    have carry : status.carry = machine.status.carry := consulted .carry (by simp [consults])
    simp only [run, onByte, onOperand, Machine.add, Machine.recast, Machine.withStatus,
      Machine.withSettings, carry]
    rfl
  case combine | testBits | compare =>
    obtain ⟨operand, rfl⟩ := Option.isSome_iff_exists.mp accepted
    simp only [run, onByte, onOperand, Machine.operandByte_recast]
    rfl
  case load register =>
    obtain ⟨operand, rfl⟩ := Option.isSome_iff_exists.mp accepted
    simp only [run, onByte, onOperand, Machine.operandByte_recast, Machine.setResult_recast]
    rfl
  case shift kind =>
    obtain ⟨operand, rfl, storable⟩ := (Option.any_eq_true _ _).mp accepted
    have same : kind.apply (machine.operandByte operand) status.carry =
        kind.apply (machine.operandByte operand) machine.status.carry := by
      cases kind
      case shiftLeft | shiftRight => rfl
      case rotateLeft | rotateRight =>
        have carry : status.carry = machine.status.carry := consulted .carry (by simp [consults])
        rw [carry]
    have current : (machine.recast status settings).status = status := rfl
    simp only [run, onOperand, Machine.shift_of_storable storable, Machine.operandByte_recast,
      same, current]
    cases operand with
    | register register => cases register <;> rfl
    | byte _ => rfl
    | location _ => rfl
  case adjust change =>
    obtain ⟨operand, rfl, storable⟩ := (Option.any_eq_true _ _).mp accepted
    simp only [run, onOperand, Machine.assignResult_of_storable storable,
      Machine.operandByte_recast, Machine.stored_recast]
    rfl
  case store register =>
    obtain ⟨operand, rfl, storable⟩ := (Option.any_eq_true _ _).mp accepted
    simp only [run, onOperand, Machine.assign_of_storable storable, Machine.stored_recast]
    cases register <;> rfl
  case adjustRegister register change =>
    cases register <;> rfl
  case transfer source target => cases source <;> cases target <;> rfl
  case branch flag wanted =>
    obtain ⟨operand, rfl, reachable⟩ := (Option.any_eq_true _ _).mp accepted
    obtain ⟨address, found⟩ := Machine.target_of_reachable reachable
    have current : (machine.recast status settings).status.get flag = machine.status.get flag :=
      consulted flag (by simp [consults])
    simp only [run, onOperand, Machine.branchIf_of_target found, current]
    rfl
  case jump =>
    obtain ⟨operand, rfl, reachable⟩ := (Option.any_eq_true _ _).mp accepted
    obtain ⟨address, found⟩ := Machine.target_of_reachable reachable
    simp only [run, onOperand, Machine.jump_of_target found]
    rfl
  case call =>
    obtain ⟨operand, rfl, reachable⟩ := (Option.any_eq_true _ _).mp accepted
    obtain ⟨address, found⟩ := Machine.target_of_reachable reachable
    simp only [run, onOperand, Machine.call_of_target found]
    rfl
  case returnFromCall | returnFromInterrupt | pushAccumulator | pullAccumulator | pullStatus
    | nothing => rfl
  case pushStatus =>
    have pushed : (machine.recast status settings).status.pushed = machine.status.pushed :=
      Status.pushed_congr consulted
    simp only [run, pushed]
    rfl
  case putFlag flag on => cases flag <;> rfl
  case interrupt =>
    by_cases saving : machine.settings.enabled Core.breakPushesState
    next =>
      have recastSaving : (machine.recast status settings).settings.enabled Core.breakPushesState :=
        (saves rfl).trans saving
      have shown : ∀ flag ∈ Flag.shown, status.get flag = machine.status.get flag := by
        simpa only [consults, saving, if_true] using consulted
      have pushed : (machine.recast status settings).status.pushed = machine.status.pushed :=
        Status.pushed_congr shown
      simp only [run, marks, if_pos saving, Machine.interrupt_of_saves saving,
        Machine.interrupt_of_saves recastSaving, Machine.saveState, pushed]
      rfl
    next =>
      have ignores : machine.settings.enabled Core.breakPushesState = false := by simpa using saving
      have recastIgnores :
          (machine.recast status settings).settings.enabled Core.breakPushesState = false :=
        (saves rfl).trans ignores
      simp only [run, marks, if_neg saving, Machine.interrupt_of_ignores ignores,
        Machine.interrupt_of_ignores recastIgnores]
      rfl

end Operation

namespace Machine

def consults (machine : Machine) : List Flag :=
  machine.instruction?.elim [] fun instruction =>
    instruction.mnemonic.operation.consults (machine.settings.enabled Core.breakPushesState)

def marks (machine : Machine) : Marks :=
  machine.instruction?.elim .still fun instruction =>
    let past := machine.pastOperand instruction.mode
    instruction.mnemonic.operation.marks (past.operandValue (machine.operand instruction.mode)) past

variable (machine : Machine) {status : Status} {settings : Settings}

theorem mem_consults {flag : Flag} :
    flag ∈ machine.consults ↔ ∃ instruction ∈ machine.instruction?,
      flag ∈ instruction.mnemonic.operation.consults
        (machine.settings.enabled Core.breakPushesState) := by
  rw [consults]
  cases machine.instruction? <;> simp

theorem body_recast {instruction : Instruction} (decoded : machine.instruction? = some instruction)
    (saves : instruction.mnemonic.operation = .interrupt →
      settings.enabled Core.breakPushesState = machine.settings.enabled Core.breakPushesState)
    (consulted : ∀ flag ∈ machine.consults, status.get flag = machine.status.get flag) :
    (machine.recast status settings).body instruction =
      { machine :=
          (machine.body instruction).machine.recast (status.mark machine.marks) settings } := by
  have accepted := Instruction.accepts_of_decode decoded machine.pastOpcode
  have operand : (machine.recast status settings).operand instruction.mode =
      machine.operand instruction.mode := by
    rw [Machine.operand, Machine.operand]
    cases instruction.mode <;> rfl
  simp only [consults, decoded, Option.elim_some] at consulted
  simp only [body, operand, marks, decoded, Option.elim_some]
  exact Operation.run_recast accepted (machine.pastOperand instruction.mode) saves consulted

-- Of the settings a step reads one option, in a break.
theorem step_recast
    (saves : ∀ instruction ∈ machine.instruction?, instruction.mnemonic.operation = .interrupt →
      settings.enabled Core.breakPushesState = machine.settings.enabled Core.breakPushesState)
    (consulted : ∀ flag ∈ machine.consults, status.get flag = machine.status.get flag) :
    (machine.recast status settings).step.toEffect =
      { machine := machine.step.machine.recast (status.mark machine.marks) settings
        fault := machine.step.fault } := by
  have opcode : (machine.recast status settings).instruction? = machine.instruction? := rfl
  cases found : machine.instruction? with
  | none =>
    have still : machine.marks = .still := by simp only [marks, found, Option.elim_none]
    rw [step_eq_refused found, step_eq_refused (opcode.trans found), still]
    rfl
  | some instruction =>
    have body := machine.body_recast found (saves instruction found) consulted
    rw [step_of_decode found, step_of_decode (opcode.trans found), body]
    rfl

theorem status_step :
    machine.step.machine.status = machine.status.mark machine.marks := by
  have same : machine.recast machine.status machine.settings = machine := rfl
  have stepped := machine.step_recast (fun _ _ _ => rfl) fun flag _ => rfl
  rw [same] at stepped
  exact congrArg (·.machine.status) stepped

theorem step_withSettings
    (saves : ∀ instruction ∈ machine.instruction?, instruction.mnemonic.operation = .interrupt →
      settings.enabled Core.breakPushesState = machine.settings.enabled Core.breakPushesState) :
    (machine.withSettings settings).step.toEffect =
      { machine := machine.step.machine.withSettings settings, fault := machine.step.fault } := by
  have stepped := machine.step_recast saves fun flag _ => rfl
  rw [← status_step] at stepped
  exact stepped

end Machine

end Mos6502
