import Mos6502.Proofs.Bodies
import Mos6502.Proofs.Stack

set_option autoImplicit false

namespace Mos6502

namespace Operand

def address? : Operand → Option Address
  | .location address => some address
  | .register _ | .byte _ => none

end Operand

namespace Core

-- The fields that no body of an instruction touches.
def ledger (core : Core) : Option Byte × Nat × Settings :=
  (core.lastInstruction, core.instructionCount, core.settings)

end Core

namespace Operation

def target (operation : Operation) (operand : Option Operand) : Option Operand :=
  match operation with
  | .add | .subtract | .combine _ | .pullAccumulator => some (.register .a)
  | .load register | .adjustRegister register _ | .transfer _ register => some (.register register)
  | .shift _ | .adjust _ | .store _ => operand
  | _ => none

def pushes (operation : Operation) (settings : Settings) : Nat :=
  match operation with
  | .pushAccumulator | .pushStatus => 1
  | .call => 2
  | .interrupt => if settings.enabled Core.breakPushesState then 3 else 0
  | _ => 0

def pulls : Operation → Nat
  | .pullAccumulator | .pullStatus => 1
  | .returnFromCall => 2
  | .returnFromInterrupt => 3
  | _ => 0

def jumps (operation : Operation) (status : Status) : Bool :=
  match operation with
  | .branch flag wanted => status.get flag == wanted
  | .jump | .call | .returnFromCall | .returnFromInterrupt | .interrupt => true
  | _ => false

def storeAddress (operation : Operation) (operand : Option Operand) : Option Address :=
  (operation.target operand).bind Operand.address?

def writes (operation : Operation) (operand : Option Operand) (machine : Machine) : List Address :=
  (operation.storeAddress operand).toList ++
    Layout.cellsBelow machine.sp (operation.pushes machine.settings)

structure Completes (operation : Operation) (operand : Option Operand) (machine : Machine)
    (effect : Effect) : Prop where
  fault : effect.fault = none
  ledger : effect.machine.ledger = machine.ledger
  pc : operation.jumps machine.status = false → effect.machine.pc = machine.pc
  sp : operation.target operand ≠ some (.register .sp) →
    effect.machine.sp = machine.sp - BitVec.ofNat 8 (operation.pushes machine.settings) +
      BitVec.ofNat 8 operation.pulls
  memory : ∀ address ∉ operation.writes operand machine,
    effect.machine.memory.read address = machine.memory.read address

end Operation

namespace Machine

theorem ledger_setRegister (machine : Machine) (register : Register) (value : Byte) :
    (machine.setRegister register value).ledger = machine.ledger := by
  cases register <;> rfl

theorem pc_setRegister (machine : Machine) (register : Register) (value : Byte) :
    (machine.setRegister register value).pc = machine.pc := by
  cases register <;> rfl

theorem sp_setRegister (machine : Machine) {register : Register} (other : register ≠ .sp)
    (value : Byte) : (machine.setRegister register value).sp = machine.sp := by
  cases register
  case sp => exact absurd rfl other
  all_goals rfl

theorem ledger_stored (machine : Machine) (operand : Operand) (value : Byte) :
    (machine.stored operand value).ledger = machine.ledger := by
  cases operand with
  | register register => exact machine.ledger_setRegister register value
  | byte _ => rfl
  | location _ => rfl

theorem pc_stored (machine : Machine) (operand : Operand) (value : Byte) :
    (machine.stored operand value).pc = machine.pc := by
  cases operand with
  | register register => exact machine.pc_setRegister register value
  | byte _ => rfl
  | location _ => rfl

theorem sp_stored (machine : Machine) {operand : Operand} (other : operand ≠ .register .sp)
    (value : Byte) : (machine.stored operand value).sp = machine.sp := by
  cases operand with
  | register register =>
    exact machine.sp_setRegister (fun same => other (congrArg Operand.register same)) value
  | byte _ => rfl
  | location _ => rfl

theorem status_stored (machine : Machine) (operand : Operand) (value : Byte) :
    (machine.stored operand value).status = machine.status := by
  cases operand with
  | register which => cases which <;> rfl
  | byte _ => rfl
  | location _ => rfl

theorem read_stored (machine : Machine) {operand : Operand} {address : Address}
    (other : operand.address? ≠ some address) (value : Byte) :
    (machine.stored operand value).memory.read address = machine.memory.read address := by
  cases operand with
  | register _ => rfl
  | byte _ => rfl
  | location cell =>
    exact Memory.read_write_ne (fun same => other (congrArg some same.symm)) _ _

end Machine

namespace Operation

variable {operation : Operation} {operand : Option Operand} {machine : Machine} {effect : Effect}

theorem Completes.of_still (noPush : operation.pushes machine.settings = 0)
    (noPull : operation.pulls = 0) (fault : effect.fault = none)
    (ledger : effect.machine.ledger = machine.ledger)
    (pc : operation.jumps machine.status = false → effect.machine.pc = machine.pc)
    (sp : operation.target operand ≠ some (.register .sp) → effect.machine.sp = machine.sp)
    (memory : ∀ address, operation.storeAddress operand ≠ some address →
      effect.machine.memory.read address = machine.memory.read address) :
    operation.Completes operand machine effect where
  fault := fault
  ledger := ledger
  pc := pc
  sp := by
    intro other
    rw [noPush, noPull, sp other]
    simp
  memory := by
    intro address outside
    apply memory
    intro target
    apply outside
    simp [writes, target]

theorem Completes.of_core (noPush : operation.pushes machine.settings = 0)
    (noPull : operation.pulls = 0) (fault : effect.fault = none)
    (ledger : effect.machine.ledger = machine.ledger)
    (pc : operation.jumps machine.status = false → effect.machine.pc = machine.pc)
    (sp : operation.target operand ≠ some (.register .sp) → effect.machine.sp = machine.sp)
    (memory : effect.machine.memory = machine.memory) :
    operation.Completes operand machine effect :=
  .of_still noPush noPull fault ledger pc sp fun address _ => congrArg (·.read address) memory

theorem Completes.of_stored {operand : Operand} (before : Machine) (value : Byte)
    (noPush : operation.pushes machine.settings = 0) (noPull : operation.pulls = 0)
    (target : operation.target (some operand) = some operand)
    (fault : effect.fault = none)
    (ledger : before.ledger = machine.ledger ∧
      effect.machine.ledger = (before.stored operand value).ledger)
    (pc : before.pc = machine.pc ∧ effect.machine.pc = (before.stored operand value).pc)
    (sp : before.sp = machine.sp ∧ effect.machine.sp = (before.stored operand value).sp)
    (memory : before.memory = machine.memory ∧
      effect.machine.memory = (before.stored operand value).memory) :
    operation.Completes (some operand) machine effect := by
  refine .of_still noPush noPull fault ?_ (fun _ => ?_) ?_ ?_
  next => rw [ledger.2, before.ledger_stored, ledger.1]
  next => rw [pc.2, before.pc_stored, pc.1]
  next =>
    intro other
    have elsewhere : operand ≠ .register .sp := by
      intro same
      exact other (target.trans (congrArg some same))
    rw [sp.2, before.sp_stored elsewhere, sp.1]
  next =>
    intro address other
    have elsewhere : operand.address? ≠ some address := by
      simpa [storeAddress, target] using other
    rw [memory.2, before.read_stored elsewhere, memory.1]

theorem Completes.of_pushed (bytes : List Byte)
    (count : operation.pushes machine.settings = bytes.length) (noPull : operation.pulls = 0)
    (fault : effect.fault = none) (ledger : effect.machine.ledger = machine.ledger)
    (pc : operation.jumps machine.status = false → effect.machine.pc = machine.pc)
    (sp : effect.machine.sp = (machine.pushAll bytes).sp)
    (memory : effect.machine.memory = (machine.pushAll bytes).memory) :
    operation.Completes operand machine effect where
  fault := fault
  ledger := ledger
  pc := pc
  sp := by
    intro _
    rw [sp, count, noPull, machine.sp_pushAll]
    simp
  memory := by
    intro address outside
    rw [writes, count, List.mem_append, not_or] at outside
    rw [memory, machine.read_pushAll_outside bytes outside.2]

theorem completes (accepted : operation.accepts operand) (machine : Machine) :
    operation.Completes operand machine (operation.run operand machine) := by
  cases operation
  case add | subtract | testBits | compare =>
    obtain ⟨operand, rfl⟩ := Option.isSome_iff_exists.mp accepted
    exact .of_core rfl rfl rfl rfl (fun _ => rfl) (fun _ => rfl) rfl
  case combine bitwise =>
    obtain ⟨operand, rfl⟩ := Option.isSome_iff_exists.mp accepted
    exact .of_core rfl rfl rfl rfl (fun _ => rfl) (fun _ => rfl) rfl
  case load register =>
    obtain ⟨operand, rfl⟩ := Option.isSome_iff_exists.mp accepted
    refine .of_core rfl rfl rfl (machine.ledger_setRegister register _)
      (fun _ => machine.pc_setRegister register _) ?_ rfl
    intro other
    exact machine.sp_setRegister (fun same => other (by rw [same]; rfl)) _
  case shift kind =>
    obtain ⟨operand, rfl, storable⟩ := (Option.any_eq_true _ _).mp accepted
    rw [run, onOperand, Machine.shift_of_storable storable]
    exact .of_stored (machine.putFlag .carry (kind.outgoing (machine.operandByte operand))) _
      rfl rfl rfl rfl ⟨rfl, rfl⟩ ⟨rfl, rfl⟩ ⟨rfl, rfl⟩ ⟨rfl, rfl⟩
  case adjust change =>
    obtain ⟨operand, rfl, storable⟩ := (Option.any_eq_true _ _).mp accepted
    rw [run, onOperand, Machine.assignResult_of_storable storable]
    exact .of_stored machine _ rfl rfl rfl rfl ⟨rfl, rfl⟩ ⟨rfl, rfl⟩ ⟨rfl, rfl⟩ ⟨rfl, rfl⟩
  case store register =>
    obtain ⟨operand, rfl, storable⟩ := (Option.any_eq_true _ _).mp accepted
    rw [run, onOperand, Machine.assign_of_storable storable]
    exact .of_stored machine _ rfl rfl rfl rfl ⟨rfl, rfl⟩ ⟨rfl, rfl⟩ ⟨rfl, rfl⟩ ⟨rfl, rfl⟩
  case adjustRegister register change =>
    refine .of_core rfl rfl rfl (machine.ledger_setRegister register _)
      (fun _ => machine.pc_setRegister register _) ?_ rfl
    intro other
    exact machine.sp_setRegister (fun same => other (by rw [same]; rfl)) _
  case transfer source register =>
    refine .of_core rfl rfl rfl ?_ (fun _ => ?_) ?_ ?_
    next => cases register <;> rfl
    next => cases register <;> rfl
    next =>
      intro other
      cases register
      case sp => exact absurd rfl other
      all_goals rfl
    next => cases register <;> rfl
  case branch flag wanted =>
    obtain ⟨operand, rfl, reachable⟩ := (Option.any_eq_true _ _).mp accepted
    obtain ⟨address, found⟩ := Machine.target_of_reachable reachable
    rw [run, onOperand, Machine.branchIf_of_target found]
    refine .of_core rfl rfl rfl rfl (fun stays => ?_) (fun _ => rfl) rfl
    exact if_neg (ne_true_of_eq_false stays)
  case jump =>
    obtain ⟨operand, rfl, reachable⟩ := (Option.any_eq_true _ _).mp accepted
    obtain ⟨address, found⟩ := Machine.target_of_reachable reachable
    rw [run, onOperand, Machine.jump_of_target found]
    exact .of_core rfl rfl rfl rfl nofun (fun _ => rfl) rfl
  case call =>
    obtain ⟨operand, rfl, reachable⟩ := (Option.any_eq_true _ _).mp accepted
    obtain ⟨address, found⟩ := Machine.target_of_reachable reachable
    rw [run, onOperand, Machine.call_of_target found, Machine.pushWord_eq_pushAll]
    exact .of_pushed [(machine.pc - 1).high, (machine.pc - 1).low] rfl rfl rfl rfl nofun rfl rfl
  case interrupt =>
    by_cases saves : machine.settings.enabled Core.breakPushesState
    next =>
      have count : pushes .interrupt machine.settings = 3 := by simp [pushes, saves]
      rw [run, machine.interrupt_of_saves saves, Machine.saveState_eq_pushAll]
      exact .of_pushed [(machine.pc + 1).high, (machine.pc + 1).low, machine.status.pushed] count
        rfl rfl rfl nofun rfl rfl
    next =>
      have count : pushes .interrupt machine.settings = 0 := by simp [pushes, saves]
      rw [run, machine.interrupt_of_ignores (by simpa using saves)]
      exact .of_core count rfl rfl rfl nofun (fun _ => rfl) rfl
  case pushAccumulator => exact .of_pushed [machine.a] rfl rfl rfl rfl (fun _ => rfl) rfl rfl
  case pushStatus =>
    exact .of_pushed [machine.status.pushed] rfl rfl rfl rfl (fun _ => rfl) rfl rfl
  case pullAccumulator | pullStatus =>
    refine ⟨rfl, rfl, fun _ => rfl, fun _ => ?_, fun address _ => rfl⟩
    exact (show machine.sp + 1 = machine.sp - 0 + 1 by bv_omega)
  case returnFromCall =>
    rw [run, machine.returnFromCall_eq]
    refine ⟨rfl, rfl, nofun, fun _ => ?_, fun address _ => rfl⟩
    exact (show machine.sp + 1 + 1 = machine.sp - 0 + 2 by bv_omega)
  case returnFromInterrupt =>
    rw [run, machine.returnFromInterrupt_eq]
    refine ⟨rfl, rfl, nofun, fun _ => ?_, fun address _ => rfl⟩
    exact (show machine.sp + 1 + 1 + 1 = machine.sp - 0 + 3 by bv_omega)
  case putFlag | nothing => exact .of_core rfl rfl rfl rfl (fun _ => rfl) (fun _ => rfl) rfl

end Operation

end Mos6502
