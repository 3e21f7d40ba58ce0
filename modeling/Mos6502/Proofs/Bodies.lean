import Mos6502.Proofs.Decoding

set_option autoImplicit false

namespace Mos6502

def Effect.result (effect : Effect) : Except Fault Machine :=
  effect.fault.elim (.ok effect.machine) .error

theorem Effect.result_attempt (machine : Machine) (outcome : Except Fault Machine) :
    (Effect.attempt machine outcome).result = outcome := by
  cases outcome <;> rfl

namespace Operand

def storable : Operand → Bool
  | .byte _ => false
  | .register _ | .location _ => true

def reachable : Operand → Bool
  | .register _ => false
  | .byte _ | .location _ => true

end Operand

namespace Machine

variable {machine : Machine} {operand : Operand} {address : Address}

def stored (machine : Machine) (operand : Operand) (value : Byte) : Machine :=
  match operand with
  | .register register => machine.setRegister register value
  | .byte _ => machine
  | .location address => machine.write address value

theorem store_of_storable (storable : operand.storable) (value : Byte) :
    machine.store operand value = .ok (machine.stored operand value) := by
  cases operand with
  | register register => rfl
  | byte value => exact absurd storable Bool.false_ne_true
  | location address => rfl

theorem assign_of_storable (storable : operand.storable) (value : Byte) :
    machine.assign operand value = { machine := machine.stored operand value } := by
  rw [assign, store_of_storable storable]
  rfl

theorem assignResult_of_storable (storable : operand.storable) (value : Byte) :
    machine.assignResult operand value =
      { machine := (machine.stored operand value).flagResult value } := by
  rw [assignResult, store_of_storable storable]
  rfl

theorem shift_of_storable (storable : operand.storable) (kind : Arithmetic.Shift) :
    machine.shift kind operand =
      { machine :=
          ((machine.putFlag .carry (kind.outgoing (machine.operandByte operand))).stored operand
            (kind.apply (machine.operandByte operand) machine.status.carry)).flagResult
              (kind.apply (machine.operandByte operand) machine.status.carry) } :=
  assignResult_of_storable storable _

theorem target_of_reachable (reachable : operand.reachable) :
    ∃ address, operand.target = .ok address := by
  cases operand with
  | register register => exact absurd reachable Bool.false_ne_true
  | byte value => exact ⟨value.extend, rfl⟩
  | location address => exact ⟨address, rfl⟩

theorem jump_of_target (found : operand.target = .ok address) :
    machine.jump operand = { machine := { machine with pc := address } } := by
  rw [jump, found]
  rfl

theorem branchIf_of_target (found : operand.target = .ok address) (condition : Bool) :
    machine.branchIf condition operand =
      { machine := { machine with pc := if condition then address else machine.pc } } := by
  cases condition with
  | false => rfl
  | true => exact jump_of_target found

theorem call_of_target (found : operand.target = .ok address) :
    machine.call operand =
      { machine := { machine.pushWord (machine.pc - 1) with pc := address } } := by
  rw [call, found]
  rfl

theorem pullWord_eq (machine : Machine) :
    machine.pullWord =
      (.ofBytes (machine.memory.read (Layout.stackCell (machine.sp + 1)))
        (machine.memory.read (Layout.stackCell (machine.sp + 1 + 1))),
        { machine with sp := machine.sp + 1 + 1 }) := rfl

theorem returnFromCall_eq (machine : Machine) :
    machine.returnFromCall =
      { machine with
        sp := machine.sp + 1 + 1
        pc := .ofBytes (machine.memory.read (Layout.stackCell (machine.sp + 1)))
          (machine.memory.read (Layout.stackCell (machine.sp + 1 + 1))) + 1 } := by
  rw [returnFromCall, pullWord_eq]

theorem pullStatus_eq (machine : Machine) :
    machine.pullStatus =
      { machine with
        sp := machine.sp + 1
        status := .ofPulled (machine.memory.read (Layout.stackCell (machine.sp + 1))) } := rfl

theorem returnFromInterrupt_eq (machine : Machine) :
    machine.returnFromInterrupt =
      { machine with
        sp := machine.sp + 1 + 1 + 1
        pc := .ofBytes (machine.memory.read (Layout.stackCell (machine.sp + 1 + 1)))
          (machine.memory.read (Layout.stackCell (machine.sp + 1 + 1 + 1)))
        status := .ofPulled (machine.memory.read (Layout.stackCell (machine.sp + 1))) } := by
  simp only [returnFromInterrupt, pullStatus_eq, pullWord_eq]

theorem interrupt_of_saves (saves : machine.settings.enabled Core.breakPushesState) :
    machine.interrupt =
      { machine.saveState.putFlag .interrupt true with
        pc := machine.saveState.memory.readWord Layout.interruptVector } := by
  rw [interrupt, if_pos saves]

theorem interrupt_of_ignores (ignores : machine.settings.enabled Core.breakPushesState = false) :
    machine.interrupt =
      { (machine.putFlag .brk true).putFlag .interrupt true with
        pc := machine.memory.readWord Layout.interruptVector } := by
  rw [interrupt, if_neg (Bool.not_eq_true _ ▸ ignores)]
  rfl

end Machine

namespace Operation

def accepts (operation : Operation) (operand : Option Operand) : Bool :=
  match operation with
  | .add | .subtract | .combine _ | .testBits | .compare _ | .load _ => operand.isSome
  | .shift _ | .adjust _ | .store _ => operand.any Operand.storable
  | .branch .. | .jump | .call => operand.any Operand.reachable
  | _ => true

end Operation

end Mos6502
