import Mos6502.Proofs.StepOutcome
import Mos6502.Proofs.Unbounded.Flags
import Mos6502.Proofs.Unbounded.Modes

set_option autoImplicit false

namespace Mos6502

namespace Unbounded

open Arithmetic

theorem sign_bit (left right : Byte) :
    isSet (Int.xor left.toNat right.toNat) 0x80 = (left.msb != right.msb) := by
  have every : ∀ value : Byte, isSet value.toNat 0x80 = value.msb := by decide +kernel
  rw [xor_toNat, every, BitVec.msb_xor]

theorem carry_bit (status : Status) :
    Int.land status.toByte.toNat (mask .carry) = status.carry.toNat := by
  have every : ∀ byte : Byte,
      Int.land byte.toNat (mask .carry) = (Status.ofByte byte).carry.toNat := by decide +kernel
  rw [every, Status.ofByte_toByte]

theorem combined_toNat (bitwise : Bitwise) (left right : Byte) :
    State.combined bitwise left.toNat right.toNat = (bitwise.apply left right).toNat := by
  cases bitwise with
  | and => exact land_toNat left right
  | or => exact lor_toNat left right
  | xor => exact xor_toNat left right

theorem shifted_toNat (kind : Shift) (value : Byte) (carry : Bool) :
    State.outgoing kind (State.widened kind value.toNat carry) = kind.outgoing value ∧
      State.narrowed kind (State.widened kind value.toNat carry) =
        (kind.apply value carry).toNat := by
  revert value carry
  cases kind <;> decide +kernel

namespace State

variable (machine : Machine)

theorem flagResult_ofMachine (value : Byte) :
    (ofMachine machine).flagResult value.toNat = .ok (ofMachine (machine.flagResult value)) := by
  rw [flagResult, if_pos value.bounds]
  exact congrArg (fun flags => Except.ok { ofMachine machine with flags := flags })
    (resultBits_toByte machine.status value)

theorem putFlag_ofMachine (flag : Flag) (on : Bool) :
    (ofMachine machine).putFlag flag on = ofMachine (machine.putFlag flag on) :=
  congrArg (fun flags => { ofMachine machine with flags := flags })
    (putBits_toByte machine.status flag on)

theorem setResult_ofMachine (register : Register) (value : Byte) :
    (ofMachine machine).setResult register value.toNat =
      .ok (ofMachine (machine.setResult register value)) := by
  rw [setResult, setRegister_ofMachine, flagResult_ofMachine]
  rfl

theorem assign_ofMachine (target source : Operand) :
    (ofMachine machine).assign target source =
      (machine.assign target (machine.operandByte source)).result.map ofMachine := by
  rw [assign, operandByte_ofMachine, store_ofMachine, Machine.assign, Effect.result_attempt]

theorem assignResult_ofMachine (target source : Operand) :
    (ofMachine machine).assignResult target source =
      (machine.assignResult target (machine.operandByte source)).result.map ofMachine := by
  rw [assignResult, operandByte_ofMachine, store_ofMachine, Machine.assignResult,
    Effect.result_attempt]
  cases machine.store target (machine.operandByte source) with
  | error fault => rfl
  | ok stored => exact flagResult_ofMachine stored _

theorem assignNumber_ofMachine (target : Operand) (value : Byte) :
    (ofMachine machine).assignNumber target value.toNat =
      (machine.assignResult target value).result.map ofMachine := by
  rw [assignNumber, byteOperand_toNat]
  exact assignResult_ofMachine machine target (.byte value)

theorem shift_ofMachine (kind : Shift) (operand : Operand) :
    (ofMachine machine).shift kind operand =
      (machine.shift kind operand).result.map ofMachine := by
  have carried : isSet (ofMachine machine).flags (mask .carry) = machine.status.carry :=
    isSet_toByte machine.status .carry
  have shifted := shifted_toNat kind (machine.operandByte operand) machine.status.carry
  rw [shift, operandByte_ofMachine, carried, shifted.1, shifted.2, putFlag_ofMachine,
    assignNumber_ofMachine]
  rfl

theorem add_ofMachine (value : Byte) :
    (ofMachine machine).add value.toNat = .ok (ofMachine (machine.add value)) := by
  have total : (ofMachine machine).a + value.toNat +
      Int.land (ofMachine machine).flags (mask .carry) =
        (machine.a.toNat + value.toNat + machine.status.carry.toNat : Int) := by
    rw [show (ofMachine machine).flags = machine.status.toByte.toNat from rfl, carry_bit]
    rfl
  have result : (machine.a.toNat + value.toNat + machine.status.carry.toNat : Int) % 256 =
      (addWithCarry machine.a value machine.status.carry).result.toNat :=
    (addWithCarry_result machine.a value machine.status.carry).symm
  have carry : decide ((255 : Int) < machine.a.toNat + value.toNat + machine.status.carry.toNat) =
      (addWithCarry machine.a value machine.status.carry).carry :=
    (addWithCarry_carry machine.a value machine.status.carry).symm
  have overflow : (isSet (Int.xor (ofMachine machine).a
        (addWithCarry machine.a value machine.status.carry).result.toNat) 0x80 &&
      !isSet (Int.xor (ofMachine machine).a value.toNat) 0x80) =
        (addWithCarry machine.a value machine.status.carry).overflow := by
    rw [show (ofMachine machine).a = machine.a.toNat from rfl, sign_bit, sign_bit]
    simp only [addWithCarry, bne, Bool.not_not, Bool.and_comm]
  rw [add, total, result, flagResult_ofMachine]
  simp only [bind, Except.bind]
  rw [overflow, carry, putFlag_ofMachine, putFlag_ofMachine]
  rfl

theorem jump_ofMachine (operand : Operand) :
    (ofMachine machine).jump operand = (machine.jump operand).result.map ofMachine := by
  rw [jump, Machine.jump, Effect.result_attempt]
  cases operand.target <;> rfl

theorem call_ofMachine (operand : Operand) :
    (ofMachine machine).call operand = (machine.call operand).result.map ofMachine := by
  have back : ((ofMachine machine).pc - 1) % 65536 = (machine.pc - 1).toNat :=
    Address.pred_mod machine.pc
  rw [call, back, pushWord_ofMachine, jump, Machine.call, Effect.result_attempt]
  cases operand.target <;> rfl

theorem returnFromCall_ofMachine :
    (ofMachine machine).returnFromCall = ofMachine machine.returnFromCall := by
  rw [returnFromCall, pullWord_ofMachine, Address.succ_mod]
  rfl

theorem pullStatus_ofMachine :
    (ofMachine machine).pullStatus = ofMachine machine.pullStatus := by
  rw [pullStatus, pull_ofMachine, pulledBits_toNat]
  rfl

theorem returnFromInterrupt_ofMachine :
    (ofMachine machine).returnFromInterrupt = ofMachine machine.returnFromInterrupt := by
  rw [returnFromInterrupt, pullStatus_ofMachine, pullWord_ofMachine]
  rfl

theorem pushStatus_ofMachine :
    (ofMachine machine).push (pushedBits (ofMachine machine).flags) =
      ofMachine (machine.push machine.status.pushed) := by
  rw [show (ofMachine machine).flags = machine.status.toByte.toNat from rfl, pushedBits_toByte,
    push_ofMachine]

theorem saveState_ofMachine : (ofMachine machine).saveState = ofMachine machine.saveState := by
  have back : ((ofMachine machine).pc + 1) % 65536 = (machine.pc + 1).toNat :=
    Address.succ_mod machine.pc
  have flags : (ofMachine machine).flags =
      (machine.pushWord (machine.pc + 1)).status.toByte.toNat := rfl
  rw [saveState, back, pushWord_ofMachine, flags, pushedBits_toByte, push_ofMachine]
  rfl

theorem interrupt_ofMachine :
    (ofMachine machine).interrupt = .ok (ofMachine machine.interrupt) := by
  have entered : ∀ status : Status,
      Int.lor status.toByte.toNat (mask .interrupt + mask .unused) =
        (status.put .interrupt true).toByte.toNat := by
    intro status
    have both : mask .interrupt + mask .unused = (0x24 : Byte).toNat := rfl
    have split : (0x24 : Byte) = Flag.interrupt.mask ||| Flag.unused.mask := rfl
    rw [both, lor_toNat, Status.toByte_put, if_pos rfl, split, BitVec.or_assoc]
  have settings : (ofMachine machine).settings = machine.settings := rfl
  by_cases saves : machine.settings.enabled Core.breakPushesState
  next =>
    have flags : (ofMachine machine).flags = machine.status.toByte.toNat := rfl
    simp only [interrupt, settings, saves, if_true, saveState_ofMachine, readWord_ofMachine, flags,
      entered, machine.interrupt_of_saves saves]
    rfl
  next =>
    have broken : Int.lor (ofMachine machine).flags (mask .brk) =
        (machine.status.toByte ||| Flag.brk.mask).toNat :=
      lor_toNat machine.status.toByte Flag.brk.mask
    have flags : Int.lor (machine.status.toByte ||| Flag.brk.mask).toNat
        (mask .interrupt + mask .unused) =
          ((machine.status.put .brk true).put .interrupt true).toByte.toNat := by
      rw [← entered, Status.toByte_put, if_pos rfl]
      have both : mask .interrupt + mask .unused = (0x24 : Byte).toNat := rfl
      have absorbed : Flag.unused.mask ||| (0x24 : Byte) = 0x24 := rfl
      rw [both, lor_toNat, lor_toNat, BitVec.or_assoc _ Flag.unused.mask, absorbed]
    rw [machine.interrupt_of_ignores (by simpa using saves)]
    simp only [interrupt, settings, saves, Bool.false_eq_true, if_false, readWord_ofMachine, broken,
      flags]
    rfl

theorem pullAccumulator_ofMachine :
    (ofMachine machine).pullAccumulator = .ok (ofMachine machine.pullAccumulator) := by
  rw [pullAccumulator, pull_ofMachine, assignNumber_ofMachine]
  rfl

theorem onOperand_ofMachine (operand : Option Operand) {body : Operand → Except Fault State}
    {work : Operand → Effect}
    (agrees : ∀ operand, body operand = (work operand).result.map ofMachine) :
    onOperand operand body = (Operation.onOperand machine operand work).result.map ofMachine := by
  cases operand with
  | none => rfl
  | some operand => exact agrees operand

theorem onByte_ofMachine (operand : Option Operand) (body : Int → Except Fault State)
    {work : Byte → Machine}
    (agrees : ∀ value : Byte, body value.toNat = .ok (ofMachine (work value))) :
    onOperand operand (fun operand => body ((ofMachine machine).operandByte operand)) =
      (Operation.onByte machine operand work).result.map ofMachine := by
  apply onOperand_ofMachine
  intro operand
  rw [operandByte_ofMachine, agrees]
  rfl

theorem run_ofMachine (operation : Operation) (operand : Option Operand) :
    (ofMachine machine).run operation operand =
      (operation.run operand machine).result.map ofMachine := by
  cases operation
  case add => exact onByte_ofMachine machine operand _ (add_ofMachine machine)
  case subtract =>
    have complement : ∀ value : Byte, Int.xor value.toNat 0xff = (~~~value).toNat := by
      decide +kernel
    apply onByte_ofMachine machine operand fun number =>
      (ofMachine machine).add (Int.xor number 0xff)
    intro value
    rw [complement, add_ofMachine]
  case combine bitwise =>
    apply onByte_ofMachine machine operand fun number =>
      (ofMachine machine).setResult .a (combined bitwise (ofMachine machine).a number)
    intro value
    rw [show (ofMachine machine).a = machine.a.toNat from rfl, combined_toNat, setResult_ofMachine]
  case testBits =>
    apply onByte_ofMachine machine operand fun number => .ok
      { ofMachine machine with
        flags := testBits (ofMachine machine).flags (ofMachine machine).a number }
    intro value
    exact congrArg (fun flags => Except.ok { ofMachine machine with flags := flags })
      (testBits_toByte machine.status machine.a value)
  case compare register =>
    apply onByte_ofMachine machine operand fun number => .ok
      { ofMachine machine with
        flags :=
          comparisonBits (ofMachine machine).flags ((ofMachine machine).register register) number }
    intro value
    rw [register_ofMachine]
    exact congrArg (fun flags => Except.ok { ofMachine machine with flags := flags })
      (comparisonBits_toByte machine.status (machine.register register) value)
  case shift kind => exact onOperand_ofMachine machine operand (shift_ofMachine machine kind)
  case adjust change =>
    apply onOperand_ofMachine
    intro operand
    rw [operandByte_ofMachine, Byte.add_toInt_mod, assignNumber_ofMachine]
  case adjustRegister register change =>
    rw [run, register_ofMachine, Byte.add_toInt_mod, setResult_ofMachine]
    rfl
  case load register =>
    exact onOperand_ofMachine machine operand (assignResult_ofMachine machine (.register register))
  case store register =>
    apply onOperand_ofMachine
    intro operand
    exact assign_ofMachine machine operand (.register register)
  case transfer source target =>
    cases target
    case sp => exact assign_ofMachine machine (.register .sp) (.register source)
    all_goals exact assignResult_ofMachine machine (.register _) (.register source)
  case branch flag wanted =>
    have tested : isSet (ofMachine machine).flags (mask flag) = machine.status.get flag :=
      isSet_toByte machine.status flag
    apply onOperand_ofMachine
    intro operand
    by_cases taken : machine.status.get flag = wanted
    next =>
      rw [tested, if_pos taken, jump_ofMachine, Machine.branchIf, if_pos (by simpa using taken)]
    next =>
      rw [tested, if_neg taken, Machine.branchIf, if_neg (by simpa using taken)]
      rfl
  case jump => exact onOperand_ofMachine machine operand (jump_ofMachine machine)
  case call => exact onOperand_ofMachine machine operand (call_ofMachine machine)
  case returnFromCall => exact congrArg Except.ok (returnFromCall_ofMachine machine)
  case returnFromInterrupt => exact congrArg Except.ok (returnFromInterrupt_ofMachine machine)
  case interrupt => exact interrupt_ofMachine machine
  case pushAccumulator => exact congrArg Except.ok (push_ofMachine machine machine.a)
  case pushStatus => exact congrArg Except.ok (pushStatus_ofMachine machine)
  case pullAccumulator => exact pullAccumulator_ofMachine machine
  case pullStatus => exact congrArg Except.ok (pullStatus_ofMachine machine)
  case putFlag flag on => exact congrArg Except.ok (putFlag_ofMachine machine flag on)
  case nothing => rfl

theorem reset_ofMachine : (ofMachine machine).reset = .ok (ofMachine machine.reset) := by
  have flags : (Layout.resetStatus.toNat : Int) =
      (Status.ofByte Layout.resetStatus).toByte.toNat := by
    rw [Status.toByte_ofByte]
  rw [reset, readWord_ofMachine, flags]
  rfl

theorem step_ofMachine :
    (ofMachine machine).step = (ofMachine machine.step.machine, machine.step.fault) := by
  have opcode : (ofMachine machine).read (ofMachine machine).pc = machine.opcode.toNat :=
    read_ofMachine machine machine.pc
  have fetched : (ofMachine machine).fetch.2 = ofMachine machine.fetch.2 :=
    congrArg Prod.snd (fetch_ofMachine machine)
  have wrapped : Byte.wrap (machine.opcode.toNat : Int) = machine.opcode :=
    Byte.wrap_toNat machine.opcode
  cases found : machine.instruction? with
  | none =>
    have refused := Machine.step_eq_refused found
    have back : ((ofMachine machine.fetch.2).pc - 1) % 65536 = machine.pc.toNat := by
      refine (Address.pred_mod machine.fetch.2.pc).trans ?_
      rw [show machine.fetch.2.pc = machine.pc + 1 from rfl, BitVec.add_sub_cancel]
    have unknown : Instruction.decode machine.opcode = none := found
    rw [step, opcode, fetched, wrapped, unknown]
    simp only [back]
    rw [show machine.step.machine = _ from congrArg Effect.machine refused,
      show machine.step.fault = _ from congrArg Effect.fault refused]
    rfl
  | some instruction =>
    have decoded : Instruction.decode machine.opcode = some instruction := found
    have begun : { ofMachine machine.fetch.2 with
        lastInstruction := some (machine.opcode.toNat : Int) } =
          ofMachine machine.pastOpcode := rfl
    have resolved := resolve_ofMachine machine.pastOpcode instruction.mode
    have past : (instruction.mode.resolve machine.pastOpcode).2 =
        machine.pastOperand instruction.mode := instruction.mode.resolve_machine machine.pastOpcode
    have success := (Machine.completes_body found).fault
    have body : (ofMachine machine.pastOpcode).execute instruction =
        .ok (ofMachine (machine.body instruction).machine) := by
      rw [execute, resolved]
      change (ofMachine (instruction.mode.resolve machine.pastOpcode).2).run
        instruction.mnemonic.operation (instruction.mode.operand machine.pastOpcode) = _
      rw [past, run_ofMachine]
      change (machine.body instruction).result.map ofMachine = _
      rw [Effect.result, success]
      rfl
    have finish := Machine.step_eq_body found
    rw [Effect.counted_of_fault success] at finish
    rw [step, opcode, fetched, wrapped, decoded]
    simp only [begun, body]
    rw [show machine.step.machine = _ from congrArg Effect.machine finish,
      show machine.step.fault = _ from congrArg Effect.fault finish]
    rfl

end State

end Unbounded

end Mos6502
