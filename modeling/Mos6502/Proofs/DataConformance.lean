import Mos6502.Proofs.DataReference

set_option autoImplicit false

namespace Mos6502

open Arithmetic

namespace Machine

theorem valueOf_designation (machine : Machine) (operand : Operand) :
    machine.valueOf operand.designation = (machine.operandByte operand).toNat := by
  cases operand with
  | register which => rfl
  | byte value => rfl
  | location address => exact machine.byteAt_toNat address

theorem place_designation (machine : Machine) (operand : Operand) (value : Byte) :
    machine.place operand.designation value.toNat = machine.stored operand value := by
  cases operand with
  | register which => simp only [Operand.designation, place, Byte.wrap_toNat, stored]
  | byte _ => rfl
  | location address =>
    simp only [Operand.designation, place, Address.wrap_toNat, Byte.wrap_toNat, stored]

end Machine

namespace Change

theorem showing_toNat (status : Status) (value : Byte) :
    showing status value.toNat = status.withResult value := by
  have negative : decide ((128 : Int) ≤ value.toNat) = value.msb := by
    rw [BitVec.msb_eq_decide, decide_eq_decide]
    omega
  have zero : decide ((value.toNat : Int) = 0) = (value == 0) := by
    rw [Bool.eq_iff_iff, decide_eq_true_iff, beq_iff_eq, Int.natCast_eq_zero]
    exact BitVec.toNat_inj (y := 0)
  simp only [showing, negative, zero, Status.withResult]

structure Describes (change : Change) (machine : Machine) (effect : Effect) : Prop where
  effect : effect = { machine := machine.carryOut change }
  inRange : ∀ stored ∈ change.store, 0 ≤ stored.2 ∧ stored.2 ≤ 255

variable {machine : Machine}

theorem describes_copy (status : Status) (operand : Operand) (value : Byte) :
    (copy status operand.designation value.toNat).Describes machine
      { machine := { machine.stored operand value with status := status } } where
  effect := by
    rw [Machine.carryOut, copy, Option.elim_some, Machine.place_designation]
  inRange := by
    intro stored present
    obtain rfl := Option.mem_some_iff.mp present
    exact value.bounds

theorem describes_result (operand : Operand) (value : Byte) :
    (result machine.status operand.designation value.toNat).Describes machine
      { machine := (machine.stored operand value).flagResult value } := by
  rw [result, showing_toNat, Machine.flagResult, machine.status_stored]
  exact describes_copy _ operand value

theorem describes_store (operand : Operand) (value : Byte) :
    (copy machine.status operand.designation value.toNat).Describes machine
      { machine := machine.stored operand value } := by
  have same : { machine.stored operand value with status := machine.status } =
      machine.stored operand value := by
    rw [← machine.status_stored operand value]
  rw [← same]
  exact describes_copy _ operand value

theorem describes_sum {total signedTotal : Int} {carry : Bool} {value : Byte}
    (unsigned : total % 256 =
      (addWithCarry machine.a value machine.status.carry).result.toNat)
    (signed : signedTotal = machine.a.toInt + value.toInt + machine.status.carry.toNat)
    (carried : carry = (addWithCarry machine.a value machine.status.carry).carry) :
    (sum machine.status total signedTotal carry).Describes machine
      { machine := machine.add value } := by
  rw [sum, unsigned, showing_toNat, carried, signed, ← addWithCarry_overflow]
  exact describes_copy _ (.register .a) _

theorem describes_comparison (register value : Byte) :
    (comparison machine.status register.toNat value.toNat).Describes machine
      { machine := machine.compare register value } where
  effect := by
    have equal : decide ((register.toNat : Int) = value.toNat) = (register - value == 0) := by
      have same : register - value = 0 ↔ register = value := by bv_omega
      rw [Bool.eq_iff_iff, decide_eq_true_iff, beq_iff_eq, same, Int.ofNat_inj, BitVec.toNat_inj]
    have carry : decide ((value.toNat : Int) ≤ register.toNat) = decide (value ≤ register) := by
      rw [decide_eq_decide, Int.ofNat_le, BitVec.le_def]
    have negative : decide ((128 : Int) ≤ (register - value).toNat) = (register - value).msb :=
      congrArg Status.negative (showing_toNat machine.status (register - value))
    simp only [Machine.carryOut, comparison, Byte.sub_mod, equal, carry, negative]
    rfl
  inRange := nofun

theorem describes_bitTest (value : Byte) :
    (bitTest machine.status machine.a.toNat value.toNat).Describes machine
      { machine := machine.testBits value } where
  effect := by
    have bits : ∀ value : Byte,
        decide ((value.toNat : Int) / 128 % 2 = 1) = value.getLsbD 7 ∧
          decide ((value.toNat : Int) / 64 % 2 = 1) = value.getLsbD 6 := by
      decide +kernel
    have zero : decide (Int.land machine.a.toNat value.toNat = 0) =
        (value &&& machine.a == 0) := by
      rw [land_toNat, BitVec.and_comm]
      exact congrArg Status.zero (showing_toNat machine.status (value &&& machine.a))
    simp only [Machine.carryOut, bitTest, bits, zero]
    rfl
  inRange := nofun

theorem describes_shift {operand : Operand} (storable : operand.storable) {kind : Shift}
    {value outgoing : Int}
    (shifted : value =
      (kind.apply (machine.operandByte operand) machine.status.carry).toNat)
    (carried : outgoing = (kind.outgoing (machine.operandByte operand)).toNat) :
    (Change.shifted machine.status operand.designation value outgoing).Describes machine
      (machine.shift kind operand) := by
  have outgoing_iff (bit : Bool) : decide ((bit.toNat : Int) = 1) = bit := by
    cases bit <;> rfl
  -- the carry goes first in the body, and the store and the result leave it alone
  have order (carry : Bool) (result : Byte) :
      ((machine.putFlag .carry carry).stored operand result).flagResult result =
        { machine.stored operand result with
          status := { machine.status.withResult result with carry := carry } } := by
    cases operand with
    | register which => cases which <;> rfl
    | byte _ => rfl
    | location _ => rfl
  rw [Machine.shift_of_storable storable, order, Change.shifted, shifted, showing_toNat, carried,
    outgoing_iff]
  exact describes_copy _ operand _

theorem describes_flags (status : Status) :
    Describes { status := status } machine { machine := { machine with status := status } } where
  effect := rfl
  inRange := nofun

end Change

namespace Mnemonic

theorem change_describes {mnemonic : Mnemonic} (data : mnemonic ∉ control)
    {operand : Option Operand} (accepted : mnemonic.operation.accepts operand)
    (machine : Machine) :
    ∃ change, mnemonic.change machine (operand.map Operand.designation) = some change ∧
      change.Describes machine (mnemonic.operation.run operand machine) := by
  cases mnemonic
  case adc =>
    obtain ⟨operand, rfl⟩ := Option.isSome_iff_exists.mp accepted
    refine ⟨_, rfl, ?_⟩
    simp only [Machine.valueOf_designation, signedByte_toNat]
    apply Change.describes_sum
    next => exact (addWithCarry_result _ _ _).symm
    next => rfl
    next => exact (addWithCarry_carry _ _ _).symm
  case sbc =>
    obtain ⟨operand, rfl⟩ := Option.isSome_iff_exists.mp accepted
    refine ⟨_, rfl, ?_⟩
    simp only [Machine.valueOf_designation, signedByte_toNat]
    apply Change.describes_sum
    next => rw [addWithCarry_result, Byte.intCast_toNat_not]; omega
    next => rw [Byte.toInt_not]; omega
    next => rw [addWithCarry_carry, Byte.intCast_toNat_not, decide_eq_decide]; omega
  case and | ora | eor =>
    obtain ⟨operand, rfl⟩ := Option.isSome_iff_exists.mp accepted
    refine ⟨_, rfl, ?_⟩
    simp only [Machine.valueOf_designation, land_toNat, lor_toNat, xor_toNat]
    exact Change.describes_result (.register .a) _
  case bit =>
    obtain ⟨operand, rfl⟩ := Option.isSome_iff_exists.mp accepted
    refine ⟨_, rfl, ?_⟩
    simp only [Machine.valueOf_designation]
    exact Change.describes_bitTest _
  case cmp | cpx | cpy =>
    obtain ⟨operand, rfl⟩ := Option.isSome_iff_exists.mp accepted
    refine ⟨_, rfl, ?_⟩
    simp only [Machine.valueOf_designation]
    exact Change.describes_comparison _ _
  case asl =>
    obtain ⟨operand, rfl, storable⟩ := (Option.any_eq_true _ _).mp accepted
    refine ⟨_, rfl, ?_⟩
    simp only [Machine.valueOf_designation]
    exact Change.describes_shift storable (shiftLeft_numbers _).1 (shiftLeft_numbers _).2
  case rol =>
    obtain ⟨operand, rfl, storable⟩ := (Option.any_eq_true _ _).mp accepted
    refine ⟨_, rfl, ?_⟩
    simp only [Machine.valueOf_designation]
    exact Change.describes_shift storable (rotateLeft_numbers _ _) (shiftLeft_numbers _).2
  case lsr =>
    obtain ⟨operand, rfl, storable⟩ := (Option.any_eq_true _ _).mp accepted
    refine ⟨_, rfl, ?_⟩
    simp only [Machine.valueOf_designation]
    exact Change.describes_shift storable (shiftRight_numbers _).1 (shiftRight_numbers _).2
  case ror =>
    obtain ⟨operand, rfl, storable⟩ := (Option.any_eq_true _ _).mp accepted
    refine ⟨_, rfl, ?_⟩
    simp only [Machine.valueOf_designation]
    exact Change.describes_shift storable (rotateRight_numbers _ _) (shiftRight_numbers _).2
  case inc | dec =>
    obtain ⟨operand, rfl, storable⟩ := (Option.any_eq_true _ _).mp accepted
    refine ⟨_, rfl, ?_⟩
    rw [operation, Operation.run, Operation.onOperand, Machine.assignResult_of_storable storable]
    simp only [Machine.valueOf_designation, Byte.succ_mod, Byte.pred_mod]
    exact Change.describes_result operand _
  case inx | iny | dex | dey =>
    refine ⟨_, rfl, ?_⟩
    simp only [Byte.succ_mod, Byte.pred_mod]
    exact Change.describes_result (.register _) _
  case lda | ldx | ldy =>
    obtain ⟨operand, rfl⟩ := Option.isSome_iff_exists.mp accepted
    refine ⟨_, rfl, ?_⟩
    simp only [Machine.valueOf_designation]
    exact Change.describes_result (.register _) _
  case sta | stx | sty =>
    obtain ⟨operand, rfl, storable⟩ := (Option.any_eq_true _ _).mp accepted
    refine ⟨_, rfl, ?_⟩
    rw [operation, Operation.run, Operation.onOperand, Machine.assign_of_storable storable]
    exact Change.describes_store operand _
  case tax | tay | tsx | txa | tya => exact ⟨_, rfl, Change.describes_result (.register _) _⟩
  case txs => exact ⟨_, rfl, Change.describes_store (.register .sp) machine.x⟩
  case clc | sec | cld | sed | cli | sei | clv => exact ⟨_, rfl, Change.describes_flags _⟩
  case nop => exact ⟨_, rfl, Change.describes_flags machine.status⟩
  all_goals exact absurd (by decide) data

end Mnemonic

namespace Machine

variable {machine : Machine} {mnemonic : Mnemonic} {mode : Mode}

theorem carryOut_pastOperand (machine : Machine) (mode : Mode) (change : Change) :
    (machine.pastOperand mode).carryOut change =
      { machine.carryOut change with
        pc := (machine.pastOperand mode).pc
        lastInstruction := some machine.opcode } := by
  obtain ⟨store, status⟩ := change
  cases store with
  | none => rfl
  | some stored =>
    obtain ⟨target, value⟩ := stored
    cases target with
    | register which => cases which <;> rfl
    | byte _ => rfl
    | cell _ => rfl

-- The reference names all that changes, but for the place in the program and the count.
theorem step_conforms (decoded : machine.instruction? = some ⟨mnemonic, mode⟩)
    (data : mnemonic ∉ Mnemonic.control) :
    ∃ change, mnemonic.change machine (mode.designation machine.pastOpcode) = some change ∧
      (∀ stored ∈ change.store, 0 ≤ stored.2 ∧ stored.2 ≤ 255) ∧
      machine.step.toEffect =
        { machine :=
            { machine.carryOut change with
              pc := .wrap ((machine.pc.toNat + 1 + mode.operandBytes : Int) % 65536)
              lastInstruction := some machine.opcode
              instructionCount := machine.instructionCount + 1 } } := by
  have accepted := Instruction.accepts_of_decode decoded machine.pastOpcode
  obtain ⟨change, found, described⟩ :=
    Mnemonic.change_describes data accepted (machine.pastOperand mode)
  rw [Mode.operand_designation] at found
  refine ⟨change, ?_, described.inRange, ?_⟩
  next =>
    rw [← found]
    cases mnemonic <;> rfl
  next =>
    have body : (machine.body ⟨mnemonic, mode⟩).machine =
        { machine.carryOut change with
          pc := (machine.pastOperand mode).pc
          lastInstruction := some machine.opcode } := by
      rw [← carryOut_pastOperand]
      exact congrArg Effect.machine described.effect
    rw [step_of_decode decoded, body, pc_pastOperand]

-- A signed overflow, in an instruction whose operand byte is past the last address.
def lastAddressSubtraction : Machine where
  a := 0x80
  pc := 0xffff
  status := .ofByte 0x01
  settings := Core.factorySettings
  memory := (Memory.blank.write 0xffff 0xe9).write 0 0x01

theorem step_lastAddressSubtraction :
    lastAddressSubtraction.step.toEffect =
      { machine :=
          { lastAddressSubtraction with
            a := 0x7f
            pc := 1
            status := .ofByte 0x61
            lastInstruction := some 0xe9
            instructionCount := 1 } } := by
  have opcode : lastAddressSubtraction.opcode = 0xe9 := by
    simp [opcode, lastAddressSubtraction, Memory.read_write]
  have decoded : lastAddressSubtraction.instruction? = some ⟨.sbc, .immediate⟩ := by
    rw [instruction?, opcode]
    rfl
  have operand :
      Mode.designation .immediate lastAddressSubtraction.pastOpcode = some (.byte 1) := by
    simp [Mode.designation, firstByte_eq, fetch, pastOpcode, lastAddressSubtraction]
  have overflows : Mnemonic.change .sbc lastAddressSubtraction (some (.byte 1)) =
      some { store := some (.register .a, 0x7f), status := .ofByte 0x61 } := by
    decide +kernel
  obtain ⟨change, found, _, stepped⟩ := step_conforms decoded (by decide)
  rw [operand, overflows] at found
  obtain rfl := Option.some.inj found
  rw [stepped, opcode]
  rfl

end Machine

end Mos6502
