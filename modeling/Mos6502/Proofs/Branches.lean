import Mos6502.Proofs.StepOutcome

set_option autoImplicit false

namespace Mos6502

inductive Branch where
  | carryClear
  | carrySet
  | notEqual
  | equal
  | plus
  | minus
  | overflowClear
  | overflowSet
deriving DecidableEq

namespace Branch

def opcode : Branch → Byte
  | .carryClear => 0x90
  | .carrySet => 0xb0
  | .notEqual => 0xd0
  | .equal => 0xf0
  | .plus => 0x10
  | .minus => 0x30
  | .overflowClear => 0x50
  | .overflowSet => 0x70

def mnemonic : Branch → Mnemonic
  | .carryClear => .bcc
  | .carrySet => .bcs
  | .notEqual => .bne
  | .equal => .beq
  | .plus => .bpl
  | .minus => .bmi
  | .overflowClear => .bvc
  | .overflowSet => .bvs

def holds (branch : Branch) (status : Status) : Bool :=
  match branch with
  | .carryClear => !status.carry
  | .carrySet => status.carry
  | .notEqual => !status.zero
  | .equal => status.zero
  | .plus => !status.negative
  | .minus => status.negative
  | .overflowClear => !status.overflow
  | .overflowSet => status.overflow

def opposite : Branch → Branch
  | .carryClear => .carrySet
  | .carrySet => .carryClear
  | .notEqual => .equal
  | .equal => .notEqual
  | .plus => .minus
  | .minus => .plus
  | .overflowClear => .overflowSet
  | .overflowSet => .overflowClear

theorem decode_opcode (branch : Branch) :
    Instruction.decode branch.opcode = some ⟨branch.mnemonic, .relative⟩ := by
  cases branch <;> rfl

theorem holds_opposite (branch : Branch) (status : Status) :
    branch.opposite.holds status = !branch.holds status := by
  cases branch <;> simp [opposite, holds]

theorem operation_tests (branch : Branch) :
    ∃ flag wanted, branch.mnemonic.operation = .branch flag wanted ∧
      ∀ status : Status, (status.get flag == wanted) = branch.holds status := by
  cases branch <;> exact ⟨_, _, rfl, fun status => by simp [holds, Status.get]⟩

theorem run_eq (branch : Branch) (machine : Machine) (target : Address) :
    branch.mnemonic.operation.run (some (.location target)) machine =
      { machine :=
          { machine with pc := if branch.holds machine.status then target else machine.pc } } := by
  obtain ⟨flag, wanted, operation, tests⟩ := branch.operation_tests
  rw [operation, Operation.run, Operation.onOperand, Machine.branchIf_of_target rfl, tests]

end Branch

namespace Machine

variable (machine : Machine)

def afterBranch : Address :=
  .wrap ((machine.pc.toNat + 2 : Int) % 65536)

def branchTarget (displacement : Byte) : Address :=
  .wrap ((machine.pc.toNat + 2 + displacement.toInt) % 65536)

def withBranch (branch : Branch) (displacement : Byte) : Machine :=
  (machine.write machine.pc branch.opcode).write (machine.pc + 1) displacement

theorem afterBranch_eq : machine.afterBranch = machine.pc + 2 := by
  apply BitVec.eq_of_toNat_eq
  rw [afterBranch, Address.toNat_wrap, BitVec.toNat_add]
  change _ = (machine.pc.toNat + 2) % 65536
  omega

theorem branchTarget_eq (displacement : Byte) :
    machine.branchTarget displacement = machine.pc + 2 + displacement.signExtend 16 := by
  have target := Address.add_signExtend_mod (machine.pc + 2) displacement
  apply BitVec.eq_of_toNat_eq
  rw [branchTarget, Address.toNat_wrap]
  rw [BitVec.toNat_add machine.pc] at target
  change ((((machine.pc.toNat + 2) % 65536 : Nat) : Int) + displacement.toInt) % 65536 = _ at target
  omega

variable {machine} in
theorem step_branch {branch : Branch} (here : machine.opcode = branch.opcode) :
    machine.step.toEffect =
      { machine :=
          { machine with
            pc :=
              if branch.holds machine.status then
                machine.branchTarget (machine.memory.read (machine.pc + 1))
              else machine.afterBranch
            lastInstruction := some branch.opcode
            instructionCount := machine.instructionCount + 1 } } := by
  have decoded : machine.instruction? = some ⟨branch.mnemonic, .relative⟩ := by
    rw [instruction?, here, branch.decode_opcode]
  have past : machine.pc + 1 + 1 = machine.pc + 2 := by bv_omega
  have operand : machine.operand .relative = some (.location
      (machine.branchTarget (machine.memory.read (machine.pc + 1)))) := by
    rw [branchTarget_eq, ← past]
    rfl
  rw [step_of_decode decoded, body, operand, branch.run_eq, afterBranch_eq, ← past, ← here]
  rfl

theorem withBranch_here (branch : Branch) (displacement : Byte) :
    (machine.withBranch branch displacement).opcode = branch.opcode ∧
      (machine.withBranch branch displacement).memory.read (machine.pc + 1) = displacement := by
  have apart : machine.pc ≠ machine.pc + 1 := by bv_omega
  refine ⟨?_, Memory.read_write_same _ _ _⟩
  change ((machine.memory.write machine.pc branch.opcode).write (machine.pc + 1)
    displacement).read machine.pc = branch.opcode
  rw [Memory.read_write_ne apart, Memory.read_write_same]

theorem pc_step_withBranch (branch : Branch) (displacement : Byte) :
    (machine.withBranch branch displacement).step.machine.pc =
      if branch.holds machine.status then machine.branchTarget displacement
      else machine.afterBranch := by
  have here := machine.withBranch_here branch displacement
  have stepped := congrArg (fun effect => effect.machine.pc) (step_branch here.1)
  change _ = if branch.holds machine.status then
    machine.branchTarget ((machine.withBranch branch displacement).memory.read (machine.pc + 1))
    else machine.afterBranch at stepped
  rwa [here.2] at stepped

theorem branchTarget_eq_iff (displacement : Byte) (target : Address) :
    machine.branchTarget displacement = target ↔
      (target.toNat : Int) % 65536 = (machine.pc.toNat + 2 + displacement.toInt) % 65536 := by
  have bound := target.isLt
  rw [branchTarget, ← BitVec.toNat_inj, Address.toNat_wrap]
  omega

theorem exists_branchTarget_iff (target : Address) :
    (∃ displacement, machine.branchTarget displacement = target) ↔
      ∃ offset : Int, -128 ≤ offset ∧ offset ≤ 127 ∧
        (target.toNat : Int) % 65536 = (machine.pc.toNat + 2 + offset) % 65536 := by
  constructor
  next =>
    rintro ⟨displacement, lands⟩
    have low := displacement.le_toInt
    have high := displacement.toInt_lt
    exact ⟨displacement.toInt, low, by omega, (machine.branchTarget_eq_iff _ _).mp lands⟩
  next =>
    rintro ⟨offset, low, high, near⟩
    have signed : (Byte.wrap offset).toInt = offset := Byte.toInt_wrap ⟨low, high⟩
    refine ⟨.wrap offset, (machine.branchTarget_eq_iff _ _).mpr ?_⟩
    rw [signed, near]

theorem displacement_of_branchTarget {displacement : Byte} {target : Address}
    (lands : machine.branchTarget displacement = target) :
    (displacement.toNat : Int) = (target.toNat - machine.pc.toNat - 2) % 256 := by
  have bound := displacement.isLt
  rw [branchTarget_eq_iff, BitVec.toInt] at lands
  split at lands <;> omega

end Machine

namespace Branch

-- A taken branch reaches from 128 before to 127 past the next instruction, around the whole memory.
theorem branches_conform (branch : Branch) (machine : Machine) :
    (machine.opcode = branch.opcode →
      machine.step.toEffect =
        { machine :=
            { machine with
              pc :=
                if branch.holds machine.status then
                  machine.branchTarget (machine.memory.read (machine.pc + 1))
                else machine.afterBranch
              lastInstruction := some branch.opcode
              instructionCount := machine.instructionCount + 1 } }) ∧
    (∀ displacement,
      ((machine.withBranch branch displacement).step.machine.pc,
          (machine.withBranch branch.opposite displacement).step.machine.pc) =
        if branch.holds machine.status then
          (machine.branchTarget displacement, machine.afterBranch)
        else (machine.afterBranch, machine.branchTarget displacement)) ∧
    (branch.holds machine.status → ∀ target : Address,
      ((∃ displacement, (machine.withBranch branch displacement).step.machine.pc = target) ↔
        ∃ offset : Int, -128 ≤ offset ∧ offset ≤ 127 ∧
          (target.toNat : Int) % 65536 = (machine.pc.toNat + 2 + offset) % 65536) ∧
      ∀ displacement, (machine.withBranch branch displacement).step.machine.pc = target →
        (displacement.toNat : Int) = (target.toNat - machine.pc.toNat - 2) % 256) := by
  refine ⟨Machine.step_branch, fun displacement => ?_, fun taken target => ?_⟩
  next =>
    rw [machine.pc_step_withBranch, machine.pc_step_withBranch, branch.holds_opposite]
    cases branch.holds machine.status <;> rfl
  next =>
    simp only [machine.pc_step_withBranch, taken, if_true]
    exact ⟨machine.exists_branchTarget_iff target,
      fun displacement => machine.displacement_of_branchTarget⟩

-- The opcode at the last address, and the farthest way back from address 1.
def straddlingBranch : Machine where
  pc := 0xffff
  settings := Core.factorySettings
  memory := (Memory.blank.write 0xffff 0xd0).write 0 0x80

theorem branches_straddling :
    straddlingBranch.step.toEffect =
        { machine :=
            { straddlingBranch with
              pc := 0xff81
              lastInstruction := some 0xd0
              instructionCount := 1 } } ∧
      ∀ displacement,
        (straddlingBranch.withBranch .notEqual displacement).step.machine.pc = 0xff81 →
          (displacement.toNat : Int) = 0x80 := by
  obtain ⟨step, _, reach⟩ := branches_conform .notEqual straddlingBranch
  have opcode : straddlingBranch.opcode = 0xd0 := by
    simp [Machine.opcode, straddlingBranch, Memory.read_write]
  have displacement : straddlingBranch.memory.read (straddlingBranch.pc + 1) = 0x80 :=
    Memory.read_write_same _ _ _
  have stepped := step opcode
  rw [displacement] at stepped
  exact ⟨stepped, (reach rfl 0xff81).2⟩

end Branch

end Mos6502
