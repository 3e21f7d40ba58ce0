import Mos6502.Proofs.StatusMarks
import Mos6502.Proofs.StepRun

set_option autoImplicit false

namespace Mos6502

namespace Status

def AgreesBut (hidden : List Flag) (left right : Status) : Prop :=
  ∀ flag ∉ hidden, left.get flag = right.get flag

theorem AgreesBut.mark {hidden : List Flag} {left right : Status}
    (agree : left.AgreesBut hidden right) (marks : Marks) :
    (left.mark marks).AgreesBut hidden (right.mark marks) := by
  intro flag visible
  simp only [get_mark, agree flag visible]

end Status

theorem Mnemonic.consults_live (mnemonic : Mnemonic) (saves : Bool) :
    ∀ flag ∈ mnemonic.operation.consults saves, flag ∉ [Flag.brk, .unused] := by
  cases mnemonic <;> cases saves <;> decide

-- The interrupt disable and the decimal flag are seen in pushed copies of the status only.
theorem Mnemonic.consults_arithmetic {mnemonic : Mnemonic} {saves : Bool} (noCopy : mnemonic ≠ .php)
    (noSave : mnemonic = .brk → saves = false) :
    ∀ flag ∈ mnemonic.operation.consults saves,
      flag ∉ [Flag.interrupt, .decimal, .brk, .unused] := by
  cases mnemonic
  case php => exact absurd rfl noCopy
  case brk =>
    rw [noSave rfl]
    decide
  all_goals cases saves <;> decide

namespace Machine

structure SameBut (hidden : List Flag) (left right : Machine) : Prop where
  rest : right.withStatus left.status = left
  status : left.status.AgreesBut hidden right.status

def outcomes (machine : Machine) (count : Nat) : List (Option Fault) :=
  (List.range count).map fun index => (machine.after index).step.fault

def CopiesStatus (machine : Machine) : Prop :=
  ∃ instruction ∈ machine.instruction?, instruction.mnemonic = .php ∨
    instruction.mnemonic = .brk ∧ machine.settings.enabled Core.breakPushesState

variable {hidden : List Flag} {left right : Machine}

theorem outcomes_succ (machine : Machine) (count : Nat) :
    machine.outcomes (count + 1) =
      machine.outcomes count ++ [(machine.after count).step.fault] := by
  simp only [outcomes, List.range_succ, List.map_append, List.map_cons, List.map_nil]

theorem SameBut.eq_recast (same : left.SameBut hidden right) :
    right = left.recast right.status left.settings := by
  conv_rhs => rw [← same.rest]
  rfl

theorem SameBut.step (same : left.SameBut hidden right)
    (blind : ∀ flag ∈ left.consults, flag ∉ hidden) :
    right.step.fault = left.step.fault ∧ left.step.machine.SameBut hidden right.step.machine := by
  have consulted : ∀ flag ∈ left.consults, right.status.get flag = left.status.get flag :=
    fun flag read => (same.status flag (blind flag read)).symm
  have stepped := left.step_recast (fun _ _ _ => rfl) consulted
  rw [← same.eq_recast] at stepped
  refine ⟨by rw [stepped], ?_, ?_⟩
  next =>
    have kept : left.step.machine.withSettings left.settings = left.step.machine := by
      conv_lhs => rw [← left.settings_step]
      rfl
    rw [stepped]
    exact kept
  next =>
    rw [left.status_step, stepped]
    exact same.status.mark left.marks

theorem SameBut.after (same : left.SameBut hidden right) {count : Nat}
    (blind : ∀ index < count, ∀ flag ∈ (left.after index).consults, flag ∉ hidden) :
    right.outcomes count = left.outcomes count ∧
      (left.after count).SameBut hidden (right.after count) := by
  induction count with
  | zero => exact ⟨rfl, same⟩
  | succ count ih =>
    obtain ⟨outcomes, reached⟩ := ih fun index earlier => blind index (Nat.lt_succ_of_lt earlier)
    obtain ⟨fault, next⟩ := reached.step (blind count (Nat.lt_succ_self count))
    exact ⟨by rw [outcomes_succ, outcomes_succ, outcomes, fault], next⟩

theorem consults_live (machine : Machine) :
    ∀ flag ∈ machine.consults, flag ∉ [Flag.brk, .unused] := by
  intro flag read
  obtain ⟨instruction, _, consulted⟩ := machine.mem_consults.mp read
  exact instruction.mnemonic.consults_live _ flag consulted

theorem consults_arithmetic {machine : Machine} (hides : ¬machine.CopiesStatus) :
    ∀ flag ∈ machine.consults, flag ∉ [Flag.interrupt, .decimal, .brk, .unused] := by
  intro flag read
  obtain ⟨instruction, found, consulted⟩ := machine.mem_consults.mp read
  have noCopy : instruction.mnemonic ≠ .php := fun copy =>
    hides ⟨instruction, found, .inl copy⟩
  have noSave : instruction.mnemonic = .brk →
      machine.settings.enabled Core.breakPushesState = false := fun breaks =>
    eq_false_of_ne_true fun saves => hides ⟨instruction, found, .inr ⟨breaks, saves⟩⟩
  exact Mnemonic.consults_arithmetic noCopy noSave flag consulted

-- The interrupt disable and the decimal flag are inert until a copy of the status is pushed.
theorem hidden_flags_are_inert (left right : Machine) :
    (left.SameBut [.brk, .unused] right → ∀ count,
      right.outcomes count = left.outcomes count ∧
        (left.after count).SameBut [.brk, .unused] (right.after count)) ∧
    (left.SameBut [.interrupt, .decimal, .brk, .unused] right → ∀ count,
      (∀ index < count, ¬(left.after index).CopiesStatus) →
        right.outcomes count = left.outcomes count ∧
          (left.after count).SameBut [.interrupt, .decimal, .brk, .unused]
            (right.after count)) := by
  constructor
  next =>
    intro same count
    exact same.after fun index _ => (left.after index).consults_live
  next =>
    intro same count hides
    exact same.after fun index earlier => consults_arithmetic (hides index earlier)

-- A copy of the status, and then a sum that decimal arithmetic would make ten of.
def copyThenAdd : Machine where
  a := 0x09
  settings := Core.factorySettings
  memory := ((Memory.blank.write 0 0x08).write 1 0x69).write 2 0x01

theorem copyThenAdd_is_inert :
    let marked := copyThenAdd.withStatus { copyThenAdd.status with brk := true, unused := false }
    let adding := { copyThenAdd with pc := 1 }
    let decimal := adding.withStatus { adding.status with decimal := true }
    copyThenAdd.SameBut [.brk, .unused] marked ∧
    (marked.after 1).memory.read 0x01fd = 0x34 ∧
    adding.SameBut [.interrupt, .decimal, .brk, .unused] decimal ∧
    (∀ index < 1, ¬(adding.after index).CopiesStatus) ∧
    (decimal.after 1).a = 0x0a := by
  intro marked adding decimal
  have code : copyThenAdd.memory.read 0 = 0x08 ∧ copyThenAdd.memory.read 1 = 0x69 ∧
      copyThenAdd.memory.read 2 = 0x01 := by
    simp [copyThenAdd, Memory.read_write]
  have copies : copyThenAdd.instruction? = some ⟨.php, .implied⟩ :=
    congrArg Instruction.decode code.1
  have adds : adding.instruction? = some ⟨.adc, .immediate⟩ :=
    congrArg Instruction.decode code.2.1
  have sameMarked : copyThenAdd.SameBut [.brk, .unused] marked := by
    refine ⟨rfl, fun flag visible => ?_⟩
    cases flag
    case brk | unused => simp at visible
    all_goals rfl
  have sameDecimal : adding.SameBut [.interrupt, .decimal, .brk, .unused] decimal := by
    refine ⟨rfl, fun flag visible => ?_⟩
    cases flag
    case decimal => simp at visible
    all_goals rfl
  have hides : ∀ index < 1, ¬(adding.after index).CopiesStatus := by
    intro index first
    obtain rfl := Nat.lt_one_iff.mp first
    rintro ⟨instruction, found, copy⟩
    obtain rfl := Option.some.inj (adds.symm.trans found)
    simp at copy
  have copied := ((hidden_flags_are_inert copyThenAdd marked).1 sameMarked 1).2.rest
  have added := ((hidden_flags_are_inert adding decimal).2 sameDecimal 1 hides).2.rest
  refine ⟨sameMarked, ?_, sameDecimal, hides, ?_⟩
  next =>
    have memory := congrArg Machine.memory copied
    change (marked.after 1).memory = copyThenAdd.step.machine.memory at memory
    rw [memory, machine_step_of_decode copies]
    change (copyThenAdd.memory.write 0x01fd 0x34).read 0x01fd = 0x34
    simp
  next =>
    have sum := congrArg Core.a (congrArg Machine.toCore added)
    change (decimal.after 1).a = adding.step.machine.a at sum
    rw [sum, machine_step_of_decode adds]
    change (Arithmetic.addWithCarry 0x09 (copyThenAdd.memory.read 2) false).result = 0x0a
    rw [code.2.2]
    rfl

end Machine

end Mos6502
