import Mos6502.Proofs.StepRun

set_option autoImplicit false

namespace Mos6502

theorem Operation.pushes_eq_zero_or_pulls_eq_zero (operation : Operation) (settings : Settings) :
    operation.pushes settings = 0 ∨ operation.pulls = 0 := by
  cases operation
  case pushAccumulator | pushStatus | call | interrupt => exact .inr rfl
  all_goals exact .inl rfl

theorem Operation.storeAddress_none (operation : Operation) :
    operation.storeAddress none = none := by
  cases operation <;> rfl

theorem Mode.operand_ne_sp (mode : Mode) (machine : Machine) :
    mode.operand machine ≠ some (.register .sp) := by
  cases mode <;> nofun

theorem Mnemonic.target_ne_sp {mnemonic : Mnemonic} (other : mnemonic ≠ .txs)
    {operand : Option Operand} (elsewhere : operand ≠ some (.register .sp)) :
    mnemonic.operation.target operand ≠ some (.register .sp) := by
  cases mnemonic
  case txs => exact absurd rfl other
  case asl | lsr | rol | ror | inc | dec | sta | stx | sty => exact elsewhere
  all_goals nofun

namespace Machine

variable {machine : Machine}

def storeTarget (machine : Machine) : Option Address :=
  machine.instruction?.bind fun instruction =>
    instruction.mnemonic.operation.storeAddress (machine.operand instruction.mode)

def pushedBytes (machine : Machine) : Nat :=
  machine.instruction?.elim 0 fun instruction =>
    instruction.mnemonic.operation.pushes machine.settings

def pulledBytes (machine : Machine) : Nat :=
  machine.instruction?.elim 0 fun instruction => instruction.mnemonic.operation.pulls

theorem sp_step (other : ∀ instruction ∈ machine.instruction?, instruction.mnemonic ≠ .txs) :
    machine.step.machine.sp =
      machine.sp - BitVec.ofNat 8 machine.pushedBytes + BitVec.ofNat 8 machine.pulledBytes := by
  cases found : machine.instruction? with
  | none =>
    have stays : machine.step.machine.sp = machine.sp :=
      congrArg (·.machine.sp) (step_eq_refused found)
    simp [stays, pushedBytes, pulledBytes, found]
  | some instruction =>
    have elsewhere := Mnemonic.target_ne_sp (other instruction found)
      (instruction.mode.operand_ne_sp machine.pastOpcode)
    have moved := (completes_body found).sp elsewhere
    rw [machine_step_of_decode found, pushedBytes, pulledBytes, found]
    exact moved

theorem read_step {address : Address} (unstored : address ∉ machine.storeTarget)
    (unpushed : address ∉ Layout.cellsBelow machine.sp machine.pushedBytes) :
    machine.step.machine.memory.read address = machine.memory.read address := by
  cases found : machine.instruction? with
  | none => exact congrArg (·.machine.memory.read address) (step_eq_refused found)
  | some instruction =>
    rw [storeTarget, found, Option.bind_some] at unstored
    rw [pushedBytes, found, Option.elim_some] at unpushed
    rw [machine_step_of_decode found]
    apply (completes_body found).memory address
    rw [Operation.writes, List.mem_append, Option.mem_toList, not_or]
    exact ⟨unstored, unpushed⟩

theorem storeTarget_of_implied {mnemonic : Mnemonic}
    (decoded : machine.instruction? = some ⟨mnemonic, .implied⟩) : machine.storeTarget = none := by
  rw [storeTarget, decoded, Option.bind_some]
  exact mnemonic.operation.storeAddress_none

theorem step_of_implied {mnemonic : Mnemonic}
    (decoded : machine.instruction? = some ⟨mnemonic, .implied⟩)
    (stays : mnemonic.operation.jumps machine.status = false) :
    machine.step.machine.pc = machine.pc + 1 ∧
      ∀ address : Address, address.toNat < 256 →
        machine.step.machine.memory.read address = machine.memory.read address := by
  refine ⟨?_, fun address low => ?_⟩
  next =>
    rw [pc_step decoded stays]
    exact BitVec.add_zero _
  next =>
    apply read_step
    next => simp [storeTarget_of_implied decoded]
    next =>
      intro inside
      obtain ⟨depth, _, rfl⟩ := Layout.mem_cellsBelow.mp inside
      have high := Layout.page_le_stackCell (machine.sp - BitVec.ofNat 8 depth)
      omega

theorem pushedBytes_eq_zero_or_pulledBytes_eq_zero (machine : Machine) :
    machine.pushedBytes = 0 ∨ machine.pulledBytes = 0 := by
  rw [pushedBytes, pulledBytes]
  cases machine.instruction? with
  | none => exact .inl rfl
  | some instruction =>
    exact instruction.mnemonic.operation.pushes_eq_zero_or_pulls_eq_zero machine.settings

def depth (machine : Machine) : Nat → Int
  | 0 => 0
  | count + 1 =>
    machine.depth count + (machine.after count).pushedBytes - (machine.after count).pulledBytes

-- The stack has room for 256 bytes before it laps the saved ones.
structure Spares (machine : Machine) (pointer : Byte) (width count : Nat) : Prop where
  noTransfer : ∀ index < count, ∀ instruction ∈ (machine.after index).instruction?,
    instruction.mnemonic ≠ .txs
  depth : ∀ index ≤ count, 0 ≤ machine.depth index ∧ machine.depth index ≤ 256 - width
  stores : ∀ index < count, ∀ address ∈ (machine.after index).storeTarget,
    address ∉ Layout.cellsBelow pointer width

namespace Spares

variable {pointer : Byte} {width count : Nat}

theorem of_le (spares : machine.Spares pointer width count) {index : Nat}
    (earlier : index ≤ count) : machine.Spares pointer width index where
  noTransfer := fun step bound => spares.noTransfer step (Nat.lt_of_lt_of_le bound earlier)
  depth := fun step bound => spares.depth step (Nat.le_trans bound earlier)
  stores := fun step bound => spares.stores step (Nat.lt_of_lt_of_le bound earlier)

theorem zero (fits : width ≤ 256) : machine.Spares pointer width 0 where
  noTransfer := nofun
  depth := by
    intro index bound
    obtain rfl := Nat.le_zero.mp bound
    rw [Machine.depth]
    omega
  stores := nofun

theorem succ (spares : machine.Spares pointer width count)
    (noTransfer : ∀ instruction ∈ (machine.after count).instruction?, instruction.mnemonic ≠ .txs)
    (depth : 0 ≤ machine.depth (count + 1) ∧ machine.depth (count + 1) ≤ 256 - width)
    (stores : ∀ address ∈ (machine.after count).storeTarget,
      address ∉ Layout.cellsBelow pointer width) :
    machine.Spares pointer width (count + 1) where
  noTransfer := by
    intro index bound
    rcases Nat.lt_succ_iff_lt_or_eq.mp bound with earlier | rfl
    next => exact spares.noTransfer index earlier
    next => exact noTransfer
  depth := by
    intro index bound
    rcases Nat.le_succ_iff.mp bound with earlier | rfl
    next => exact spares.depth index earlier
    next => exact depth
  stores := by
    intro index bound
    rcases Nat.lt_succ_iff_lt_or_eq.mp bound with earlier | rfl
    next => exact spares.stores index earlier
    next => exact stores

-- The bytes that a step pushes stay within the room that its own bound on the depth leaves.
theorem unpushed (spares : machine.Spares pointer width (count + 1))
    (pointed : (machine.after count).sp = .wrap (pointer.toNat - width - machine.depth count))
    {address : Address} (inside : address ∈ Layout.cellsBelow pointer width) :
    address ∉ Layout.cellsBelow (machine.after count).sp (machine.after count).pushedBytes := by
  obtain ⟨position, bounded, rfl⟩ := Layout.mem_cellsBelow.mp inside
  have now := spares.depth count (Nat.le_succ count)
  have next := spares.depth (count + 1) (Nat.le_refl _)
  rw [Machine.depth] at next
  obtain ⟨used, counted⟩ := Int.eq_ofNat_of_zero_le now.1
  have low : (machine.after count).sp = pointer - BitVec.ofNat 8 (width + used) := by
    have wrapped := Byte.wrap_sub_add pointer.toNat (width + used) 0
    rw [Byte.wrap_toNat] at wrapped
    rw [pointed, counted]
    simpa [Int.sub_sub] using wrapped.symm
  rw [low]
  apply Layout.stackCell_not_mem_cellsBelow
  next => omega
  next =>
    rcases (machine.after count).pushedBytes_eq_zero_or_pulledBytes_eq_zero with none | none
    next => omega
    next => omega

theorem run (start : machine.sp = pointer - BitVec.ofNat 8 width)
    (spares : machine.Spares pointer width count) :
    (machine.after count).sp = .wrap (pointer.toNat - width - machine.depth count) ∧
      ∀ address ∈ Layout.cellsBelow pointer width,
        (machine.after count).memory.read address = machine.memory.read address := by
  -- The depth tells where the stack pointer is, and so what the next step pushes over.
  induction count with
  | zero =>
    refine ⟨?_, fun _ _ => rfl⟩
    have begun := Byte.wrap_sub_add pointer.toNat width 0
    simpa [after, Machine.depth, start] using begun
  | succ count ih =>
    obtain ⟨pointed, kept⟩ := ih (spares.of_le (Nat.le_succ count))
    refine ⟨?_, fun address inside => ?_⟩
    next =>
      rw [after, sp_step (spares.noTransfer count (Nat.lt_succ_self count)), pointed,
        Byte.wrap_sub_add, Machine.depth]
      congr 1
      omega
    next =>
      have unstored : address ∉ (machine.after count).storeTarget := fun stored =>
        spares.stores count (Nat.lt_succ_self count) address stored inside
      have unpushed := spares.unpushed pointed inside
      rw [after, read_step unstored unpushed, kept address inside]

end Spares

end Machine

end Mos6502
