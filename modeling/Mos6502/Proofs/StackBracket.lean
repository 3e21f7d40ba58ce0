import Mos6502.Proofs.StackRun

set_option autoImplicit false

namespace Mos6502

theorem Status.ofPulled_pushed (status : Status) :
    ofPulled status.pushed = { status with unused := true, brk := false } := by
  rw [ofPulled, pushed, ofByte_toByte]

inductive Bracket where
  | call
  | interrupt
  | accumulator
  | status
deriving DecidableEq

namespace Bracket

def opener : Bracket → Instruction
  | .call => ⟨.jsr, .absolute⟩
  | .interrupt => ⟨.brk, .implied⟩
  | .accumulator => ⟨.pha, .implied⟩
  | .status => ⟨.php, .implied⟩

def closer : Bracket → Instruction
  | .call => ⟨.rts, .implied⟩
  | .interrupt => ⟨.rti, .implied⟩
  | .accumulator => ⟨.pla, .implied⟩
  | .status => ⟨.plp, .implied⟩

def width : Bracket → Nat
  | .call => 2
  | .interrupt => 3
  | .accumulator | .status => 1

-- In the order of the pushes. A call and a break push one address, and mean another by it.
def bytes (bracket : Bracket) (machine : Machine) : List Byte :=
  match bracket with
  | .call => [(machine.pc + 2).high, (machine.pc + 2).low]
  | .interrupt => [(machine.pc + 2).high, (machine.pc + 2).low, machine.status.pushed]
  | .accumulator => [machine.a]
  | .status => [machine.status.pushed]

def Restores (bracket : Bracket) (before after : Machine) : Prop :=
  after.sp = before.sp ∧
    match bracket with
    | .call => after.pc.toNat = (before.pc.toNat + 3) % 65536
    | .interrupt =>
      after.pc.toNat = (before.pc.toNat + 2) % 65536 ∧
        after.status = { before.status with unused := true, brk := false }
    | .accumulator =>
      after.a = before.a ∧ after.status.zero = (before.a == 0) ∧
        after.status.negative = before.a.msb
    | .status => after.status = { before.status with unused := true, brk := false }

theorem length_bytes (bracket : Bracket) (machine : Machine) :
    (bracket.bytes machine).length = bracket.width := by
  cases bracket <;> rfl

variable {bracket : Bracket} {machine : Machine}

theorem step_opener (opens : machine.instruction? = some bracket.opener)
    (saves : bracket = .interrupt → machine.settings.enabled Core.breakPushesState) :
    machine.step.machine.sp = (machine.pushAll (bracket.bytes machine)).sp ∧
      machine.step.machine.memory = (machine.pushAll (bracket.bytes machine)).memory := by
  cases bracket with
  | call =>
    have last : machine.pc + 1 + 2 - 1 = machine.pc + 2 := by bv_omega
    rw [Machine.machine_step_of_decode opens, bytes, ← last]
    exact ⟨rfl, rfl⟩
  | interrupt =>
    have broken := Machine.step_break (Instruction.opcode_of_interrupt opens rfl)
    rw [saves rfl] at broken
    rw [broken]
    exact ⟨rfl, rfl⟩
  | accumulator =>
    rw [Machine.machine_step_of_decode opens]
    exact ⟨rfl, rfl⟩
  | status =>
    rw [Machine.machine_step_of_decode opens]
    exact ⟨rfl, rfl⟩

theorem read_opened (opens : machine.instruction? = some bracket.opener)
    (saves : bracket = .interrupt → machine.settings.enabled Core.breakPushesState)
    {position : Nat} {byte : Byte} (pushed : (bracket.bytes machine)[position]? = some byte) :
    machine.step.machine.memory.read
      (Layout.stackCell (machine.sp - BitVec.ofNat 8 position)) = byte := by
  have fits : (bracket.bytes machine).length ≤ 256 := by
    rw [length_bytes]
    cases bracket <;> decide
  rw [(step_opener opens saves).2]
  exact machine.read_pushAll fits pushed

theorem step_closer {here : Machine} (closes : here.instruction? = some bracket.closer)
    (pointed : here.sp = machine.sp - BitVec.ofNat 8 bracket.width)
    (kept : ∀ (position : Nat) (byte : Byte), (bracket.bytes machine)[position]? = some byte →
      here.memory.read (Layout.stackCell (machine.sp - BitVec.ofNat 8 position)) = byte) :
    bracket.Restores machine here.step.machine := by
  -- Each pull is at the cell of a push, in the opposite order.
  have back (position : Nat) : machine.sp - BitVec.ofNat 8 (position + 1) + 1 =
      machine.sp - BitVec.ofNat 8 position := by bv_omega
  have home : machine.sp - BitVec.ofNat 8 0 = machine.sp := BitVec.sub_zero _
  rw [Machine.machine_step_of_decode closes]
  cases bracket with
  | call =>
    have first : here.sp + 1 = machine.sp - BitVec.ofNat 8 1 := by rw [pointed]; exact back 1
    have second : here.sp + 1 + 1 = machine.sp - BitVec.ofNat 8 0 := by rw [first]; exact back 0
    refine ⟨second.trans home, ?_⟩
    change (Address.ofBytes (here.memory.read (Layout.stackCell (here.sp + 1)))
      (here.memory.read (Layout.stackCell (here.sp + 1 + 1))) + 1).toNat = _
    rw [second, first, kept 1 _ rfl, kept 0 _ rfl, Address.ofBytes_low_high]
    bv_omega
  | interrupt =>
    have first : here.sp + 1 = machine.sp - BitVec.ofNat 8 2 := by rw [pointed]; exact back 2
    have second : here.sp + 1 + 1 = machine.sp - BitVec.ofNat 8 1 := by rw [first]; exact back 1
    have third : here.sp + 1 + 1 + 1 = machine.sp - BitVec.ofNat 8 0 := by
      rw [second]
      exact back 0
    refine ⟨third.trans home, ?_, ?_⟩
    next =>
      change (Address.ofBytes (here.memory.read (Layout.stackCell (here.sp + 1 + 1)))
        (here.memory.read (Layout.stackCell (here.sp + 1 + 1 + 1)))).toNat = _
      rw [third, second, kept 1 _ rfl, kept 0 _ rfl, Address.ofBytes_low_high]
      rfl
    next =>
      change Status.ofPulled (here.memory.read (Layout.stackCell (here.sp + 1))) = _
      rw [first, kept 2 _ rfl, Status.ofPulled_pushed]
  | accumulator =>
    have first : here.sp + 1 = machine.sp - BitVec.ofNat 8 0 := by rw [pointed]; exact back 0
    have value : here.memory.read (Layout.stackCell (here.sp + 1)) = machine.a := by
      rw [first]
      exact kept 0 _ rfl
    refine ⟨first.trans home, value, ?_, ?_⟩
    next => exact congrArg (· == 0) value
    next => exact congrArg BitVec.msb value
  | status =>
    have first : here.sp + 1 = machine.sp - BitVec.ofNat 8 0 := by rw [pointed]; exact back 0
    refine ⟨first.trans home, ?_⟩
    change Status.ofPulled (here.memory.read (Layout.stackCell (here.sp + 1))) = _
    rw [first, kept 0 _ rfl, Status.ofPulled_pushed]

-- At depth zero the closer restores what the opener saved.
theorem holds_over_run (opens : machine.instruction? = some bracket.opener)
    (saves : bracket = .interrupt → machine.settings.enabled Core.breakPushesState)
    (count : Nat) (spares : machine.step.machine.Spares machine.sp bracket.width count) :
    machine.step.fault = none ∧
      ∀ index ≤ count,
        let opened := machine.step.machine
        let here := opened.after index
        (here.sp.toNat : Int) = (machine.sp.toNat - bracket.width - opened.depth index) % 256 ∧
          (∀ address ∈ Layout.cellsBelow machine.sp bracket.width,
            here.memory.read address = opened.memory.read address) ∧
          (opened.depth index = 0 → here.instruction? = some bracket.closer →
            here.step.fault = none ∧ bracket.Restores machine here.step.machine) := by
  have start : machine.step.machine.sp = machine.sp - BitVec.ofNat 8 bracket.width := by
    rw [(step_opener opens saves).1, Machine.sp_pushAll, length_bytes]
  refine ⟨congrArg Effect.fault (Machine.step_of_decode opens), fun index earlier => ?_⟩
  obtain ⟨pointed, kept⟩ := (spares.of_le earlier).run start
  refine ⟨?_, kept, fun closed closes => ?_⟩
  next =>
    rw [pointed, Byte.toNat_wrap]
    omega
  next =>
    refine ⟨congrArg Effect.fault (Machine.step_of_decode closes), step_closer closes ?_ ?_⟩
    next =>
      have level := Byte.wrap_sub_add machine.sp.toNat bracket.width 0
      rw [pointed, closed]
      simpa using level.symm
    next =>
      intro position byte pushed
      have inside : Layout.stackCell (machine.sp - BitVec.ofNat 8 position) ∈
          Layout.cellsBelow machine.sp bracket.width := by
        obtain ⟨bounded, _⟩ := List.getElem?_eq_some_iff.mp pushed
        rw [length_bytes] at bounded
        exact Layout.mem_cellsBelow.mpr ⟨position, bounded, rfl⟩
      rw [kept _ inside]
      exact read_opened opens saves pushed

def nestedPushes : Machine where
  a := 0x80
  settings := Core.factorySettings
  memory := (((Memory.blank.write 0 0x48).write 1 0x08).write 2 0x28).write 3 0x68

theorem nestedPushes_restores :
    Restores .accumulator nestedPushes (nestedPushes.step.machine.after 2).step.machine := by
  have code : nestedPushes.memory.read 0 = 0x48 ∧ nestedPushes.memory.read 1 = 0x08 ∧
      nestedPushes.memory.read 2 = 0x28 ∧ nestedPushes.memory.read 3 = 0x68 := by
    simp [nestedPushes, Memory.read_write]
  have opens : nestedPushes.instruction? = some (opener .accumulator) :=
    congrArg Instruction.decode code.1
  have restores := holds_over_run opens nofun 2
  have first := Machine.step_of_implied opens rfl
  generalize nestedPushes.step.machine = inner at restores first ⊢
  have pushes : inner.instruction? = some ⟨.php, .implied⟩ := by
    rw [Machine.instruction?, Machine.opcode, first.1]
    exact congrArg Instruction.decode ((first.2 1 (by decide)).trans code.2.1)
  have second := Machine.step_of_implied pushes rfl
  rw [first.1] at second
  have pulls : (inner.after 1).instruction? = some ⟨.plp, .implied⟩ := by
    change Instruction.decode (inner.step.machine.memory.read inner.step.machine.pc) = _
    rw [second.1]
    exact congrArg Instruction.decode
      (((second.2 2 (by decide)).trans (first.2 2 (by decide))).trans code.2.2.1)
  have third := Machine.step_of_implied pulls rfl
  have closes : (inner.after 2).instruction? = some (closer .accumulator) := by
    have place : (inner.after 1).pc + 1 = 3 := congrArg (· + 1) second.1
    have kept : (inner.after 1).memory.read 3 = 0x68 :=
      ((second.2 3 (by decide)).trans (first.2 3 (by decide))).trans code.2.2.2
    rw [Machine.instruction?, Machine.opcode, Machine.after, third.1, place]
    exact congrArg Instruction.decode ((third.2 3 (by decide)).trans kept)
  have depths : inner.depth 1 = 1 ∧ inner.depth 2 = 0 := by
    have start : inner.after 0 = inner := rfl
    simp [Machine.depth, Machine.pushedBytes, Machine.pulledBytes, start, pushes, pulls,
      Mnemonic.operation, Operation.pushes, Operation.pulls]
  have empty : inner.Spares nestedPushes.sp 1 0 := .zero (by decide)
  have pushed : inner.Spares nestedPushes.sp 1 1 :=
    empty.succ (by simp [Machine.after, pushes]) (by simp [depths])
      (by simp [Machine.after, Machine.storeTarget_of_implied pushes])
  have pulled : inner.Spares nestedPushes.sp 1 2 :=
    pushed.succ (by simp [pulls]) (by simp [depths])
      (by simp [Machine.storeTarget_of_implied pulls])
  exact ((restores pulled).2 2 (Nat.le_refl 2)).2.2 depths.2 closes |>.2

end Bracket

end Mos6502
