import Mos6502.Proofs.BodyOutcomes
import Mos6502.Proofs.StackRun

set_option autoImplicit false

namespace Mos6502

namespace Layout

-- From the cell above the stack pointer up.
def cellsAbove (pointer : Byte) (count : Nat) : List Address :=
  (List.range count).map fun height => stackCell (pointer + 1 + BitVec.ofNat 8 height)

theorem mem_cellsAbove {address : Address} {pointer : Byte} {count : Nat} :
    address ∈ cellsAbove pointer count ↔
      ∃ height < count, address = stackCell (pointer + 1 + BitVec.ofNat 8 height) := by
  simp only [cellsAbove, List.mem_map, List.mem_range, eq_comm]

end Layout

namespace Operation

-- A store only writes to its operand, and jumps and branches go there.
def looks : Operation → Bool
  | .store _ | .branch .. | .jump | .call => false
  | _ => true

def loadAddress (operation : Operation) (operand : Option Operand) : Option Address :=
  if operation.looks then operand.bind Operand.address? else none

def vector : Operation → List Address
  | .interrupt => [Layout.interruptVector, Layout.interruptVector + 1]
  | _ => []

def reads (operation : Operation) (operand : Option Operand) (pointer : Byte) : List Address :=
  (operation.loadAddress operand).toList ++ Layout.cellsAbove pointer operation.pulls ++
    operation.vector

end Operation

namespace Mnemonic

def loading : List Mnemonic :=
  [.adc, .sbc, .and, .ora, .eor, .bit, .cmp, .cpx, .cpy, .lda, .ldx, .ldy, .asl, .lsr, .rol, .ror,
    .inc, .dec]

def pulled : Mnemonic → Nat
  | .pla | .plp => 1
  | .rts => 2
  | .rti => 3
  | _ => 0

def pushed (mnemonic : Mnemonic) (saves : Bool) : Nat :=
  match mnemonic with
  | .pha | .php => 1
  | .jsr => 2
  | .brk => if saves then 3 else 0
  | _ => 0

def readCells (mnemonic : Mnemonic) (cell : Option Address) (pointer : Byte) : List Address :=
  (if mnemonic ∈ loading then cell else none).toList ++
    Layout.cellsAbove pointer mnemonic.pulled ++ if mnemonic = .brk then [0xfffe, 0xffff] else []

def writtenCells (mnemonic : Mnemonic) (cell : Option Address) (pointer : Byte) (saves : Bool) :
    List Address :=
  (if mnemonic ∈ placing then cell else none).toList ++
    Layout.cellsBelow pointer (mnemonic.pushed saves)

variable (mnemonic : Mnemonic)

theorem pulls_operation : mnemonic.operation.pulls = mnemonic.pulled := by
  cases mnemonic <;> rfl

theorem pushes_operation (settings : Settings) :
    mnemonic.operation.pushes settings = mnemonic.pushed (settings.enabled "brk_pushes_state") := by
  cases mnemonic <;> rfl

theorem vector_operation :
    mnemonic.operation.vector = if mnemonic = .brk then [0xfffe, 0xffff] else [] := by
  cases mnemonic <;> rfl

theorem storeAddress_operation (operand : Option Operand) :
    mnemonic.operation.storeAddress operand =
      if mnemonic ∈ placing then operand.bind Operand.address? else none := by
  cases mnemonic <;> rfl

variable {mnemonic} in
theorem loadAddress_operation {operand : Option Operand}
    (given : operand.isSome → mnemonic.operation.looks → mnemonic ∈ loading) :
    mnemonic.operation.loadAddress operand =
      if mnemonic ∈ loading then operand.bind Operand.address? else none := by
  have looking : ∀ mnemonic ∈ loading, mnemonic.operation.looks := by decide
  cases operand with
  | none => simp [Operation.loadAddress]
  | some operand =>
    have looks : mnemonic.operation.looks ↔ mnemonic ∈ loading := ⟨given rfl, looking mnemonic⟩
    simp only [Operation.loadAddress, looks]

end Mnemonic

-- The other instructions that would look have no operand.
theorem Instruction.loading_of_decode {opcode : Byte} {instruction : Instruction}
    (decoded : decode opcode = some instruction) (machine : Machine) :
    (instruction.mode.operand machine).isSome → instruction.mnemonic.operation.looks →
      instruction.mnemonic ∈ Mnemonic.loading := by
  have every : ∀ entry ∈ opcodes, entry.2.mode.form.isSome →
      entry.2.mnemonic.operation.looks → entry.2.mnemonic ∈ Mnemonic.loading := by
    decide +kernel
  rw [Mode.isSome_operand]
  exact every (opcode, instruction) (mem_of_decode decoded)

structure Effect.AgreesOn (left : Effect) (cells : List Address) (right : Effect) : Prop where
  fault : left.fault = right.fault
  core : left.machine.toCore = right.machine.toCore
  memory : ∀ address ∈ cells,
    left.machine.memory.read address = right.machine.memory.read address

theorem Effect.AgreesOn.of_unwritten {left right : Effect} (fault : left.fault = right.fault)
    (core : left.machine.toCore = right.machine.toCore) : left.AgreesOn [] right where
  fault := fault
  core := core
  memory := by simp

namespace Machine

def reads (machine : Machine) : List Address :=
  machine.pc :: machine.instruction?.elim [] fun instruction =>
    instruction.mode.reads machine.pastOpcode ++
      instruction.mnemonic.operation.reads (machine.operand instruction.mode) machine.sp

def writes (machine : Machine) : List Address :=
  machine.storeTarget.toList ++ Layout.cellsBelow machine.sp machine.pushedBytes

theorem writes_of_decode {machine : Machine} {instruction : Instruction}
    (decoded : machine.instruction? = some instruction) :
    machine.writes =
      instruction.mnemonic.operation.writes (machine.operand instruction.mode) machine := by
  simp [writes, storeTarget, pushedBytes, decoded, Operation.writes]

theorem footprint_of_decode {machine : Machine} {instruction : Instruction}
    (decoded : machine.instruction? = some instruction) :
    let cell := (machine.operand instruction.mode).bind Operand.address?
    machine.reads = machine.pc :: (instruction.mode.reads machine.pastOpcode ++
        instruction.mnemonic.readCells cell machine.sp) ∧
      machine.writes = instruction.mnemonic.writtenCells cell machine.sp
        (machine.settings.enabled "brk_pushes_state") := by
  intro cell
  have given : (machine.operand instruction.mode).isSome → _ :=
    Instruction.loading_of_decode decoded machine.pastOpcode
  constructor
  next =>
    rw [reads, decoded, Option.elim_some, Operation.reads, Mnemonic.loadAddress_operation given,
      Mnemonic.pulls_operation, Mnemonic.vector_operation, Mnemonic.readCells]
  next =>
    rw [writes_of_decode decoded, Operation.writes, Mnemonic.storeAddress_operation,
      Mnemonic.pushes_operation, Mnemonic.writtenCells]

theorem footprint_of_refused {machine : Machine} (unknown : machine.instruction? = none) :
    machine.reads = [machine.pc] ∧ machine.writes = [] := by
  simp [reads, writes, storeTarget, pushedBytes, unknown, Layout.cellsBelow]

def withMemory (machine : Machine) (memory : Memory) : Machine :=
  { machine with memory := memory }

@[simp] theorem core_withMemory (machine : Machine) (memory : Memory) :
    (machine.withMemory memory).toCore = machine.toCore := rfl

theorem read_stored_same {operand : Operand} {address : Address}
    (located : operand.address? = some address) (machine : Machine) (value : Byte) :
    (machine.stored operand value).memory.read address = value := by
  cases operand with
  | register _ => simp [Operand.address?] at located
  | byte _ => simp [Operand.address?] at located
  | location cell =>
    obtain rfl : cell = address := by simpa [Operand.address?] using located
    simp [stored, write]

theorem read_pushAll_withMemory (machine : Machine) (memory : Memory) {bytes : List Byte}
    (fits : bytes.length ≤ 256) {address : Address}
    (inside : address ∈ Layout.cellsBelow machine.sp bytes.length) :
    ((machine.withMemory memory).pushAll bytes).memory.read address =
      (machine.pushAll bytes).memory.read address := by
  obtain ⟨depth, bounded, rfl⟩ := Layout.mem_cellsBelow.mp inside
  have pushed : bytes[depth]? = some bytes[depth] := List.getElem?_eq_getElem bounded
  rw [machine.read_pushAll fits pushed]
  exact (machine.withMemory memory).read_pushAll fits pushed

end Machine

namespace Operation

variable {operation : Operation} {operand : Option Operand} {machine : Machine} {memory : Memory}

theorem operandByte_congr {operand : Operand} (looking : operation.looks)
    (agree : ∀ address ∈ operation.reads (some operand) machine.sp,
      memory.read address = machine.memory.read address) :
    (machine.withMemory memory).operandByte operand = machine.operandByte operand := by
  cases operand with
  | register _ => rfl
  | byte _ => rfl
  | location address =>
    apply agree
    simp [reads, loadAddress, looking, Operand.address?]

theorem pulled_congr (agree : ∀ address ∈ operation.reads operand machine.sp,
    memory.read address = machine.memory.read address) {pointer : Byte}
    (above : ∃ height < operation.pulls, pointer = machine.sp + 1 + BitVec.ofNat 8 height) :
    memory.read (Layout.stackCell pointer) = machine.memory.read (Layout.stackCell pointer) := by
  obtain ⟨height, bounded, rfl⟩ := above
  apply agree
  apply List.mem_append_left
  exact List.mem_append_right _ (Layout.mem_cellsAbove.mpr ⟨height, bounded, rfl⟩)

theorem nearest_congr (agree : ∀ address ∈ operation.reads operand machine.sp,
    memory.read address = machine.memory.read address) (pulling : 0 < operation.pulls) :
    memory.read (Layout.stackCell (machine.sp + 1)) =
      machine.memory.read (Layout.stackCell (machine.sp + 1)) :=
  pulled_congr agree ⟨0, pulling, by simp⟩

theorem second_congr (agree : ∀ address ∈ operation.reads operand machine.sp,
    memory.read address = machine.memory.read address) (pulling : 1 < operation.pulls) :
    memory.read (Layout.stackCell (machine.sp + 1 + 1)) =
      machine.memory.read (Layout.stackCell (machine.sp + 1 + 1)) :=
  pulled_congr agree ⟨1, pulling, rfl⟩

-- Bodies that store one byte at their operand, whatever else they change in the two machines.
theorem agreesOn_stored {operand : Operand} (leftBefore rightBefore : Machine) (value : Byte)
    {left right : Effect} (noPush : operation.pushes machine.settings = 0)
    (target : operation.target (some operand) = some operand) (fault : left.fault = right.fault)
    (core : left.machine.toCore = right.machine.toCore)
    (leftMemory : left.machine.memory = (leftBefore.stored operand value).memory)
    (rightMemory : right.machine.memory = (rightBefore.stored operand value).memory) :
    left.AgreesOn (operation.writes (some operand) machine) right where
  fault := fault
  core := core
  memory := by
    intro address written
    have located : operand.address? = some address := by
      simpa [writes, storeAddress, noPush, target, Layout.cellsBelow] using written
    simp [leftMemory, rightMemory, Machine.read_stored_same located]

theorem agreesOn_pushed (bytes : List Byte) {left right : Effect}
    (count : operation.pushes machine.settings = bytes.length) (fits : bytes.length ≤ 256)
    (noStore : operation.storeAddress operand = none) (fault : left.fault = right.fault)
    (core : left.machine.toCore = right.machine.toCore)
    (leftMemory : left.machine.memory = ((machine.withMemory memory).pushAll bytes).memory)
    (rightMemory : right.machine.memory = (machine.pushAll bytes).memory) :
    left.AgreesOn (operation.writes operand machine) right where
  fault := fault
  core := core
  memory := by
    intro address written
    have inside : address ∈ Layout.cellsBelow machine.sp bytes.length := by
      simpa [writes, noStore, count] using written
    rw [leftMemory, rightMemory, machine.read_pushAll_withMemory memory fits inside]

theorem interrupt_congr
    (agree : ∀ address ∈ vector .interrupt, memory.read address = machine.memory.read address) :
    Effect.AgreesOn { machine := (machine.withMemory memory).interrupt }
      (writes .interrupt operand machine) { machine := machine.interrupt } := by
  have vector : memory.readWord Layout.interruptVector =
      machine.memory.readWord Layout.interruptVector := by
    rw [Memory.readWord, agree _ (by simp [vector]), agree _ (by simp [vector]), Memory.readWord]
  by_cases saves : machine.settings.enabled Core.breakPushesState
  next =>
    have saved : (machine.withMemory memory).settings.enabled Core.breakPushesState := saves
    have count : pushes .interrupt machine.settings = 3 := by simp [pushes, saves]
    rw [Machine.interrupt_of_saves saves, Machine.interrupt_of_saves saved,
      Machine.saveState_eq_pushAll, Machine.saveState_eq_pushAll, Machine.readWord_pushAll,
      Machine.readWord_pushAll]
    refine agreesOn_pushed
      [(machine.pc + 1).high, (machine.pc + 1).low, machine.status.pushed] count (by simp) rfl rfl
        ?_ rfl rfl
    simp only [Machine.withMemory, vector]
    rfl
  next =>
    have ignores : machine.settings.enabled Core.breakPushesState = false := by simpa using saves
    have ignored : (machine.withMemory memory).settings.enabled Core.breakPushesState = false :=
      ignores
    have none : writes .interrupt operand machine = [] := by
      simp [writes, storeAddress, target, pushes, ignores, Layout.cellsBelow]
    rw [Machine.interrupt_of_ignores ignores, Machine.interrupt_of_ignores ignored, none]
    refine .of_unwritten rfl ?_
    simp only [Machine.withMemory, vector]
    rfl

theorem run_congr (accepted : operation.accepts operand)
    (agree : ∀ address ∈ operation.reads operand machine.sp,
      memory.read address = machine.memory.read address) :
    (operation.run operand (machine.withMemory memory)).AgreesOn
      (operation.writes operand machine) (operation.run operand machine) := by
  cases operation
  case add | subtract | testBits | compare | combine | load =>
    obtain ⟨operand, rfl⟩ := Option.isSome_iff_exists.mp accepted
    have same := operandByte_congr rfl agree
    simp only [run, onByte, onOperand, same]
    exact .of_unwritten rfl rfl
  case shift kind =>
    obtain ⟨operand, rfl, storable⟩ := (Option.any_eq_true _ _).mp accepted
    have same := operandByte_congr rfl agree
    simp only [run, onOperand, Machine.shift_of_storable storable, same]
    exact agreesOn_stored _ _ _ rfl rfl rfl (by cases operand <;> rfl) rfl rfl
  case adjust change =>
    obtain ⟨operand, rfl, storable⟩ := (Option.any_eq_true _ _).mp accepted
    have same := operandByte_congr rfl agree
    simp only [run, onOperand, Machine.assignResult_of_storable storable, same]
    exact agreesOn_stored _ _ _ rfl rfl rfl (by cases operand <;> rfl) rfl rfl
  case store register =>
    obtain ⟨operand, rfl, storable⟩ := (Option.any_eq_true _ _).mp accepted
    simp only [run, onOperand, Machine.assign_of_storable storable]
    exact agreesOn_stored _ _ _ rfl rfl rfl (by cases operand <;> rfl) rfl rfl
  case adjustRegister | putFlag | nothing => exact .of_unwritten rfl rfl
  case transfer source target => exact .of_unwritten rfl (by cases target <;> rfl)
  case branch flag wanted =>
    obtain ⟨operand, rfl, reachable⟩ := (Option.any_eq_true _ _).mp accepted
    obtain ⟨address, found⟩ := Machine.target_of_reachable reachable
    simp only [run, onOperand, Machine.branchIf_of_target found]
    exact .of_unwritten rfl rfl
  case jump =>
    obtain ⟨operand, rfl, reachable⟩ := (Option.any_eq_true _ _).mp accepted
    obtain ⟨address, found⟩ := Machine.target_of_reachable reachable
    simp only [run, onOperand, Machine.jump_of_target found]
    exact .of_unwritten rfl rfl
  case call =>
    obtain ⟨operand, rfl, reachable⟩ := (Option.any_eq_true _ _).mp accepted
    obtain ⟨address, found⟩ := Machine.target_of_reachable reachable
    simp only [run, onOperand, Machine.call_of_target found]
    exact agreesOn_pushed [(machine.pc - 1).high, (machine.pc - 1).low] rfl (by simp) rfl rfl rfl
      rfl rfl
  case interrupt =>
    exact interrupt_congr fun address vectored => agree address (List.mem_append_right _ vectored)
  case pushAccumulator => exact agreesOn_pushed [machine.a] rfl (by simp) rfl rfl rfl rfl rfl
  case pushStatus => exact agreesOn_pushed [machine.status.pushed] rfl (by simp) rfl rfl rfl rfl rfl
  case pullAccumulator | pullStatus =>
    have nearest := nearest_congr agree (by decide)
    simp only [run, Machine.pullAccumulator, Machine.pullStatus, Machine.pull, Machine.withMemory,
      nearest]
    exact .of_unwritten rfl rfl
  case returnFromCall =>
    have nearest := nearest_congr agree (by decide)
    have second := second_congr agree (by decide)
    simp only [run, Machine.returnFromCall_eq, Machine.withMemory, nearest, second]
    exact .of_unwritten rfl rfl
  case returnFromInterrupt =>
    have nearest := nearest_congr agree (by decide)
    have second := second_congr agree (by decide)
    have third : memory.read (Layout.stackCell (machine.sp + 1 + 1 + 1)) =
        machine.memory.read (Layout.stackCell (machine.sp + 1 + 1 + 1)) :=
      pulled_congr agree ⟨2, by decide, by bv_omega⟩
    simp only [run, Machine.returnFromInterrupt_eq, Machine.withMemory, nearest, second, third]
    exact .of_unwritten rfl rfl

end Operation

namespace Machine

section Agreement

variable {machine : Machine} {memory : Memory} {instruction : Instruction}
  (agree : ∀ address ∈ machine.reads, memory.read address = machine.memory.read address)

include agree

theorem opcode_withMemory : (machine.withMemory memory).opcode = machine.opcode :=
  agree machine.pc (by simp [reads])

theorem instruction_withMemory :
    (machine.withMemory memory).instruction? = machine.instruction? :=
  congrArg Instruction.decode (opcode_withMemory agree)

theorem pastOpcode_withMemory :
    (machine.withMemory memory).pastOpcode = machine.pastOpcode.withMemory memory := by
  simp only [pastOpcode, opcode_withMemory agree]
  rfl

theorem mode_agrees (decoded : machine.instruction? = some instruction) :
    ∀ address ∈ instruction.mode.reads machine.pastOpcode,
      memory.read address = machine.memory.read address := by
  intro address looked
  apply agree
  simp [reads, decoded, looked]

theorem operation_agrees (decoded : machine.instruction? = some instruction) :
    ∀ address ∈ instruction.mnemonic.operation.reads (machine.operand instruction.mode) machine.sp,
      memory.read address = machine.memory.read address := by
  intro address looked
  apply agree
  simp [reads, decoded, looked]

theorem operand_withMemory (decoded : machine.instruction? = some instruction) :
    (machine.withMemory memory).operand instruction.mode = machine.operand instruction.mode := by
  rw [operand, pastOpcode_withMemory agree]
  exact instruction.mode.operand_congr machine.pastOpcode memory (mode_agrees agree decoded)

theorem reads_withMemory : (machine.withMemory memory).reads = machine.reads := by
  cases found : machine.instruction? with
  | none => simp [reads, instruction_withMemory agree, found]
  | some instruction =>
    have looked : instruction.mode.reads (machine.pastOpcode.withMemory memory) =
        instruction.mode.reads machine.pastOpcode := Mode.reads_congr (mode_agrees agree found)
    simp [reads, instruction_withMemory agree, found, operand_withMemory agree found,
      pastOpcode_withMemory agree, looked]

theorem writes_withMemory : (machine.withMemory memory).writes = machine.writes := by
  cases found : machine.instruction? with
  | none =>
    simp [writes, storeTarget, pushedBytes, instruction_withMemory agree, found]
  | some instruction =>
    have decoded := (instruction_withMemory agree).trans found
    rw [writes_of_decode decoded, writes_of_decode found, operand_withMemory agree found]
    rfl

theorem body_withMemory (decoded : machine.instruction? = some instruction) :
    ((machine.withMemory memory).body instruction).AgreesOn machine.writes
      (machine.body instruction) := by
  have accepted := Instruction.accepts_of_decode decoded machine.pastOpcode
  have past : (machine.withMemory memory).pastOperand instruction.mode =
      (machine.pastOperand instruction.mode).withMemory memory := by
    rw [pastOperand, pastOpcode_withMemory agree]
    rfl
  rw [body, operand_withMemory agree decoded, past, writes_of_decode decoded]
  exact Operation.run_congr accepted (operation_agrees agree decoded)

theorem step_withMemory :
    (machine.withMemory memory).step.AgreesOn machine.writes machine.step.toEffect := by
  cases found : machine.instruction? with
  | none =>
    have unknown := (instruction_withMemory agree).trans found
    rw [step_eq_refused found, step_eq_refused unknown, opcode_withMemory agree]
    rw [(footprint_of_refused found).2]
    exact .of_unwritten rfl rfl
  | some instruction =>
    have decoded := (instruction_withMemory agree).trans found
    obtain ⟨_, core, memory⟩ := body_withMemory agree found
    rw [step_of_decode found, step_of_decode decoded]
    refine ⟨rfl, ?_, memory⟩
    exact congrArg
      (fun core => { core with instructionCount := machine.instructionCount + 1 }) core

end Agreement

theorem read_step_outside (machine : Machine) {address : Address}
    (outside : address ∉ machine.writes) :
    machine.step.machine.memory.read address = machine.memory.read address := by
  rw [writes, List.mem_append, Option.mem_toList, not_or] at outside
  exact read_step outside.1 outside.2

theorem pc_step_of_call {machine : Machine}
    (decoded : machine.instruction? = some ⟨.jsr, .absolute⟩) :
    machine.step.machine.pc =
      .ofBytes (machine.memory.read (machine.pc + 1)) (machine.memory.read (machine.pc + 2)) := by
  have second : machine.pc + 1 + 1 = machine.pc + 2 := by bv_omega
  rw [machine_step_of_decode decoded, ← second]
  rfl

-- A call goes to its operand even where it pushes over it.
theorem step_footprint (machine : Machine) :
    (∀ instruction, machine.instruction? = some instruction →
      let cell := (machine.operand instruction.mode).bind Operand.address?
      machine.reads = machine.pc :: (instruction.mode.reads machine.pastOpcode ++
          instruction.mnemonic.readCells cell machine.sp) ∧
        machine.writes = instruction.mnemonic.writtenCells cell machine.sp
          (machine.settings.enabled "brk_pushes_state")) ∧
    (machine.instruction? = none → machine.reads = [machine.pc] ∧ machine.writes = []) ∧
    (∀ address ∉ machine.writes,
      machine.step.machine.memory.read address = machine.memory.read address) ∧
    (∀ memory : Memory,
      (∀ address ∈ machine.reads, memory.read address = machine.memory.read address) →
        (machine.withMemory memory).reads = machine.reads ∧
          (machine.withMemory memory).writes = machine.writes ∧
          (machine.withMemory memory).step.printed = machine.step.printed ∧
          (machine.withMemory memory).step.AgreesOn machine.writes machine.step.toEffect) ∧
    (machine.instruction? = some ⟨.jsr, .absolute⟩ →
      machine.step.machine.pc = .ofBytes (machine.memory.read (machine.pc + 1))
        (machine.memory.read (machine.pc + 2))) := by
  refine ⟨fun instruction => footprint_of_decode, footprint_of_refused,
    fun address outside => machine.read_step_outside outside, ?_, pc_step_of_call⟩
  intro memory agree
  exact ⟨reads_withMemory agree, writes_withMemory agree, rfl, step_withMemory agree⟩

def overwrittenCall : Machine where
  pc := 0x01fc
  sp := 0xfe
  settings := Core.factorySettings
  memory := ((Memory.blank.write 0x01fc 0x20).write 0x01fd 0x34).write 0x01fe 0x12

theorem step_overwrittenCall :
    let other := overwrittenCall.memory.write 0x4000 0xff
    (∀ address ∈ overwrittenCall.reads,
      other.read address = overwrittenCall.memory.read address) ∧
    (overwrittenCall.withMemory other).writes = [0x01fe, 0x01fd] ∧
    (overwrittenCall.withMemory other).step.machine.pc = 0x1234 ∧
    (overwrittenCall.withMemory other).step.machine.memory.read 0x01fe = 0x01 ∧
    overwrittenCall.step.machine.memory.read 0x4000 = 0 := by
  intro other
  have code : overwrittenCall.memory.read 0x01fc = 0x20 ∧
      overwrittenCall.memory.read 0x01fd = 0x34 ∧ overwrittenCall.memory.read 0x01fe = 0x12 ∧
      overwrittenCall.memory.read 0x4000 = 0 := by
    simp [overwrittenCall, Memory.read_write]
  have decoded : overwrittenCall.instruction? = some ⟨.jsr, .absolute⟩ :=
    congrArg Instruction.decode code.1
  obtain ⟨named, _, frame, footprint, call⟩ := step_footprint overwrittenCall
  have reads : overwrittenCall.reads = [0x01fc, 0x01fd, 0x01fe] := (named _ decoded).1
  have writes : overwrittenCall.writes = [0x01fe, 0x01fd] := (named _ decoded).2
  have agree : ∀ address ∈ overwrittenCall.reads,
      other.read address = overwrittenCall.memory.read address := by
    intro address looked
    apply Memory.read_write_ne
    rintro rfl
    simp [reads] at looked
  obtain ⟨_, sameWrites, _, agrees⟩ := footprint other agree
  have pushed : overwrittenCall.step.machine.memory.read 0x01fe = 0x01 := by
    rw [machine_step_of_decode decoded]
    change ((overwrittenCall.memory.write 0x01fe 0x01).write 0x01fd 0xfe).read 0x01fe = 0x01
    simp [Memory.read_write]
  refine ⟨agree, sameWrites.trans writes, ?_, ?_, ?_⟩
  next =>
    have target := congrArg Core.pc agrees.core
    rw [target, call decoded]
    have first : overwrittenCall.pc + 1 = 0x01fd := by decide
    have second : overwrittenCall.pc + 2 = 0x01fe := by decide
    rw [first, second, code.2.1, code.2.2.1]
    rfl
  next => exact (agrees.memory 0x01fe (by simp [writes])).trans pushed
  next => exact (frame 0x4000 (by simp [writes])).trans code.2.2.2

end Machine

end Mos6502
