import Mos6502.Proofs.StepOutcome
import Mos6502.Proofs.WordNumbers

set_option autoImplicit false

namespace Mos6502

inductive Designation where
  | register (register : Register)
  | byte (value : Int)
  | cell (address : Int)
deriving DecidableEq

def Operand.designation : Operand → Designation
  | .register which => .register which
  | .byte value => .byte value.toNat
  | .location address => .cell address.toNat

namespace Machine

def byteAt (machine : Machine) (location : Int) : Int :=
  (machine.memory.read (.wrap location)).toNat

def firstByte (machine : Machine) : Int :=
  machine.byteAt machine.pc.toNat

def secondByte (machine : Machine) : Int :=
  machine.byteAt ((machine.pc.toNat + 1) % 65536)

def wordAt (machine : Machine) (low high : Int) : Int :=
  machine.byteAt low + 256 * machine.byteAt high

end Machine

namespace Mode

-- The program counter is at the first operand byte.
def designation (mode : Mode) (machine : Machine) : Option Designation :=
  let byte := machine.firstByte
  let word := machine.firstByte + 256 * machine.secondByte
  let x : Int := machine.x.toNat
  let y : Int := machine.y.toNat
  match mode with
  | .implied => none
  | .accumulator => some (.register .a)
  | .immediate => some (.byte byte)
  | .zeroPage => some (.cell byte)
  | .zeroPageX => some (.cell ((byte + x) % 256))
  | .zeroPageY => some (.cell ((byte + y) % 256))
  | .absolute => some (.cell word)
  | .absoluteX => some (.cell ((word + x) % 65536))
  | .absoluteY => some (.cell ((word + y) % 65536))
  -- the second byte is on the page of the first
  | .indirect =>
    some (.cell (machine.wordAt word (if word % 256 = 255 then word - 255 else word + 1)))
  | .indexedIndirect =>
    some (.cell (machine.wordAt ((byte + x) % 256) (((byte + x) % 256 + 1) % 256)))
  | .indirectIndexed => some (.cell ((machine.wordAt byte ((byte + 1) % 256) + y) % 65536))
  | .relative =>
    let displacement := if byte < 128 then byte else byte - 256
    some (.cell (((machine.pc.toNat + 1) % 65536 + displacement) % 65536))

def pointer? (mode : Mode) (machine : Machine) : Option Address :=
  match mode with
  | .indirect => some machine.fetchWord.1
  | .indexedIndirect => some (machine.fetch.1 + machine.x).extend
  | .indirectIndexed => some machine.fetch.1.extend
  | _ => none

def reads (mode : Mode) (machine : Machine) : List Address :=
  (List.range mode.operandBytes).map (machine.pc + BitVec.ofNat 16 ·) ++
    (mode.pointer? machine).elim [] fun pointer => [pointer, pointer.nextInPage]

end Mode

namespace Machine

variable (machine : Machine)

theorem byteAt_toNat (address : Address) :
    machine.byteAt address.toNat = (machine.memory.read address).toNat := by
  rw [byteAt, Address.wrap_toNat]

theorem firstByte_eq : machine.firstByte = machine.fetch.1.toNat :=
  machine.byteAt_toNat machine.pc

theorem operandWord_eq :
    machine.firstByte + 256 * machine.secondByte = machine.fetchWord.1.toNat := by
  have second : machine.secondByte = machine.fetch.2.fetch.1.toNat := by
    rw [secondByte, Address.succ_mod, byteAt_toNat]
    rfl
  have word : machine.fetchWord.1.toNat =
      machine.fetch.1.toNat + 256 * machine.fetch.2.fetch.1.toNat :=
    Address.toNat_ofBytes _ _
  rw [firstByte_eq, second, word]
  rfl

theorem wordAt_readPointer (pointer : Address) :
    machine.wordAt pointer.toNat pointer.nextInPage.toNat =
      (machine.memory.readPointer pointer).toNat := by
  rw [wordAt, byteAt_toNat, byteAt_toNat, Memory.readPointer, Address.toNat_ofBytes]
  rfl

theorem wordAt_zeroPage (pointer : Byte) :
    machine.wordAt pointer.toNat (((pointer.toNat : Int) + 1) % 256) =
      (machine.memory.readPointer pointer.extend).toNat := by
  have next : ((pointer.toNat : Int) + 1) % 256 = pointer.extend.nextInPage.toNat := by
    rw [Byte.extend_nextInPage, Byte.toNat_extend]
    exact Byte.succ_mod pointer
  rw [next, ← wordAt_readPointer, Byte.toNat_extend]

theorem pc_pastOperand (mode : Mode) :
    (machine.pastOperand mode).pc =
      .wrap ((machine.pc.toNat + 1 + mode.operandBytes : Int) % 65536) := by
  apply BitVec.eq_of_toNat_eq
  change (machine.pc + 1 + BitVec.ofNat 16 mode.operandBytes).toNat = _
  rw [Address.toNat_wrap, BitVec.toNat_add, BitVec.toNat_add, BitVec.toNat_ofNat]
  change ((machine.pc.toNat + 1) % 65536 + mode.operandBytes % 65536) % 65536 = _
  omega

end Machine

namespace Mode

theorem operand_designation (mode : Mode) (machine : Machine) :
    (mode.operand machine).map Operand.designation = mode.designation machine := by
  have byte := machine.firstByte_eq
  have word := machine.operandWord_eq
  cases mode <;> simp only [operand, resolve, fromByte, fromWord, designation, word]
  all_goals simp only [byte, Option.map_some, Option.map_none, Operand.designation,
    Option.some.injEq, Designation.cell.injEq]
  case zeroPage => exact congrArg Int.ofNat (Byte.toNat_extend _)
  case zeroPageX => rw [Byte.add_mod, Byte.toNat_extend]
  case zeroPageY => rw [Byte.add_mod, Byte.toNat_extend]
  case absoluteX => rw [Address.add_extend_mod]
  case absoluteY => rw [Address.add_extend_mod]
  case indirect => rw [← Address.toNat_nextInPage, Machine.wordAt_readPointer]
  case indexedIndirect => rw [Byte.add_mod, Machine.wordAt_zeroPage]
  case indirectIndexed => rw [Machine.wordAt_zeroPage, Address.add_extend_mod]
  case relative =>
    have signed : (if (machine.fetch.1.toNat : Int) < 128 then (machine.fetch.1.toNat : Int)
        else machine.fetch.1.toNat - 256) = machine.fetch.1.toInt := by
      have bounds := machine.fetch.1.bounds
      rw [← signedByte_toNat, signedByte]
      split <;> split <;> omega
    rw [signed, Address.succ_mod, Address.add_signExtend_mod]
    rfl

section Agreement

variable {mode : Mode} {machine : Machine} {memory : Memory}

theorem fetch_congr (takes : 1 ≤ mode.operandBytes)
    (agree : ∀ address ∈ mode.reads machine, memory.read address = machine.memory.read address) :
    ({ machine with memory := memory } : Machine).fetch.1 = machine.fetch.1 := by
  have here : machine.pc = machine.pc + BitVec.ofNat 16 0 := by simp
  change memory.read machine.pc = machine.memory.read machine.pc
  apply agree
  exact List.mem_append_left _ (List.mem_map.mpr ⟨0, List.mem_range.mpr takes, here.symm⟩)

theorem fetchWord_congr (takes : 2 ≤ mode.operandBytes)
    (agree : ∀ address ∈ mode.reads machine, memory.read address = machine.memory.read address) :
    ({ machine with memory := memory } : Machine).fetchWord.1 = machine.fetchWord.1 := by
  have first : memory.read machine.pc = machine.memory.read machine.pc :=
    fetch_congr (Nat.le_of_succ_le takes) agree
  have second : memory.read (machine.pc + 1) = machine.memory.read (machine.pc + 1) := by
    apply agree
    exact List.mem_append_left _ (List.mem_map.mpr ⟨1, List.mem_range.mpr takes, rfl⟩)
  change Address.ofBytes (memory.read machine.pc) (memory.read (machine.pc + 1)) = _
  rw [first, second]
  rfl

-- Where a pointer is hangs on the operand bytes alone, and so do all the cells a mode looks at.
theorem pointer_congr
    (agree : ∀ address ∈ mode.reads machine, memory.read address = machine.memory.read address) :
    mode.pointer? { machine with memory := memory } = mode.pointer? machine := by
  cases mode <;> simp only [pointer?]
  case indirect => rw [fetchWord_congr (by decide) agree]
  case indexedIndirect => rw [fetch_congr (by decide) agree]
  case indirectIndexed => rw [fetch_congr (by decide) agree]

theorem reads_congr
    (agree : ∀ address ∈ mode.reads machine, memory.read address = machine.memory.read address) :
    mode.reads { machine with memory := memory } = mode.reads machine := by
  rw [reads, pointer_congr agree, reads]

theorem readPointer_congr {pointer : Address} (pointed : mode.pointer? machine = some pointer)
    (agree : ∀ address ∈ mode.reads machine, memory.read address = machine.memory.read address) :
    memory.readPointer pointer = machine.memory.readPointer pointer := by
  have low : memory.read pointer = machine.memory.read pointer :=
    agree _ (List.mem_append_right _ (by simp [pointed]))
  have high : memory.read pointer.nextInPage = machine.memory.read pointer.nextInPage :=
    agree _ (List.mem_append_right _ (by simp [pointed]))
  rw [Memory.readPointer, low, high, Memory.readPointer]

end Agreement

theorem operand_congr (mode : Mode) (machine : Machine) (memory : Memory)
    (agree : ∀ address ∈ mode.reads machine, memory.read address = machine.memory.read address) :
    mode.operand { machine with memory := memory } = mode.operand machine := by
  cases mode <;> simp only [operand, resolve, fromByte, fromWord]
  case immediate | zeroPage => rw [fetch_congr (by decide) agree]
  case zeroPageX | zeroPageY => rw [fetch_congr (by decide) agree]
  case absolute | absoluteX | absoluteY => rw [fetchWord_congr (by decide) agree]
  case indirect => rw [fetchWord_congr (by decide) agree, readPointer_congr rfl agree]
  case indexedIndirect => rw [fetch_congr (by decide) agree, readPointer_congr rfl agree]
  case indirectIndexed => rw [fetch_congr (by decide) agree, readPointer_congr rfl agree]
  case relative =>
    rw [fetch_congr (by decide) agree]
    rfl

-- Past an instruction that does not set it, the program counter is behind the operand bytes.
theorem resolve_conforms (mode : Mode) (machine : Machine) :
    (mode.resolve machine).1.map Operand.designation = mode.designation machine ∧
      (mode.resolve machine).2 =
        { machine with pc := .wrap ((machine.pc.toNat + mode.operandBytes : Int) % 65536) } ∧
      (∀ memory : Memory,
        (∀ address ∈ mode.reads machine, memory.read address = machine.memory.read address) →
          (mode.resolve { machine with memory := memory }).1 = (mode.resolve machine).1) ∧
      ∀ mnemonic, machine.instruction? = some ⟨mnemonic, mode⟩ →
        machine.step.fault = none ∧
          (mnemonic.operation.jumps machine.status = false →
            (machine.step.machine.pc.toNat : Int) =
              (machine.pc.toNat + 1 + mode.operandBytes) % 65536) := by
  refine ⟨mode.operand_designation machine, ?_, fun memory => mode.operand_congr machine memory, ?_⟩
  next =>
    have moved : machine.pc + BitVec.ofNat 16 mode.operandBytes =
        .wrap ((machine.pc.toNat + mode.operandBytes : Int) % 65536) := by
      apply BitVec.eq_of_toNat_eq
      rw [Address.toNat_wrap, BitVec.toNat_add, BitVec.toNat_ofNat]
      omega
    rw [resolve_machine, moved]
  next =>
    intro mnemonic decoded
    refine ⟨congrArg Effect.fault (Machine.step_of_decode decoded), fun stays => ?_⟩
    rw [Machine.pc_step decoded stays, Machine.pc_pastOperand]
    exact Address.intCast_toNat_wrap (by omega)

-- The opcode is just below the last address, so the second operand byte is at address 0.
def straddlingLoad : Machine where
  pc := 0xfffe
  settings := Core.factorySettings
  memory := ((Memory.blank.write 0xfffe 0xad).write 0xffff 0x34).write 0x0000 0x12

theorem straddlingLoad_resolves :
    (absolute.resolve straddlingLoad.pastOpcode).1.map Operand.designation =
        some (.cell 0x1234) ∧
      straddlingLoad.step.machine.pc.toNat = 1 := by
  have bytes : straddlingLoad.opcode = 0xad ∧ straddlingLoad.pastOpcode.firstByte = 0x34 ∧
      straddlingLoad.pastOpcode.secondByte = 0x12 := by
    simp [Machine.opcode, Machine.firstByte, Machine.secondByte, Machine.byteAt,
      Machine.pastOpcode, straddlingLoad, Memory.read_write, Address.wrap]
  have decoded : straddlingLoad.instruction? = some ⟨.lda, .absolute⟩ := by
    rw [Machine.instruction?, bytes.1]
    rfl
  have found := (resolve_conforms .absolute straddlingLoad.pastOpcode).1
  have past := ((resolve_conforms .absolute straddlingLoad).2.2.2 .lda decoded).2 rfl
  refine ⟨?_, ?_⟩
  next =>
    rw [found, designation, bytes.2.1, bytes.2.2]
    rfl
  next => exact Int.ofNat_inj.mp past

end Mode

end Mos6502
