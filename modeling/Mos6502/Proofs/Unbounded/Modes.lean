import Mos6502.Proofs.Decoding
import Mos6502.Proofs.Unbounded.Execute
import Mos6502.Proofs.Unbounded.Primitives

set_option autoImplicit false

namespace Mos6502

namespace Unbounded

theorem lor_nextInPage (word : Address) :
    Int.lor (Int.land word.toNat 0xff00) (((word.toNat : Int) + 1) % 256) =
      word.nextInPage.toNat := by
  have low : ((word.toNat : Int) + 1) % 256 = (word.low + 1).toNat := by
    rw [BitVec.toNat_add, Address.toNat_low]
    change _ = (((word.toNat % 256 + 1) % 256 : Nat) : Int)
    omega
  rw [land_page, low]
  exact (congrArg Int.ofNat (Nat.or_comm _ _)).trans (lor_toNat_high (word.low + 1) word.high)

namespace State

variable (machine : Machine)

theorem readPointer_ofMachine (pointer : Address) :
    (ofMachine machine).readPointer pointer.toNat pointer.nextInPage.toNat =
      (machine.memory.readPointer pointer).toNat := by
  rw [readPointer, read_ofMachine, read_ofMachine, lor_toNat_high]
  rfl

theorem readPointer_zeroPage (pointer : Byte) :
    (ofMachine machine).readPointer pointer.toNat (((pointer.toNat : Int) + 1) % 256) =
      (machine.memory.readPointer pointer.extend).toNat := by
  have next : ((pointer.toNat : Int) + 1) % 256 = pointer.extend.nextInPage.toNat := by
    rw [Byte.extend_nextInPage, Byte.toNat_extend]
    exact Byte.succ_mod pointer
  rw [next, ← readPointer_ofMachine, Byte.toNat_extend]

theorem resolveByte_ofMachine {work : Int → Except Fault Operand} {operand : Byte → Operand}
    (agrees : work machine.fetch.1.toNat = .ok (operand machine.fetch.1)) :
    (ofMachine machine).resolveByte work =
      .ok ((Mode.fromByte machine operand).1, ofMachine (Mode.fromByte machine operand).2) := by
  rw [resolveByte, fetch_ofMachine, agrees]
  rfl

theorem resolveWord_ofMachine {work : Int → Except Fault Operand} {operand : Address → Operand}
    (agrees : work machine.fetchWord.1.toNat = .ok (operand machine.fetchWord.1)) :
    (ofMachine machine).resolveWord work =
      .ok ((Mode.fromWord machine operand).1, ofMachine (Mode.fromWord machine operand).2) := by
  rw [resolveWord, fetchWord_ofMachine, agrees]
  rfl

theorem cellOperand_extend (byte : Byte) :
    cellOperand byte.toNat = .ok (.location byte.extend) := by
  rw [← Byte.toNat_extend, cellOperand_toNat]

theorem resolve_ofMachine (mode : Mode) :
    (ofMachine machine).resolve mode =
      .ok (mode.operand machine, ofMachine (mode.resolve machine).2) := by
  cases mode <;> simp only [resolve, Mode.operand, Mode.resolve]
  case immediate => exact resolveByte_ofMachine machine (byteOperand_toNat _)
  case zeroPage => exact resolveByte_ofMachine machine (cellOperand_extend _)
  case zeroPageX =>
    apply resolveByte_ofMachine machine
    exact (congrArg cellOperand (Byte.add_mod _ machine.x)).trans (cellOperand_extend _)
  case zeroPageY =>
    apply resolveByte_ofMachine machine
    exact (congrArg cellOperand (Byte.add_mod _ machine.y)).trans (cellOperand_extend _)
  case absolute => exact resolveWord_ofMachine machine (cellOperand_toNat _)
  case absoluteX =>
    apply resolveWord_ofMachine machine
    exact (congrArg cellOperand (Address.add_extend_mod _ machine.x)).trans (cellOperand_toNat _)
  case absoluteY =>
    apply resolveWord_ofMachine machine
    exact (congrArg cellOperand (Address.add_extend_mod _ machine.y)).trans (cellOperand_toNat _)
  case indirect =>
    apply resolveWord_ofMachine machine
    rw [lor_nextInPage, readPointer_ofMachine, cellOperand_toNat]
  case indexedIndirect =>
    have pointer : ((machine.fetch.1.toNat : Int) + (ofMachine machine).x) % 256 =
        (machine.fetch.1 + machine.x).toNat := Byte.add_mod machine.fetch.1 machine.x
    apply resolveByte_ofMachine machine
    rw [pointer, readPointer_zeroPage, cellOperand_toNat]
  case indirectIndexed =>
    apply resolveByte_ofMachine machine
    rw [readPointer_zeroPage]
    exact (congrArg cellOperand (Address.add_extend_mod _ machine.y)).trans (cellOperand_toNat _)
  case relative =>
    apply resolveByte_ofMachine machine
    rw [fetch_ofMachine, signedByte_toNat]
    exact (congrArg cellOperand (Address.add_signExtend_mod machine.fetch.2.pc _)).trans
      (cellOperand_toNat _)

end State

end Unbounded

end Mos6502
