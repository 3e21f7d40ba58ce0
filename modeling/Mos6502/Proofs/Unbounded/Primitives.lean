import Mos6502.Proofs.ByteNumbers
import Mos6502.Proofs.Unbounded.State

set_option autoImplicit false

namespace Mos6502.Unbounded

open Int (land lor)

theorem lor_toNat_high (low high : Byte) :
    lor low.toNat (256 * high.toNat) = (Address.ofBytes low high).toNat := by
  have shifted : 256 * high.toNat = high.toNat <<< 8 := by
    rw [Nat.shiftLeft_eq]
    omega
  have joined : low.toNat ||| 256 * high.toNat = (Address.ofBytes low high).toNat := by
    rw [Address.toNat_ofBytes, shifted, Nat.or_comm, ← Nat.shiftLeft_add_eq_or_of_lt low.isLt]
    omega
  rw [← joined]
  rfl

theorem clear_toNat (flags masks : Byte) :
    clear flags.toNat masks.toNat = (flags &&& ~~~masks).toNat := by
  have bound := masks.isLt
  have complement : (255 : Int) - masks.toNat = (~~~masks).toNat := by
    rw [BitVec.toNat_not]
    omega
  rw [clear, complement, land_toNat]

theorem isSet_toNat (number masks : Byte) :
    isSet number.toNat masks.toNat = (number &&& masks != 0) := by
  rw [isSet, land_toNat, Bool.eq_iff_iff, bne_iff_ne, bne_iff_ne, ne_eq, ne_eq, not_congr]
  rw [← BitVec.toNat_inj]
  exact Int.natCast_eq_zero

theorem land_page (address : Address) :
    land address.toNat 0xff00 = 256 * address.high.toNat := by
  have low : ∀ low : Byte, low.toNat &&& 0xff00 = 0 := by decide +kernel
  have high : ∀ high : Byte, 256 * high.toNat &&& 0xff00 = 256 * high.toNat := by decide +kernel
  have joined : (address.toNat : Int) = lor address.low.toNat (256 * address.high.toNat) := by
    rw [lor_toNat_high, Address.ofBytes_low_high]
  have masked : (address.low.toNat ||| 256 * address.high.toNat) &&& 0xff00 =
      256 * address.high.toNat := by
    rw [Nat.and_or_distrib_right, low, high, Nat.zero_or]
  rw [joined]
  exact congrArg Int.ofNat masked

theorem byteOperand_toNat (value : Byte) : byteOperand value.toNat = .ok (.byte value) :=
  Operand.ofKind_kind (.byte value)

theorem cellOperand_toNat (address : Address) :
    cellOperand address.toNat = .ok (.location address) :=
  Operand.ofKind_kind (.location address)

namespace State

def ofMachine (machine : Machine) : State where
  a := machine.a.toNat
  x := machine.x.toNat
  y := machine.y.toNat
  sp := machine.sp.toNat
  pc := machine.pc.toNat
  flags := machine.status.toByte.toNat
  lastInstruction := machine.lastInstruction.map fun opcode => (opcode.toNat : Int)
  instructionCount := machine.instructionCount
  settings := machine.settings
  cells := fun address => (machine.memory.read address).toNat

variable (machine : Machine)

theorem read_ofMachine (address : Address) :
    (ofMachine machine).read address.toNat = (machine.memory.read address).toNat := by
  rw [read, Address.wrap_toNat]
  rfl

theorem write_ofMachine (address : Address) (value : Byte) :
    (ofMachine machine).write address.toNat value.toNat =
      ofMachine (machine.write address value) := by
  have bounds := value.bounds
  have masked : (value.toNat : Int) % 256 = value.toNat := by omega
  have cells : Function.update (ofMachine machine).cells address (value.toNat : Int) =
      (ofMachine (machine.write address value)).cells := by
    funext other
    by_cases same : other = address
    next =>
      subst same
      simp [ofMachine, Machine.write]
    next => simp [ofMachine, Machine.write, same, Memory.read_write_ne same]
  rw [write, Address.wrap_toNat, masked, cells]
  rfl

theorem readWord_ofMachine (address : Address) :
    (ofMachine machine).readWord address.toNat =
      .ok ((machine.memory.readWord address).toNat : Int) := by
  have second : (ofMachine machine).read (address.toNat + 1) =
      (machine.memory.read (address + 1)).toNat := by
    rw [read, Address.wrap_add, Address.wrap_toNat]
    rfl
  have bytes := LittleEndian.decodeNumbers_bytes
    [machine.memory.read address, machine.memory.read (address + 1)] false
  simp only [List.map_cons, List.map_nil] at bytes
  rw [readWord, read_ofMachine, second, bytes]
  simp [LittleEndian.decode, Memory.readWord]

theorem fetch_ofMachine :
    (ofMachine machine).fetch = ((machine.fetch.1.toNat : Int), ofMachine machine.fetch.2) := by
  apply Prod.ext
  next => exact read_ofMachine machine machine.pc
  next =>
    simp only [fetch, Machine.fetch, ofMachine, Address.succ_mod]

theorem fetchWord_ofMachine :
    (ofMachine machine).fetchWord =
      ((machine.fetchWord.1.toNat : Int), ofMachine machine.fetchWord.2) := by
  simp only [fetchWord, fetch_ofMachine, lor_toNat_high, Machine.fetchWord]

theorem push_ofMachine (value : Byte) :
    (ofMachine machine).push value.toNat = ofMachine (machine.push value) := by
  have pointer : ((machine.sp.toNat : Int) - 1) % 256 = (machine.sp - 1).toNat :=
    Byte.sub_mod machine.sp 1
  rw [push, show (ofMachine machine).sp = machine.sp.toNat from rfl, Layout.add_toNat_stackCell,
    write_ofMachine, pointer]
  rfl

theorem pull_ofMachine :
    (ofMachine machine).pull = ((machine.pull.1.toNat : Int), ofMachine machine.pull.2) := by
  have pointer : ((ofMachine machine).sp + 1) % 256 = (machine.sp + 1).toNat :=
    Byte.succ_mod machine.sp
  simp only [pull, pointer, Layout.add_toNat_stackCell]
  exact Prod.ext (read_ofMachine machine.pull.2 (Layout.stackCell (machine.sp + 1))) rfl

theorem pullWord_ofMachine :
    (ofMachine machine).pullWord =
      ((machine.pullWord.1.toNat : Int), ofMachine machine.pullWord.2) := by
  simp only [pullWord, pull_ofMachine, lor_toNat_high, Machine.pullWord]

theorem pushWord_ofMachine (word : Address) :
    ((ofMachine machine).push (word.toNat / 256)).push (word.toNat % 256) =
      ofMachine (machine.pushWord word) := by
  have high : (word.toNat : Int) / 256 = word.high.toNat := by
    rw [Address.toNat_high]
    rfl
  have low : (word.toNat : Int) % 256 = word.low.toNat := by
    rw [Address.toNat_low]
    rfl
  rw [high, low, push_ofMachine, push_ofMachine]
  rfl

theorem register_ofMachine (register : Register) :
    (ofMachine machine).register register = (machine.register register).toNat := by
  cases register <;> rfl

theorem setRegister_ofMachine (register : Register) (value : Byte) :
    (ofMachine machine).setRegister register value.toNat =
      ofMachine (machine.setRegister register value) := by
  cases register <;> rfl

theorem operandByte_ofMachine (operand : Operand) :
    (ofMachine machine).operandByte operand = (machine.operandByte operand).toNat := by
  cases operand with
  | register register => exact register_ofMachine machine register
  | byte value => rfl
  | location address => exact read_ofMachine machine address

theorem store_ofMachine (operand : Operand) (value : Byte) :
    (ofMachine machine).store operand value.toNat =
      (machine.store operand value).map ofMachine := by
  have bounds := value.bounds
  have masked : (value.toNat : Int) % 256 = value.toNat := by omega
  cases operand with
  | register register => rw [store, masked, setRegister_ofMachine]; rfl
  | byte _ => rfl
  | location address => rw [store, masked, write_ofMachine]; rfl

end State

end Mos6502.Unbounded
