import Mos6502.Machine.Execute
import Mos6502.Proofs.WordNumbers

set_option autoImplicit false

namespace Mos6502

namespace Layout

theorem stackCell_inj {left right : Byte} : stackCell left = stackCell right ↔ left = right := by
  constructor
  next =>
    intro same
    have leftCell := add_toNat_stackCell left
    have rightCell := add_toNat_stackCell right
    rw [same] at leftCell
    exact BitVec.eq_of_toNat_eq (by omega)
  next => exact congrArg stackCell

theorem page_le_stackCell (pointer : Byte) : 256 ≤ (stackCell pointer).toNat := by
  have cell := add_toNat_stackCell pointer
  change (256 : Int) + pointer.toNat = _ at cell
  omega

theorem stackCell_lt (pointer : Byte) : (stackCell pointer).toNat < 512 := by
  have bound := pointer.isLt
  have cell := add_toNat_stackCell pointer
  change (256 : Int) + pointer.toNat = _ at cell
  omega

-- From the cell at the stack pointer down.
def cellsBelow (pointer : Byte) (count : Nat) : List Address :=
  (List.range count).map fun depth => stackCell (pointer - BitVec.ofNat 8 depth)

theorem mem_cellsBelow {address : Address} {pointer : Byte} {count : Nat} :
    address ∈ cellsBelow pointer count ↔
      ∃ depth < count, address = stackCell (pointer - BitVec.ofNat 8 depth) := by
  simp only [cellsBelow, List.mem_map, List.mem_range, eq_comm]

theorem cellsBelow_succ (pointer : Byte) (count : Nat) :
    cellsBelow pointer (count + 1) = stackCell pointer :: cellsBelow (pointer - 1) count := by
  simp only [cellsBelow, List.range_succ_eq_map, List.map_cons, List.map_map]
  congr 1
  next => simp
  next =>
    apply List.map_congr_left
    intro depth _
    have moved : pointer - BitVec.ofNat 8 (depth + 1) = pointer - 1 - BitVec.ofNat 8 depth := by
      bv_omega
    exact congrArg stackCell moved

theorem not_mem_cellsBelow {address : Address} (above : 512 ≤ address.toNat) (pointer : Byte)
    (count : Nat) : address ∉ cellsBelow pointer count := by
  rw [mem_cellsBelow]
  rintro ⟨depth, _, rfl⟩
  have low := stackCell_lt (pointer - BitVec.ofNat 8 depth)
  omega

-- The stack wraps after 256 bytes: until then the pushes below a cell miss it.
theorem stackCell_not_mem_cellsBelow {depth first count : Nat} (above : depth < first)
    (near : first + count ≤ depth + 256) (pointer : Byte) :
    stackCell (pointer - BitVec.ofNat 8 depth) ∉
      cellsBelow (pointer - BitVec.ofNat 8 first) count := by
  rw [mem_cellsBelow]
  rintro ⟨further, bounded, same⟩
  rw [stackCell_inj] at same
  bv_omega

end Layout

namespace Machine

theorem read_push (machine : Machine) (value : Byte) {address : Address}
    (other : address ≠ Layout.stackCell machine.sp) :
    (machine.push value).memory.read address = machine.memory.read address :=
  Memory.read_write_ne other _ _

def pushAll (machine : Machine) : List Byte → Machine
  | [] => machine
  | value :: rest => (machine.push value).pushAll rest

theorem pushWord_eq_pushAll (machine : Machine) (word : Address) :
    machine.pushWord word = machine.pushAll [word.high, word.low] := rfl

theorem saveState_eq_pushAll (machine : Machine) :
    machine.saveState =
      machine.pushAll [(machine.pc + 1).high, (machine.pc + 1).low, machine.status.pushed] := rfl

theorem sp_pushAll (machine : Machine) (bytes : List Byte) :
    (machine.pushAll bytes).sp = machine.sp - BitVec.ofNat 8 bytes.length := by
  induction bytes generalizing machine with
  | nil => simp [pushAll]
  | cons value rest ih =>
    rw [pushAll, ih, List.length_cons]
    change machine.sp - 1 - _ = _
    bv_omega

theorem read_pushAll_outside (machine : Machine) (bytes : List Byte) {address : Address}
    (outside : address ∉ Layout.cellsBelow machine.sp bytes.length) :
    (machine.pushAll bytes).memory.read address = machine.memory.read address := by
  induction bytes generalizing machine with
  | nil => rfl
  | cons value rest ih =>
    rw [List.length_cons, Layout.cellsBelow_succ, List.mem_cons, not_or] at outside
    rw [pushAll, ih (machine.push value) outside.2, machine.read_push value outside.1]

-- Pushing never reaches the vector, so that it does not matter whether a break looks there before.
theorem readWord_pushAll (machine : Machine) (bytes : List Byte) :
    (machine.pushAll bytes).memory.readWord Layout.interruptVector =
      machine.memory.readWord Layout.interruptVector := by
  have kept (address : Address) (above : 512 ≤ address.toNat) :
      (machine.pushAll bytes).memory.read address = machine.memory.read address :=
    machine.read_pushAll_outside bytes (Layout.not_mem_cellsBelow above _ _)
  rw [Memory.readWord, kept _ (by decide), kept _ (by decide), Memory.readWord]

theorem read_pushAll (machine : Machine) {bytes : List Byte} (fits : bytes.length ≤ 256)
    {depth : Nat} {value : Byte} (pushed : bytes[depth]? = some value) :
    (machine.pushAll bytes).memory.read
      (Layout.stackCell (machine.sp - BitVec.ofNat 8 depth)) = value := by
  induction bytes generalizing machine depth with
  | nil => simp at pushed
  | cons top rest ih =>
    rw [List.length_cons] at fits
    cases depth with
    | zero =>
      obtain rfl : top = value := by simpa using pushed
      have missed : Layout.stackCell (machine.sp - BitVec.ofNat 8 0) ∉
          Layout.cellsBelow (machine.push top).sp rest.length :=
        Layout.stackCell_not_mem_cellsBelow (by omega) (by omega : 1 + rest.length ≤ 0 + 256) _
      rw [pushAll, read_pushAll_outside _ _ missed]
      simp [push]
    | succ depth =>
      have moved : machine.sp - BitVec.ofNat 8 (depth + 1) =
          (machine.push top).sp - BitVec.ofNat 8 depth := by
        change _ = machine.sp - 1 - _
        bv_omega
      rw [pushAll, moved]
      exact ih (machine.push top) (by omega) (by simpa using pushed)

end Machine

end Mos6502
