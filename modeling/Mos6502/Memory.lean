import Mos6502.Fault
import Mos6502.Hexdump

set_option autoImplicit false

namespace Mos6502

structure Memory where
  cells : Vector Byte 65536

namespace Memory

def size : Nat := 65536

def blank : Memory :=
  { cells := Vector.replicate 65536 0 }

def read (memory : Memory) (address : Address) : Byte :=
  getElem memory.cells address.toNat address.isLt

def write (memory : Memory) (address : Address) (value : Byte) : Memory :=
  { cells := memory.cells.set address.toNat value address.isLt }

@[ext] theorem ext_read {left right : Memory}
    (agree : ∀ address, left.read address = right.read address) : left = right := by
  obtain ⟨left⟩ := left
  obtain ⟨right⟩ := right
  congr 1
  apply Vector.ext
  intro index bound
  have here := agree (BitVec.ofNat 16 index)
  simp only [read, BitVec.toNat_ofNat] at here
  simpa only [Nat.mod_eq_of_lt (show index < 2 ^ 16 from bound)] using here

@[simp] theorem read_blank (address : Address) : blank.read address = 0 := by
  simp only [read, blank, Vector.getElem_replicate]

theorem read_write (memory : Memory) (target : Address) (value : Byte) (address : Address) :
    (memory.write target value).read address =
      if address = target then value else memory.read address := by
  simp only [read, write, Vector.getElem_set]
  by_cases same : address = target
  next => simp [same]
  next =>
    have different : target.toNat ≠ address.toNat := fun equal =>
      same (BitVec.eq_of_toNat_eq equal.symm)
    simp [same, different]

@[simp] theorem read_write_same (memory : Memory) (address : Address) (value : Byte) :
    (memory.write address value).read address = value := by
  simp [read_write]

theorem read_write_ne {address target : Address} (different : address ≠ target)
    (memory : Memory) (value : Byte) :
    (memory.write target value).read address = memory.read address := by
  simp [read_write, different]

def readWord (memory : Memory) (address : Address) : Address :=
  .ofBytes (memory.read address) (memory.read (address + 1))

-- The second byte is on the pointer's own page.
def readPointer (memory : Memory) (pointer : Address) : Address :=
  .ofBytes (memory.read pointer) (memory.read pointer.nextInPage)

def peek (memory : Memory) (location : Int) : Byte :=
  memory.read (.wrap location)

def poke (memory : Memory) (location value : Int) : Memory :=
  memory.write (.wrap location) (.wrap value)

def peekWord (memory : Memory) (location : Int) : Address :=
  memory.readWord (.wrap location)

def pokeWord (memory : Memory) (location word : Int) : Except Fault Memory :=
  if 0 ≤ word ∧ word ≤ 0xffff then
    .ok ((memory.poke location (word % 256)).poke (location + 1) (word / 256))
  else .error (.wordOutOfRange word)

def store (memory : Memory) (start : Int) : List Int → Memory
  | [] => memory
  | value :: rest => (memory.poke start value).store (start + 1) rest

def load (memory : Memory) (start : Int) (data : List Int) : Except Fault Memory :=
  if data.length ≤ size then .ok (memory.store start data)
  else .error (.imageTooLong data.length)

def toList (memory : Memory) : List Byte :=
  memory.cells.toList

def range (memory : Memory) (start length : Int) : List Byte :=
  (List.range length.toNat).map fun offset : Nat => memory.peek (start + offset)

def dump (memory : Memory) (start : Int := 0) (length : Int := 256) : List String :=
  Hexdump.lines ((memory.range start length).map fun byte => (byte.toNat : Int)) start

end Memory

end Mos6502
