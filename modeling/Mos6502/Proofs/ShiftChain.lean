import Mos6502.Proofs.Bodies

set_option autoImplicit false

namespace Mos6502

open Arithmetic

def Arithmetic.Shift.mnemonic : Shift → Mnemonic
  | .shiftLeft => .asl
  | .shiftRight => .lsr
  | .rotateLeft => .rol
  | .rotateRight => .ror

theorem Arithmetic.Shift.operation_mnemonic (kind : Shift) :
    kind.mnemonic.operation = .shift kind := by
  cases kind <;> rfl

def chain {Body : Type} (first next : Body) : List Address → List (Body × Address)
  | [] => []
  | cell :: rest => (first, cell) :: rest.map (Prod.mk next)

theorem map_mnemonic_chain (first next : Shift) (cells : List Address) :
    (chain first next cells).map (Prod.map Shift.mnemonic id) =
      chain first.mnemonic next.mnemonic cells := by
  cases cells with
  | nil => rfl
  | cons cell rest =>
    simp only [chain, List.map_cons, List.map_map]
    rfl

theorem map_snd_chain {Body : Type} (first next : Body) (cells : List Address) :
    (chain first next cells).map Prod.snd = cells := by
  cases cells with
  | nil => rfl
  | cons cell rest =>
    rw [chain, List.map_cons, List.map_map]
    exact congrArg (List.cons cell) (List.map_id rest)

theorem chain_self {Body : Type} (body : Body) (cells : List Address) :
    chain body body cells = cells.map (Prod.mk body) := by
  cases cells <;> rfl

structure Visits (cells : List Address) (last : Address) (steps : List (Shift × Address)) :
    Prop where
  within : ∀ cell ∈ steps.map Prod.snd, cell ∈ cells
  ends : (steps.map Prod.snd).getLast? = some last

namespace Visits

variable {cells : List Address} {last earlierLast : Address}
  {steps earlier : List (Shift × Address)}

theorem upward (first next : Shift) (nonempty : cells ≠ []) :
    Visits cells (cells.getLast nonempty) (chain first next cells) where
  within := by simp only [map_snd_chain, imp_self, implies_true]
  ends := by rw [map_snd_chain, List.getLast?_eq_some_getLast]

theorem downward (first next : Shift) (nonempty : cells ≠ []) :
    Visits cells (cells.head nonempty) (chain first next cells.reverse) where
  within := by simp only [map_snd_chain, List.mem_reverse, imp_self, implies_true]
  ends := by rw [map_snd_chain, List.getLast?_reverse, List.head?_eq_some_head]

theorem append (first : Visits cells earlierLast earlier) (later : Visits cells last steps) :
    Visits cells last (earlier ++ steps) where
  within := by
    intro cell visited
    rw [List.map_append, List.mem_append] at visited
    rcases visited with before | after
    next => exact first.within cell before
    next => exact later.within cell after
  ends := by rw [List.map_append, List.getLast?_append, later.ends, Option.some_or]

theorem repeated (once : Visits cells last steps) (count : Nat) :
    Visits cells last (List.replicate (count + 1) steps).flatten := by
  induction count with
  | zero => simpa using once
  | succ count ih =>
    rw [List.replicate_succ, List.flatten_cons]
    exact once.append ih

end Visits

namespace Machine

def performBodies (machine : Machine) : List (Mnemonic × Address) → Except Fault Machine
  | [] => .ok machine
  | (mnemonic, cell) :: rest => do
    let changed ← (mnemonic.operation.run (some (.location cell)) machine).result
    changed.performBodies rest

def shiftCell (machine : Machine) (kind : Shift) (cell : Address) : Machine :=
  let result := kind.apply (machine.memory.read cell) machine.status.carry
  ((machine.putFlag .carry (kind.outgoing (machine.memory.read cell))).write cell result).flagResult
    result

def shiftCells (machine : Machine) (steps : List (Shift × Address)) : Machine :=
  steps.foldl (fun reached step => reached.shiftCell step.1 step.2) machine

structure ShiftsOnly (cells : List Address) (before after : Machine) : Prop where
  core : after.toCore = { before.toCore with status := after.status }
  flags : ∀ flag ∈ [Flag.overflow, .decimal, .interrupt, .brk],
    after.status.get flag = before.status.get flag
  memory : ∀ address ∉ cells, after.memory.read address = before.memory.read address

structure ShowsResult (machine : Machine) (cell : Address) : Prop where
  zero : machine.status.zero = (machine.memory.read cell == 0)
  negative : machine.status.negative = (machine.memory.read cell).msb

variable (machine : Machine) {cells : List Address} {steps : List (Shift × Address)}

theorem performBodies_shifts (steps : List (Shift × Address)) :
    machine.performBodies (steps.map (Prod.map Shift.mnemonic id)) =
      .ok (machine.shiftCells steps) := by
  induction steps generalizing machine with
  | nil => rfl
  | cons step rest ih =>
    have body : (step.1.mnemonic.operation.run (some (.location step.2)) machine).result =
        .ok (machine.shiftCell step.1 step.2) := by
      rw [Shift.operation_mnemonic, Operation.run, Operation.onOperand, shift_of_storable rfl]
      rfl
    rw [List.map_cons, performBodies, Prod.map_fst, Prod.map_snd, id, body]
    exact ih (machine.shiftCell step.1 step.2)

theorem shiftCells_append (first later : List (Shift × Address)) :
    machine.shiftCells (first ++ later) = (machine.shiftCells first).shiftCells later :=
  List.foldl_append

theorem read_shiftCell (kind : Shift) (cell : Address) :
    (machine.shiftCell kind cell).memory.read cell =
      kind.apply (machine.memory.read cell) machine.status.carry :=
  Memory.read_write_same _ _ _

theorem read_shiftCell_ne (kind : Shift) {cell address : Address} (other : address ≠ cell) :
    (machine.shiftCell kind cell).memory.read address = machine.memory.read address :=
  Memory.read_write_ne other _ _

theorem carry_shiftCell (kind : Shift) (cell : Address) :
    (machine.shiftCell kind cell).status.carry = kind.outgoing (machine.memory.read cell) := rfl

theorem shiftCell_only (kind : Shift) {cell : Address} (inside : cell ∈ cells) :
    machine.ShiftsOnly cells (machine.shiftCell kind cell) where
  core := rfl
  flags := by
    intro flag kept
    cases flag
    case overflow | decimal | interrupt | brk => rfl
    all_goals simp at kept
  memory := by
    intro address outside
    exact machine.read_shiftCell_ne kind fun same => outside (same ▸ inside)

variable {machine} in
theorem ShiftsOnly.trans {middle after : Machine} (first : machine.ShiftsOnly cells middle)
    (later : middle.ShiftsOnly cells after) : machine.ShiftsOnly cells after where
  core := by rw [later.core, first.core]
  flags := fun flag kept => (later.flags flag kept).trans (first.flags flag kept)
  memory := fun address outside =>
    (later.memory address outside).trans (first.memory address outside)

theorem shiftCells_only (within : ∀ cell ∈ steps.map Prod.snd, cell ∈ cells) :
    machine.ShiftsOnly cells (machine.shiftCells steps) := by
  induction steps generalizing machine with
  | nil => exact ⟨rfl, fun _ _ => rfl, fun _ _ => rfl⟩
  | cons step rest ih =>
    rw [List.map_cons, List.forall_mem_cons] at within
    exact (machine.shiftCell_only step.1 within.1).trans (ih _ within.2)

theorem shiftCells_map_only (kind : Shift) (cells : List Address) :
    machine.ShiftsOnly cells (machine.shiftCells (cells.map (Prod.mk kind))) := by
  apply shiftCells_only
  rw [← chain_self, map_snd_chain]
  exact fun cell inside => inside

theorem shiftCells_shows {last : Address} (ends : (steps.map Prod.snd).getLast? = some last) :
    (machine.shiftCells steps).ShowsResult last := by
  rw [List.getLast?_map, Option.map_eq_some_iff] at ends
  obtain ⟨step, final, rfl⟩ := ends
  obtain ⟨earlier, rfl⟩ := List.getLast?_eq_some_iff.mp final
  rw [shiftCells_append]
  have result := (machine.shiftCells earlier).read_shiftCell step.1 step.2
  exact ⟨congrArg (· == 0) result.symm, congrArg BitVec.msb result.symm⟩

-- A shift is the rotation that a cleared carry makes.
theorem shiftCells_eq_rotation {shift rotation : Shift}
    (applies : ∀ value carry, shift.apply value carry = rotation.apply value false)
    (outgoes : shift.outgoing = rotation.outgoing) (nonempty : cells ≠ []) :
    machine.shiftCells (chain shift rotation cells) =
      (machine.putFlag .carry false).shiftCells (chain rotation rotation cells) := by
  cases cells with
  | nil => exact absurd rfl nonempty
  | cons cell rest =>
    have first : machine.shiftCell shift cell =
        (machine.putFlag .carry false).shiftCell rotation cell := by
      rw [shiftCell, applies, outgoes]
      rfl
    rw [chain, chain, shiftCells, List.foldl_cons, first]
    rfl

end Machine

end Mos6502
