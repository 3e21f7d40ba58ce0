import Mathlib.Data.Nat.ModEq
import Mos6502.Proofs.ByteNumbers
import Mos6502.Proofs.ShiftChain

set_option autoImplicit false

namespace Mos6502

open Arithmetic LittleEndian

namespace Arithmetic

variable (value : Byte) (carry : Bool)

theorem rotateLeft_total :
    (Shift.rotateLeft.apply value carry).toNat + 256 * (Shift.rotateLeft.outgoing value).toNat =
      2 * value.toNat + carry.toNat := by
  have result := rotateLeft_numbers value carry
  have outgoing := (shiftLeft_numbers value).2
  change _ = ((Shift.rotateLeft.outgoing value).toNat : Int) at outgoing
  have bound := carry.toNat_lt
  omega

theorem rotateRight_total :
    2 * (Shift.rotateRight.apply value carry).toNat + (Shift.rotateRight.outgoing value).toNat =
      value.toNat + 256 * carry.toNat := by
  have result := rotateRight_numbers value carry
  have outgoing := (shiftRight_numbers value).2
  change _ = ((Shift.rotateRight.outgoing value).toNat : Int) at outgoing
  omega

theorem shiftLeft_apply : Shift.shiftLeft.apply value carry = Shift.rotateLeft.apply value false :=
  (BitVec.or_zero).symm

theorem shiftRight_apply :
    Shift.shiftRight.apply value carry = Shift.rotateRight.apply value false :=
  (BitVec.or_zero).symm

-- So many doublings modulo a number, without losing or making a zero.
structure Turns (modulus turns start finish : Nat) : Prop where
  congruent : finish ≡ 2 ^ turns * start [MOD modulus]
  zero : finish = 0 ↔ start = 0

namespace Turns

variable {modulus turns more start middle finish : Nat}

theorem none : Turns modulus 0 start start where
  congruent := by rw [Nat.pow_zero, Nat.one_mul]
  zero := Iff.rfl

theorem once {power : Nat} (positive : 0 < power) (number : Nat) (bit : Bool) :
    Turns (2 * power - 1) 1 (number + power * bit.toNat) (2 * number + bit.toNat) where
  congruent := by
    cases bit with
    | false => exact Nat.ModEq.rfl
    | true =>
      have around : 2 ^ 1 * (number + power * true.toNat) =
          2 * number + true.toNat + (2 * power - 1) := by
        simp only [Bool.toNat_true]
        omega
      rw [around]
      exact (Nat.add_mod_right _ _).symm
  zero := by
    cases bit with
    | false =>
      rw [Bool.toNat_false]
      omega
    | true =>
      rw [Bool.toNat_true]
      omega

theorem trans (first : Turns modulus turns start middle)
    (later : Turns modulus more middle finish) : Turns modulus (turns + more) start finish where
  congruent := by
    have carried := later.congruent.trans (first.congruent.mul_left (2 ^ more))
    rwa [← Nat.mul_assoc, ← Nat.pow_add, Nat.add_comm more] at carried
  zero := later.zero.trans first.zero

theorem full (turned : Turns modulus turns start finish) (around : 2 ^ turns = modulus + 1)
    (startBound : start ≤ modulus) (finishBound : finish ≤ modulus) : finish = start := by
  have congruent := turned.congruent
  rw [around, Nat.add_mul, Nat.one_mul] at congruent
  have same : finish % modulus = start % modulus := by
    rw [congruent, Nat.mul_add_mod]
  -- Zero and the modulus are congruent, and only one of them is zero.
  have zero := turned.zero
  rcases Nat.lt_or_eq_of_le startBound with startBelow | rfl
  next =>
    rw [Nat.mod_eq_of_lt startBelow] at same
    rcases Nat.lt_or_eq_of_le finishBound with finishBelow | rfl
    next => rwa [Nat.mod_eq_of_lt finishBelow] at same
    next =>
      rw [Nat.mod_self] at same
      omega
  next =>
    rcases Nat.lt_or_eq_of_le finishBound with finishBelow | same
    next =>
      rw [Nat.mod_self, Nat.mod_eq_of_lt finishBelow] at same
      omega
    next => exact same

end Turns

end Arithmetic

namespace Machine

def numberAt (machine : Machine) (cells : List Address) : Nat :=
  decode (cells.map machine.memory.read)

-- The number with the carry as one more bit above it.
def ring (machine : Machine) (cells : List Address) : Nat :=
  machine.numberAt cells + 256 ^ cells.length * machine.status.carry.toNat

structure Leaves (machine : Machine) (cells : List Address) (last : Address) (number : Nat)
    (carry : Bool) (after : Machine) : Prop extends machine.ShiftsOnly cells after where
  number : after.numberAt cells = number
  carry : after.status.carry = carry
  result : after.ShowsResult last

variable (machine : Machine) {cells : List Address}

theorem numberAt_lt (cells : List Address) : machine.numberAt cells < 256 ^ cells.length := by
  have bound := decode_lt (cells.map machine.memory.read)
  rwa [List.length_map] at bound

variable {machine} in
theorem numberAt_congr {other : Machine}
    (same : ∀ cell ∈ cells, other.memory.read cell = machine.memory.read cell) :
    other.numberAt cells = machine.numberAt cells :=
  congrArg decode (List.map_congr_left same)

theorem numberAt_cons (cell : Address) (rest : List Address) :
    machine.numberAt (cell :: rest) =
      (machine.memory.read cell).toNat + 256 * machine.numberAt rest := rfl

theorem ring_cons (cell : Address) (rest : List Address) :
    machine.ring (cell :: rest) = (machine.memory.read cell).toNat + 256 * machine.ring rest := by
  rw [ring, ring, numberAt_cons, List.length_cons, Nat.pow_succ', Nat.mul_add, Nat.mul_assoc,
    Nat.add_assoc]

theorem numberAt_shiftCell (kind : Shift) {cell : Address} (apart : cell ∉ cells) :
    (machine.shiftCell kind cell).numberAt cells = machine.numberAt cells :=
  numberAt_congr fun _ inside =>
    machine.read_shiftCell_ne kind fun same => apart (same ▸ inside)

theorem ring_rotateLeft (distinct : cells.Nodup) :
    (machine.shiftCells (chain .rotateLeft .rotateLeft cells)).ring cells =
      2 * machine.numberAt cells + machine.status.carry.toNat := by
  rw [chain_self]
  -- up from cell to cell: the carry out of one goes into the next
  induction cells generalizing machine with
  | nil => simp [ring, numberAt, decode, shiftCells]
  | cons cell rest ih =>
    obtain ⟨apart, distinct⟩ := List.nodup_cons.mp distinct
    have later := ih (machine.shiftCell .rotateLeft cell) distinct
    have kept := ((machine.shiftCell .rotateLeft cell).shiftCells_map_only .rotateLeft rest).memory
      cell apart
    have first := rotateLeft_total (machine.memory.read cell) machine.status.carry
    rw [numberAt_shiftCell _ _ apart, carry_shiftCell] at later
    rw [read_shiftCell] at kept
    rw [List.map_cons, shiftCells, List.foldl_cons]
    change ((machine.shiftCell .rotateLeft cell).shiftCells _).ring _ = _
    rw [ring_cons, numberAt_cons, kept, later]
    omega

theorem ring_rotateRight (distinct : cells.Nodup) :
    2 * (machine.shiftCells (chain .rotateRight .rotateRight cells.reverse)).numberAt cells +
        (machine.shiftCells (chain .rotateRight .rotateRight cells.reverse)).status.carry.toNat =
      machine.ring cells := by
  rw [chain_self]
  -- down from cell to cell: the first cell comes last and gives the carry
  induction cells with
  | nil => simp [ring, numberAt, decode, shiftCells]
  | cons cell rest ih =>
    obtain ⟨apart, distinct⟩ := List.nodup_cons.mp distinct
    have above := machine.shiftCells_map_only .rotateRight rest.reverse
    have earlier := ih distinct
    rw [List.reverse_cons, List.map_append, shiftCells_append]
    generalize machine.shiftCells (rest.reverse.map (Prod.mk .rotateRight)) = middle at *
    have kept := above.memory cell (by simpa using apart)
    have last := rotateRight_total (middle.memory.read cell) middle.status.carry
    change 2 * (middle.shiftCell .rotateRight cell).numberAt _ +
      (middle.shiftCell .rotateRight cell).status.carry.toNat = _
    rw [numberAt_cons, read_shiftCell, numberAt_shiftCell _ _ apart, carry_shiftCell, ring_cons,
      ← kept, ← earlier]
    omega

variable {machine} in
theorem ring_inj {other : Machine} (same : other.ring cells = machine.ring cells) :
    other.numberAt cells = machine.numberAt cells ∧ other.status.carry = machine.status.carry := by
  have bound := machine.numberAt_lt cells
  have otherBound := other.numberAt_lt cells
  rw [ring, ring] at same
  generalize 256 ^ cells.length = power at *
  cases before : machine.status.carry <;> cases after : other.status.carry <;>
    simp [before, after] at same ⊢ <;> omega

theorem ring_lt (cells : List Address) : machine.ring cells < 2 * 256 ^ cells.length := by
  have bound := machine.numberAt_lt cells
  rw [ring]
  generalize 256 ^ cells.length = power at *
  cases machine.status.carry <;> simp <;> omega

theorem power_eq_double (nonempty : cells ≠ []) :
    256 ^ cells.length = 2 * 2 ^ (8 * cells.length - 1) := by
  have positive := List.length_pos_iff.mpr nonempty
  have width : 8 * cells.length = 8 * cells.length - 1 + 1 := by omega
  rw [← Nat.pow_succ', Nat.succ_eq_add_one, ← width, Nat.pow_mul]

theorem rotateLeft_number (distinct : cells.Nodup) (nonempty : cells ≠ []) :
    let after := machine.shiftCells (chain .rotateLeft .rotateLeft cells)
    after.numberAt cells =
        (2 * machine.numberAt cells + machine.status.carry.toNat) % 256 ^ cells.length ∧
      after.status.carry = (machine.numberAt cells).testBit (8 * cells.length - 1) := by
  intro after
  have total : after.ring cells = _ := machine.ring_rotateLeft distinct
  have bound := after.numberAt_lt cells
  have before := machine.numberAt_lt cells
  have carry := machine.status.carry.toNat_le
  constructor
  next => rw [← total, ring, Nat.add_mul_mod_self_left, Nat.mod_eq_of_lt bound]
  next =>
    rw [ring] at total
    rw [power_eq_double nonempty] at total bound before
    cases leaves : after.status.carry with
    | false =>
      rw [leaves] at total
      have small : machine.numberAt cells < 2 ^ (8 * cells.length - 1) := by
        simp at total
        omega
      exact (Nat.testBit_lt_two_pow small).symm
    | true =>
      rw [leaves] at total
      have large : 2 ^ (8 * cells.length - 1) ≤ machine.numberAt cells := by
        simp at total
        omega
      rw [← Nat.pow_succ'] at before
      exact (Nat.testBit_of_two_pow_le_and_two_pow_add_one_gt large before).symm

theorem rotateRight_number (distinct : cells.Nodup) (nonempty : cells ≠ []) :
    let after := machine.shiftCells (chain .rotateRight .rotateRight cells.reverse)
    after.numberAt cells =
        (machine.numberAt cells + machine.status.carry.toNat * 256 ^ cells.length) / 2 ∧
      after.status.carry = decide (machine.numberAt cells % 2 = 1) := by
  intro after
  have total : 2 * after.numberAt cells + after.status.carry.toNat = machine.ring cells :=
    machine.ring_rotateRight distinct
  rw [ring, Nat.mul_comm (256 ^ _)] at total
  have leaving := after.status.carry.toNat_le
  constructor
  next =>
    rw [← total]
    omega
  next =>
    have parity : machine.numberAt cells % 2 = after.status.carry.toNat := by
      rw [power_eq_double nonempty, Nat.mul_left_comm] at total
      omega
    rw [parity]
    cases after.status.carry <;> rfl

theorem repeat_induction {steps : List (Shift × Address)}
    {motive : Nat → Machine → Machine → Prop} (none : ∀ machine, motive 0 machine machine)
    (further : ∀ count machine after, motive count (machine.shiftCells steps) after →
      motive (count + 1) machine after) (count : Nat) (machine : Machine) :
    motive count machine (machine.shiftCells (List.replicate count steps).flatten) := by
  induction count generalizing machine with
  | zero => exact none machine
  | succ count ih =>
    rw [List.replicate_succ, List.flatten_cons, shiftCells_append]
    exact further count machine _ (ih _)

theorem ring_turns_left (distinct : cells.Nodup) (count : Nat) :
    Turns (2 * 256 ^ cells.length - 1) count (machine.ring cells)
      ((machine.shiftCells
        (List.replicate count (chain .rotateLeft .rotateLeft cells)).flatten).ring cells) := by
  have power : 0 < 256 ^ cells.length := Nat.pow_pos (by decide)
  refine repeat_induction (motive := fun count before after =>
    Turns _ count (before.ring cells) (after.ring cells)) (fun _ => .none)
    (fun count before after later => ?_) count machine
  have first := Turns.once power (before.numberAt cells) before.status.carry
  rw [← before.ring_rotateLeft distinct] at first
  rw [Nat.add_comm]
  exact first.trans later

-- A rotation to the right is a turn seen from its end.
theorem ring_turns_right (distinct : cells.Nodup) (count : Nat) :
    Turns (2 * 256 ^ cells.length - 1) count
      ((machine.shiftCells (List.replicate count
        (chain .rotateRight .rotateRight cells.reverse)).flatten).ring cells)
      (machine.ring cells) := by
  have power : 0 < 256 ^ cells.length := Nat.pow_pos (by decide)
  refine repeat_induction (motive := fun count before after =>
    Turns _ count (after.ring cells) (before.ring cells)) (fun _ => .none)
    (fun count before after later => ?_) count machine
  let rotated := before.shiftCells (chain .rotateRight .rotateRight cells.reverse)
  have last := Turns.once power (rotated.numberAt cells) rotated.status.carry
  rw [before.ring_rotateRight distinct] at last
  exact later.trans last

theorem ring_eq_of_full {other : Machine}
    (turned : Turns (2 * 256 ^ cells.length - 1) (8 * cells.length + 1)
      (machine.ring cells) (other.ring cells)) : other.ring cells = machine.ring cells := by
  have bound := machine.ring_lt cells
  have otherBound := other.ring_lt cells
  have byte : 2 ^ 8 = 256 := by decide
  refine turned.full ?_ (by omega) (by omega)
  rw [Nat.pow_succ', Nat.pow_mul, byte]
  omega

theorem ring_up_down (distinct : cells.Nodup) :
    (machine.shiftCells (chain .rotateLeft .rotateLeft cells ++
      chain .rotateRight .rotateRight cells.reverse)).ring cells = machine.ring cells := by
  rw [shiftCells_append]
  have down := (machine.shiftCells (chain .rotateLeft .rotateLeft cells)).ring_rotateRight distinct
  rw [machine.ring_rotateLeft distinct] at down
  generalize shiftCells _ (chain .rotateRight .rotateRight cells.reverse) = after at *
  have carry := machine.status.carry.toNat_le
  have carryBack := after.status.carry.toNat_le
  have number : after.numberAt cells = machine.numberAt cells := by omega
  have bit : after.status.carry.toNat = machine.status.carry.toNat := by omega
  rw [ring, ring, number, bit]

theorem ring_down_up (distinct : cells.Nodup) :
    (machine.shiftCells (chain .rotateRight .rotateRight cells.reverse ++
      chain .rotateLeft .rotateLeft cells)).ring cells = machine.ring cells := by
  rw [shiftCells_append, ring_rotateLeft _ distinct, ring_rotateRight _ distinct]

structure Restores (machine : Machine) (cells : List Address) (last : Address) (after : Machine) :
    Prop extends machine.Leaves cells last (machine.numberAt cells) machine.status.carry after where
  restored : after.memory = machine.memory

variable {machine} {steps : List (Shift × Address)} {last : Address}

theorem leaves_of_visits {number : Nat} {carry : Bool} (visits : Visits cells last steps)
    (counts : (machine.shiftCells steps).numberAt cells = number ∧
      (machine.shiftCells steps).status.carry = carry) :
    ∃ after, machine.performBodies (steps.map (Prod.map Shift.mnemonic id)) = .ok after ∧
      machine.Leaves cells last number carry after :=
  ⟨machine.shiftCells steps, machine.performBodies_shifts steps,
    { machine.shiftCells_only visits.within with
      number := counts.1
      carry := counts.2
      result := machine.shiftCells_shows visits.ends }⟩

theorem Leaves.memory_eq {carry : Bool} {after : Machine}
    (leaves : machine.Leaves cells last (machine.numberAt cells) carry after) :
    after.memory = machine.memory := by
  have bytes := decode_injective (by simp) leaves.number
  apply Memory.ext_read
  intro address
  by_cases inside : address ∈ cells
  next => exact List.map_inj_left.mp bytes address inside
  next => exact leaves.memory address inside

theorem restores_of_visits (visits : Visits cells last steps)
    (same : (machine.shiftCells steps).ring cells = machine.ring cells) :
    ∃ after, machine.performBodies (steps.map (Prod.map Shift.mnemonic id)) = .ok after ∧
      machine.Restores cells last after := by
  obtain ⟨after, performed, leaves⟩ := leaves_of_visits visits (ring_inj same)
  exact ⟨after, performed, leaves, leaves.memory_eq⟩

-- A rotation comes around after as many turns as there are bits in the cells and the carry.
theorem shifts_conform (machine : Machine) (distinct : cells.Nodup) (nonempty : cells ≠ []) :
    let number := machine.numberAt cells
    let carry := machine.status.carry
    let bits := 8 * cells.length
    let low := cells.head nonempty
    let high := cells.getLast nonempty
    let up := chain Mnemonic.rol .rol cells
    let down := chain Mnemonic.ror .ror cells.reverse
    (∃ after, machine.performBodies up = .ok after ∧
      machine.Leaves cells high ((2 * number + carry.toNat) % 256 ^ cells.length)
        (number.testBit (bits - 1)) after) ∧
    (∃ after, machine.performBodies (chain .asl .rol cells) = .ok after ∧
      machine.Leaves cells high (2 * number % 256 ^ cells.length) (number.testBit (bits - 1))
        after) ∧
    (∃ after, machine.performBodies down = .ok after ∧
      machine.Leaves cells low ((number + carry.toNat * 256 ^ cells.length) / 2) (number % 2 = 1)
        after) ∧
    (∃ after, machine.performBodies (chain .lsr .ror cells.reverse) = .ok after ∧
      machine.Leaves cells low (number / 2) (number % 2 = 1) after) ∧
    (∃ after, machine.performBodies (up ++ down) = .ok after ∧ machine.Restores cells low after) ∧
    (∃ after, machine.performBodies (down ++ up) = .ok after ∧ machine.Restores cells high after) ∧
    (∃ after, machine.performBodies (List.replicate (bits + 1) up).flatten = .ok after ∧
      machine.Restores cells high after) ∧
    (∃ after, machine.performBodies (List.replicate (bits + 1) down).flatten = .ok after ∧
      machine.Restores cells low after) := by
  have up (first : Shift) := Visits.upward first .rotateLeft nonempty
  have down (first : Shift) := Visits.downward first .rotateRight nonempty
  refine ⟨?_, ?_, ?_, ?_, ?_, ?_, ?_, ?_⟩
  next =>
    have shifted := leaves_of_visits (up .rotateLeft) (machine.rotateLeft_number distinct nonempty)
    rwa [map_mnemonic_chain] at shifted
  next =>
    have counts := (machine.putFlag .carry false).rotateLeft_number distinct nonempty
    rw [← machine.shiftCells_eq_rotation shiftLeft_apply rfl nonempty] at counts
    have shifted := leaves_of_visits (up .shiftLeft) counts
    rwa [map_mnemonic_chain] at shifted
  next =>
    have shifted := leaves_of_visits (down .rotateRight)
      (machine.rotateRight_number distinct nonempty)
    rwa [map_mnemonic_chain] at shifted
  next =>
    have reversed : cells.reverse ≠ [] := List.reverse_ne_nil_iff.mpr nonempty
    have counts := (machine.putFlag .carry false).rotateRight_number distinct nonempty
    have cleared : (machine.putFlag .carry false).status.carry = false := rfl
    rw [← machine.shiftCells_eq_rotation shiftRight_apply rfl reversed, cleared, Bool.toNat_false,
      Nat.zero_mul, Nat.add_zero] at counts
    have shifted := leaves_of_visits (down .shiftRight) counts
    rwa [map_mnemonic_chain] at shifted
  next =>
    have undone := restores_of_visits ((up .rotateLeft).append (down .rotateRight))
      (machine.ring_up_down distinct)
    rwa [List.map_append, map_mnemonic_chain, map_mnemonic_chain] at undone
  next =>
    have undone := restores_of_visits ((down .rotateRight).append (up .rotateLeft))
      (machine.ring_down_up distinct)
    rwa [List.map_append, map_mnemonic_chain, map_mnemonic_chain] at undone
  next =>
    have around := restores_of_visits ((up .rotateLeft).repeated (8 * cells.length))
      (machine.ring_eq_of_full (machine.ring_turns_left distinct _))
    rwa [List.map_flatten, List.map_replicate, map_mnemonic_chain] at around
  next =>
    have around := restores_of_visits ((down .rotateRight).repeated (8 * cells.length))
      (ring_eq_of_full _ (machine.ring_turns_right distinct _)).symm
    rwa [List.map_flatten, List.map_replicate, map_mnemonic_chain] at around

def spreadNumber : Machine where
  settings := Core.factorySettings
  memory := (Memory.blank.write 0x0010 0x80).write 0x2000 0xc0
  status := { Status.ofByte Layout.resetStatus with carry := true }

theorem spreadNumber_shifts :
    (∃ after, spreadNumber.performBodies [(.rol, 0x0010), (.rol, 0x2000)] = .ok after ∧
      after.memory.read 0x0010 = 0x01 ∧ after.memory.read 0x2000 = 0x81 ∧
      after.status.carry = true ∧ after.status.negative = true) ∧
    ∃ after, spreadNumber.performBodies
        (List.replicate 17 [(.ror, 0x2000), (.ror, 0x0010)]).flatten = .ok after ∧
      after.memory = spreadNumber.memory ∧ after.status.carry = true := by
  have distinct : [(0x0010 : Address), 0x2000].Nodup := by decide
  have holds := spreadNumber.shifts_conform distinct (List.cons_ne_nil _ _)
  have bytes : [(0x0010 : Address), 0x2000].map spreadNumber.memory.read = [0x80, 0xc0] := by
    simp [spreadNumber, Memory.read_write]
  have number : spreadNumber.numberAt [0x0010, 0x2000] = 0xc080 := congrArg decode bytes
  obtain ⟨rotated, performed, leaves⟩ := holds.1
  obtain ⟨turned, around, restores⟩ := holds.2.2.2.2.2.2.2
  have cells : [(0x0010 : Address), 0x2000].map rotated.memory.read = [0x01, 0x81] := by
    apply decode_injective
    next => rfl
    next => exact leaves.number.trans (by rw [number]; rfl)
  have low : rotated.memory.read 0x0010 = 0x01 := (List.cons.inj cells).1
  have high : rotated.memory.read 0x2000 = 0x81 := (List.cons.inj (List.cons.inj cells).2).1
  refine ⟨⟨rotated, performed, low, high, ?_, ?_⟩, turned, around, restores.restored,
    restores.carry⟩
  next => exact leaves.carry.trans (by rw [number]; rfl)
  next => exact leaves.result.negative.trans (congrArg BitVec.msb high)

end Machine

end Mos6502
