import Mos6502.Proofs.Branches
import Mos6502.Proofs.MultiByteSum

set_option autoImplicit false

namespace Mos6502

open Arithmetic LittleEndian

namespace Machine

def runBodies (machine : Machine) : List (Mnemonic × Option Operand) → Except Fault Machine
  | [] => .ok machine
  | (mnemonic, operand) :: rest => do
    let changed ← (mnemonic.operation.run operand machine).result
    changed.runBodies rest

end Machine

def subtractBodies (left right : List Byte) : List (Mnemonic × Option Operand) :=
  (left.zip right).flatMap fun bytes =>
    [(.lda, some (.byte bytes.1)), (.sbc, some (.byte bytes.2))]

-- The lowest bytes are compared, and the others subtracted through the borrow.
def compareBodies : List Byte → List Byte → List (Mnemonic × Option Operand)
  | value :: left, other :: right =>
    [(.lda, some (.byte value)), (.cmp, some (.byte other))] ++ subtractBodies left right
  | _, _ => []

def differenceBodies : List Byte → List Byte → List (Mnemonic × Option Operand)
  | value :: left, other :: right =>
    [(.lda, some (.byte value)), (.sec, none), (.sbc, some (.byte other))] ++
      subtractBodies left right
  | _, _ => []

def comparisons : List (Mnemonic × Register) :=
  [(.cmp, .a), (.cpx, .x), (.cpy, .y)]

namespace Machine

variable (machine : Machine)

def loadCompare (value other : Byte) : Machine :=
  (machine.setResult .a value).compare value other

def loadSubtract (value other : Byte) : Machine :=
  ((machine.setResult .a value).putFlag .carry true).add (~~~other)

theorem runBodies_subtract (left right : List Byte) :
    machine.runBodies (subtractBodies left right) =
      (machine.sumBytes .sbc left right).map Prod.snd := by
  induction left generalizing machine right with
  | nil => simp [subtractBodies, runBodies, sumBytes, Except.map]
  | cons value left ih =>
    cases right with
    | nil => simp [subtractBodies, runBodies, sumBytes, Except.map]
    | cons other right =>
      have first : machine.runBodies (subtractBodies (value :: left) (other :: right)) =
          (machine.loadAdd value (~~~other)).runBodies (subtractBodies left right) := rfl
      rw [first, ih, sumBytes_subtract, sumBytes_subtract, List.map_cons, sumBytes_add]
      cases (machine.loadAdd value (~~~other)).sumBytes .adc left
        (right.map fun byte => ~~~byte) <;> rfl

theorem runBodies_compare (value other : Byte) (left right : List Byte) :
    machine.runBodies (compareBodies (value :: left) (other :: right)) =
      (machine.loadCompare value other).runBodies (subtractBodies left right) := rfl

theorem runBodies_difference (value other : Byte) (left right : List Byte) :
    machine.runBodies (differenceBodies (value :: left) (other :: right)) =
      (machine.loadSubtract value other).runBodies (subtractBodies left right) := rfl

theorem compare_eq (left right : Byte) :
    machine.compare left right =
      { machine with
        status :=
          { machine.status.withResult (addWithCarry left (~~~right) true).result with
            carry := (addWithCarry left (~~~right) true).carry } } := by
  rw [(addWithCarry_complement left right).1, (addWithCarry_complement left right).2]
  rfl

theorem loadCompare_borrow (value other : Byte) :
    ∃ digit : Int, (0 ≤ digit ∧ digit < 256) ∧
      (value.toNat : Int) - other.toNat =
        digit - 256 * (1 - (machine.loadCompare value other).status.carry.toNat) := by
  have carry : (machine.loadCompare value other).status.carry =
      decide (other.toNat ≤ value.toNat) := rfl
  have valueBounds := value.bounds
  have otherBounds := other.bounds
  rw [carry]
  by_cases least : other.toNat ≤ value.toNat
  next => exact ⟨value.toNat - other.toNat, by omega, by simp [least]⟩
  next => exact ⟨value.toNat - other.toNat + 256, by omega, by simp [least]⟩

-- What the two differ in, the next load and subtraction write anew.
theorem loadAdd_loadCompare (value other next term : Byte) :
    (machine.loadCompare value other).loadAdd next term =
      (machine.loadSubtract value other).loadAdd next term := by
  rw [loadCompare, compare_eq]
  rfl

theorem runBodies_compare_eq_difference {left right : List Byte}
    (same : left.length = right.length) (several : 2 ≤ left.length) :
    machine.runBodies (compareBodies left right) =
      machine.runBodies (differenceBodies left right) := by
  match left, right, same, several with
  | value :: next :: left, other :: term :: right, _, _ =>
    rw [runBodies_compare, runBodies_difference]
    change ((machine.loadCompare value other).loadAdd next (~~~term)).runBodies _ =
      ((machine.loadSubtract value other).loadAdd next (~~~term)).runBodies _
    rw [loadAdd_loadCompare]

theorem loadAdd_sign (value other : Byte) :
    ((machine.loadAdd value other).status.negative ^^
        (machine.loadAdd value other).status.overflow) =
      decide (value.toInt + other.toInt + machine.status.carry.toNat < 0) :=
  addWithCarry_sign value other machine.status.carry

-- The flags of the last byte alone tell the sign of the whole total.
theorem sumBytes_sign {left right digits : List Byte} {last : Machine}
    (run : machine.sumBytes .adc left right = .ok (digits, last))
    (same : left.length = right.length) (nonempty : left ≠ []) :
    (last.status.negative ^^ last.status.overflow) =
      decide (decodeSigned left + decodeSigned right + machine.status.carry.toNat < 0) := by
  induction left generalizing machine right digits with
  | nil => exact absurd rfl nonempty
  | cons value left ih =>
    cases right with
    | nil => simp at same
    | cons other right =>
      have lengths : left.length = right.length := by simpa using same
      rw [sumBytes_add] at run
      cases later : (machine.loadAdd value other).sumBytes .adc left right with
      | error fault => simp [later, Except.map] at run
      | ok ended =>
        obtain ⟨_, rfl⟩ : _ ∧ ended.2 = last := by simpa [later, Except.map] using run
        by_cases more : left = []
        next =>
          subst more
          obtain rfl : right = [] := List.length_eq_zero_iff.mp lengths.symm
          obtain rfl : ([], machine.loadAdd value other) = ended := by simpa [sumBytes] using later
          exact machine.loadAdd_sign value other
        next =>
          have others := ne_nil_of_length_eq lengths more
          have digit := (machine.loadAdd value other).a.bounds
          rw [ih (machine.loadAdd value other) later lengths more,
            machine.loadAdd_signed value other more others, decide_eq_decide]
          omega

theorem runBodies_branch (branch : Branch) (target : Address) :
    machine.runBodies [(branch.mnemonic, some (.location target))] =
      .ok { machine with pc := if branch.holds machine.status then target else machine.pc } := by
  rw [runBodies, branch.run_eq]
  rfl

structure Orders (left right : List Byte) (last : Machine) : Prop where
  carry : last.status.carry = decide (decode right ≤ decode left)
  sign : (last.status.negative ^^ last.status.overflow) =
    decide (decodeSigned left < decodeSigned right)
  carrySet : ∀ target, last.runBodies [(.bcs, some (.location target))] =
    .ok { last with pc := if decode right ≤ decode left then target else last.pc }
  carryClear : ∀ target, last.runBodies [(.bcc, some (.location target))] =
    .ok { last with pc := if decode left < decode right then target else last.pc }

variable {machine} in
theorem Orders.of_flags {left right : List Byte}
    (carry : machine.status.carry = decide (decode right ≤ decode left))
    (sign : (machine.status.negative ^^ machine.status.overflow) =
      decide (decodeSigned left < decodeSigned right)) : machine.Orders left right where
  carry := carry
  sign := sign
  carrySet := by
    intro target
    have branch := machine.runBodies_branch .carrySet target
    rw [Branch.holds, carry] at branch
    simpa only [Branch.mnemonic, decide_eq_true_eq] using branch
  carryClear := by
    intro target
    have branch := machine.runBodies_branch .carryClear target
    rw [Branch.holds, carry, ← decide_not] at branch
    simpa only [Branch.mnemonic, decide_eq_true_eq, Nat.not_le] using branch

theorem runBodies_compare_orders (value other : Byte) {left right : List Byte}
    (same : left.length = right.length) (more : left ≠ []) :
    ∃ last, machine.runBodies (compareBodies (value :: left) (other :: right)) = .ok last ∧
      last.Orders (value :: left) (other :: right) := by
  have others := ne_nil_of_length_eq same more
  have complemented : left.length = (right.map fun byte => ~~~byte).length := by simpa using same
  obtain ⟨digit, bounds, first⟩ := machine.loadCompare_borrow value other
  obtain ⟨digits, last, run, adds⟩ := (machine.loadCompare value other).sumBytes_adds complemented
  have sign := (machine.loadCompare value other).sumBytes_sign run complemented more
  have carry := (adds.showsDifference same more).carry
  refine ⟨last, ?_, .of_flags ?_ ?_⟩
  next =>
    rw [runBodies_compare, runBodies_subtract, sumBytes_subtract, run]
    rfl
  next =>
    rw [carry, decode, decode, decide_eq_decide]
    omega
  next =>
    rw [sign, decodeSigned_complement others, decodeSigned_cons _ more,
      decodeSigned_cons _ others, decide_eq_decide]
    omega

theorem comparison_eq_difference {comparison : Mnemonic × Register}
    (listed : comparison ∈ comparisons) (operand : Operand) :
    ∃ subtracted,
      ({ machine with a := machine.register comparison.2 } : Machine).runBodies
          [(.sec, none), (.sbc, some (.byte (machine.operandByte operand)))] = .ok subtracted ∧
        machine.runBodies [(comparison.1, some operand)] =
          .ok
            { machine with
              status :=
                { machine.status with
                  carry := subtracted.status.carry
                  zero := subtracted.status.zero
                  negative := subtracted.status.negative
                  unused := true } } := by
  have compared : machine.runBodies [(comparison.1, some operand)] =
      .ok (machine.compare (machine.register comparison.2) (machine.operandByte operand)) := by
    simp only [comparisons, List.mem_cons, List.not_mem_nil, or_false] at listed
    rcases listed with rfl | rfl | rfl <;> rfl
  refine ⟨_, rfl, ?_⟩
  rw [compared, compare_eq]
  rfl

-- Unsigned by the carry, and signed by the negative and the overflow flag together.
theorem comparisons_conform :
    (∀ left right : List Byte, left.length = right.length → 2 ≤ left.length →
      ∃ last, machine.runBodies (compareBodies left right) = .ok last ∧
        machine.runBodies (differenceBodies left right) = .ok last ∧
        last.Orders left right) ∧
    ∀ comparison ∈ comparisons, ∀ operand, ∃ subtracted,
      ({ machine with a := machine.register comparison.2 } : Machine).runBodies
          [(.sec, none), (.sbc, some (.byte (machine.operandByte operand)))] = .ok subtracted ∧
        machine.runBodies [(comparison.1, some operand)] =
          .ok
            { machine with
              status :=
                { machine.status with
                  carry := subtracted.status.carry
                  zero := subtracted.status.zero
                  negative := subtracted.status.negative
                  unused := true } } := by
  refine ⟨fun left right same several => ?_,
    fun comparison listed operand => machine.comparison_eq_difference listed operand⟩
  have agree := machine.runBodies_compare_eq_difference same several
  match left, right, same, several with
  | value :: left, other :: right, same, several =>
    have lengths : left.length = right.length := by simpa using same
    have more : left ≠ [] := by
      rintro rfl
      simp at several
    obtain ⟨last, run, orders⟩ := machine.runBodies_compare_orders value other lengths more
    exact ⟨last, run, agree.symm.trans run, orders⟩

-- $8000 against $0001: the greater unsigned number, and the smaller signed one.
theorem comparisons_signOverflow :
    (∃ last, carrying.runBodies (compareBodies [0x00, 0x80] [0x01, 0x00]) = .ok last ∧
      last.status.carry = true ∧ (last.status.negative ^^ last.status.overflow) = true ∧
      last.runBodies [(.bcs, some (.location 0x1234))] = .ok { last with pc := 0x1234 }) ∧
    carrying.runBodies [(.cpx, some (.byte 0x01))] =
      .ok { carrying with status := .ofByte 0xa4 } := by
  obtain ⟨numbers, single⟩ := comparisons_conform carrying
  obtain ⟨last, run, _, orders⟩ := numbers [0x00, 0x80] [0x01, 0x00] rfl (by decide)
  obtain ⟨subtracted, difference, compared⟩ := single (.cpx, .x) (by decide) (.byte 0x01)
  obtain rfl := Except.ok.inj difference
  exact ⟨⟨last, run, orders.carry, orders.sign, orders.carrySet 0x1234⟩, compared⟩

end Machine

end Mos6502
