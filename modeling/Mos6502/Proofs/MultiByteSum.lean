import Mos6502.Proofs.Bodies
import Mos6502.Proofs.ByteNumbers

set_option autoImplicit false

namespace Mos6502

open Arithmetic LittleEndian

namespace Machine

-- The digits are what the accumulator holds after each byte.
def sumBytes (machine : Machine) (mnemonic : Mnemonic) :
    List Byte → List Byte → Except Fault (List Byte × Machine)
  | value :: left, other :: right => do
    let loaded ← (Mnemonic.lda.operation.run (some (.byte value)) machine).result
    let summed ← (mnemonic.operation.run (some (.byte other)) loaded).result
    let (digits, last) ← summed.sumBytes mnemonic left right
    return (summed.a :: digits, last)
  | _, _ => .ok ([], machine)

def withDecimal (machine : Machine) (on : Bool) : Machine :=
  { machine with status := { machine.status with decimal := on } }

structure ShowsTotal (count : Nat) (total signedTotal : Int) (carry : Bool) (digits : List Byte)
    (last : Machine) : Prop where
  length : digits.length = count
  value : (decode digits : Int) = total % 256 ^ count
  carry : last.status.carry = carry
  overflow : last.status.overflow = !decide (Fits count signedTotal)

variable (machine : Machine)

def loadAdd (value other : Byte) : Machine :=
  (machine.setResult .a value).add other

theorem sumBytes_add (value other : Byte) (left right : List Byte) :
    machine.sumBytes .adc (value :: left) (other :: right) =
      ((machine.loadAdd value other).sumBytes .adc left right).map fun later =>
        ((machine.loadAdd value other).a :: later.1, later.2) := by
  rw [sumBytes]
  rfl

-- The complement makes an addition of a subtraction, on each byte and so on all of them.
theorem sumBytes_subtract (left right : List Byte) :
    machine.sumBytes .sbc left right =
      machine.sumBytes .adc left (right.map fun byte => ~~~byte) := by
  induction left generalizing machine right with
  | nil => simp [sumBytes]
  | cons value left ih =>
    cases right with
    | nil => simp [sumBytes]
    | cons other right =>
      rw [List.map_cons, sumBytes_add, ← ih, sumBytes]
      rfl

theorem loadAdd_total (value other : Byte) :
    (machine.loadAdd value other).a.toNat + 256 * (machine.loadAdd value other).status.carry.toNat =
      value.toNat + other.toNat + machine.status.carry.toNat :=
  addWithCarry_total value other machine.status.carry

theorem loadAdd_overflow (value other : Byte) :
    (machine.loadAdd value other).status.overflow =
      !decide (Fits 1 (value.toInt + other.toInt + machine.status.carry.toNat)) := by
  have trick := addWithCarry_overflow value other machine.status.carry
  change (addWithCarry value other machine.status.carry).overflow = _
  rw [trick, ← decide_not, decide_eq_decide, fits_one]
  omega

theorem loadAdd_signed (value other : Byte) {left right : List Byte} (more : left ≠ [])
    (others : right ≠ []) :
    decodeSigned (value :: left) + decodeSigned (other :: right) + machine.status.carry.toNat =
      (machine.loadAdd value other).a.toNat + 256 * (decodeSigned left + decodeSigned right +
        (machine.loadAdd value other).status.carry.toNat) := by
  have first := machine.loadAdd_total value other
  rw [decodeSigned_cons _ more, decodeSigned_cons _ others]
  omega

structure Adds (left right digits : List Byte) (last : Machine) : Prop where
  length : digits.length = left.length
  total : (decode digits : Int) + 256 ^ left.length * last.status.carry.toNat =
    decode left + decode right + machine.status.carry.toNat
  overflow : left ≠ [] → last.status.overflow = !decide (Fits left.length
    (decodeSigned left + decodeSigned right + machine.status.carry.toNat))

theorem sumBytes_adds {left right : List Byte} (same : left.length = right.length) :
    ∃ digits last, machine.sumBytes .adc left right = .ok (digits, last) ∧
      machine.Adds left right digits last := by
  induction left generalizing machine right with
  | nil =>
    obtain rfl : right = [] := List.length_eq_zero_iff.mp same.symm
    exact ⟨[], machine, rfl, rfl, by simp [decode], fun nonempty => absurd rfl nonempty⟩
  | cons value left ih =>
    cases right with
    | nil => simp at same
    | cons other right =>
      have lengths : left.length = right.length := by simpa using same
      have first := machine.loadAdd_total value other
      obtain ⟨digits, last, run, length, total, overflow⟩ :=
        ih (machine.loadAdd value other) lengths
      refine ⟨(machine.loadAdd value other).a :: digits, last, ?_, ?_, ?_, fun _ => ?_⟩
      next => rw [sumBytes_add, run]; rfl
      next => simp [length]
      next =>
        have scaled := congrArg (256 * ·) total
        simp only [Int.mul_add, ← Int.mul_assoc] at scaled
        simp only [decode, List.length_cons, Int.pow_succ, Int.mul_comm _ (256 : Int)]
        push_cast
        omega
      next =>
        by_cases more : left = []
        next =>
          subst more
          obtain rfl : right = [] := List.length_eq_zero_iff.mp lengths.symm
          obtain ⟨_, rfl⟩ : digits = [] ∧ machine.loadAdd value other = last := by
            simpa [sumBytes, eq_comm] using run
          exact machine.loadAdd_overflow value other
        next =>
          have others := ne_nil_of_length_eq lengths more
          have positive : 0 < left.length := List.length_pos_iff.mpr more
          have digit := (machine.loadAdd value other).a.bounds
          rw [overflow more, machine.loadAdd_signed value other more others, List.length_cons,
            Bool.not_inj_iff, decide_eq_decide]
          exact (fits_add_mul ⟨digit.1, by omega⟩ positive _).symm

theorem sumBytes_withDecimal (on : Bool) {left right : List Byte}
    (same : left.length = right.length) :
    (machine.withDecimal on).sumBytes .adc left right =
      (machine.sumBytes .adc left right).map fun ended => (ended.1, ended.2.withDecimal on) := by
  induction left generalizing machine right with
  | nil =>
    obtain rfl : right = [] := List.length_eq_zero_iff.mp same.symm
    rfl
  | cons value left ih =>
    cases right with
    | nil => simp at same
    | cons other right =>
      have step : (machine.withDecimal on).loadAdd value other =
          (machine.loadAdd value other).withDecimal on := rfl
      rw [sumBytes_add, sumBytes_add, step, ih _ (by simpa using same)]
      cases (machine.loadAdd value other).sumBytes .adc left right <;> rfl

namespace Adds

variable {machine : Machine} {left right digits : List Byte} {last : Machine}

theorem bounded (adds : machine.Adds left right digits last) :
    (decode digits : Int) < 256 ^ left.length := by
  rw [← adds.length]
  exact_mod_cast decode_lt digits

theorem carry_eq (adds : machine.Adds left right digits last) :
    last.status.carry = decide ((256 : Int) ^ left.length ≤
      decode left + decode right + machine.status.carry.toNat) := by
  have bounded := adds.bounded
  have total := adds.total
  generalize (256 : Int) ^ left.length = power at *
  cases carried : last.status.carry <;> simp [carried] at total ⊢ <;> omega

theorem showsSum (adds : machine.Adds left right digits last) (nonempty : left ≠ []) :
    ShowsTotal left.length (decode left + decode right + machine.status.carry.toNat)
      (decodeSigned left + decodeSigned right + machine.status.carry.toNat)
      ((256 : Int) ^ left.length ≤ decode left + decode right + machine.status.carry.toNat)
      digits last where
  length := adds.length
  value := by
    have total := adds.total
    rw [← adds.length] at total ⊢
    exact decode_eq_emod _ total
  carry := adds.carry_eq
  overflow := adds.overflow nonempty

theorem showsDifference
    (adds : machine.Adds left (right.map fun byte => ~~~byte) digits last)
    (same : left.length = right.length) (nonempty : left ≠ []) :
    ShowsTotal left.length (decode left - decode right - (1 - machine.status.carry.toNat))
      (decodeSigned left - decodeSigned right - (1 - machine.status.carry.toNat))
      ((0 : Int) ≤ decode left - decode right - (1 - machine.status.carry.toNat))
      digits last where
  length := adds.length
  value := by
    have total := adds.total
    have complement := decode_complement right
    rw [← same] at complement
    rw [← adds.length] at total complement ⊢
    apply decode_eq_emod (last.status.carry.toNat - 1)
    rw [Int.mul_sub]
    omega
  carry := by
    have complement := decode_complement right
    rw [← same] at complement
    rw [adds.carry_eq, complement, decide_eq_decide]
    omega
  overflow := by
    have others := ne_nil_of_length_eq same nonempty
    have signed : decodeSigned left + decodeSigned (right.map fun byte => ~~~byte) +
        machine.status.carry.toNat =
        decodeSigned left - decodeSigned right - (1 - machine.status.carry.toNat) := by
      rw [decodeSigned_complement others]
      omega
    rw [adds.overflow nonempty, signed]

theorem restores_iff (adds : machine.Adds left right digits last) {restored : List Byte}
    {other ended : Machine} (same : left.length = right.length) (nonempty : left ≠ [])
    (back : other.Adds digits (right.map fun byte => ~~~byte) restored ended) :
    restored = left ↔ other.status.carry = !machine.status.carry := by
  have sum := adds.total
  have difference := back.total
  have complement := decode_complement right
  have wide := le_power nonempty
  have leftBound : (decode left : Int) < 256 ^ left.length := by exact_mod_cast decode_lt left
  have restoredBound := back.bounded
  rw [adds.length] at difference restoredBound
  rw [← same] at complement
  have numbers : restored = left ↔ (decode restored : Int) = decode left := by
    constructor
    next => rintro rfl; rfl
    next =>
      intro equal
      exact decode_injective (back.length.trans adds.length) (Int.ofNat_inj.mp equal)
  rw [numbers]
  clear adds back
  generalize (256 : Int) ^ left.length = power at *
  generalize machine.status.carry = before, other.status.carry = again,
    last.status.carry = carried, ended.status.carry = final at *
  cases before <;> cases again <;> cases carried <;> cases final <;>
    simp at sum difference ⊢ <;> omega

end Adds

-- The subtraction restores the first number just where its carry is not the one added.
theorem sumBytes_conforms {left right : List Byte} (same : left.length = right.length)
    (nonempty : left ≠ []) :
    (∃ digits last, machine.sumBytes .adc left right = .ok (digits, last) ∧
      ShowsTotal left.length (decode left + decode right + machine.status.carry.toNat)
        (decodeSigned left + decodeSigned right + machine.status.carry.toNat)
        ((256 : Int) ^ left.length ≤ decode left + decode right + machine.status.carry.toNat)
        digits last ∧
      ∀ other : Machine, ∃ restored ended,
        other.sumBytes .sbc digits right = .ok (restored, ended) ∧
          (restored = left ↔ other.status.carry = !machine.status.carry)) ∧
    (∃ digits last, machine.sumBytes .sbc left right = .ok (digits, last) ∧
      ShowsTotal left.length (decode left - decode right - (1 - machine.status.carry.toNat))
        (decodeSigned left - decodeSigned right - (1 - machine.status.carry.toNat))
        ((0 : Int) ≤ decode left - decode right - (1 - machine.status.carry.toNat))
        digits last) ∧
    ∀ (mnemonic : Mnemonic) (on : Bool), mnemonic = .adc ∨ mnemonic = .sbc →
      (machine.withDecimal on).sumBytes mnemonic left right =
        (machine.sumBytes mnemonic left right).map fun ended =>
          (ended.1, ended.2.withDecimal on) := by
  have complemented : left.length = (right.map fun byte => ~~~byte).length := by simpa using same
  refine ⟨?_, ?_, ?_⟩
  next =>
    obtain ⟨digits, last, run, adds⟩ := machine.sumBytes_adds same
    refine ⟨digits, last, run, adds.showsSum nonempty, fun other => ?_⟩
    obtain ⟨restored, ended, back, restores⟩ :=
      other.sumBytes_adds (adds.length.trans complemented)
    exact ⟨restored, ended, (other.sumBytes_subtract digits right).trans back,
      adds.restores_iff same nonempty restores⟩
  next =>
    obtain ⟨digits, last, run, adds⟩ := machine.sumBytes_adds complemented
    exact ⟨digits, last, (machine.sumBytes_subtract left right).trans run,
      adds.showsDifference same nonempty⟩
  next =>
    rintro mnemonic on (rfl | rfl)
    next => exact machine.sumBytes_withDecimal on same
    next =>
      rw [sumBytes_subtract, sumBytes_subtract]
      exact machine.sumBytes_withDecimal on complemented

def carrying : Machine where
  settings := Core.factorySettings
  memory := .blank
  status := { Status.ofByte Layout.resetStatus with carry := true }

-- From $7fff by one and the carry to $8001, and back with the carry that the addition left.
theorem sumBytes_signOverflow :
    ∃ last ended, carrying.sumBytes .adc [0xff, 0x7f] [0x01, 0x00] = .ok ([0x01, 0x80], last) ∧
      last.status.carry = false ∧ last.status.overflow = true ∧
      last.sumBytes .sbc [0x01, 0x80] [0x01, 0x00] = .ok ([0xff, 0x7f], ended) := by
  have length : [(0xff : Byte), 0x7f].length = [(0x01 : Byte), 0x00].length := rfl
  obtain ⟨⟨digits, last, run, shows, back⟩, _⟩ :=
    carrying.sumBytes_conforms length (List.cons_ne_nil _ _)
  have digitsEq : digits = [0x01, 0x80] :=
    decode_injective shows.length (Int.ofNat_inj.mp shows.value)
  subst digitsEq
  obtain ⟨restored, ended, backRun, restores⟩ := back last
  have restoredEq : restored = [0xff, 0x7f] := restores.mpr shows.carry
  subst restoredEq
  exact ⟨last, ended, run, shows.carry, shows.overflow, backRun⟩

end Machine

end Mos6502
