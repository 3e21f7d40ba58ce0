import Mos6502.Proofs.Unbounded.Primitives
import Mos6502.Proofs.Unbounded.Execute

set_option autoImplicit false

namespace Mos6502

namespace Status

theorem getElem_toByte (status : Status) :
    status.toByte[7] = status.negative ∧ status.toByte[6] = status.overflow ∧
      status.toByte[5] = status.unused ∧ status.toByte[4] = status.brk ∧
      status.toByte[3] = status.decimal ∧ status.toByte[2] = status.interrupt ∧
      status.toByte[1] = status.zero ∧ status.toByte[0] = status.carry := by
  simpa [ofByte, Status.ext_iff] using ofByte_toByte status

theorem toByte_eq_iff {status : Status} {byte : Byte} :
    status.toByte = byte ↔ ofByte byte = status := by
  constructor
  next => rintro rfl; exact ofByte_toByte status
  next => rintro rfl; exact toByte_ofByte byte

theorem toByte_put (status : Status) (flag : Flag) (on : Bool) :
    (status.put flag on).toByte =
      (if on then status.toByte ||| flag.mask else status.toByte &&& ~~~flag.mask) |||
        Flag.unused.mask := by
  have used (byte : Byte) :
      { ofByte byte with unused := true }.toByte = byte ||| Flag.unused.mask := by
    rw [toByte_eq_iff]
    simp [ofByte, Flag.mask]
  rw [← assign_mask, assign, used]

theorem toByte_withResult_zero (status : Status) :
    (status.withResult 0).toByte =
      (status.toByte &&& ~~~Flag.negative.mask) ||| Flag.zero.mask ||| Flag.unused.mask := by
  rw [toByte_eq_iff]
  simp [ofByte, withResult, Flag.mask, getElem_toByte]

theorem toByte_withResult {value : Byte} (nonzero : value ≠ 0) (status : Status) :
    (status.withResult value).toByte =
      (status.toByte &&& ~~~(0x82 : Byte)) ||| (value &&& Flag.negative.mask) |||
        Flag.unused.mask := by
  have differs : ¬value = 0#8 := nonzero
  rw [toByte_eq_iff]
  simp [ofByte, withResult, Flag.mask, getElem_toByte, differs, BitVec.msb_eq_getLsbD_last]

theorem toByte_comparison (status : Status) (difference : Byte) (carry : Bool) :
    ({ status.withResult difference with carry := carry }).toByte =
      (let cleared := status.toByte &&& ~~~(0x83 : Byte)
       let flags := cleared ||| (difference &&& Flag.negative.mask) ||| Flag.unused.mask
       let flags := if difference = 0 then flags ||| Flag.zero.mask else flags
       if carry then flags ||| Flag.carry.mask else flags) := by
  rw [toByte_eq_iff]
  by_cases zero : difference = 0#8 <;> cases carry <;>
    simp [ofByte, withResult, Flag.mask, getElem_toByte, zero, BitVec.msb_eq_getLsbD_last]

theorem toByte_bits (status : Status) (value : Byte) :
    ({ status with
        negative := value.getLsbD 7
        overflow := value.getLsbD 6
        unused := true }).toByte =
      (status.toByte &&& ~~~(0xc0 : Byte)) ||| (value &&& 0xc0) ||| Flag.unused.mask := by
  rw [toByte_eq_iff]
  simp [ofByte, Flag.mask, getElem_toByte]

theorem toByte_ofPulled (byte : Byte) :
    (ofPulled byte).toByte = (byte &&& ~~~Flag.brk.mask) ||| Flag.unused.mask := by
  rw [toByte_eq_iff]
  simp [ofByte, ofPulled, Flag.mask]

theorem pushed_eq (status : Status) :
    status.pushed = status.toByte ||| Flag.brk.mask ||| Flag.unused.mask := by
  rw [pushed, toByte_eq_iff]
  simp [ofByte, Flag.mask, getElem_toByte]

theorem get_eq (status : Status) (flag : Flag) :
    status.get flag = (status.toByte &&& flag.mask != 0) := by
  have every : ∀ byte : Byte, (ofByte byte).get flag = (byte &&& flag.mask != 0) := by
    cases flag <;> decide +kernel
  simpa only [ofByte_toByte] using every status.toByte

end Status

namespace Unbounded

variable (status : Status)

theorem mask_eq (flag : Flag) : mask flag = flag.mask.toNat := rfl

theorem putBits_toByte (flag : Flag) (on : Bool) :
    putBits status.toByte.toNat flag on = (status.put flag on).toByte.toNat := by
  rw [putBits, Status.toByte_put]
  cases on
  next =>
    rw [if_neg Bool.false_ne_true, if_neg Bool.false_ne_true]
    rw [mask_eq, mask_eq, clear_toNat, lor_toNat]
  next =>
    rw [if_pos rfl, if_pos rfl]
    rw [mask_eq, mask_eq, lor_toNat, lor_toNat]

theorem resultBits_toByte (value : Byte) :
    resultBits status.toByte.toNat value.toNat = (status.withResult value).toByte.toNat := by
  have both : mask .negative + mask .zero = (0x82 : Byte).toNat := rfl
  by_cases zero : value = 0
  next =>
    subst zero
    rw [resultBits, if_pos (by rfl), Status.toByte_withResult_zero]
    rw [mask_eq, mask_eq, mask_eq, clear_toNat, lor_toNat, lor_toNat]
  next =>
    have nonzero : (value.toNat : Int) ≠ 0 := by
      intro same
      exact zero (BitVec.eq_of_toNat_eq (Int.natCast_eq_zero.mp same))
    rw [resultBits, if_neg nonzero, Status.toByte_withResult zero, both]
    rw [mask_eq, mask_eq, clear_toNat, land_toNat, lor_toNat, lor_toNat]

theorem comparisonBits_toByte (left right : Byte) :
    comparisonBits status.toByte.toNat left.toNat right.toNat =
      ({ status.withResult (left - right) with carry := right ≤ left }).toByte.toNat := by
  have masks : mask .carry + mask .negative + mask .zero = (0x83 : Byte).toNat := rfl
  have difference : ((left.toNat : Int) - right.toNat) % 256 = (left - right).toNat :=
    Byte.sub_mod left right
  have zero : ((left - right).toNat : Int) = 0 ↔ left - right = 0 := by
    rw [Int.natCast_eq_zero, ← BitVec.toNat_inj]
    rfl
  have order : (right.toNat : Int) ≤ left.toNat ↔ right ≤ left := by
    rw [Int.ofNat_le, BitVec.le_def]
  simp only [comparisonBits, Status.toByte_comparison, difference, masks]
  simp only [mask_eq, clear_toNat, land_toNat, lor_toNat, zero, order, decide_eq_true_eq]
  split <;> split <;> rfl

theorem testBits_toByte (accumulator value : Byte) :
    testBits status.toByte.toNat accumulator.toNat value.toNat =
      ({ status with
          negative := value.getLsbD 7
          overflow := value.getLsbD 6
          zero := value &&& accumulator == 0
          unused := true }).toByte.toNat := by
  have both : mask .negative + mask .overflow = (0xc0 : Byte).toNat := rfl
  have copied := Status.toByte_bits status value
  simp only [testBits, both]
  simp only [mask_eq, clear_toNat, land_toNat, lor_toNat, ← copied, putBits_toByte, isSet_toNat,
    bne, Bool.not_not]
  rfl

theorem pushedBits_toByte : pushedBits status.toByte.toNat = status.pushed.toNat := by
  rw [pushedBits, mask_eq, mask_eq, lor_toNat, lor_toNat, Status.pushed_eq]

theorem pulledBits_toNat (byte : Byte) :
    pulledBits byte.toNat = (Status.ofPulled byte).toByte.toNat := by
  rw [pulledBits, mask_eq, mask_eq, clear_toNat, lor_toNat, Status.toByte_ofPulled]

theorem isSet_toByte (flag : Flag) :
    isSet status.toByte.toNat (mask flag) = status.get flag := by
  rw [mask_eq, isSet_toNat, Status.get_eq]

end Unbounded

end Mos6502
