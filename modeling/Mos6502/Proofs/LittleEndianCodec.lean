import Mathlib.Data.Nat.Digits.Lemmas
import Mathlib.Tactic.Ring
import Mos6502.Proofs.ByteNumbers

set_option autoImplicit false

namespace Mos6502.LittleEndian

section Unsigned

theorem digits_eq_map (number : Nat) :
    digits number = (Nat.digits 256 number).map (BitVec.ofNat 8) := by
  induction number using Nat.strongRecOn with
  | ind number ih =>
    by_cases positive : 0 < number
    next =>
      have smaller : number / 256 < number := by omega
      have digit : BitVec.ofNat 8 (number % 256) = BitVec.ofNat 8 number := by
        apply BitVec.eq_of_toNat_eq
        simp
      simp only [digits_pos positive, Nat.digits_def' (by decide : 1 < 256) positive,
        List.map_cons, digit, ih _ smaller]
    next =>
      obtain rfl : number = 0 := by omega
      simp [digits_zero]

theorem length_digits (number : Nat) :
    (digits number).length = (Nat.digits 256 number).length := by
  simp [digits_eq_map]

theorem encode_eq_append (number : Nat) (minimum : Int) :
    encode number minimum =
      digits number ++ List.replicate (minimum.toNat - (digits number).length) 0 := rfl

theorem length_encode (number : Nat) (minimum : Int) :
    ((encode number minimum).length : Int) = max minimum (Nat.digits 256 number).length := by
  simp only [encode_eq_append, List.length_append, List.length_replicate, length_digits]
  omega

theorem length_encode_of_lt {number count : Nat} (fits : number < 256 ^ count) :
    (encode number count).length = count := by
  have short := (Nat.digits_length_le_iff (by decide : 1 < 256) number).mpr fits
  have length := length_encode number count
  omega

theorem decode_append (front back : List Byte) :
    decode (front ++ back) = decode front + 256 ^ front.length * decode back := by
  induction front with
  | nil => simp [decode]
  | cons byte rest ih =>
    simp only [List.cons_append, decode, ih, List.length_cons, Nat.pow_succ]
    ring

theorem decode_eq_ofDigits (bytes : List Byte) :
    decode bytes = Nat.ofDigits 256 (bytes.map BitVec.toNat) := by
  induction bytes with
  | nil => rfl
  | cons byte rest ih => simp only [decode, List.map_cons, Nat.ofDigits_cons, ih]

theorem decode_zeros (count : Nat) : decode (List.replicate count 0) = 0 := by
  induction count with
  | zero => rfl
  | succ count ih =>
    rw [List.replicate_succ, decode, ih]
    rfl

theorem decode_encode (number : Nat) (minimum : Int) :
    decode (encode number minimum) = number := by
  simp only [encode_eq_append, decode_append, decode_digits, decode_zeros, Nat.mul_zero,
    Nat.add_zero]

theorem getLast_encode {number : Nat} {minimum : Int}
    (some_digit : 0 < (Nat.digits 256 number).length)
    (short : minimum ≤ (Nat.digits 256 number).length) :
    ∃ top, (encode number minimum).getLast? = some top ∧ top ≠ 0 := by
  have positive : number ≠ 0 := by
    rintro rfl
    simp at some_digit
  have unpadded : minimum.toNat - (digits number).length = 0 := by
    have length := length_digits number
    omega
  have nonempty : Nat.digits 256 number ≠ [] := List.length_pos_iff.mp some_digit
  have last := Nat.getLast_digit_ne_zero 256 positive
  have bound := Nat.digits_lt_base (by decide : 1 < 256) (List.getLast_mem nonempty)
  refine ⟨BitVec.ofNat 8 ((Nat.digits 256 number).getLast nonempty), ?_, fun zero => last ?_⟩
  next =>
    rw [encode_eq_append, unpadded, digits_eq_map]
    simp [List.getLast?_eq_some_getLast nonempty]
  next =>
    have value := congrArg BitVec.toNat zero
    simp only [BitVec.toNat_ofNat] at value
    change _ % 256 = 0 at value
    omega

theorem encode_decode (bytes : List Byte) : encode (decode bytes) bytes.length = bytes :=
  decode_injective (length_encode_of_lt (decode_lt bytes)) (decode_encode _ _)

end Unsigned

section Signed

theorem power_eq_double {count : Nat} (positive : 0 < count) :
    (256 : Int) ^ count = 2 * 2 ^ (8 * count - 1) := by
  obtain ⟨less, rfl⟩ := Nat.exists_eq_succ_of_ne_zero positive.ne'
  have width : 8 * (less + 1) - 1 = 8 * less + 7 := by omega
  calc (256 : Int) ^ (less + 1) = (2 ^ 8) ^ (less + 1) := by norm_num
    _ = 2 ^ (8 * (less + 1)) := (pow_mul 2 8 _).symm
    _ = 2 * 2 ^ (8 * (less + 1) - 1) := by rw [width]; ring

theorem Fits.unique {count : Nat} (positive : 0 < count) {left right : Int}
    (fitsLeft : Fits count left) (fitsRight : Fits count right)
    (same : left % 256 ^ count = right % 256 ^ count) : left = right := by
  obtain ⟨leftLow, leftHigh⟩ := fitsLeft
  obtain ⟨rightLow, rightHigh⟩ := fitsRight
  have double := power_eq_double positive
  have near : |left - right| < 256 ^ count := by
    rw [abs_lt]
    omega
  have apart : (256 : Int) ^ count ∣ left - right :=
    Int.dvd_of_emod_eq_zero (Int.emod_eq_emod_iff_emod_sub_eq_zero.mp same)
  have equal := Int.eq_zero_of_abs_lt_dvd apart near
  omega

theorem fits_decodeSigned {bytes : List Byte} (nonempty : bytes ≠ []) :
    Fits bytes.length (decodeSigned bytes) := by
  induction bytes with
  | nil => exact absurd rfl nonempty
  | cons byte rest ih =>
    have bound := byte.isLt
    by_cases more : rest = []
    next =>
      subst more
      have low := byte.le_toInt
      have high := byte.toInt_lt
      exact (fits_one byte.toInt).mpr ⟨low, by omega⟩
    next =>
      have positive : 0 < rest.length := List.length_pos_iff.mpr more
      rw [List.length_cons, decodeSigned_cons byte more]
      exact (fits_add_mul (by omega) positive _).mpr (ih more)

-- The sign is worth whole powers above the bytes.
theorem decodeSigned_split (bytes : List Byte) :
    ∃ turns : Int, decodeSigned bytes = decode bytes + 256 ^ bytes.length * turns := by
  induction bytes with
  | nil => exact ⟨0, rfl⟩
  | cons byte rest ih =>
    by_cases more : rest = []
    next =>
      subst more
      refine ⟨if byte.toNat < 128 then 0 else -1, ?_⟩
      simp only [decodeSigned, decode, BitVec.toInt, List.length_singleton]
      split <;> split <;> omega
    next =>
      obtain ⟨turns, split⟩ := ih
      refine ⟨turns, ?_⟩
      simp only [decodeSigned_cons byte more, decode, split, List.length_cons]
      push_cast
      ring

theorem decodeSigned_emod (bytes : List Byte) :
    decodeSigned bytes % 256 ^ bytes.length = decode bytes := by
  obtain ⟨turns, split⟩ := decodeSigned_split bytes
  have bound : (decode bytes : Int) < 256 ^ bytes.length := by exact_mod_cast decode_lt bytes
  rw [split, Int.add_mul_emod_self_left, Int.emod_eq_of_lt (Int.natCast_nonneg _) bound]

theorem decodeSigned_eq {bytes : List Byte} (nonempty : bytes ≠ []) :
    decodeSigned bytes =
      if 2 * (decode bytes : Int) < 256 ^ bytes.length then (decode bytes : Int)
      else decode bytes - 256 ^ bytes.length := by
  have positive : 0 < bytes.length := List.length_pos_iff.mpr nonempty
  have double := power_eq_double positive
  have bound : (decode bytes : Int) < 256 ^ bytes.length := by exact_mod_cast decode_lt bytes
  refine Fits.unique positive (fits_decodeSigned nonempty) ?_ ?_
  next =>
    rw [Fits]
    split <;> omega
  next =>
    have reduced := Int.emod_eq_of_lt (Int.natCast_nonneg (decode bytes)) bound
    rw [decodeSigned_emod]
    split
    next => exact reduced.symm
    next => rw [Int.sub_emod_right, reduced]

theorem decodeSigned_encode {count : Nat} (positive : 0 < count) {number : Int}
    (fits : Fits count number) :
    decodeSigned (encode (number % 256 ^ count).toNat count) = number := by
  have power : (0 : Int) < 256 ^ count := Int.pow_pos (by decide)
  have low := Int.emod_nonneg number power.ne'
  have high := Int.emod_lt_of_pos number power
  have small : (number % 256 ^ count).toNat < 256 ^ count := by
    have same : ((256 ^ count : Nat) : Int) = 256 ^ count := by push_cast; rfl
    omega
  have length := length_encode_of_lt small
  have nonempty : encode (number % 256 ^ count).toNat count ≠ [] :=
    List.length_pos_iff.mp (length.symm ▸ positive)
  have signed := fits_decodeSigned nonempty
  have reduced := decodeSigned_emod (encode (number % 256 ^ count).toNat count)
  rw [length] at signed reduced
  refine Fits.unique positive signed fits ?_
  rw [reduced, decode_encode, Int.toNat_of_nonneg low]

def signExtension (top : Byte) : Byte :=
  if 128 ≤ top.toNat then 0xff else 0x00

theorem signExtension_signExtension (top : Byte) :
    signExtension (signExtension top) = signExtension top := by
  simp only [signExtension]
  split <;> rfl

theorem toInt_signExtension (top : Byte) :
    (top.toNat : Int) + 256 * (signExtension top).toInt = top.toInt := by
  have low : (0xff : Byte).toInt = -1 := by decide
  have zero : (0x00 : Byte).toInt = 0 := by decide
  have signed := BitVec.toInt_eq_toNat_cond top
  rw [signExtension]
  split <;> omega

theorem decodeSigned_concat {bytes : List Byte} {top : Byte} (last : bytes.getLast? = some top) :
    decodeSigned (bytes ++ [signExtension top]) = decodeSigned bytes := by
  induction bytes with
  | nil => simp at last
  | cons byte rest ih =>
    by_cases more : rest = []
    next =>
      subst more
      obtain rfl : byte = top := by simpa using last
      exact toInt_signExtension byte
    next =>
      have later : rest.getLast? = some top := by
        rwa [List.getLast?_cons_of_ne_nil more] at last
      rw [List.cons_append, decodeSigned_cons byte (by simp), ih later, decodeSigned_cons byte more]

theorem decodeSigned_append_replicate {bytes : List Byte} {top : Byte}
    (last : bytes.getLast? = some top) (count : Nat) :
    decodeSigned (bytes ++ List.replicate count (signExtension top)) = decodeSigned bytes := by
  induction count generalizing bytes top with
  | zero => simp
  | succ count ih =>
    have further : (bytes ++ [signExtension top]).getLast? = some (signExtension top) := by simp
    have extended := ih further
    rw [signExtension_signExtension, List.append_assoc, decodeSigned_concat last] at extended
    exact extended

end Signed

section Refusals

theorem ofNumbers_eq_error {numbers : List Int} {outside : Int} (listed : outside ∈ numbers)
    (refused : outside < 0 ∨ 255 < outside) : ofNumbers numbers = .error .notBytes := by
  refine if_neg fun every => ?_
  have inRange := List.all_eq_true.mp every outside listed
  simp at inRange
  omega

theorem decodeNumbers_eq_error {numbers : List Int} {outside : Int} (listed : outside ∈ numbers)
    (refused : outside < 0 ∨ 255 < outside) (signed : Bool) :
    decodeNumbers numbers signed = .error .notBytes := by
  rw [decodeNumbers, ofNumbers_eq_error listed refused]
  rfl

end Refusals

-- Two's complement: the number below half the power above the bytes that they are congruent to.
theorem codec_conforms :
    (∀ (number : Nat) (minimum : Int),
      let count := (Nat.digits 256 number).length
      ((encode number minimum).length : Int) = max minimum count ∧
      (0 < count → minimum ≤ count →
        ∃ top, (encode number minimum).getLast? = some top ∧ top ≠ 0) ∧
      decode (encode number minimum) = number) ∧
    (∀ bytes : List Byte,
      decode bytes = Nat.ofDigits 256 (bytes.map BitVec.toNat) ∧
      encode (decode bytes) bytes.length = bytes) ∧
    (∀ bytes : List Byte, bytes ≠ [] →
      decodeSigned bytes =
        if 2 * (decode bytes : Int) < 256 ^ bytes.length then (decode bytes : Int)
        else decode bytes - 256 ^ bytes.length) ∧
    (∀ (count : Nat) (number : Int), 1 ≤ count →
      -2 ^ (8 * count - 1) ≤ number ∧ number ≤ 2 ^ (8 * count - 1) - 1 →
        decodeSigned (encode (number % 256 ^ count).toNat count) = number) ∧
    (∀ (bytes : List Byte) (top : Byte) (count : Nat), bytes.getLast? = some top →
      decodeSigned (bytes ++ List.replicate count (if 128 ≤ top.toNat then 0xff else 0x00)) =
        decodeSigned bytes) ∧
    (∀ byte : Byte, decodeSigned [byte] = signedByte byte.toNat) ∧
    (∀ bytes : List Byte,
      ofNumbers (bytes.map fun byte => (byte.toNat : Int)) = .ok bytes ∧
      ∀ signed, decodeNumbers (bytes.map fun byte => (byte.toNat : Int)) signed =
        .ok (if signed then decodeSigned bytes else decode bytes)) ∧
    ∀ (before after : List Int) (outside : Int), outside < 0 ∨ 255 < outside →
      ofNumbers (before ++ outside :: after) = .error .notBytes ∧
      ∀ signed, decodeNumbers (before ++ outside :: after) signed = .error .notBytes := by
  refine ⟨fun number minimum => ⟨length_encode number minimum, getLast_encode,
      decode_encode number minimum⟩,
    fun bytes => ⟨decode_eq_ofDigits bytes, encode_decode bytes⟩,
    fun bytes => decodeSigned_eq,
    fun count number positive inRange => decodeSigned_encode positive ⟨inRange.1, by omega⟩,
    fun bytes top count last => decodeSigned_append_replicate last count,
    fun byte => (signedByte_toNat byte).symm,
    fun bytes => ⟨ofNumbers_bytes bytes, decodeNumbers_bytes bytes⟩,
    fun before after outside refused =>
      ⟨ofNumbers_eq_error (by simp) refused, decodeNumbers_eq_error (by simp) refused⟩⟩

-- The least number on two bytes, the same with a byte of sign more, and a list refused at its end.
theorem codec_leastWord :
    (∃ top, (encode 0x8000 2).getLast? = some top ∧ top ≠ 0) ∧
    decodeSigned [0x00, 0x80] = -0x8000 ∧
    decodeSigned (encode (-0x8000 % 256 ^ 2).toNat (2 : Nat)) = -0x8000 ∧
    decodeSigned ([0x00, 0x80] ++ List.replicate 1 0xff) = decodeSigned [0x00, 0x80] ∧
    decodeNumbers ([0, 128].map fun byte : Byte => (byte.toNat : Int)) true = .ok (-0x8000) ∧
    decodeNumbers ([0, 255] ++ 256 :: []) = .error .notBytes := by
  obtain ⟨encoded, _, value, signed, extended, _, numbers, refused⟩ := codec_conforms
  have count : (Nat.digits 256 0x8000).length = 2 := by norm_num
  have top := (encoded 0x8000 2).2.1
  have read := value [0x00, 0x80] (by decide)
  rw [count] at top
  refine ⟨top (by decide) (by decide), read.trans (by decide),
    signed 2 _ (by decide) (by decide), extended [0x00, 0x80] 0x80 1 rfl,
    ((numbers [0x00, 0x80]).2 true).trans rfl, (refused _ _ 256 (by decide)).2 false⟩

end Mos6502.LittleEndian
