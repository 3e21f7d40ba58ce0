import Mos6502.LittleEndian
import Mos6502.Proofs.WordNumbers

set_option autoImplicit false

namespace Mos6502.LittleEndian

theorem decode_lt (bytes : List Byte) : decode bytes < 256 ^ bytes.length := by
  induction bytes with
  | nil => simp [decode]
  | cons byte rest ih =>
    have bound := byte.isLt
    rw [decode, List.length_cons, Nat.pow_succ]
    omega

theorem decode_eq_emod {digits : List Byte} {total : Int} (quotient : Int)
    (split : decode digits + 256 ^ digits.length * quotient = total) :
    (decode digits : Int) = total % 256 ^ digits.length := by
  have bound : (decode digits : Int) < 256 ^ digits.length := by exact_mod_cast decode_lt digits
  rw [← split, Int.add_mul_emod_self_left, Int.emod_eq_of_lt (Int.natCast_nonneg _) bound]

theorem le_power {bytes : List Byte} (nonempty : bytes ≠ []) :
    (256 : Int) ≤ 256 ^ bytes.length := by
  cases bytes with
  | nil => exact absurd rfl nonempty
  | cons byte rest =>
    have positive : (0 : Int) < 256 ^ rest.length := Int.pow_pos (by decide)
    rw [List.length_cons, Int.pow_succ]
    omega

theorem ne_nil_of_length_eq {left right : List Byte} (same : left.length = right.length)
    (nonempty : left ≠ []) : right ≠ [] := by
  rintro rfl
  exact nonempty (List.length_eq_zero_iff.mp same)

theorem decode_injective {left right : List Byte} (length : left.length = right.length)
    (same : decode left = decode right) : left = right := by
  induction left generalizing right with
  | nil => simpa using length.symm
  | cons byte rest ih =>
    cases right with
    | nil => simp at length
    | cons other others =>
      have bound := byte.isLt
      have otherBound := other.isLt
      rw [decode, decode] at same
      have first : byte = other := BitVec.eq_of_toNat_eq (by omega)
      have later : rest = others := ih (by simpa using length) (by omega)
      rw [first, later]

theorem decode_complement (bytes : List Byte) :
    (decode (bytes.map fun byte => ~~~byte) : Int) = 256 ^ bytes.length - 1 - decode bytes := by
  induction bytes with
  | nil => simp [decode]
  | cons byte rest ih =>
    have complement := Byte.intCast_toNat_not byte
    simp only [List.map_cons, decode, List.length_cons, Int.pow_succ]
    push_cast
    omega

theorem decodeSigned_cons (byte : Byte) {rest : List Byte} (more : rest ≠ []) :
    decodeSigned (byte :: rest) = byte.toNat + 256 * decodeSigned rest := by
  cases rest with
  | nil => exact absurd rfl more
  | cons next rest => rfl

theorem decodeSigned_complement {bytes : List Byte} (nonempty : bytes ≠ []) :
    decodeSigned (bytes.map fun byte => ~~~byte) = -1 - decodeSigned bytes := by
  induction bytes with
  | nil => exact absurd rfl nonempty
  | cons byte rest ih =>
    by_cases more : rest = []
    next =>
      subst more
      exact Byte.toInt_not byte
    next =>
      have complement := Byte.intCast_toNat_not byte
      have mapped : rest.map (fun byte => ~~~byte) ≠ [] := by simpa using more
      rw [List.map_cons, decodeSigned_cons _ mapped, decodeSigned_cons _ more, ih more]
      omega

theorem encode_word {word : Nat} (inRange : word ≤ 0xffff) :
    encode word = [BitVec.ofNat 8 word, BitVec.ofNat 8 (word / 256)] := by
  by_cases zero : word = 0
  next =>
    subst zero
    simp [encode, digits_zero, List.rightpad]
  next =>
    rw [encode, digits_pos (by omega)]
    by_cases short : word / 256 = 0
    next => simp [short, digits_zero, List.rightpad]
    next =>
      have top : word / 256 / 256 = 0 := by omega
      rw [digits_pos (by omega), top, digits_zero]
      rfl

def Fits (count : Nat) (number : Int) : Prop :=
  -2 ^ (8 * count - 1) ≤ number ∧ number < 2 ^ (8 * count - 1)

instance (count : Nat) (number : Int) : Decidable (Fits count number) :=
  inferInstanceAs (Decidable (_ ∧ _))

theorem fits_one (number : Int) : Fits 1 number ↔ -128 ≤ number ∧ number ≤ 127 := by
  rw [Fits]
  omega

-- Whether a number fits is for the bytes above the first to say.
theorem fits_add_mul {byte : Int} (inRange : 0 ≤ byte ∧ byte < 256) {count : Nat}
    (positive : 0 < count) (rest : Int) :
    Fits (count + 1) (byte + 256 * rest) ↔ Fits count rest := by
  have width : 8 * (count + 1) - 1 = 8 * count - 1 + 8 := by omega
  rw [Fits, Fits, width, Int.pow_add]
  generalize (2 : Int) ^ (8 * count - 1) = half
  omega

theorem ofNumbers_bytes (bytes : List Byte) :
    ofNumbers (bytes.map fun byte => (byte.toNat : Int)) = .ok bytes := by
  have every : (bytes.map fun byte => (byte.toNat : Int)).all
      fun number => 0 ≤ number ∧ number ≤ 255 := by
    simp only [List.all_map, List.all_eq_true]
    intro byte _
    simpa using byte.bounds
  rw [ofNumbers, if_pos every, List.map_map]
  simp [Function.comp_def]

theorem decodeNumbers_bytes (bytes : List Byte) (signed : Bool) :
    decodeNumbers (bytes.map fun byte => (byte.toNat : Int)) signed =
      .ok (if signed then decodeSigned bytes else decode bytes) := by
  rw [decodeNumbers, ofNumbers_bytes]
  rfl

end Mos6502.LittleEndian
