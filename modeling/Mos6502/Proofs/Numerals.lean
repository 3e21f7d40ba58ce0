import Mathlib.Algebra.Group.Nat.Defs
import Mos6502.Text.Numeral

set_option autoImplicit false

namespace Mos6502.Text

def digitValue (character : Char) : Nat :=
  if character.isDigit then character.toNat - '0'.toNat else character.toNat - 'a'.toNat + 10

def spelled (base : Nat) (characters : List Char) : Nat :=
  characters.foldl (fun number character => base * number + digitValue character) 0

structure Shows (base width number : Nat) (characters : List Char) : Prop where
  spells : spelled base characters = number
  alphabet : ∀ character ∈ characters, ∃ digit < base, character = Nat.digitChar digit
  wide : width ≤ characters.length
  unpadded : width < characters.length → characters.head? ≠ some '0'

structure ShowsExactly (base width number : Nat) (characters : List Char) : Prop
    extends Shows base width number characters where
  exact : characters.length = width

theorem digitValue_digitChar : ∀ digit < 16, digitValue (Nat.digitChar digit) = digit := by
  decide

theorem spelled_concat (base : Nat) (characters : List Char) (last : Char) :
    spelled base (characters ++ [last]) = base * spelled base characters + digitValue last := by
  simp only [spelled, List.foldl_append, List.foldl_cons, List.foldl_nil]

variable {base width number : Nat}

theorem Shows.unique {other : Nat} {characters : List Char}
    (shows : Shows base width number characters) (others : Shows base width other characters) :
    number = other :=
  shows.spells.symm.trans others.spells

section Digits

variable (several : 1 < base)
include several

theorem digits_induction {motive : Nat → Prop} (single : ∀ number < base, motive number)
    (further : ∀ number, base ≤ number → motive (number / base) → motive number) (number : Nat) :
    motive number := by
  induction number using Nat.strongRecOn with
  | ind number ih =>
    by_cases small : number < base
    next => exact single number small
    next =>
      have smaller : number / base < number := Nat.div_lt_self (by omega) several
      exact further number (by omega) (ih _ smaller)

theorem mem_toDigits {character : Char} (listed : character ∈ Nat.toDigits base number) :
    ∃ digit < base, character = Nat.digitChar digit := by
  induction number using digits_induction several with
  | single number small =>
    rw [Nat.toDigits_of_lt_base small, List.mem_singleton] at listed
    exact ⟨number, small, listed⟩
  | further number large ih =>
    rw [Nat.toDigits_of_base_le several large, List.mem_append, List.mem_singleton] at listed
    rcases listed with earlier | last
    next => exact ih earlier
    next => exact ⟨number % base, Nat.mod_lt _ (by omega), last⟩

variable (lowercase : base ≤ 16)
include lowercase

theorem spelled_toDigits (number : Nat) : spelled base (Nat.toDigits base number) = number := by
  induction number using digits_induction several with
  | single number small =>
    rw [Nat.toDigits_of_lt_base small]
    simp [spelled, digitValue_digitChar number (by omega)]
  | further number large ih =>
    have digit := Nat.mod_lt number (by omega : 0 < base)
    rw [Nat.toDigits_of_base_le several large, spelled_concat, ih,
      digitValue_digitChar _ (by omega)]
    exact Nat.div_add_mod number base

theorem head_toDigits (positive : 0 < number) :
    (Nat.toDigits base number).head? ≠ some '0' := by
  induction number using digits_induction several with
  | single number small =>
    have zero : digitValue '0' = 0 := by decide
    have value := digitValue_digitChar number (by omega)
    rw [Nat.toDigits_of_lt_base small]
    intro starts
    rw [Option.some.inj starts, zero] at value
    omega
  | further number large ih =>
    obtain ⟨first, rest, digits⟩ := List.exists_cons_of_ne_nil
      (Nat.toDigits_ne_nil : Nat.toDigits base (number / base) ≠ [])
    have quotient := ih (Nat.div_pos large (by omega))
    rw [Nat.toDigits_of_base_le several large, digits]
    rwa [digits] at quotient

end Digits

theorem spelled_leftpad (base width : Nat) (characters : List Char) :
    spelled base (characters.leftpad width '0') = spelled base characters := by
  have zeros (count : Nat) : spelled base (List.replicate count '0') = 0 := by
    induction count with
    | zero => rfl
    | succ count ih =>
      rw [List.replicate_succ', spelled_concat, ih]
      rfl
  rw [List.leftpad, spelled, List.foldl_append]
  exact congrArg (List.foldl _ · characters) (zeros _)

theorem numeral_natCast (base width number : Nat) :
    numeral base width number = (Nat.toDigits base number).leftpad width '0' := by
  rw [numeral, if_neg (by omega), Int.natAbs_natCast]

theorem numeral_shows (several : 1 < base) (lowercase : base ≤ 16) (wide : 0 < width)
    (number : Nat) : Shows base width number (numeral base width number) where
  spells := by rw [numeral_natCast, spelled_leftpad, spelled_toDigits several lowercase]
  alphabet := by
    intro character listed
    rw [numeral_natCast, List.leftpad, List.mem_append] at listed
    rcases listed with zero | digit
    next => exact ⟨0, by omega, List.eq_of_mem_replicate zero⟩
    next => exact mem_toDigits several digit
  wide := by
    rw [numeral_natCast, List.length_leftpad]
    exact Nat.le_max_left _ _
  unpadded := by
    intro long
    rw [numeral_natCast, List.length_leftpad] at long
    have more : width < (Nat.toDigits base number).length := by omega
    have positive : 0 < number := by
      apply Nat.pos_of_ne_zero
      rintro rfl
      rw [Nat.toDigits_zero, List.length_singleton] at more
      omega
    have bare : width - (Nat.toDigits base number).length = 0 := by omega
    rw [numeral_natCast, List.leftpad, bare]
    exact head_toDigits several lowercase positive

theorem numeral_showsExactly (several : 1 < base) (lowercase : base ≤ 16) (wide : 0 < width)
    (fits : number < base ^ width) :
    ShowsExactly base width number (numeral base width number) where
  toShows := numeral_shows several lowercase wide number
  exact := by
    have short := (Nat.length_toDigits_le_iff several wide).mpr fits
    rw [numeral_natCast, List.length_leftpad]
    exact Nat.max_eq_left short

end Mos6502.Text
