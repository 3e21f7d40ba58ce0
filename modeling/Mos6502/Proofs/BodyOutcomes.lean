import Mos6502.Proofs.DataConformance
import Mos6502.Proofs.Unbounded.Agreement

set_option autoImplicit false

namespace Mos6502

open Arithmetic

namespace Mnemonic

def stores : List Mnemonic :=
  [.sta, .stx, .sty]

-- The bodies that leave a result in their operand.
def placing : List Mnemonic :=
  [.asl, .lsr, .rol, .ror, .inc, .dec] ++ stores

def jumping : List Mnemonic :=
  [.bcc, .bcs, .beq, .bne, .bmi, .bpl, .bvc, .bvs, .jmp, .jsr]

def bare : List Mnemonic :=
  [.inx, .iny, .dex, .dey, .tax, .tay, .tsx, .txa, .txs, .tya, .rts, .rti, .brk, .pha, .php,
    .pla, .plp, .clc, .cld, .cli, .clv, .sec, .sed, .sei, .nop]

-- No operand only where a body uses none, and no register to go on from.
def takes (mnemonic : Mnemonic) : Option Operand → Bool
  | none => mnemonic ∈ bare
  | some (.register _) => mnemonic ∉ jumping
  | some (.byte _) | some (.location _) => true

def outgoing (mnemonic : Mnemonic) (value : Int) : Option Int :=
  match mnemonic with
  | .asl | .rol => some (value / 128)
  | .lsr | .ror => some (value % 2)
  | _ => none

-- A shift has moved its bit into the carry by then.
def brokenOff (mnemonic : Mnemonic) (machine : Machine) (value : Byte) : Machine :=
  { machine with
    status := (mnemonic.outgoing value.toNat).elim machine.status fun bit =>
      { machine.status with carry := bit = 1, unused := true } }

structure Leaves (mnemonic : Mnemonic) (place : Operand) (value : Int) (before after : Machine) :
    Prop where
  computed : mnemonic.change before (some place.designation) =
    some (.copy after.status place.designation value)
  inRange : 0 ≤ value ∧ value ≤ 255
  readBack : ((after.operandByte place).toNat : Int) = value
  shown : mnemonic ∉ stores →
    after.status.zero = decide (value = 0) ∧ after.status.negative = decide (128 ≤ value)
  silent : mnemonic ∈ stores → after.status = before.status
  rest : after = { before.stored place (.wrap value) with status := after.status }

end Mnemonic

namespace Machine

theorem operandByte_stored {operand : Operand} (storable : operand.storable) (machine : Machine)
    (value : Byte) : (machine.stored operand value).operandByte operand = value :=
  operandByte_store (store_of_storable storable value)

theorem operandByte_withStatus (machine : Machine) (status : Status) (operand : Operand) :
    { machine with status := status }.operandByte operand = machine.operandByte operand := by
  cases operand with
  | register which => cases which <;> rfl
  | byte _ => rfl
  | location _ => rfl

-- The carry is written before the store is tried.
theorem shift_byte (machine : Machine) {kind : Shift} {value : Byte} {bit : Int}
    (moved : bit = (kind.outgoing value).toNat) :
    machine.shift kind (.byte value) =
      { machine :=
          { machine with
            status := { machine.status with carry := bit = 1, unused := true } }
        fault := some .storeIntoByte } := by
  have carry : decide (bit = 1) = kind.outgoing value := by
    rw [moved]
    cases kind.outgoing value <;> rfl
  rw [carry]
  rfl

end Machine

namespace Mnemonic

variable {mnemonic : Mnemonic} {operand : Option Operand}

theorem accepts_of_takes (taken : mnemonic.takes operand)
    (room : mnemonic ∈ placing → ∀ value, operand ≠ some (.byte value)) :
    mnemonic.operation.accepts operand := by
  cases mnemonic
  case asl | lsr | rol | ror | inc | dec | sta | stx | sty =>
    match operand with
    | none => simp [takes, bare] at taken
    | some (.byte value) => exact absurd rfl (room (by decide) value)
    | some (.register _) | some (.location _) => rfl
  case bcc | bcs | beq | bne | bmi | bpl | bvc | bvs | jmp | jsr =>
    match operand with
    | none => simp [takes, bare] at taken
    | some (.register _) => simp [takes, jumping] at taken
    | some (.byte _) | some (.location _) => rfl
  case adc | sbc | and | ora | eor | bit | cmp | cpx | cpy | lda | ldx | ldy =>
    match operand with
    | none => simp [takes, bare] at taken
    | some _ => rfl
  all_goals rfl

theorem run_byte (places : mnemonic ∈ placing) (machine : Machine) (value : Byte) :
    mnemonic.operation.run (some (.byte value)) machine =
      { machine := mnemonic.brokenOff machine value, fault := some .storeIntoByte } := by
  cases mnemonic
  case asl => exact machine.shift_byte (shiftLeft_numbers value).2
  case rol => exact machine.shift_byte (shiftLeft_numbers value).2
  case lsr => exact machine.shift_byte (shiftRight_numbers value).2
  case ror => exact machine.shift_byte (shiftRight_numbers value).2
  case inc | dec | sta | stx | sty => rfl
  all_goals simp [placing, stores] at places

theorem change_of_placing (places : mnemonic ∈ placing) (machine : Machine)
    (target : Designation) :
    ∃ (value : Int) (status : Status),
      mnemonic.change machine (some target) = some (.copy status target value) ∧
        (mnemonic ∉ stores →
          status.zero = decide (value = 0) ∧ status.negative = decide (128 ≤ value)) ∧
        (mnemonic ∈ stores → status = machine.status) := by
  cases mnemonic
  case asl | lsr | rol | ror | inc | dec =>
    exact ⟨_, _, rfl, fun _ => ⟨rfl, rfl⟩, fun stored => absurd stored (by decide)⟩
  case sta | stx | sty =>
    exact ⟨_, _, rfl, fun other => absurd (by decide) other, fun _ => rfl⟩
  all_goals simp [placing, stores] at places

theorem leaves_of_placing (places : mnemonic ∈ placing) {place : Operand}
    (storable : place.storable) (machine : Machine) :
    ∃ value, mnemonic.Leaves place value machine
      (mnemonic.operation.run (some place) machine).machine := by
  have data : ∀ mnemonic ∈ placing, mnemonic ∉ control := by decide
  have accepted : mnemonic.operation.accepts (some place) := by
    cases mnemonic
    case asl | lsr | rol | ror | inc | dec | sta | stx | sty => exact storable
    all_goals simp [placing, stores] at places
  obtain ⟨change, found, described⟩ := change_describes (data mnemonic places) accepted machine
  obtain ⟨value, status, computed, shown, silent⟩ :=
    change_of_placing places machine place.designation
  obtain rfl := Option.some.inj (found.symm.trans computed)
  have inRange : 0 ≤ value ∧ value ≤ 255 := described.inRange (place.designation, value) rfl
  have byte : ((Byte.wrap value).toNat : Int) = value := Byte.intCast_toNat_wrap inRange
  have ran : (mnemonic.operation.run (some place) machine).machine =
      { machine.stored place (.wrap value) with status := status } := by
    rw [described.effect, ← machine.place_designation place (.wrap value), byte]
    rfl
  rw [ran]
  refine ⟨value, computed, inRange, ?_, shown, silent, rfl⟩
  rw [Machine.operandByte_withStatus, Machine.operandByte_stored storable, byte]

theorem fault_iff (taken : mnemonic.takes operand) (machine : Machine) :
    (mnemonic.operation.run operand machine).fault ≠ none ↔
      mnemonic ∈ placing ∧ ∃ value, operand = some (.byte value) := by
  constructor
  next =>
    intro failed
    by_contra room
    have accepted := accepts_of_takes taken fun places value same => room ⟨places, value, same⟩
    exact failed (Operation.completes accepted machine).fault
  next =>
    rintro ⟨places, value, rfl⟩
    rw [run_byte places]
    exact Option.some_ne_none _

-- Where a body fails, only the carry of a shift and the unused bit with it have changed.
theorem bodies_conform (mnemonic : Mnemonic) (operand : Option Operand)
    (taken : mnemonic.takes operand) (machine : Machine) :
    let effect := mnemonic.operation.run operand machine
    (effect.fault ≠ none ↔ mnemonic ∈ placing ∧ ∃ value, operand = some (.byte value)) ∧
    (∀ value, mnemonic ∈ placing → operand = some (.byte value) →
      effect =
        { machine := mnemonic.brokenOff machine value, fault := some .storeIntoByte }) ∧
    (∀ place, mnemonic ∈ placing → operand = some place → effect.fault = none →
      ∃ value, mnemonic.Leaves place value machine effect.machine) ∧
    (Unbounded.State.ofMachine machine).run mnemonic.operation operand =
      effect.result.map Unbounded.State.ofMachine := by
  intro effect
  refine ⟨fault_iff taken machine, ?_, ?_, Unbounded.State.run_ofMachine machine _ operand⟩
  next =>
    rintro value places rfl
    exact run_byte places machine value
  next =>
    rintro place places rfl success
    apply leaves_of_placing places
    cases place with
    | byte value => exact absurd success ((fault_iff taken machine).mpr ⟨places, value, rfl⟩)
    | register _ | location _ => rfl

def carrying : Machine where
  x := 0x77
  sp := 0x01
  status := .ofByte 0x01
  settings := Core.factorySettings
  memory := .blank

theorem carrying_bodies :
    (operation .ror).run (some (.byte 2)) carrying =
      { machine := { carrying with status := .ofByte 0x20 }, fault := some .storeIntoByte } ∧
    (operation .dec).run (some (.byte 2)) carrying =
      { machine := carrying, fault := some .storeIntoByte } ∧
    ((operation .ror).run (some (.register .sp)) carrying).fault = none ∧
    ((operation .ror).run (some (.register .sp)) carrying).machine.sp = 0x80 ∧
    ((operation .ror).run (some (.register .sp)) carrying).machine.status = .ofByte 0xa1 ∧
    ((operation .stx).run (some (.location 0xffff)) carrying).machine.memory.read 0xffff =
      0x77 := by
  have rotates := bodies_conform .ror (some (.byte 2)) rfl carrying
  have decreases := bodies_conform .dec (some (.byte 2)) rfl carrying
  have pointer := bodies_conform .ror (some (.register .sp)) rfl carrying
  have cell := bodies_conform .stx (some (.location 0xffff)) rfl carrying
  have rotated : ((operation .ror).run (some (.register .sp)) carrying).fault = none := by
    by_contra failed
    obtain ⟨_, value, byte⟩ := pointer.1.mp failed
    exact absurd byte nofun
  have stored : ((operation .stx).run (some (.location 0xffff)) carrying).fault = none := by
    by_contra failed
    obtain ⟨_, value, byte⟩ := cell.1.mp failed
    exact absurd byte nofun
  obtain ⟨pointed, left⟩ := pointer.2.2.1 (.register .sp) (by decide) rfl rotated
  obtain ⟨copied, kept⟩ := cell.2.2.1 (.location 0xffff) (by decide) rfl stored
  have result : change .ror carrying (some (.register .sp)) =
      some (.copy (.ofByte 0xa1) (.register .sp) 0x80) := by decide
  have copy : change .stx carrying (some (.cell 0xffff)) =
      some (.copy (.ofByte 0x01) (.cell 0xffff) 0x77) := by decide
  have turned := Option.some.inj (left.computed.symm.trans result)
  have written := Option.some.inj (kept.computed.symm.trans copy)
  obtain rfl : pointed = 0x80 :=
    congrArg Prod.snd (Option.some.inj (congrArg Change.store turned))
  obtain rfl : copied = 0x77 :=
    congrArg Prod.snd (Option.some.inj (congrArg Change.store written))
  refine ⟨rotates.2.1 2 (by decide) rfl, decreases.2.1 2 (by decide) rfl, rotated, ?_,
    congrArg Change.status turned, ?_⟩
  next => exact BitVec.eq_of_toNat_eq (Int.ofNat_inj.mp left.readBack)
  next => exact BitVec.eq_of_toNat_eq (Int.ofNat_inj.mp kept.readBack)

end Mnemonic

end Mos6502
