import Mos6502.Proofs.BootImage
import Mos6502.Proofs.ProgramRun

set_option autoImplicit false

namespace Mos6502.CopyLoop

-- The pointers are at $fb and $fd, and a count of zero stands for 256.
def code (source target : Address) (count : Byte) : List Byte :=
  [0xa9, source.low, 0x85, 0xfb, 0xa9, source.high, 0x85, 0xfc,
    0xa9, target.low, 0x85, 0xfd, 0xa9, target.high, 0x85, 0xfe,
    0xa0, 0x00, 0xb1, 0xfb, 0x91, 0xfd, 0xc8, 0xc0, count, 0xd0, 0xf7]

def image (source target : Address) (count : Nat) : List Int :=
  (code source target (BitVec.ofNat 8 count)).map fun byte => (byte.toNat : Int)

def Apart (start : Address) (width : Nat) (other : Address) (otherWidth : Nat) : Prop :=
  ∀ index < width, ∀ place < otherWidth,
    start + BitVec.ofNat 16 index ≠ other + BitVec.ofNat 16 place

structure Fits (source target : Address) (count : Nat) : Prop where
  positive : 1 ≤ count
  bounded : count ≤ 256
  ranges : Apart source count target count
  sourcePointers : Apart source count 0xfb 4
  targetPointers : Apart target count 0xfb 4
  targetCode : Apart target count 0x8000 27

structure Copies (source target : Address) (done : Nat) (before after : Memory) : Prop where
  copied : ∀ index < done, after.read (target + BitVec.ofNat 16 index) =
    before.read (source + BitVec.ofNat 16 index)
  pointers : after.readWord 0xfb = source ∧ after.readWord 0xfd = target
  kept : ∀ address, (∀ index < done, address ≠ target + BitVec.ofNat 16 index) →
    (∀ place < 4, address ≠ 0xfb + BitVec.ofNat 16 place) →
      after.read address = before.read address

section Memory

variable {source target : Address} {count done : Nat} {before after : Memory}

theorem code_apart_pointers : Apart 0x8000 27 0xfb 4 := by
  unfold Apart
  decide

def setPointers (memory : Memory) (source target : Address) : Memory :=
  (((memory.write 0xfb source.low).write 0xfc source.high).write 0xfd target.low).write 0xfe
    target.high

theorem copies_setPointers (source target : Address) (memory : Memory) :
    Copies source target 0 memory (setPointers memory source target) where
  copied := nofun
  pointers := by
    constructor <;> simp [setPointers, Memory.readWord, Memory.read_write]
  kept := by
    intro address _ outside
    have first : address ≠ 0xfb := outside 0 (by decide)
    have second : address ≠ 0xfc := outside 1 (by decide)
    have third : address ≠ 0xfd := outside 2 (by decide)
    have fourth : address ≠ 0xfe := outside 3 (by decide)
    rw [setPointers, Memory.read_write_ne fourth, Memory.read_write_ne third,
      Memory.read_write_ne second, Memory.read_write_ne first]

namespace Copies

theorem next (copies : Copies source target done before after) (fits : Fits source target count)
    (within : done < count) :
    Copies source target (done + 1) before
      (after.write (target + BitVec.ofNat 16 done)
        (before.read (source + BitVec.ofNat 16 done))) where
  copied := by
    intro index inside
    by_cases latest : index = done
    next =>
      subst latest
      exact Memory.read_write_same _ _ _
    next =>
      have bounded := fits.bounded
      have different : target + BitVec.ofNat 16 index ≠ target + BitVec.ofNat 16 done := by
        bv_omega
      rw [Memory.read_write_ne different]
      exact copies.copied index (by omega)
  pointers := by
    have apart (place : Nat) (inside : place < 4) :
        (after.write (target + BitVec.ofNat 16 done)
            (before.read (source + BitVec.ofNat 16 done))).read (0xfb + BitVec.ofNat 16 place) =
          after.read (0xfb + BitVec.ofNat 16 place) :=
      Memory.read_write_ne (fits.targetPointers done within place inside).symm _ _
    exact ⟨(congrArg₂ Address.ofBytes (apart 0 (by decide)) (apart 1 (by decide))).trans
        copies.pointers.1,
      (congrArg₂ Address.ofBytes (apart 2 (by decide)) (apart 3 (by decide))).trans
        copies.pointers.2⟩
  kept := by
    intro address outside apart
    rw [Memory.read_write_ne (outside done (Nat.lt_succ_self done))]
    exact copies.kept address (fun index inside => outside index (Nat.lt_succ_of_lt inside)) apart

-- No copy has reached the source of the next byte.
theorem read_source (copies : Copies source target done before after)
    (fits : Fits source target count) (within : done < count) :
    after.read (source + BitVec.ofNat 16 done) = before.read (source + BitVec.ofNat 16 done) :=
  copies.kept _ (fun index inside => fits.ranges done within index (Nat.lt_trans inside within))
    (fits.sourcePointers done within)

theorem holds_code (copies : Copies source target done before after)
    (fits : Fits source target count) (within : done ≤ count)
    (holds : before.Holds 0x8000 (code source target (BitVec.ofNat 8 count))) :
    after.Holds 0x8000 (code source target (BitVec.ofNat 8 count)) := by
  intro place byte listed
  have inside : place < 27 := (List.getElem?_eq_some_iff.mp listed).1
  rw [copies.kept _ _ (code_apart_pointers place inside), holds place byte listed]
  intro index earlier
  exact (fits.targetCode index (Nat.lt_of_lt_of_le earlier within) place inside).symm

end Copies

end Memory

section Run

variable {source target : Address} {count : Nat} {view : View}

open View

def prepared (view : View) (source target : Address) : View where
  pc := 0x8012
  a := target.high
  y := 0
  sp := view.sp
  zero := true
  memory := setPointers view.memory source target

theorem leads_prepared {amount : Byte} (begins : view.pc = 0x8000)
    (holds : view.memory.Holds 0x8000 (code source target amount)) :
    Leads 0x801b 9 view (prepared view source target) := by
  obtain ⟨pc, a, y, sp, zero, memory⟩ := view
  obtain rfl : pc = 0x8000 := begins
  have apart (place : Nat) (inside : place < 4) (index : Nat) (within : index < 27) :=
    code_apart_pointers index within place inside
  have second := holds.write 0xfb (apart 0 (by decide)) source.low
  have third := second.write 0xfc (apart 1 (by decide)) source.high
  have fourth := third.write 0xfd (apart 2 (by decide)) target.low
  have last := fourth.write 0xfe (apart 3 (by decide)) target.high
  calc
    Leads 0x801b 2 _ ⟨0x8004, source.low, y, sp, source.low == 0, memory.write 0xfb source.low⟩ :=
      leads_setByte 0x8000 rfl source.low 0xfb (holds.part 0 4) (by decide)
    Leads 0x801b 2 _ ⟨0x8008, source.high, y, sp, source.high == 0,
        (memory.write 0xfb source.low).write 0xfc source.high⟩ :=
      leads_setByte 0x8004 rfl source.high 0xfc (second.part 4 4) (by decide)
    Leads 0x801b 2 _ ⟨0x800c, target.low, y, sp, target.low == 0,
        ((memory.write 0xfb source.low).write 0xfc source.high).write 0xfd target.low⟩ :=
      leads_setByte 0x8008 rfl target.low 0xfd (third.part 8 4) (by decide)
    Leads 0x801b 2 _ ⟨0x8010, target.high, y, sp, target.high == 0,
        setPointers memory source target⟩ :=
      leads_setByte 0x800c rfl target.high 0xfe (fourth.part 12 4) (by decide)
    Leads 0x801b 1 _ (prepared ⟨0x8000, a, y, sp, zero, memory⟩ source target) :=
      leads_loadIndexImmediate 0x8010 rfl (by decide) 0x00 (last 17 0x00 rfl) (last 16 0xa0 rfl)

theorem leads_round {amount byte : Byte} {cell : Address} (begins : view.pc = 0x8012)
    (fetches : view.memory.read (view.indirectCell 0xfb) = byte)
    (lands : view.indirectCell 0xfd = cell)
    (before : view.memory.Holds 0x8000 (code source target amount))
    (after : (view.memory.write cell byte).Holds 0x8000 (code source target amount)) :
    Leads 0x801b 5 view
      { view with
        pc := if !(view.y + 1 - amount == 0) then 0x8012 else 0x801b
        a := byte
        y := view.y + 1
        zero := view.y + 1 - amount == 0
        memory := view.memory.write cell byte } := by
  calc
    Leads 0x801b 1 view { view with pc := 0x8014, a := byte, zero := byte == 0 } := by
      rw [← fetches]
      exact leads_loadIndirect 0x8012 begins (by decide) 0xfb (before 19 _ rfl) (before 18 _ rfl)
    Leads 0x801b 1 _ { view with
        pc := 0x8016, a := byte, zero := byte == 0, memory := view.memory.write cell byte } := by
      rw [← lands]
      exact leads_storeIndirect 0x8014 rfl (by decide) 0xfd (before 21 _ rfl) (before 20 _ rfl)
    -- from here on the code is fetched from the memory that the copy leaves
    Leads 0x801b 1 _ { view with
        pc := 0x8017, a := byte, y := view.y + 1, zero := view.y + 1 == 0,
        memory := view.memory.write cell byte } :=
      leads_incrementIndex 0x8016 rfl (by decide) (after 22 _ rfl)
    Leads 0x801b 1 _ { view with
        pc := 0x8019, a := byte, y := view.y + 1, zero := view.y + 1 - amount == 0,
        memory := view.memory.write cell byte } :=
      leads_compareIndex 0x8017 rfl (by decide) amount (after 24 _ rfl) (after 23 _ rfl)
    Leads 0x801b 1 _ _ :=
      leads_branchNotZero 0x8019 rfl (by decide) 0xf7 (after 26 _ rfl) (after 25 _ rfl)

structure Progress (source target : Address) (count : Nat) (start : View) (done : Nat)
    (view : View) : Prop where
  pc : view.pc = if done < count then 0x8012 else 0x801b
  y : view.y = BitVec.ofNat 8 done
  sp : view.sp = start.sp
  copies : Copies source target done start.memory view.memory

namespace Progress

variable {start : View} {done : Nat}

theorem indirectCells (progress : Progress source target count start done view)
    (short : done < 256) :
    view.indirectCell 0xfb = source + BitVec.ofNat 16 done ∧
      view.indirectCell 0xfd = target + BitVec.ofNat 16 done := by
  have index : Byte.extend (BitVec.ofNat 8 done) = BitVec.ofNat 16 done := by
    apply BitVec.eq_of_toNat_eq
    rw [Byte.toNat_extend, BitVec.toNat_ofNat, BitVec.toNat_ofNat]
    omega
  obtain ⟨first, second⟩ := progress.copies.pointers
  rw [indirectCell, indirectCell, progress.y, index, ← first, ← second]
  exact ⟨rfl, rfl⟩

-- With 256 bytes to copy the index is at the count, which is zero, only after the last.
theorem repeats_eq (fits : Fits source target count) (within : done < count) :
    (!(BitVec.ofNat 8 done + 1 - BitVec.ofNat 8 count == 0)) = decide (done + 1 < count) := by
  have bounded := fits.bounded
  rw [Bool.eq_iff_iff, Bool.not_eq_true', beq_eq_false_iff_ne, decide_eq_true_iff]
  constructor <;> bv_omega

theorem round (progress : Progress source target count start done view)
    (fits : Fits source target count) (within : done < count)
    (holds : start.memory.Holds 0x8000 (code source target (BitVec.ofNat 8 count))) :
    ∃ later, Leads 0x801b 5 view later ∧
      Progress source target count start (done + 1) later := by
  have pc : view.pc = 0x8012 := progress.pc.trans (if_pos within)
  have copies := progress.copies.next fits within
  have before := progress.copies.holds_code fits (Nat.le_of_lt within) holds
  have after := copies.holds_code fits within holds
  obtain ⟨first, second⟩ := progress.indirectCells (Nat.lt_of_lt_of_le within fits.bounded)
  rw [← progress.copies.read_source fits within, ← first, ← second] at copies after
  refine ⟨_, leads_round pc rfl rfl before after, ?_, ?_, progress.sp, copies⟩
  next =>
    change (if !(view.y + 1 - BitVec.ofNat 8 count == 0) then 0x8012 else 0x801b) = _
    rw [progress.y, repeats_eq fits within]
    simp only [decide_eq_true_eq]
  next =>
    change view.y + 1 = _
    rw [progress.y, BitVec.ofNat_add]
    rfl

end Progress

theorem runUntil_copies {machine : Machine} (fits : Fits source target count)
    (begins : machine.pc = 0x8000)
    (holds : machine.memory.Holds 0x8000 (code source target (BitVec.ofNat 8 count))) :
    (machine.runUntil 0x801b).result = .ok (9 + 5 * count) ∧
      (machine.runUntil 0x801b).machine.sp = machine.sp ∧
      Copies source target count machine.memory (machine.runUntil 0x801b).machine.memory := by
  have bounded := fits.bounded
  have prepares := leads_prepared (show machine.view.pc = 0x8000 from begins) holds
  have first : Progress source target count machine.view 0
      (prepared machine.view source target) :=
    ⟨(if_pos fits.positive).symm, rfl, rfl, copies_setPointers source target machine.memory⟩
  obtain ⟨later, loops, progress⟩ := Leads.rounds
    (fun done within view progress => Progress.round progress fits within holds) first
  have pc : later.pc = 0x801b := progress.pc.trans (if_neg (Nat.lt_irrefl count))
  obtain ⟨steps, ends⟩ := (prepares.trans loops).runUntil (by rw [pc]; rfl)
    (by omega : ((9 + 5 * count : Nat) : Int) ≤ 10000)
  have sp := progress.sp
  have copies := progress.copies
  rw [← ends] at sp copies
  exact ⟨steps, sp, copies⟩

end Run

theorem boot_image (source target : Address) (count : Nat) :
    ∃ booted, Machine.boot (image source target count) 0x8000 = .ok booted ∧
      booted.pc = 0x8000 ∧
      booted.memory.Holds 0x8000 (code source target (BitVec.ofNat 8 count)) := by
  have fits : (image source target count).length ≤ 65536 := (by decide : 27 ≤ 65536)
  have inRange : (0 : Int) ≤ 0x8000 ∧ (0x8000 : Int) ≤ 65535 := by decide
  have boots := Machine.boots_atReset (Core.factorySettings.update []).1 fits inRange
  have pc := boots.pc
  have begins : (Machine.atReset (Core.factorySettings.update []).1
      (Machine.bootMemory (image source target count) 0x8000)).pc = 0x8000 :=
    BitVec.eq_of_toNat_eq (Int.ofNat_inj.mp pc)
  refine ⟨_, Machine.boot_of_fits (by simp) fits inRange, begins, fun index byte listed => ?_⟩
  have apart : ∀ index < (image source target count).length,
      ¬Machine.IsVector ((0x8000 : Int) + index) := by
    intro index within
    have inside : index < 27 := within
    simp only [Machine.IsVector]
    omega
  have stored : (image source target count)[index]? = some (byte.toNat : Int) := by
    rw [image, List.getElem?_map, listed]
    rfl
  have read := boots.read apart stored
  rwa [begins, Byte.wrap_toNat] at read

-- Nine steps, and five for each byte, whatever else is in the memory.
theorem copy_conforms {source target : Address} {count : Nat} (fits : Fits source target count) :
    ∃ booted, Machine.boot (image source target count) 0x8000 = .ok booted ∧
      ∀ memory : Memory, (∀ index < 27, memory.read (0x8000 + BitVec.ofNat 16 index) =
          booted.memory.read (0x8000 + BitVec.ofNat 16 index)) →
        let search := { booted with memory := memory }.runUntil 0x801b
        search.result = .ok (9 + 5 * count) ∧
          search.machine.sp = booted.sp ∧
          Copies source target count memory search.machine.memory := by
  obtain ⟨booted, boots, begins, holds⟩ := boot_image source target count
  refine ⟨booted, boots, fun memory same => ?_⟩
  have kept : memory.Holds 0x8000 (code source target (BitVec.ofNat 8 count)) := by
    intro index byte listed
    have inside : index < 27 := (List.getElem?_eq_some_iff.mp listed).1
    rw [same index inside, holds index byte listed]
  exact runUntil_copies fits begins kept

-- A whole page from around the end of memory, which the count of zero stands for.
theorem copy_wrappingPage :
    ∃ booted, Machine.boot (image 0xff80 0x3000 256) 0x8000 = .ok booted ∧
      let search := { booted with memory := booted.memory.write 0x0000 0x5a }.runUntil 0x801b
      search.result = .ok 1289 ∧ search.machine.sp = booted.sp ∧
        search.machine.memory.read 0x3080 = 0x5a ∧
        search.machine.memory.readWord 0xfb = 0xff80 := by
  have fits : Fits 0xff80 0x3000 256 := by
    refine ⟨by decide, by decide, ?_, ?_, ?_, ?_⟩ <;>
      intro index within place inside <;> bv_omega
  obtain ⟨booted, boots, copies⟩ := copy_conforms fits
  obtain ⟨steps, sp, copied⟩ := copies (booted.memory.write 0x0000 0x5a) fun index within =>
    Memory.read_write_ne (by bv_omega) _ _
  exact ⟨booted, boots, steps, sp,
    (copied.copied 0x80 (by decide)).trans (Memory.read_write_same _ _ _), copied.pointers.1⟩

end Mos6502.CopyLoop
