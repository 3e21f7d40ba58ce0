import Mos6502.Proofs.BoundedSearch
import Mos6502.Proofs.Branches

set_option autoImplicit false

namespace Mos6502

-- The index X, the other flags and what counts the steps are left open.
structure View where
  pc : Address
  a : Byte
  y : Byte
  sp : Byte
  zero : Bool
  memory : Memory

namespace Machine

def view (machine : Machine) : View where
  pc := machine.pc
  a := machine.a
  y := machine.y
  sp := machine.sp
  zero := machine.status.zero
  memory := machine.memory

theorem Passes.append {machine : Machine} {stop : Int} {count more : Nat}
    (passes : machine.Passes stop count) (further : (machine.after count).Passes stop more) :
    machine.Passes stop (count + more) := by
  intro index within
  by_cases early : index < count
  next => exact passes index early
  next =>
    obtain ⟨later, rfl⟩ := Nat.exists_eq_add_of_le (Nat.le_of_not_lt early)
    rw [after_add]
    exact further later (by omega)

end Machine

namespace Memory

def Holds (memory : Memory) (start : Address) (bytes : List Byte) : Prop :=
  ∀ (index : Nat) (byte : Byte), bytes[index]? = some byte →
    memory.read (start + BitVec.ofNat 16 index) = byte

variable {memory : Memory} {start : Address} {bytes : List Byte}

theorem Holds.part (holds : memory.Holds start bytes) (offset count : Nat) :
    memory.Holds (start + BitVec.ofNat 16 offset) ((bytes.drop offset).take count) := by
  intro index byte listed
  have inside := (List.getElem?_eq_some_iff.mp listed).1
  rw [List.getElem?_take_of_lt (by simp at inside; omega), List.getElem?_drop] at listed
  rw [BitVec.add_assoc, ← BitVec.ofNat_add]
  exact holds (offset + index) byte listed

theorem Holds.write (holds : memory.Holds start bytes) (address : Address)
    (apart : ∀ index < bytes.length, start + BitVec.ofNat 16 index ≠ address) (value : Byte) :
    (memory.write address value).Holds start bytes := by
  intro index byte listed
  have inside := (List.getElem?_eq_some_iff.mp listed).1
  rw [read_write_ne (apart index inside)]
  exact holds index byte listed

end Memory

namespace View

-- All the steps succeed, and begin away from the stop.
def Leads (stop : Int) (count : Nat) (view later : View) : Prop :=
  ∀ machine : Machine, machine.view = view →
    machine.Passes stop count ∧ (machine.after count).view = later

variable {stop : Int} {view : View}

section Composition

theorem Leads.refl (stop : Int) (view : View) : Leads stop 0 view view :=
  fun machine shown => ⟨.zero machine stop, shown⟩

theorem Leads.trans {middle later : View} {first second : Nat}
    (begins : Leads stop first view middle) (ends : Leads stop second middle later) :
    Leads stop (first + second) view later := by
  intro machine shown
  obtain ⟨passes, reached⟩ := begins machine shown
  obtain ⟨further, final⟩ := ends (machine.after first) reached
  exact ⟨passes.append further, by rw [Machine.after_add, final]⟩

instance {first second : Nat} :
    Trans (Leads stop first) (Leads stop second) (Leads stop (first + second)) where
  trans := Leads.trans

theorem Leads.rounds {invariant : Nat → View → Prop} {steps total : Nat}
    (round : ∀ done < total, ∀ view, invariant done view →
      ∃ later, Leads stop steps view later ∧ invariant (done + 1) later)
    (first : invariant 0 view) :
    ∃ later, Leads stop (steps * total) view later ∧ invariant total later := by
  induction total with
  | zero => exact ⟨view, .refl stop view, first⟩
  | succ total ih =>
    obtain ⟨middle, begins, held⟩ := ih fun done within => round done (Nat.lt_succ_of_lt within)
    obtain ⟨later, ends, holds⟩ := round total (Nat.lt_succ_self total) middle held
    exact ⟨later, begins.trans ends, holds⟩

theorem Leads.runUntil {machine : Machine} {later : View} {count : Nat} {limit : Int}
    (leads : Leads stop count machine.view later) (arrives : (later.pc.toNat : Int) = stop)
    (within : count ≤ limit) :
    (machine.runUntil stop limit).result = .ok count ∧
      (machine.runUntil stop limit).machine.view = later := by
  obtain ⟨passes, reached⟩ := leads machine rfl
  have hit : (machine.after count).IsAt stop := by
    rw [← reached] at arrives
    exact arrives
  have found : machine.runUntil stop limit = machine.stopped count (.ok count) :=
    Machine.search_of_firstHit ⟨passes, hit⟩ (by omega)
  rw [found]
  exact ⟨rfl, reached⟩

end Composition

section Instructions

def indirectCell (view : View) (pointer : Byte) : Address :=
  view.memory.readPointer pointer.extend + view.y.extend

theorem past_operand (pc : Address) : pc + 2 = pc + 1 + BitVec.ofNat 16 1 := by
  bv_omega

variable (pc : Address) (here : view.pc = pc) (away : (pc.toNat : Int) ≠ stop)
include here away

theorem Leads.instruction (instruction : Instruction) {later : View} {opcode : Byte}
    (first : view.memory.read pc = opcode)
    (decoded : Instruction.decode opcode = some instruction)
    (works : ∀ machine : Machine, machine.view = view →
      (machine.body instruction).machine.view = later) : Leads stop 1 view later := by
  rintro machine rfl
  subst here
  have known : machine.instruction? = some instruction := (congrArg _ first).trans decoded
  refine ⟨(Machine.Passes.zero machine stop).succ away
    (congrArg Effect.fault (Machine.step_of_decode known)), ?_⟩
  change machine.step.machine.view = later
  rw [Machine.machine_step_of_decode known]
  exact works machine rfl

theorem leads_incrementIndex (opcode : view.memory.read pc = 0xc8) :
    Leads stop 1 view { view with pc := pc + 1, y := view.y + 1, zero := view.y + 1 == 0 } := by
  refine Leads.instruction pc here away ⟨.iny, .implied⟩ opcode rfl ?_
  rintro machine rfl
  rw [← here, ← BitVec.add_zero (machine.view.pc + 1)]
  rfl

variable (value : Byte) (operand : view.memory.read (pc + 1) = value)
include operand

theorem leads_loadImmediate (opcode : view.memory.read pc = 0xa9) :
    Leads stop 1 view { view with pc := pc + 2, a := value, zero := value == 0 } := by
  refine Leads.instruction pc here away ⟨.lda, .immediate⟩ opcode rfl ?_
  rintro machine rfl
  rw [← operand, ← here, past_operand]
  rfl

theorem leads_loadIndexImmediate (opcode : view.memory.read pc = 0xa0) :
    Leads stop 1 view { view with pc := pc + 2, y := value, zero := value == 0 } := by
  refine Leads.instruction pc here away ⟨.ldy, .immediate⟩ opcode rfl ?_
  rintro machine rfl
  rw [← operand, ← here, past_operand]
  rfl

theorem leads_storeZeroPage (opcode : view.memory.read pc = 0x85) :
    Leads stop 1 view
      { view with pc := pc + 2, memory := view.memory.write value.extend view.a } := by
  refine Leads.instruction pc here away ⟨.sta, .zeroPage⟩ opcode rfl ?_
  rintro machine rfl
  rw [← operand, ← here, past_operand]
  rfl

theorem leads_loadIndirect (opcode : view.memory.read pc = 0xb1) :
    Leads stop 1 view
      { view with
        pc := pc + 2
        a := view.memory.read (view.indirectCell value)
        zero := view.memory.read (view.indirectCell value) == 0 } := by
  refine Leads.instruction pc here away ⟨.lda, .indirectIndexed⟩ opcode rfl ?_
  rintro machine rfl
  rw [← operand, ← here, past_operand]
  rfl

theorem leads_storeIndirect (opcode : view.memory.read pc = 0x91) :
    Leads stop 1 view
      { view with
        pc := pc + 2
        memory := view.memory.write (view.indirectCell value) view.a } := by
  refine Leads.instruction pc here away ⟨.sta, .indirectIndexed⟩ opcode rfl ?_
  rintro machine rfl
  rw [← operand, ← here, past_operand]
  rfl

theorem leads_compareIndex (opcode : view.memory.read pc = 0xc0) :
    Leads stop 1 view { view with pc := pc + 2, zero := view.y - value == 0 } := by
  refine Leads.instruction pc here away ⟨.cpy, .immediate⟩ opcode rfl ?_
  rintro machine rfl
  rw [← operand, ← here, past_operand]
  rfl

theorem leads_branchNotZero (opcode : view.memory.read pc = 0xd0) :
    Leads stop 1 view
      { view with
        pc := if !view.zero then pc + 2 + value.signExtend 16 else pc + 2 } := by
  refine Leads.instruction pc here away ⟨.bne, .relative⟩ opcode rfl ?_
  rintro machine rfl
  rw [← operand, ← here, past_operand]
  exact congrArg (·.machine.view) (Branch.notEqual.run_eq (machine.pastOperand .relative) _)

omit operand away in
theorem leads_setByte (pointer : Byte)
    (code : view.memory.Holds pc [0xa9, value, 0x85, pointer])
    (away : ∀ index < 4, ((pc + BitVec.ofNat 16 index).toNat : Int) ≠ stop) :
    Leads stop 2 view
      { view with
        pc := pc + 4
        a := value
        zero := value == 0
        memory := view.memory.write pointer.extend value } := by
  have loads : view.memory.read pc = 0xa9 := by simpa using code 0 0xa9 rfl
  have stored : view.memory.read (pc + 2 + 1) = pointer := by
    rw [BitVec.add_assoc]
    exact code 3 pointer rfl
  have past : pc + 4 = pc + 2 + 2 := by bv_omega
  rw [past]
  exact (leads_loadImmediate pc here (by simpa using away 0 (by decide)) value
    (code 1 value rfl) loads).trans
    (leads_storeZeroPage (pc + 2) rfl (away 2 (by decide)) pointer stored (code 2 0x85 rfl))

end Instructions

end View

end Mos6502
