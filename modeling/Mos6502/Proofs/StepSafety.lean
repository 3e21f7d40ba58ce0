import Mos6502.Proofs.Unbounded.Agreement

set_option autoImplicit false

namespace Mos6502

inductive Call where
  | step
  | reset
deriving DecidableEq

namespace Machine

def perform (machine : Machine) : Call → Machine
  | .step => machine.step.machine
  | .reset => machine.reset

def afterCalls (machine : Machine) : List Call → Machine
  | [] => machine
  | call :: rest => (machine.perform call).afterCalls rest

end Machine

namespace Unbounded.State

def perform (state : State) : Call → State
  | .step => state.step.1
  | .reset => state.reset.toOption.getD state

def afterCalls (state : State) : List Call → State
  | [] => state
  | call :: rest => (state.perform call).afterCalls rest

structure InRange (state : State) : Prop where
  a : 0 ≤ state.a ∧ state.a ≤ 255
  x : 0 ≤ state.x ∧ state.x ≤ 255
  y : 0 ≤ state.y ∧ state.y ≤ 255
  sp : 0 ≤ state.sp ∧ state.sp ≤ 255
  pc : 0 ≤ state.pc ∧ state.pc ≤ 65535
  flags : 0 ≤ state.flags ∧ state.flags ≤ 255
  lastInstruction : ∀ opcode ∈ state.lastInstruction, 0 ≤ opcode ∧ opcode ≤ 255
  cells : ∀ address, 0 ≤ state.cells address ∧ state.cells address ≤ 255

def Official (state : State) : Prop :=
  ∃ entry ∈ Instruction.opcodes, state.read state.pc = (entry.1.toNat : Int)

structure StepsSafely (state : State) : Prop where
  completed : state.Official → ∃ next, state.step = (next, none) ∧ next.InRange ∧
    next.instructionCount = state.instructionCount + 1 ∧
    next.lastInstruction = some (state.read state.pc)
  refused : ¬state.Official → state.step =
    ({ state with pc := (state.pc + 1) % 65536 },
      some (.unimplementedOpcode (state.read state.pc) (some state.pc)))
  restarted : ∃ next, state.reset = .ok next ∧ next.InRange

theorem inRange_ofMachine (machine : Machine) : (ofMachine machine).InRange where
  a := machine.a.bounds
  x := machine.x.bounds
  y := machine.y.bounds
  sp := machine.sp.bounds
  pc := by
    have bound := machine.pc.isLt
    change (0 : Int) ≤ machine.pc.toNat ∧ (machine.pc.toNat : Int) ≤ 65535
    omega
  flags := machine.status.toByte.bounds
  lastInstruction := by
    intro opcode present
    obtain ⟨byte, _, rfl⟩ := Option.map_eq_some_iff.mp present
    exact byte.bounds
  cells := fun address => (machine.memory.read address).bounds

def toMachine (state : State) : Machine where
  a := .wrap state.a
  x := .wrap state.x
  y := .wrap state.y
  sp := .wrap state.sp
  pc := .wrap state.pc
  status := .ofByte (.wrap state.flags)
  lastInstruction := state.lastInstruction.map Byte.wrap
  instructionCount := state.instructionCount
  settings := state.settings
  memory := ⟨Vector.ofFn fun index => .wrap (state.cells (BitVec.ofNat 16 index.val))⟩

theorem ofMachine_toMachine {state : State} (inRange : state.InRange) :
    ofMachine state.toMachine = state := by
  have last : (state.lastInstruction.map Byte.wrap).map (fun opcode => (opcode.toNat : Int)) =
      state.lastInstruction := by
    cases found : state.lastInstruction with
    | none => rfl
    | some opcode =>
      exact congrArg some (Byte.intCast_toNat_wrap (inRange.lastInstruction opcode found))
  have cells : (ofMachine state.toMachine).cells = state.cells := by
    funext address
    change ((state.toMachine.memory.read address).toNat : Int) = state.cells address
    have here : state.toMachine.memory.read address = Byte.wrap (state.cells address) := by
      simp [toMachine, Memory.read]
    rw [here, Byte.intCast_toNat_wrap (inRange.cells address)]
  obtain ⟨a, x, y, sp, pc, flags, lastInstruction, instructionCount, settings, stored⟩ := state
  simp only [ofMachine] at cells
  simp only [ofMachine, toMachine, Status.toByte_ofByte, last, State.mk.injEq, true_and,
    Byte.intCast_toNat_wrap inRange.a, Byte.intCast_toNat_wrap inRange.x,
    Byte.intCast_toNat_wrap inRange.y, Byte.intCast_toNat_wrap inRange.sp,
    Address.intCast_toNat_wrap inRange.pc, Byte.intCast_toNat_wrap inRange.flags]
  exact cells

theorem perform_ofMachine (machine : Machine) (call : Call) :
    (ofMachine machine).perform call = ofMachine (machine.perform call) := by
  cases call with
  | step => exact congrArg Prod.fst (step_ofMachine machine)
  | reset =>
    rw [perform, reset_ofMachine]
    rfl

theorem afterCalls_ofMachine (machine : Machine) (calls : List Call) :
    (ofMachine machine).afterCalls calls = ofMachine (machine.afterCalls calls) := by
  induction calls generalizing machine with
  | nil => rfl
  | cons call rest ih => rw [afterCalls, perform_ofMachine, ih, Machine.afterCalls]

theorem read_pc_ofMachine (machine : Machine) :
    (ofMachine machine).read (ofMachine machine).pc = machine.opcode.toNat :=
  read_ofMachine machine machine.pc

theorem official_ofMachine (machine : Machine) :
    (ofMachine machine).Official ↔ machine.opcode ∈ Instruction.opcodes.map Prod.fst := by
  rw [Official, read_pc_ofMachine, List.mem_map]
  constructor
  next =>
    rintro ⟨entry, listed, same⟩
    exact ⟨entry, listed, BitVec.eq_of_toNat_eq (Int.ofNat_inj.mp same).symm⟩
  next =>
    rintro ⟨entry, listed, same⟩
    exact ⟨entry, listed, by rw [same]⟩

theorem stepsSafely_ofMachine (machine : Machine) : (ofMachine machine).StepsSafely where
  completed := by
    intro official
    rw [official_ofMachine, ← Instruction.exists_decode_iff] at official
    obtain ⟨instruction, decoded⟩ := official
    have ledger := Machine.ledger_step decoded
    have success : machine.step.fault = none :=
      congrArg Effect.fault (Machine.step_of_decode decoded)
    refine ⟨ofMachine machine.step.machine, ?_, inRange_ofMachine _, congrArg (·.2.1) ledger, ?_⟩
    next => rw [step_ofMachine, success]
    next =>
      rw [read_pc_ofMachine]
      exact congrArg (fun ledger => ledger.1.map fun opcode => (opcode.toNat : Int)) ledger
  refused := by
    intro unofficial
    rw [official_ofMachine, ← Instruction.decode_eq_none_iff] at unofficial
    have refused := Machine.step_eq_refused unofficial
    have next : ((ofMachine machine).pc + 1) % 65536 = (machine.pc + 1).toNat :=
      Address.succ_mod machine.pc
    rw [step_ofMachine, next, read_pc_ofMachine]
    exact Prod.ext (congrArg (fun effect => ofMachine effect.machine) refused)
      (congrArg Effect.fault refused)
  restarted := ⟨ofMachine machine.reset, reset_ofMachine machine, inRange_ofMachine _⟩

-- No fault but an opcode that is not official, and the machine on words does the same.
theorem every_run_is_safe (state : State) (inRange : state.InRange) (calls : List Call) :
    (state.afterCalls calls).InRange ∧ (state.afterCalls calls).StepsSafely ∧
      ∃ machine, ofMachine machine = state ∧
        ofMachine (machine.afterCalls calls) = state.afterCalls calls ∧
        (state.afterCalls calls).step =
          (ofMachine (machine.afterCalls calls).step.machine,
            (machine.afterCalls calls).step.fault) ∧
        (state.afterCalls calls).reset = .ok (ofMachine (machine.afterCalls calls).reset) := by
  have begun : ofMachine state.toMachine = state := ofMachine_toMachine inRange
  have reached : ofMachine (state.toMachine.afterCalls calls) = state.afterCalls calls := by
    rw [← afterCalls_ofMachine, begun]
  rw [← reached]
  refine ⟨inRange_ofMachine _, stepsSafely_ofMachine _, state.toMachine, begun, rfl, ?_, ?_⟩
  next => exact step_ofMachine _
  next => exact reset_ofMachine _

-- The reset vector leads to an idle opcode, and then to one at the last address that is refused.
def lastAddress : State where
  a := 255
  x := 0
  y := 255
  sp := 0
  pc := 512
  flags := 255
  lastInstruction := none
  instructionCount := 3
  settings := Core.factorySettings
  cells := fun address =>
    if address = 0xfffc then 0xfe
    else if address = 0xfffd then 0xff
    else if address = 0xfffe then 0xea
    else if address = 0xffff then 0x02
    else 255

def idledToLast : State :=
  { lastAddress with
    a := 0
    y := 0
    sp := 0xfd
    pc := 65535
    flags := 0x24
    lastInstruction := some 0xea
    instructionCount := 1 }

theorem lastAddress_refused :
    lastAddress.InRange ∧ lastAddress.afterCalls [.reset, .step] = idledToLast ∧
      ¬idledToLast.Official ∧
      idledToLast.step =
        ({ idledToLast with pc := 0 }, some (.unimplementedOpcode 2 (some 65535))) := by
  have inRange : lastAddress.InRange := by
    refine ⟨by decide, by decide, by decide, by decide, by decide, by decide, nofun, ?_⟩
    intro address
    simp only [lastAddress]
    split_ifs <;> decide
  have idled : lastAddress.afterCalls [.reset, .step] = idledToLast := by rfl
  have unofficial : ¬idledToLast.Official := by
    have every : ∀ entry ∈ Instruction.opcodes, (2 : Int) ≠ (entry.1.toNat : Int) := by
      decide +kernel
    rintro ⟨entry, listed, same⟩
    exact every entry listed same
  have safe := (every_run_is_safe lastAddress inRange [.reset, .step]).2.1
  rw [idled] at safe
  exact ⟨inRange, idled, unofficial, safe.refused unofficial⟩

end Unbounded.State

end Mos6502
