import Mathlib
import Mos6502.Bus
import Mos6502.Proofs.StepFootprint

set_option autoImplicit false

namespace Mos6502

structure Report where
  core : Core
  fault : Option Fault
  printed : List String

def Outcome.report (outcome : Outcome) : Report where
  core := outcome.machine.toCore
  fault := outcome.fault
  printed := outcome.printed

def Core.alone (core : Core) (memory : Memory) : Machine :=
  { core with memory := memory }

namespace Machine

def readSet (machine : Machine) (count : Nat) : Set Address :=
  { address | ∃ index < count, address ∈ (machine.after index).reads }

def writeSet (machine : Machine) (count : Nat) : Set Address :=
  { address | ∃ index < count, address ∈ (machine.after index).writes }

@[simp] theorem readSet_zero (machine : Machine) : machine.readSet 0 = ∅ := by
  simp [readSet]

@[simp] theorem writeSet_zero (machine : Machine) : machine.writeSet 0 = ∅ := by
  simp [writeSet]

theorem readSet_succ (machine : Machine) (count : Nat) :
    machine.readSet (count + 1) =
      machine.readSet count ∪ { address | address ∈ (machine.after count).reads } := by
  ext address
  simp only [readSet, Set.mem_ofPred_eq, Set.mem_union, Nat.lt_succ_iff_lt_or_eq, or_and_right,
    exists_or, exists_eq_left]

theorem writeSet_succ (machine : Machine) (count : Nat) :
    machine.writeSet (count + 1) =
      machine.writeSet count ∪ { address | address ∈ (machine.after count).writes } := by
  ext address
  simp only [writeSet, Set.mem_ofPred_eq, Set.mem_union, Nat.lt_succ_iff_lt_or_eq, or_and_right,
    exists_or, exists_eq_left]

def reports (machine : Machine) : Nat → List Report
  | 0 => []
  | count + 1 => machine.step.report :: machine.step.machine.reports count

theorem report_withMemory {machine : Machine} {memory : Memory}
    (agree : ∀ address ∈ machine.reads, memory.read address = machine.memory.read address) :
    (machine.withMemory memory).step.report = machine.step.report := by
  have agrees := step_withMemory agree
  rw [Outcome.report, agrees.core, agrees.fault]
  rfl

end Machine

namespace Bus

def turns (bus : Bus) : List Nat → Bus
  | [] => bus
  | index :: rest => (bus.step index).turns rest

def reports (bus : Bus) (owner : Nat) : List Nat → List Report
  | [] => []
  | index :: rest =>
    let later := (bus.step index).reports owner rest
    if index = owner then
      ((bus.machine? index).map fun machine => machine.step.report).toList ++ later
    else later

def foreign (bus : Bus) (allotted : Nat → Nat) (index : Nat) : Set Address :=
  { address | ∃ other ≠ index, ∃ machine, bus.machine? other = some machine ∧
    address ∈ machine.writeSet (allotted other) }

def Apart (bus : Bus) (allotted : Nat → Nat) : Prop :=
  ∀ index machine, bus.machine? index = some machine →
    Disjoint (bus.foreign allotted index)
      (machine.readSet (allotted index) ∪ machine.writeSet (allotted index))

-- Each cell is where the one core that may write it leaves it.
structure Follows (start : Bus) (allotted taken : Nat → Nat) (bus : Bus) : Prop where
  core : ∀ index, bus.cores[index]? =
    (start.machine? index).map fun machine => (machine.after (taken index)).toCore
  own : ∀ index machine, start.machine? index = some machine →
    ∀ address ∉ start.foreign allotted index,
      bus.memory.read address = (machine.after (taken index)).memory.read address
  rest : ∀ address, (∀ index, address ∉ start.foreign allotted index) →
    bus.memory.read address = start.memory.read address

variable {start bus : Bus} {allotted taken : Nat → Nat}

theorem follows_start (start : Bus) (allotted : Nat → Nat) :
    start.Follows allotted (fun _ => 0) start where
  core := by
    intro index
    cases found : start.cores[index]? <;> simp [machine?, found, Machine.after]
  own := by
    intro index machine present address _
    obtain ⟨core, _, rfl⟩ := Option.map_eq_some_iff.mp present
    rfl
  rest := fun _ _ => rfl

namespace Follows

variable {index : Nat} {machine : Machine}

theorem machine_eq (follows : start.Follows allotted taken bus)
    (present : start.machine? index = some machine) :
    bus.machine? index = some ((machine.after (taken index)).withMemory bus.memory) := by
  rw [machine?, follows.core, present]
  rfl

theorem agree (follows : start.Follows allotted taken bus) (apart : start.Apart allotted)
    (present : start.machine? index = some machine) (turn : taken index < allotted index) :
    ∀ address ∈ (machine.after (taken index)).reads,
      bus.memory.read address = (machine.after (taken index)).memory.read address := by
  intro address looked
  apply follows.own index machine present
  intro foreign
  exact Set.disjoint_left.mp (apart index machine present) foreign (.inl ⟨_, turn, looked⟩)

theorem step (follows : start.Follows allotted taken bus) (apart : start.Apart allotted)
    (present : start.machine? index = some machine) (turn : taken index < allotted index) :
    start.Follows allotted (Function.update taken index (taken index + 1)) (bus.step index) := by
  -- The core finds in the shared memory what it would find in its own.
  have agree := follows.agree apart present turn
  have agrees := Machine.step_withMemory agree
  have stepped : bus.step index =
      bus.put index ((machine.after (taken index)).withMemory bus.memory).step.machine := by
    rw [Bus.step, follows.machine_eq present]
  have kept (address : Address) (outside : address ∉ (machine.after (taken index)).writes) :
      (bus.step index).memory.read address = bus.memory.read address := by
    rw [← Machine.writes_withMemory agree] at outside
    rw [stepped]
    exact Machine.read_step_outside _ outside
  -- No other core is held to what it finds in the cells written by this turn.
  have written (address : Address) (inside : address ∈ (machine.after (taken index)).writes)
      (other : Nat) (different : other ≠ index) : address ∈ start.foreign allotted other :=
    ⟨index, different.symm, machine, present, _, turn, inside⟩
  constructor
  case core =>
    intro other
    by_cases same : other = index
    next =>
      have held := follows.core index
      rw [present, Option.map_some] at held
      obtain ⟨inside, _⟩ := List.getElem?_eq_some_iff.mp held
      simp [stepped, put, same, inside, present, agrees.core, Machine.after]
    next =>
      rw [stepped, bus.cores_put_ne _ (Ne.symm same), follows.core, Function.update_of_ne same]
  case own =>
    intro other neighbour found address outside
    by_cases same : other = index
    next =>
      obtain rfl : neighbour = machine := by simpa [same, present] using found.symm
      rw [same, Function.update_self, Machine.after]
      by_cases inside : address ∈ (neighbour.after (taken index)).writes
      next =>
        rw [stepped]
        exact agrees.memory address inside
      next =>
        rw [kept address inside, Machine.read_step_outside _ inside, ← same]
        exact follows.own other neighbour found address outside
    next =>
      have missed : address ∉ (machine.after (taken index)).writes := fun inside =>
        outside (written address inside other same)
      rw [kept address missed, Function.update_of_ne same]
      exact follows.own other neighbour found address outside
  case rest =>
    intro address outside
    have missed : address ∉ (machine.after (taken index)).writes := fun inside =>
      outside (index + 1) (written address inside (index + 1) (Nat.succ_ne_self index))
    rw [kept address missed, follows.rest address outside]

theorem machine_eq_none (follows : start.Follows allotted taken bus)
    (absent : start.machine? index = none) : bus.machine? index = none := by
  rw [machine?, follows.core, absent]
  rfl

theorem idle (follows : start.Follows allotted taken bus) (absent : start.machine? index = none) :
    start.Follows allotted (Function.update taken index (taken index + 1)) (bus.step index) := by
  have still : bus.step index = bus := by rw [Bus.step, follows.machine_eq_none absent]
  rw [still]
  refine ⟨fun other => ?_, fun other machine present => ?_, follows.rest⟩
  next =>
    by_cases same : other = index
    next => simp [follows.core, same, absent]
    next => rw [follows.core, Function.update_of_ne same]
  next =>
    have different : other ≠ index := by
      rintro rfl
      simp [absent] at present
    rw [Function.update_of_ne different]
    exact follows.own other machine present

theorem advance (follows : start.Follows allotted taken bus) (apart : start.Apart allotted)
    (turn : taken index < allotted index) :
    start.Follows allotted (Function.update taken index (taken index + 1)) (bus.step index) := by
  cases present : start.machine? index with
  | none => exact follows.idle present
  | some machine => exact follows.step apart present turn

theorem unique (apart : start.Apart allotted) {other : Bus}
    (left : start.Follows allotted taken bus) (right : start.Follows allotted taken other) :
    bus = other := by
  have memory : bus.memory = other.memory := by
    apply Memory.ext_read
    intro address
    -- A cell is as it was, or else as the one core that writes it has left it.
    by_cases untouched : ∀ index, address ∉ start.foreign allotted index
    next => rw [left.rest address untouched, right.rest address untouched]
    next =>
      simp only [not_forall, not_not] at untouched
      obtain ⟨_, owner, _, machine, present, writes⟩ := untouched
      have outside : address ∉ start.foreign allotted owner := fun foreign =>
        Set.disjoint_left.mp (apart owner machine present) foreign (.inr writes)
      rw [left.own owner machine present address outside,
        right.own owner machine present address outside]
  have cores : bus.cores = other.cores := by
    apply List.ext_getElem?
    intro index
    rw [left.core, right.core]
  cases bus
  cases other
  congr

theorem update_add_count (taken : Nat → Nat) (index : Nat) (rest : List Nat) :
    (fun other => Function.update taken index (taken index + 1) other + rest.count other) =
      fun other => taken other + (index :: rest).count other := by
  funext other
  by_cases same : other = index
  next => simp [same, Nat.add_right_comm, Nat.add_assoc]
  next => simp [same, Ne.symm same]

theorem within_rest {rest : List Nat}
    (within : ∀ other, taken other + (index :: rest).count other ≤ allotted other) :
    taken index < allotted index ∧
      ∀ other, Function.update taken index (taken index + 1) other + rest.count other ≤
        allotted other := by
  constructor
  next =>
    have bound := within index
    rw [List.count_cons_self] at bound
    omega
  next =>
    intro other
    have counts := congrFun (update_add_count taken index rest) other
    rw [counts]
    exact within other

theorem turns (apart : start.Apart allotted) (schedule : List Nat)
    (follows : start.Follows allotted taken bus)
    (within : ∀ index, taken index + schedule.count index ≤ allotted index) :
    start.Follows allotted (fun index => taken index + schedule.count index)
      (bus.turns schedule) := by
  induction schedule generalizing taken bus with
  | nil => exact follows
  | cons index rest ih =>
    obtain ⟨turn, left⟩ := within_rest within
    have later := ih (follows.advance apart turn) left
    rw [update_add_count] at later
    exact later

theorem reports (apart : start.Apart allotted) (schedule : List Nat) (owner : Nat)
    (follows : start.Follows allotted taken bus)
    (within : ∀ index, taken index + schedule.count index ≤ allotted index) :
    bus.reports owner schedule =
      (start.machine? owner).elim [] fun machine =>
        (machine.after (taken owner)).reports (schedule.count owner) := by
  induction schedule generalizing taken bus with
  | nil => cases start.machine? owner <;> rfl
  | cons index rest ih =>
    obtain ⟨turn, left⟩ := within_rest within
    have later := ih (follows.advance apart turn) left
    by_cases same : index = owner
    next =>
      subst same
      cases present : start.machine? index with
      | none => simp [Bus.reports, later, present, follows.machine_eq_none present]
      | some machine =>
        have report := Machine.report_withMemory (follows.agree apart present turn)
        simp [Bus.reports, later, present, follows.machine_eq present, report, Machine.reports,
          Machine.after]
    next =>
      simp [Bus.reports, later, same, Ne.symm same]

end Follows

theorem turns_perm {left right : List Nat} (same : left.Perm right)
    (apart : start.Apart fun index => left.count index) :
    start.turns left = start.turns right ∧
      ∀ owner, start.reports owner left = start.reports owner right := by
  have counts : (fun index => left.count index) = fun index => right.count index := by
    funext index
    exact same.count_eq index
  have begun := follows_start start fun index => left.count index
  refine ⟨?_, fun owner => ?_⟩
  next =>
    -- Both orders take each core through as many turns, which fixes the end.
    have leftEnd := begun.turns apart left (by simp)
    have rightEnd := begun.turns apart right (by simp [same.count_eq])
    simp only [Nat.zero_add] at leftEnd rightEnd
    rw [← counts] at rightEnd
    exact leftEnd.unique apart rightEnd
  next =>
    rw [begun.reports apart left owner (by simp), begun.reports apart right owner
      (by simp [same.count_eq]), same.count_eq]

theorem length_turns (bus : Bus) (schedule : List Nat) :
    (bus.turns schedule).cores.length = bus.cores.length := by
  induction schedule generalizing bus with
  | nil => rfl
  | cons index rest ih =>
    rw [turns, ih, step]
    split <;> simp [put]

theorem turns_alone {schedule : List Nat} (apart : start.Apart fun index => schedule.count index)
    {index : Nat} {machine : Machine} (present : start.machine? index = some machine) :
    let ended := machine.after (schedule.count index)
    (start.turns schedule).cores[index]? = some ended.toCore ∧
      start.reports index schedule = machine.reports (schedule.count index) ∧
      ∀ address ∉ start.foreign (fun index => schedule.count index) index,
        (start.turns schedule).memory.read address = ended.memory.read address := by
  have begun := follows_start start fun index => schedule.count index
  have followed := begun.turns apart schedule (by simp)
  have reported := begun.reports apart schedule index (by simp)
  simp only [Nat.zero_add] at followed
  refine ⟨?_, ?_, followed.own index machine present⟩
  next => rw [followed.core, present, Option.map_some]
  next => rw [reported, present, Option.elim_some, Machine.after]

def pair (memory : Memory) (first second : Core) : Bus where
  memory := memory
  cores := [first, second]

section Pair

variable (memory : Memory) (first second : Core)

theorem first_alone : (pair memory first second).machine? 0 = some (first.alone memory) := rfl

theorem second_alone : (pair memory first second).machine? 1 = some (second.alone memory) := rfl

variable {memory first second}

theorem foreign_pair {index other : Nat} {neighbour : Machine} (opposite : index + other = 1)
    (present : (pair memory first second).machine? other = some neighbour)
    (allotted : Nat → Nat) :
    (pair memory first second).foreign allotted index = neighbour.writeSet (allotted other) := by
  ext address
  constructor
  next =>
    rintro ⟨writer, different, machine, found, written⟩
    obtain ⟨core, held, _⟩ := Option.map_eq_some_iff.mp found
    have listed : writer < 2 := (List.getElem?_eq_some_iff.mp held).1
    obtain rfl : writer = other := by omega
    obtain rfl : machine = neighbour := Option.some.inj (found.symm.trans present)
    exact written
  next => exact fun written => ⟨other, by omega, neighbour, present, written⟩

theorem foreign_first (allotted : Nat → Nat) :
    (pair memory first second).foreign allotted 0 = (second.alone memory).writeSet (allotted 1) :=
  foreign_pair rfl (second_alone memory first second) allotted

theorem foreign_second (allotted : Nat → Nat) :
    (pair memory first second).foreign allotted 1 = (first.alone memory).writeSet (allotted 0) :=
  foreign_pair rfl (first_alone memory first second) allotted

theorem apart_pair
    (one : Disjoint ((first.alone memory).writeSet (allotted 0))
      ((second.alone memory).readSet (allotted 1) ∪ (second.alone memory).writeSet (allotted 1)))
    (two : Disjoint ((second.alone memory).writeSet (allotted 1))
      ((first.alone memory).readSet (allotted 0) ∪ (first.alone memory).writeSet (allotted 0))) :
    (pair memory first second).Apart allotted := by
  intro index machine present
  match index with
  | 0 =>
    obtain rfl : first.alone memory = machine := Option.some.inj present
    rwa [foreign_first]
  | 1 =>
    obtain rfl : second.alone memory = machine := Option.some.inj present
    rwa [foreign_second]
  | index + 2 => simp [pair, machine?] at present

end Pair

-- Neither core writes in its own steps what the other reads or writes in its own.
theorem interleaving_eq_sequence (memory : Memory) (first second : Core) (m n : Nat)
    (schedule : List Nat) (mixed : schedule.Perm (List.replicate m 0 ++ List.replicate n 1))
    (one : Disjoint ((first.alone memory).writeSet m)
      ((second.alone memory).readSet n ∪ (second.alone memory).writeSet n))
    (two : Disjoint ((second.alone memory).writeSet n)
      ((first.alone memory).readSet m ∪ (first.alone memory).writeSet m)) :
    let bus := pair memory first second
    let sequence := List.replicate m 0 ++ List.replicate n 1
    let firstEnd := (first.alone memory).after m
    let secondEnd := (second.alone memory).after n
    bus.turns schedule = bus.turns sequence ∧
      (∀ owner, bus.reports owner schedule = bus.reports owner sequence) ∧
      (bus.turns schedule).cores = [firstEnd.toCore, secondEnd.toCore] ∧
      bus.reports 0 schedule = (first.alone memory).reports m ∧
      bus.reports 1 schedule = (second.alone memory).reports n ∧
      (∀ address ∉ (second.alone memory).writeSet n,
        (bus.turns schedule).memory.read address = firstEnd.memory.read address) ∧
      (∀ address ∉ (first.alone memory).writeSet m,
        (bus.turns schedule).memory.read address = secondEnd.memory.read address) ∧
      ∀ (bus : Bus) (turn other : Nat), turn ≠ other →
        (bus.step turn).cores[other]? = bus.cores[other]? := by
  have firstCount : schedule.count 0 = m := by simp [mixed.count_eq, List.count_replicate]
  have secondCount : schedule.count 1 = n := by simp [mixed.count_eq, List.count_replicate]
  have apart : (pair memory first second).Apart fun index => schedule.count index := by
    apply apart_pair
    next => rwa [firstCount, secondCount]
    next => rwa [firstCount, secondCount]
  obtain ⟨state, reports⟩ := turns_perm mixed apart
  obtain ⟨firstCore, firstReports, firstMemory⟩ :=
    turns_alone apart (first_alone memory first second)
  obtain ⟨secondCore, secondReports, secondMemory⟩ :=
    turns_alone apart (second_alone memory first second)
  rw [foreign_first, firstCount, secondCount] at firstMemory
  rw [foreign_second, firstCount, secondCount] at secondMemory
  rw [firstCount] at firstCore firstReports
  rw [secondCount] at secondCore secondReports
  refine ⟨state, reports, ?_, firstReports, secondReports, firstMemory, secondMemory, ?_⟩
  next =>
    obtain ⟨one, two, cores⟩ :=
      List.length_eq_two.mp (length_turns (pair memory first second) schedule)
    rw [cores] at firstCore secondCore ⊢
    rw [Option.some.inj firstCore, Option.some.inj secondCore]
  next =>
    intro bus turn other different
    rw [step]
    split
    next => exact bus.cores_put_ne _ different
    next => rfl

-- A store to an address that X moves, and an opcode that is not official after it.
def storing : Memory :=
  ((Memory.blank.write 0 0x95).write 1 0x10).write 2 0x02

def storer (x a : Byte) : Core where
  x := x
  a := a
  settings := Core.factorySettings

theorem storer_footprint (x a : Byte) :
    ((storer x a).alone storing).instruction? = some ⟨.sta, .zeroPageX⟩ ∧
      ((storer x a).alone storing).reads = [0, 1] ∧
      ((storer x a).alone storing).writes = [(0x10 + x).extend] := by
  have code : storing.read 0 = 0x95 ∧ storing.read 1 = 0x10 := by
    simp [storing, Memory.read_write]
  have decoded : ((storer x a).alone storing).instruction? = some ⟨.sta, .zeroPageX⟩ :=
    congrArg Instruction.decode code.1
  refine ⟨decoded, ?_, ?_⟩
  next =>
    rw [Machine.reads, decoded]
    rfl
  next =>
    rw [Machine.writes_of_decode decoded]
    change [(storing.read 1 + x).extend] = _
    rw [code.2]

theorem storer_refusal :
    (((storer 0 0x11).alone storing).after 1).reads = [2] ∧
      (((storer 0 0x11).alone storing).after 1).writes = [] ∧
      (((storer 0 0x11).alone storing).after 2).pc = 3 := by
  obtain ⟨decoded, _, writes⟩ := storer_footprint 0 0x11
  have missed : (2 : Address) ∉ ((storer 0 0x11).alone storing).writes := by
    rw [writes]
    decide
  have place : (((storer 0 0x11).alone storing).after 1).pc = 2 := Machine.pc_step decoded rfl
  have kept : (((storer 0 0x11).alone storing).after 1).memory.read 2 = 0x02 :=
    (Machine.read_step_outside _ missed).trans (Memory.read_write_same _ _ _)
  have refused : (((storer 0 0x11).alone storing).after 1).instruction? = none := by
    rw [Machine.instruction?, Machine.opcode, place, kept]
    rfl
  have past := congrArg (·.machine.pc) (Machine.step_eq_refused refused)
  obtain ⟨reads, writes⟩ := Machine.footprint_of_refused refused
  rw [place] at reads
  refine ⟨reads, writes, past.trans ?_⟩
  rw [place]
  rfl

theorem storers_interleave :
    ((storer 0 0x11).alone storing).writeSet 2 = {0x10} ∧
      ((storer 1 0x22).alone storing).writeSet 1 = {0x11} ∧
      (pair storing (storer 0 0x11) (storer 1 0x22)).turns [0, 1, 0] =
        (pair storing (storer 0 0x11) (storer 1 0x22)).turns [0, 0, 1] ∧
      (pair storing (storer 0 0x11) (storer 1 0x22)).reports 0 [0, 1, 0] =
        (pair storing (storer 0 0x11) (storer 1 0x22)).reports 0 [0, 0, 1] ∧
      ((pair storing (storer 0 0x11) (storer 1 0x22)).turns [0, 1, 0]).cores.map Core.pc = [3, 2] ∧
      (pair storing (storer 0 0x11) (storer 1 0x22)).reports 1 [0, 1, 0] =
        ((storer 1 0x22).alone storing).reports 1 ∧
      ((pair storing (storer 0 0x11) (storer 1 0x22)).turns [0, 1, 0]).memory.read 0x11 =
        (((storer 1 0x22).alone storing).after 1).memory.read 0x11 := by
  obtain ⟨_, firstReads, firstWrites⟩ := storer_footprint 0 0x11
  obtain ⟨secondDecoded, secondReads, secondWrites⟩ := storer_footprint 1 0x22
  obtain ⟨laterReads, laterWrites, idled⟩ := storer_refusal
  have cells : (0x10 + 0 : Byte).extend = 0x10 ∧ (0x10 + 1 : Byte).extend = 0x11 := by decide
  have firstSet : ((storer 0 0x11).alone storing).writeSet 2 = {0x10} := by
    rw [Machine.writeSet_succ, Machine.writeSet_succ, laterWrites, Machine.after, firstWrites,
      cells.1]
    ext address
    simp
  have secondSet : ((storer 1 0x22).alone storing).writeSet 1 = {0x11} := by
    rw [Machine.writeSet_succ, Machine.after, secondWrites, cells.2]
    ext address
    simp
  have firstLooks : ((storer 0 0x11).alone storing).readSet 2 = {2, 0, 1} := by
    rw [Machine.readSet_succ, Machine.readSet_succ, laterReads, Machine.after, firstReads]
    ext address
    simp
  have secondLooks : ((storer 1 0x22).alone storing).readSet 1 = {0, 1} := by
    rw [Machine.readSet_succ, Machine.after, secondReads]
    ext address
    simp
  have ordered := interleaving_eq_sequence storing (storer 0 0x11) (storer 1 0x22) 2 1 [0, 1, 0]
    (by decide) (by rw [firstSet, secondSet, secondLooks]; simp)
    (by rw [firstSet, secondSet, firstLooks]; simp)
  obtain ⟨state, reports, cores, _, secondReports, _, secondMemory, _⟩ := ordered
  refine ⟨firstSet, secondSet, state, reports 0, ?_, secondReports, secondMemory 0x11 ?_⟩
  next =>
    have stored : (((storer 1 0x22).alone storing).after 1).pc = 2 :=
      Machine.pc_step secondDecoded rfl
    rw [cores, List.map_cons, List.map_cons, idled, stored]
    rfl
  next =>
    rw [firstSet, Set.mem_singleton_iff]
    decide

end Bus

end Mos6502
