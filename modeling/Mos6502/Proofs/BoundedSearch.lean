import Mos6502.Machine.Run
import Mos6502.Proofs.StepRun

set_option autoImplicit false

namespace Mos6502

def Search.following (later : Search) (printed : List String) (steps : Nat) : Search where
  machine := later.machine
  printed := printed ++ later.printed
  result := later.result.map (· + steps)

theorem Search.following_nil (search : Search) : search.following [] 0 = search := by
  obtain ⟨machine, printed, result⟩ := search
  cases result <;> rfl

theorem Search.following_following (last : Search) (first second : List String)
    (firstSteps secondSteps : Nat) :
    (last.following second secondSteps).following first firstSteps =
      last.following (first ++ second) (firstSteps + secondSteps) := by
  obtain ⟨machine, printed, result⟩ := last
  cases result with
  | error fault => simp [following, Except.map]
  | ok steps => simp [following, Except.map, Nat.add_comm, Nat.add_left_comm]

namespace Machine

-- An integer that is no address is never reached.
def IsAt (machine : Machine) (stop : Int) : Prop :=
  (machine.pc.toNat : Int) = stop

instance (machine : Machine) (stop : Int) : Decidable (machine.IsAt stop) :=
  inferInstanceAs (Decidable (_ = _))

def Passes (machine : Machine) (stop : Int) (count : Nat) : Prop :=
  ∀ index < count, ¬(machine.after index).IsAt stop ∧ (machine.after index).step.fault = none

structure FirstHit (machine : Machine) (stop : Int) (count : Nat) : Prop where
  passes : machine.Passes stop count
  hit : (machine.after count).IsAt stop

structure FirstFault (machine : Machine) (stop : Int) (count : Nat) : Prop where
  passes : machine.Passes stop count
  missed : ¬(machine.after count).IsAt stop
  failed : (machine.after count).step.fault ≠ none

structure GivesUp (machine : Machine) (stop : Int) (count : Nat) : Prop where
  passes : machine.Passes stop count
  missed : ¬(machine.after count).IsAt stop

def refusal (machine : Machine) : Fault :=
  .unimplementedOpcode machine.opcode.toNat (some machine.pc.toNat)

def stopped (machine : Machine) (steps : Nat) (result : Except Fault Nat) : Search where
  machine := machine.after steps
  printed := machine.traces steps
  result := result

variable {machine : Machine} {stop : Int} {count : Nat}

theorem stopped_following (machine : Machine) (first later : Nat) (result : Except Fault Nat) :
    ((machine.after first).stopped later result).following (machine.traces first) first =
      machine.stopped (first + later) (result.map (· + first)) := by
  simp only [Search.following, stopped, after_add, traces_add]

theorem Passes.zero (machine : Machine) (stop : Int) : machine.Passes stop 0 := nofun

theorem Passes.succ (passes : machine.Passes stop count)
    (missed : ¬(machine.after count).IsAt stop)
    (succeeded : (machine.after count).step.fault = none) : machine.Passes stop (count + 1) := by
  intro index within
  rcases Nat.lt_succ_iff_lt_or_eq.mp within with earlier | rfl
  next => exact passes index earlier
  next => exact ⟨missed, succeeded⟩

theorem fault_eq_refusal (failed : machine.step.fault ≠ none) :
    machine.step.fault = some machine.refusal := by
  cases found : machine.instruction? with
  | none => exact congrArg Effect.fault (step_eq_refused found)
  | some instruction => exact absurd (congrArg Effect.fault (step_of_decode found)) failed

section Search

variable {limit : Nat}

theorem search_of_hit (hit : machine.IsAt stop) :
    machine.search stop limit = machine.stopped 0 (.ok 0) := by
  cases limit <;> exact if_pos hit

theorem search_zero_of_missed (missed : ¬machine.IsAt stop) :
    machine.search stop 0 = machine.stopped 0 (.error (.stopNotReached stop)) :=
  if_neg missed

theorem search_of_fault (missed : ¬machine.IsAt stop) (failed : machine.step.fault ≠ none) :
    machine.search stop (limit + 1) = machine.stopped 1 (.error machine.refusal) := by
  have away : ¬(machine.pc.toNat : Int) = stop := missed
  simp only [search, away, if_false, fault_eq_refusal failed, stopped, traces_one]
  rfl

theorem search_of_success (missed : ¬machine.IsAt stop) (succeeded : machine.step.fault = none) :
    machine.search stop (limit + 1) =
      (machine.step.machine.search stop limit).following machine.traceLines 1 := by
  have away : ¬(machine.pc.toNat : Int) = stop := missed
  simp only [search, away, if_false, succeeded]
  rfl

theorem search_of_passes (passes : machine.Passes stop count) :
    machine.search stop (count + limit) =
      ((machine.after count).search stop limit).following (machine.traces count) count := by
  -- on the last of the steps passed, which leaves one more of the limit
  induction count generalizing limit with
  | zero =>
    rw [Nat.zero_add]
    exact (Search.following_nil _).symm
  | succ count ih =>
    have earlier : machine.Passes stop count := fun index within =>
      passes index (Nat.lt_succ_of_lt within)
    obtain ⟨missed, succeeded⟩ := passes count (Nat.lt_succ_self count)
    rw [Nat.add_assoc, Nat.add_comm 1, ih earlier, search_of_success missed succeeded,
      Search.following_following, traces_succ]
    rfl

theorem search_of_firstHit (reached : machine.FirstHit stop count) (within : count ≤ limit) :
    machine.search stop limit = machine.stopped count (.ok count) := by
  obtain ⟨more, rfl⟩ := Nat.exists_eq_add_of_le within
  rw [search_of_passes reached.passes, search_of_hit reached.hit, stopped_following]
  simp [Except.map]

theorem search_of_firstFault (fails : machine.FirstFault stop count) (within : count < limit) :
    machine.search stop limit =
      machine.stopped (count + 1) (.error (machine.after count).refusal) := by
  obtain ⟨more, rfl⟩ := Nat.exists_eq_add_of_lt within
  rw [Nat.add_assoc, search_of_passes fails.passes, search_of_fault fails.missed fails.failed,
    stopped_following]
  rfl

theorem search_of_givesUp (givesUp : machine.GivesUp stop count) :
    machine.search stop count = machine.stopped count (.error (.stopNotReached stop)) := by
  have split : machine.search stop (count + 0) = _ := search_of_passes givesUp.passes
  rwa [search_zero_of_missed givesUp.missed, stopped_following] at split

end Search

theorem search_cases (machine : Machine) (stop : Int) (limit : Nat) :
    (∃ count ≤ limit, machine.FirstHit stop count) ∨
      (∃ count < limit, machine.FirstFault stop count) ∨ machine.GivesUp stop limit := by
  induction limit with
  | zero =>
    by_cases hit : machine.IsAt stop
    next => exact .inl ⟨0, Nat.le_refl 0, .zero machine stop, hit⟩
    next => exact .inr (.inr ⟨.zero machine stop, hit⟩)
  | succ limit ih =>
    rcases ih with ⟨count, within, reached⟩ | ⟨count, within, fails⟩ | ⟨passes, missed⟩
    next => exact .inl ⟨count, Nat.le_succ_of_le within, reached⟩
    next => exact .inr (.inl ⟨count, Nat.lt_succ_of_lt within, fails⟩)
    next =>
      by_cases succeeded : (machine.after limit).step.fault = none
      next =>
        have further := passes.succ missed succeeded
        by_cases hit : (machine.after (limit + 1)).IsAt stop
        next => exact .inl ⟨limit + 1, Nat.le_refl _, further, hit⟩
        next => exact .inr (.inr ⟨further, hit⟩)
      next => exact .inr (.inl ⟨limit, Nat.lt_succ_self limit, passes, missed, succeeded⟩)

theorem firstHit_of_ok {limit : Nat} (succeeded : (machine.search stop limit).result = .ok count) :
    machine.FirstHit stop count ∧ count ≤ limit := by
  rcases machine.search_cases stop limit with
    ⟨reach, within, reached⟩ | ⟨reach, within, fails⟩ | givesUp
  next =>
    rw [search_of_firstHit reached within] at succeeded
    obtain rfl : reach = count := Except.ok.inj succeeded
    exact ⟨reached, within⟩
  next =>
    rw [search_of_firstFault fails within] at succeeded
    cases succeeded
  next =>
    rw [search_of_givesUp givesUp] at succeeded
    cases succeeded

theorem givesUp_of_limit {limit : Nat}
    (ended : (machine.search stop limit).result = .error (.stopNotReached stop)) :
    machine.GivesUp stop limit := by
  rcases machine.search_cases stop limit with
    ⟨reach, within, reached⟩ | ⟨reach, within, fails⟩ | givesUp
  next =>
    rw [search_of_firstHit reached within] at ended
    cases ended
  next =>
    rw [search_of_firstFault fails within] at ended
    cases ended
  next => exact givesUp

theorem search_of_wider {limit larger : Nat} (wider : limit ≤ larger)
    (ended : (machine.search stop limit).result ≠ .error (.stopNotReached stop)) :
    machine.search stop larger = machine.search stop limit := by
  rcases machine.search_cases stop limit with
    ⟨reach, within, reached⟩ | ⟨reach, within, fails⟩ | givesUp
  next =>
    rw [search_of_firstHit reached (Nat.le_trans within wider), search_of_firstHit reached within]
  next =>
    rw [search_of_firstFault fails (Nat.lt_of_lt_of_le within wider),
      search_of_firstFault fails within]
  next => exact absurd (congrArg Search.result (search_of_givesUp givesUp)) ended

theorem search_again {limit : Nat} (succeeded : (machine.search stop limit).result = .ok count)
    (again : Nat) :
    (machine.search stop limit).machine.search stop again =
      (machine.search stop limit).machine.stopped 0 (.ok 0) := by
  obtain ⟨reached, within⟩ := firstHit_of_ok succeeded
  rw [search_of_firstHit reached within]
  exact search_of_hit reached.hit

-- A larger limit only changes a search that its own limit ended.
theorem runUntil_conforms (machine : Machine) (stop limit : Int) :
    (∃ (steps : Nat) (result : Except Fault Nat), (steps : Int) ≤ max 0 limit ∧
      machine.runUntil stop limit = machine.stopped steps result) ∧
    (∀ count, machine.FirstHit stop count → count = 0 ∨ (count : Int) ≤ limit →
      machine.runUntil stop limit = machine.stopped count (.ok count)) ∧
    (∀ count, machine.FirstFault stop count → (count : Int) < limit →
      machine.runUntil stop limit =
        machine.stopped (count + 1) (.error (machine.after count).refusal)) ∧
    ((∀ count, machine.FirstHit stop count → ¬(count = 0 ∨ (count : Int) ≤ limit)) →
      (∀ count, machine.FirstFault stop count → ¬(count : Int) < limit) →
        machine.runUntil stop limit =
          machine.stopped limit.toNat (.error (.stopNotReached stop))) ∧
    (∀ larger, limit ≤ larger →
      (machine.runUntil stop limit).result ≠ .error (.stopNotReached stop) →
        machine.runUntil stop larger = machine.runUntil stop limit) ∧
    (∀ count again, (machine.runUntil stop limit).result = .ok count →
      (machine.runUntil stop limit).machine.runUntil stop again =
        (machine.runUntil stop limit).machine.stopped 0 (.ok 0)) ∧
    ∀ more, 0 ≤ limit → 0 ≤ more →
      (machine.runUntil stop limit).result = .error (.stopNotReached stop) →
        machine.runUntil stop (limit + more) =
          ((machine.runUntil stop limit).machine.runUntil stop more).following
            (machine.runUntil stop limit).printed limit.toNat := by
  have ends := machine.search_cases stop limit.toNat
  refine ⟨?_, fun count reached within => search_of_firstHit reached (by omega),
    fun count fails within => search_of_firstFault fails (by omega), fun noHit noFault => ?_,
    fun larger wider ended => search_of_wider (by omega) ended,
    fun count again succeeded => search_again succeeded again.toNat,
    fun more positive furtherPositive ended => ?_⟩
  next =>
    rcases ends with ⟨count, within, reached⟩ | ⟨count, within, fails⟩ | givesUp
    next => exact ⟨count, _, by omega, search_of_firstHit reached within⟩
    next => exact ⟨count + 1, _, by omega, search_of_firstFault fails within⟩
    next => exact ⟨limit.toNat, _, by omega, search_of_givesUp givesUp⟩
  next =>
    rcases ends with ⟨count, within, reached⟩ | ⟨count, within, fails⟩ | givesUp
    next => exact absurd (by omega) (noHit count reached)
    next => exact absurd (by omega) (noFault count fails)
    next => exact search_of_givesUp givesUp
  next =>
    have givesUp := givesUp_of_limit ended
    rw [runUntil, runUntil, runUntil, search_of_givesUp givesUp,
      Int.toNat_add positive furtherPositive]
    exact search_of_passes givesUp.passes

-- The opcode after the idle one is refused, on the way to the address after it.
def idleThenUnknown : Machine where
  settings := Core.factorySettings
  memory := (Memory.blank.write 0 0xea).write 1 0x02

theorem idleThenUnknown_search :
    (idleThenUnknown.runUntil 1 1).result = .ok 1 ∧
      (idleThenUnknown.runUntil 2 5).result = .error (.unimplementedOpcode 2 (some 1)) ∧
      (idleThenUnknown.runUntil 2 5).machine.pc = 2 ∧
      (idleThenUnknown.runUntil 2 1).result = .error (.stopNotReached 2) ∧
      idleThenUnknown.runUntil 2 (1 + 4) =
        ((idleThenUnknown.runUntil 2 1).machine.runUntil 2 4).following
          (idleThenUnknown.runUntil 2 1).printed 1 := by
  have code : idleThenUnknown.memory.read 0 = 0xea ∧ idleThenUnknown.memory.read 1 = 0x02 := by
    simp [idleThenUnknown, Memory.read_write]
  have idles : idleThenUnknown.instruction? = some ⟨.nop, .implied⟩ :=
    congrArg Instruction.decode code.1
  have idled : idleThenUnknown.step.fault = none := congrArg Effect.fault (step_of_decode idles)
  have next : idleThenUnknown.after 1 = { idleThenUnknown with
      pc := 1, lastInstruction := some 0xea, instructionCount := 1 } := by
    rw [after, after, machine_step_of_decode idles, ← code.1]
    rfl
  have unknown : (idleThenUnknown.after 1).instruction? = none := by
    rw [next]
    exact congrArg Instruction.decode code.2
  have refused := congrArg Effect.fault (step_eq_refused unknown)
  have passes (stop : Int) (away : (0 : Int) ≠ stop) : idleThenUnknown.Passes stop 1 :=
    (Passes.zero _ stop).succ away idled
  have missed : ¬(idleThenUnknown.after 1).IsAt 2 := by
    rw [next]
    decide
  have hit := (runUntil_conforms idleThenUnknown 1 1).2.1 1
    ⟨passes 1 (by decide), by rw [next]; decide⟩ (.inr (by decide))
  have fails := (runUntil_conforms idleThenUnknown 2 5).2.2.1 1
    ⟨passes 2 (by decide), missed, by rw [refused]; exact Option.some_ne_none _⟩ (by decide)
  have ended : (idleThenUnknown.runUntil 2 1).result = .error (.stopNotReached 2) :=
    congrArg Search.result (search_of_givesUp ⟨passes 2 (by decide), missed⟩)
  refine ⟨congrArg Search.result hit, ?_, ?_, ended,
    (runUntil_conforms idleThenUnknown 2 1).2.2.2.2.2.2 4 (by decide) (by decide) ended⟩
  next =>
    rw [fails, next]
    change Except.error (Fault.unimplementedOpcode (idleThenUnknown.memory.read 1).toNat _) = _
    rw [code.2]
    rfl
  next =>
    have moved : (idleThenUnknown.after 1).step.machine.pc = (idleThenUnknown.after 1).pc + 1 :=
      congrArg (·.machine.pc) (step_eq_refused unknown)
    rw [fails, stopped, after, moved, next]
    rfl

end Machine

end Mos6502
