import Mos6502.Machine.Run
import Mos6502.Proofs.Numerals
import Mos6502.Proofs.StatusMarks
import Mos6502.Proofs.StepRun

set_option autoImplicit false

namespace Mos6502

namespace Core

structure Snapshot where
  instructionCount : Nat
  pc : Address
  register : Register → Byte
  status : Status

def snapshot (core : Core) : Snapshot where
  instructionCount := core.instructionCount
  pc := core.pc
  register := core.register
  status := core.status

structure TraceFields where
  count : List Char
  pc : List Char
  register : Register → List Char
  status : List Char

namespace TraceFields

def line (fields : TraceFields) : String :=
  .ofList fields.count ++ ",PC=$" ++ .ofList fields.pc ++
    ",A=$" ++ .ofList (fields.register .a) ++ ",X=$" ++ .ofList (fields.register .x) ++
    ",Y=$" ++ .ofList (fields.register .y) ++ ",SP=$" ++ .ofList (fields.register .sp) ++
    ",P=%" ++ .ofList fields.status

structure Shows (fields : TraceFields) (snapshot : Snapshot) : Prop where
  count : Text.Shows 10 8 snapshot.instructionCount fields.count
  pc : Text.ShowsExactly 16 4 snapshot.pc.toNat fields.pc
  register : ∀ register,
    Text.ShowsExactly 16 2 (snapshot.register register).toNat (fields.register register)
  status : Text.ShowsExactly 2 8 snapshot.status.toByte.toNat fields.status

theorem Shows.unique {fields : TraceFields} {left right : Snapshot} (showsLeft : fields.Shows left)
    (showsRight : fields.Shows right) : left = right := by
  have count := showsLeft.count.unique showsRight.count
  have pc := BitVec.eq_of_toNat_eq (showsLeft.pc.unique showsRight.pc.toShows)
  have register : left.register = right.register := by
    funext which
    exact BitVec.eq_of_toNat_eq
      ((showsLeft.register which).unique (showsRight.register which).toShows)
  have byte := BitVec.eq_of_toNat_eq (showsLeft.status.unique showsRight.status.toShows)
  have status : left.status = right.status := by
    rw [← left.status.ofByte_toByte, byte, Status.ofByte_toByte]
  cases left
  simp only at count pc register status
  rw [count, pc, register, status]

theorem split_last {front otherFront label last otherLast : List Char}
    (same : front ++ label ++ last = otherFront ++ label ++ otherLast)
    (length : last.length = otherLast.length) : front = otherFront ∧ last = otherLast := by
  obtain ⟨labelled, lasts⟩ := List.append_inj' same length
  exact ⟨List.append_cancel_right labelled, lasts⟩

theorem eq_of_line_eq {left right : TraceFields} {first second : Snapshot}
    (showsLeft : left.Shows first) (showsRight : right.Shows second)
    (same : left.line = right.line) : left = right := by
  have length (which : Register) : (left.register which).length = (right.register which).length :=
    (showsLeft.register which).exact.trans (showsRight.register which).exact.symm
  have texts := congrArg String.toList same
  simp only [line, String.toList_append, String.toList_ofList] at texts
  -- Only the count has no fixed length, so the fields come apart from the last one on.
  obtain ⟨texts, status⟩ := split_last texts
    (showsLeft.status.exact.trans showsRight.status.exact.symm)
  obtain ⟨texts, sp⟩ := split_last texts (length .sp)
  obtain ⟨texts, y⟩ := split_last texts (length .y)
  obtain ⟨texts, x⟩ := split_last texts (length .x)
  obtain ⟨texts, a⟩ := split_last texts (length .a)
  obtain ⟨count, pc⟩ := split_last texts (showsLeft.pc.exact.trans showsRight.pc.exact.symm)
  have register : left.register = right.register := by
    funext which
    cases which
    case a => exact a
    case x => exact x
    case y => exact y
    case sp => exact sp
  cases left
  simp only at count pc register status
  rw [count, pc, register, status]

end TraceFields

theorem trace_shows (core : Core) :
    ∃ fields : TraceFields, fields.Shows core.snapshot ∧ core.trace = fields.line := by
  refine ⟨⟨Text.numeral 10 8 core.instructionCount, Text.numeral 16 4 core.pc.toNat,
    fun register => Text.numeral 16 2 (core.register register).toNat,
    Text.numeral 2 8 core.status.toByte.toNat⟩, ⟨?_, ?_, ?_, ?_⟩, rfl⟩
  next => exact Text.numeral_shows (by decide) (by decide) (by decide) _
  next => exact Text.numeral_showsExactly (by decide) (by decide) (by decide) core.pc.isLt
  next =>
    intro register
    exact Text.numeral_showsExactly (by decide) (by decide) (by decide)
      (core.register register).isLt
  next =>
    exact Text.numeral_showsExactly (by decide) (by decide) (by decide) core.status.toByte.isLt

theorem trace_injective {left right : Core} (same : left.trace = right.trace) :
    left.snapshot = right.snapshot := by
  obtain ⟨leftFields, showsLeft, leftLine⟩ := left.trace_shows
  obtain ⟨rightFields, showsRight, rightLine⟩ := right.trace_shows
  have lines : leftFields.line = rightFields.line := by rw [← leftLine, ← rightLine, same]
  obtain rfl := TraceFields.eq_of_line_eq showsLeft showsRight lines
  exact showsLeft.unique showsRight

end Core

namespace Journey

def attempted (journey : Journey) : Nat :=
  journey.visited.length + journey.fault.toList.length

end Journey

namespace Machine

structure DebugsOnly (traced silent : Machine) : Prop where
  rest : silent = traced.withSettings silent.settings
  known : silent.settings.known = traced.settings.known
  others : ∀ name, name ≠ Core.debug → silent.settings.get? name = traced.settings.get? name
  traces : traced.settings.enabled Core.debug = true
  silences : silent.settings.enabled Core.debug = false

def history (machine : Machine) (count : Nat) : List Core.Snapshot :=
  (List.range count).map fun index => (machine.after index).snapshot

section Run

variable {machine : Machine}

theorem run_of_fault {fault : Fault} (failed : machine.step.fault = some fault) (limit : Nat) :
    machine.run (limit + 1) = { machine.step with } := by
  simp only [run, failed]

theorem run_of_success (succeeded : machine.step.fault = none) (limit : Nat) :
    machine.run (limit + 1) =
      { machine.step.machine.run limit with
        printed := machine.step.printed ++ (machine.step.machine.run limit).printed
        visited := machine.step.machine.toCore :: (machine.step.machine.run limit).visited } := by
  simp only [run, succeeded]

theorem run_eq_after (machine : Machine) (limit : Nat) :
    (machine.run limit).machine = machine.after (machine.run limit).attempted ∧
      (machine.run limit).printed = machine.traces (machine.run limit).attempted := by
  induction limit generalizing machine with
  | zero => exact ⟨rfl, rfl⟩
  | succ limit ih =>
    cases outcome : machine.step.fault with
    | some fault =>
      have once : (machine.run (limit + 1)).attempted = 1 := by
        rw [run_of_fault outcome, Journey.attempted, outcome]
        rfl
      rw [once, run_of_fault outcome, traces_one]
      exact ⟨rfl, rfl⟩
    | none =>
      have more : (machine.run (limit + 1)).attempted =
          1 + (machine.step.machine.run limit).attempted := by
        rw [run_of_success outcome, Journey.attempted, List.length_cons, Nat.add_right_comm]
        exact Nat.add_comm _ _
      obtain ⟨reached, printed⟩ := ih machine.step.machine
      rw [more, run_of_success outcome, after_add, traces_add, traces_one]
      exact ⟨reached, congrArg (machine.traceLines ++ ·) printed⟩

end Run

section Settings

variable {machine : Machine} {settings : Settings}

theorem run_withSettings
    (saves : settings.enabled Core.breakPushesState =
      machine.settings.enabled Core.breakPushesState) (limit : Nat) :
    ((machine.withSettings settings).run limit).toEffect =
        { machine := (machine.run limit).machine.withSettings settings
          fault := (machine.run limit).fault } ∧
      ((machine.withSettings settings).run limit).visited =
        (machine.run limit).visited.map fun core => { core with settings := settings } := by
  induction limit generalizing machine with
  | zero => exact ⟨rfl, rfl⟩
  | succ limit ih =>
    have stepped := machine.step_withSettings fun _ _ _ => saves
    have machines := congrArg Effect.machine stepped
    have faults := congrArg Effect.fault stepped
    cases outcome : machine.step.fault with
    | some fault =>
      rw [run_of_fault outcome, run_of_fault (faults.trans outcome)]
      exact ⟨stepped, rfl⟩
    | none =>
      have saving : settings.enabled Core.breakPushesState =
          machine.step.machine.settings.enabled Core.breakPushesState := by
        rw [saves, settings_step]
      obtain ⟨effect, visited⟩ := ih saving
      rw [run_of_success outcome, run_of_success (faults.trans outcome), machines]
      exact ⟨effect, congrArg (List.cons _) visited⟩

end Settings

theorem printed_run (machine : Machine) (limit : Nat) :
    (machine.run limit).printed =
      if machine.settings.enabled Core.debug then
        (List.range (machine.run limit).attempted).map fun index => (machine.after index).trace
      else [] := by
  rw [(machine.run_eq_after limit).2]
  simp only [traces, traceLines, settings_after]
  split
  next => exact List.map_eq_flatMap.symm
  next => simp

theorem history_eq_of_traces {left right : Machine} {leftCount rightCount : Nat}
    (same : (List.range leftCount).map (fun index => (left.after index).trace) =
      (List.range rightCount).map fun index => (right.after index).trace) :
    left.history leftCount = right.history rightCount := by
  have counts : leftCount = rightCount := by simpa using congrArg List.length same
  subst counts
  have lines := List.map_inj_left.mp same
  exact List.map_congr_left fun index within => Core.trace_injective (lines index within)

-- The line of a step shows the registers before it, and so tells them all.
theorem trace_observes {traced silent : Machine} (same : traced.DebugsOnly silent) (limit : Nat) :
    let loud := traced.run limit
    let quiet := silent.run limit
    (quiet.machine = loud.machine.withSettings silent.settings ∧ quiet.fault = loud.fault ∧
      quiet.visited = loud.visited.map fun core => { core with settings := silent.settings }) ∧
    quiet.printed = [] ∧
    loud.machine = traced.after loud.attempted ∧
    loud.printed = (List.range loud.attempted).map (fun index => (traced.after index).trace) ∧
    (∀ core : Core, ∃ fields : Core.TraceFields, fields.Shows core.snapshot ∧
      core.trace = fields.line) ∧
    (∀ left right : Core, left.trace = right.trace → left.snapshot = right.snapshot) ∧
    ∀ (other : Machine) (otherLimit : Nat), other.settings.enabled Core.debug →
      (other.run otherLimit).printed = loud.printed →
        other.history (other.run otherLimit).attempted = traced.history loud.attempted := by
  have saves : silent.settings.enabled Core.breakPushesState =
      traced.settings.enabled Core.breakPushesState := by
    rw [Settings.enabled, same.others Core.breakPushesState (by decide), Settings.enabled]
  have lines (machine : Machine) (traces : machine.settings.enabled Core.debug) (limit : Nat) :=
    (machine.printed_run limit).trans (if_pos traces)
  intro loud quiet
  have ran := run_withSettings saves limit
  rw [← same.rest] at ran
  have machines := congrArg Effect.machine ran.1
  have faults := congrArg Effect.fault ran.1
  refine ⟨⟨machines, faults, ran.2⟩, ?_,
    (traced.run_eq_after limit).1, lines traced same.traces limit, Core.trace_shows,
    fun left right => Core.trace_injective, ?_⟩
  next => exact (silent.printed_run limit).trans (if_neg (ne_true_of_eq_false same.silences))
  next =>
    intro other otherLimit traces printed
    rw [lines other traces, lines traced same.traces] at printed
    exact history_eq_of_traces printed

-- The count outgrows its eight digits, and then an opcode is unknown.
def countedOut : Machine where
  instructionCount := 99999999
  settings := Core.factorySettings.put Core.debug (.bool true)
  memory := (Memory.blank.write 0 0xea).write 1 0x02

theorem countedOut_traced :
    let silent := countedOut.withSettings Core.factorySettings
    (silent.run 3).printed = [] ∧ (silent.run 3).fault = (countedOut.run 3).fault ∧
    (countedOut.run 3).printed =
      ["99999999,PC=$0000,A=$00,X=$00,Y=$00,SP=$fd,P=%00100100",
        "100000000,PC=$0001,A=$00,X=$00,Y=$00,SP=$fd,P=%00100100"] := by
  intro silent
  have same : countedOut.DebugsOnly silent := by
    refine ⟨rfl, rfl, fun name other => ?_, by decide, by decide⟩
    exact ((Core.factorySettings.get_put Core.debug _ name).trans (if_neg other)).symm
  have code : countedOut.memory.read 0 = 0xea ∧ countedOut.memory.read 1 = 0x02 := by
    simp [countedOut, Memory.read_write]
  have idles : countedOut.instruction? = some ⟨.nop, .implied⟩ :=
    congrArg Instruction.decode code.1
  have idled : countedOut.step.fault = none := congrArg Effect.fault (step_of_decode idles)
  have next := machine_step_of_decode idles
  have unknown : countedOut.step.machine.instruction? = none := by
    rw [next]
    exact congrArg Instruction.decode code.2
  have refused := congrArg Effect.fault (step_eq_refused unknown)
  have attempted : (countedOut.run 3).attempted = 2 := by
    rw [run_of_success idled, run_of_fault refused, Journey.attempted, refused]
    rfl
  have observed := trace_observes same 3
  have printed := observed.2.2.2.1
  rw [attempted] at printed
  refine ⟨observed.2.1, observed.1.2.1, printed.trans ?_⟩
  change [countedOut.trace, countedOut.step.machine.trace] = _
  rw [next]
  rfl

end Machine

end Mos6502
