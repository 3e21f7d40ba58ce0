import Mos6502.Proofs.StatusMarks

set_option autoImplicit false

namespace Mos6502

theorem Status.ofByte_pushed (status : Status) :
    ofByte status.pushed = { status with brk := true, unused := true } := by
  rw [pushed, ofByte_toByte]

namespace Mnemonic

def silent : List Mnemonic :=
  [.sta, .stx, .sty, .txs, .nop, .pha, .php, .bcc, .bcs, .beq, .bne, .bmi, .bpl, .bvc, .bvs,
    .jmp, .jsr, .rts]

variable {mnemonic : Mnemonic} (value : Byte) (machine : Machine)

theorem marks_silent (quiet : mnemonic ∈ silent) :
    mnemonic.operation.marks value machine = .still := by
  cases mnemonic
  case sta | stx | sty | txs | nop | pha | php | bcc | bcs | beq | bne | bmi | bpl | bvc | bvs
    | jmp | jsr | rts => rfl
  all_goals simp [silent] at quiet

theorem marks_unused (loud : mnemonic ∉ silent) :
    mnemonic.operation.marks value machine .unused = some true := by
  cases mnemonic
  case sta | stx | sty | txs | nop | pha | php | bcc | bcs | beq | bne | bmi | bpl | bvc | bvs
    | jmp | jsr | rts => simp [silent] at loud
  case brk =>
    rw [operation, Operation.marks]
    split <;> rfl
  all_goals rfl

theorem breaks_of_marks (raised : mnemonic.operation.marks value machine .brk = some true) :
    mnemonic = .brk ∧ machine.settings.enabled Core.breakPushesState = false := by
  cases mnemonic
  case brk =>
    refine ⟨rfl, eq_false_of_ne_true fun saves => ?_⟩
    rw [operation, Operation.marks, if_pos saves] at raised
    exact absurd raised.symm (Option.some_ne_none true)
  case plp | rti => exact absurd (Option.some.inj raised) Bool.false_ne_true
  all_goals exact absurd raised.symm (Option.some_ne_none true)

theorem pulls_of_marks (cleared : mnemonic.operation.marks value machine .brk = some false) :
    mnemonic = .plp ∨ mnemonic = .rti := by
  cases mnemonic
  case plp => exact .inl rfl
  case rti => exact .inr rfl
  case brk =>
    rw [operation, Operation.marks] at cleared
    split at cleared
    next => exact absurd cleared.symm (Option.some_ne_none false)
    next => exact absurd (Option.some.inj cleared).symm Bool.false_ne_true
  all_goals exact absurd cleared.symm (Option.some_ne_none false)

theorem marks_interrupt : brk.operation.marks value machine .interrupt = some true := by
  rw [operation, Operation.marks]
  split <;> rfl

end Mnemonic

namespace Machine

inductive Command where
  | step
  | reset
  | configure (options : List (String × Value))

def obey (machine : Machine) : Command → Machine
  | .step => machine.step.machine
  | .reset => machine.reset
  | .configure options => machine.withSettings (machine.settings.update options).1

def afterCommands (machine : Machine) (commands : List Command) : Machine :=
  commands.foldl obey machine

def Executes (machine : Machine) (mnemonic : Mnemonic) : Prop :=
  ∃ mode, machine.instruction? = some ⟨mnemonic, mode⟩

structure TreatsStatus (machine : Machine) : Prop where
  refused : machine.step.fault ≠ none → machine.step.machine.status = machine.status
  completed : machine.step.fault = none → ∃ mnemonic, machine.Executes mnemonic ∧
    if mnemonic ∈ Mnemonic.silent then machine.step.machine.status = machine.status
    else machine.step.machine.status.unused = true
  raisesBreak : machine.status.brk = false → machine.step.machine.status.brk = true →
    machine.Executes .brk ∧ machine.settings.enabled Core.breakPushesState = false
  clearsBreak : machine.status.brk = true → machine.step.machine.status.brk = false →
    machine.Executes .plp ∨ machine.Executes .rti
  pushesCopy : machine.Executes .php →
    Status.ofByte (machine.step.machine.memory.read (Layout.stackCell machine.sp)) =
      { machine.status with brk := true, unused := true }
  -- below the two bytes of the program counter
  savesCopy : machine.Executes .brk → machine.settings.enabled Core.breakPushesState →
    Status.ofByte (machine.step.machine.memory.read (Layout.stackCell (machine.sp - 2))) =
      { machine.status with brk := true, unused := true }
  interrupts : machine.Executes .brk → machine.step.machine.status.interrupt = true

variable {machine : Machine} {mnemonic : Mnemonic}

theorem marks_of_executes (executes : machine.Executes mnemonic) :
    ∃ value past, past.settings = machine.settings ∧
      machine.marks = mnemonic.operation.marks value past := by
  obtain ⟨mode, found⟩ := executes
  refine ⟨(machine.pastOperand mode).operandValue (machine.operand mode),
    machine.pastOperand mode, rfl, ?_⟩
  simp only [marks, found, Option.elim_some]

theorem executes_or_refused (machine : Machine) :
    (machine.step.fault = none ∧ ∃ mnemonic, machine.Executes mnemonic) ∨
      machine.step.fault ≠ none ∧ machine.marks = .still := by
  cases found : machine.instruction? with
  | none =>
    refine .inr ⟨?_, by simp only [marks, found, Option.elim_none]⟩
    rw [step_eq_refused found]
    exact Option.some_ne_none _
  | some instruction =>
    refine .inl ⟨?_, instruction.mnemonic, instruction.mode, found⟩
    rw [step_of_decode found]

theorem get_step (machine : Machine) (flag : Flag) :
    machine.step.machine.status.get flag = (machine.marks flag).getD (machine.status.get flag) := by
  rw [status_step, Status.get_mark]

theorem executes_of_changed (flag : Flag) (on : Bool) (before : machine.status.get flag = !on)
    (after : machine.step.machine.status.get flag = on) :
    ∃ mnemonic value past, machine.Executes mnemonic ∧ past.settings = machine.settings ∧
      mnemonic.operation.marks value past flag = some on := by
  rw [get_step, before] at after
  rcases machine.executes_or_refused with ⟨_, mnemonic, executes⟩ | ⟨_, still⟩
  next =>
    obtain ⟨value, past, settings, written⟩ := marks_of_executes executes
    refine ⟨mnemonic, value, past, executes, settings, ?_⟩
    rw [written] at after
    cases marked : mnemonic.operation.marks value past flag with
    | none => simp [marked] at after
    | some written => simpa [marked] using after
  next => simp [still, Marks.still] at after

theorem unused_of_loud (executes : machine.Executes mnemonic)
    (loud : mnemonic ∉ Mnemonic.silent) : machine.step.machine.status.unused = true := by
  obtain ⟨value, past, _, written⟩ := marks_of_executes executes
  have unused := machine.get_step .unused
  rwa [written, Mnemonic.marks_unused _ _ loud] at unused

theorem status_of_silent (executes : machine.Executes mnemonic)
    (quiet : mnemonic ∈ Mnemonic.silent) : machine.step.machine.status = machine.status := by
  obtain ⟨value, past, _, written⟩ := marks_of_executes executes
  rw [status_step, written, Mnemonic.marks_silent _ _ quiet, Status.mark_still]

theorem read_step_saving (breaks : machine.Executes .brk)
    (saves : machine.settings.enabled Core.breakPushesState) :
    machine.step.machine.memory.read (Layout.stackCell (machine.sp - 2)) =
      machine.status.pushed := by
  obtain ⟨mode, found⟩ := breaks
  rw [step_break (Instruction.opcode_of_interrupt found rfl), saves]
  exact machine.read_pushAll (by simp) rfl

theorem treatsStatus (machine : Machine) : machine.TreatsStatus where
  refused := by
    intro failed
    rcases machine.executes_or_refused with ⟨success, _⟩ | ⟨_, still⟩
    next => exact absurd success failed
    next => rw [status_step, still, Status.mark_still]
  completed := by
    intro success
    rcases machine.executes_or_refused with ⟨_, mnemonic, executes⟩ | ⟨failed, _⟩
    next =>
      refine ⟨mnemonic, executes, ?_⟩
      split
      next quiet => exact status_of_silent executes quiet
      next loud => exact unused_of_loud executes loud
    next => exact absurd success failed
  raisesBreak := by
    intro clear raised
    obtain ⟨mnemonic, value, past, executes, settings, marked⟩ :=
      executes_of_changed .brk true clear raised
    obtain ⟨rfl, ignores⟩ := Mnemonic.breaks_of_marks value past marked
    exact ⟨executes, settings ▸ ignores⟩
  clearsBreak := by
    intro set cleared
    obtain ⟨mnemonic, value, past, executes, _, marked⟩ :=
      executes_of_changed .brk false set cleared
    rcases Mnemonic.pulls_of_marks value past marked with rfl | rfl
    next => exact .inl executes
    next => exact .inr executes
  pushesCopy := by
    rintro ⟨mode, found⟩
    rw [machine_step_of_decode found, ← Status.ofByte_pushed]
    exact congrArg Status.ofByte (Memory.read_write_same _ _ _)
  savesCopy := by
    intro breaks saves
    rw [read_step_saving breaks saves, Status.ofByte_pushed]
  interrupts := by
    intro breaks
    obtain ⟨value, past, _, written⟩ := marks_of_executes breaks
    have interrupt := machine.get_step .interrupt
    rwa [written, Mnemonic.marks_interrupt] at interrupt

theorem unused_obey (unused : machine.status.unused = true) (command : Command) :
    (machine.obey command).status.unused = true := by
  cases command with
  | step =>
    rcases machine.executes_or_refused with ⟨success, _⟩ | ⟨failed, _⟩
    next =>
      obtain ⟨mnemonic, executes, kept⟩ := machine.treatsStatus.completed success
      split at kept
      next => exact (congrArg Status.unused kept).trans unused
      next => exact kept
    next => exact (congrArg Status.unused (machine.treatsStatus.refused failed)).trans unused
  | reset => rfl
  | configure options => exact unused

theorem brk_obey (clear : machine.status.brk = false) {command : Command}
    (saves : command = .step → machine.settings.enabled Core.breakPushesState) :
    (machine.obey command).status.brk = false := by
  cases command with
  | step =>
    apply eq_false_of_ne_true
    intro raised
    have ignores := (machine.treatsStatus.raisesBreak clear raised).2
    exact absurd (saves rfl) (ne_true_of_eq_false ignores)
  | reset => rfl
  | configure options => exact clear

def SavesThroughout (machine : Machine) (commands : List Command) : Prop :=
  ∀ done, done ++ [.step] <+: commands →
    (machine.afterCommands done).settings.enabled Core.breakPushesState

theorem afterCommands_append (machine : Machine) (done later : List Command) :
    machine.afterCommands (done ++ later) = (machine.afterCommands done).afterCommands later :=
  List.foldl_append

theorem unused_afterCommands (unused : machine.status.unused = true) (commands : List Command) :
    (machine.afterCommands commands).status.unused = true := by
  induction commands generalizing machine with
  | nil => exact unused
  | cons command later ih => exact ih (unused_obey unused command)

theorem brk_afterCommands {commands : List Command} (clear : machine.status.brk = false)
    (saves : machine.SavesThroughout commands) :
    (machine.afterCommands commands).status.brk = false := by
  induction commands generalizing machine with
  | nil => exact clear
  | cons command later ih =>
    apply ih
    next =>
      apply brk_obey clear
      rintro rfl
      exact saves [] ⟨later, rfl⟩
    next =>
      intro done within
      exact saves (command :: done) ((List.prefix_cons_inj command).mpr within)

-- The break bit stays out of the live status while every break pushes the state.
theorem status_over_commands (machine : Machine) (commands : List Command) :
    (∀ done, done <+: commands → (machine.afterCommands done).status.unused = true →
      (machine.afterCommands commands).status.unused = true) ∧
    (machine.status.brk = false → machine.SavesThroughout commands →
      ∀ done, done <+: commands → (machine.afterCommands done).status.brk = false) ∧
    (machine.afterCommands commands).TreatsStatus := by
  refine ⟨?_, ?_, treatsStatus _⟩
  next =>
    rintro done ⟨later, rfl⟩ unused
    rw [afterCommands_append]
    exact unused_afterCommands unused later
  next =>
    intro clear saves done within
    exact brk_afterCommands clear fun start earlier => saves start (earlier.trans within)

def savedBreaks : List Command :=
  [.configure [("BRK_pushes_state", .bool true)], .step, .reset, .step]

def unmarked : Machine where
  settings := Core.factorySettings
  memory := .blank
  status := { Status.ofByte 0 with unused := true }

theorem unmarked_savedBreaks :
    unmarked.SavesThroughout savedBreaks ∧
    (unmarked.afterCommands savedBreaks).status.unused = true ∧
    (unmarked.afterCommands savedBreaks).status.brk = false ∧
    (unmarked.afterCommands (savedBreaks.take 2)).memory.read 0x01fb = 0x30 := by
  have configured : (unmarked.obey (.configure [("BRK_pushes_state", .bool true)])).settings.enabled
      Core.breakPushesState := by decide
  have saves : unmarked.SavesThroughout savedBreaks := by
    intro done within
    rcases done with _ | ⟨first, _ | ⟨second, _ | ⟨third, _ | ⟨fourth, done⟩⟩⟩⟩ <;>
      simp [savedBreaks, List.cons_prefix_cons] at within
    next =>
      obtain rfl := within
      exact configured
    next =>
      obtain ⟨rfl, rfl, rfl⟩ := within
      change (step _).machine.settings.enabled _
      rw [settings_step]
      exact configured
  have holds := unmarked.status_over_commands savedBreaks
  have breaks : (unmarked.afterCommands (savedBreaks.take 1)).Executes .brk :=
    ⟨.implied, congrArg Instruction.decode (Memory.read_blank 0)⟩
  have treats := (unmarked.status_over_commands (savedBreaks.take 1)).2.2
  have copied := treats.savesCopy breaks configured
  refine ⟨saves, holds.1 [] List.nil_prefix rfl, holds.2.1 rfl saves savedBreaks List.prefix_rfl,
    ?_⟩
  have byte := congrArg Status.toByte copied
  rw [Status.toByte_ofByte] at byte
  exact byte

end Machine

end Mos6502
