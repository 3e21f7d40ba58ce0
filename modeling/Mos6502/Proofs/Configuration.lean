import Mos6502.Proofs.SettingsHistory
import Mos6502.Proofs.StatusInvariants

set_option autoImplicit false

namespace Mos6502

namespace Machine

def Command.options? : Command → Option (List (String × Value))
  | .configure options => some options
  | .step | .reset => none

structure Heeds (machine : Machine) (saves debugs : Bool) : Prop where
  prints : machine.step.printed = if debugs then [machine.trace] else []
  breaks : machine.opcode = 0 → machine.step.toEffect = { machine := machine.afterBreak saves }
  others : machine.opcode ≠ 0 → ∀ settings : Settings,
    (machine.withSettings settings).step.toEffect =
      { machine := machine.step.machine.withSettings settings, fault := machine.step.fault }

structure Governed (settings : Settings) (calls : List (List (String × Value))) : Prop where
  known : settings.known = ["brk_pushes_state", "debug"]
  keys : settings.keys = ["brk_pushes_state", "debug"]
  answers : ∀ call, settings.Answers call
  records : settings.Records calls
  heeded : ∃ saves debugs : Value,
    Settings.latest settings.known calls "brk_pushes_state" = some saves ∧
    Settings.latest settings.known calls "debug" = some debugs ∧
    ∀ machine : Machine, machine.settings = settings → machine.Heeds saves.truthy debugs.truthy

variable {machine : Machine}

theorem settings_afterCommands (machine : Machine) (commands : List Command) :
    (machine.afterCommands commands).settings =
      machine.settings.afterUpdates (commands.filterMap Command.options?) := by
  induction commands generalizing machine with
  | nil => rfl
  | cons command later ih =>
    have rest := ih (machine.obey command)
    cases command with
    | step =>
      rw [obey, settings_step] at rest
      exact rest
    | reset => exact rest
    | configure options => exact rest

theorem heeds (machine : Machine) :
    machine.Heeds (machine.settings.enabled Core.breakPushesState)
      (machine.settings.enabled Core.debug) where
  prints := rfl
  breaks := step_break
  others := by
    intro official settings
    apply step_withSettings
    intro instruction found breaks
    exact absurd (Instruction.opcode_of_interrupt found breaks) official

theorem governed (calls : List (List (String × Value))) :
    Governed (Core.factorySettings.afterUpdates calls) (Core.factorySettings.entries :: calls) := by
  have records := Core.records_afterUpdates calls
  have known := Core.factorySettings.known_afterUpdates calls
  have full := Settings.keys_afterUpdates calls Core.keys_factorySettings
  have valued (key : String) (present : key ∈ Core.factorySettings.known) :
      ∃ value, (Core.factorySettings.afterUpdates calls).get? key = some value := by
    rw [← full, Settings.mem_keys] at present
    exact Option.isSome_iff_exists.mp present
  obtain ⟨saves, saving⟩ := valued Core.breakPushesState (by decide)
  obtain ⟨debugs, debugging⟩ := valued Core.debug (by decide)
  refine ⟨known, full, Settings.answers _, records, saves, debugs, ?_, ?_, ?_⟩
  next => exact (records.latest _).symm.trans saving
  next => exact (records.latest _).symm.trans debugging
  next =>
    rintro machine same
    have heeds := machine.heeds
    rwa [same, Settings.enabled, saving, Settings.enabled, debugging] at heeds

-- A call fails at its first unknown name, and what it set before stays.
theorem options_conform (defaults : List (String × Value)) :
    (∀ calls,
      let settings := (Settings.blank defaults).afterUpdates calls
      settings.known = defaults.map Prod.fst ∧ (∀ call, settings.Answers call) ∧
        settings.Records calls) ∧
    ∀ options,
      ((∃ core, Core.create options = .ok core) ↔
        ∀ option ∈ options, Core.factorySettings.Knows option.1) ∧
      ∀ core, Core.create options = .ok core → ∀ (memory : Memory) (commands : List Command),
        let machine : Machine := { core with memory := memory }
        Governed (machine.afterCommands commands).settings
          (Core.factorySettings.entries :: options :: commands.filterMap Command.options?) := by
  constructor
  next =>
    intro calls settings
    exact ⟨Settings.known_afterUpdates _ calls, Settings.answers _,
      Settings.records_afterUpdates defaults calls⟩
  next =>
    intro options
    refine ⟨Core.exists_create_iff, ?_⟩
    intro core created memory commands machine
    have start : Core.factorySettings.afterUpdates [options] = machine.settings :=
      congrArg Prod.fst (Core.update_of_create created)
    rw [settings_afterCommands, ← start]
    exact governed (options :: commands.filterMap Command.options?)

-- Fails at its second name. The kelvin sign has the small letter of a K.
def brokenCall : List (String × Value) :=
  [("BR\u212a_Pushes_State", .number 1), ("colour", .null), ("debug", .bool false)]

def tracing : Core where
  settings := (Core.factorySettings.update [("DEBUG", .bool true)]).1

def tracedBreak : Machine where
  toCore := tracing
  memory := .blank

theorem tracedBreak_heeds :
    let broken := tracedBreak.obey (.configure brokenCall)
    (tracedBreak.settings.update brokenCall).2 = some (.unknownOption "colour") ∧
    broken.settings.keys = ["brk_pushes_state", "debug"] ∧
    broken.step.printed = ["00000000,PC=$0000,A=$00,X=$00,Y=$00,SP=$fd,P=%00100100"] ∧
    broken.step.machine.sp = 0xfa := by
  intro broken
  have created : Core.create [("DEBUG", .bool true)] = .ok tracing :=
    Core.create_of_known (by decide)
  have holds := ((options_conform []).2 _).2 tracing created .blank
  have fails := ((holds []).answers brokenCall).first [("BR\u212a_Pushes_State", .number 1)] _
    "colour" _ rfl (by decide) (by decide)
  have governed : Governed broken.settings
      [Core.factorySettings.entries, [("DEBUG", .bool true)], brokenCall] :=
    holds [.configure brokenCall]
  obtain ⟨saves, debugs, saving, debugging, heeded⟩ := governed.heeded
  rw [governed.known] at saving debugging
  obtain rfl : .number 1 = saves := Option.some.inj saving
  obtain rfl : .bool true = debugs := Option.some.inj debugging
  have heeds := heeded broken rfl
  have breaks := heeds.breaks (Memory.read_blank 0)
  have line : broken.trace = "00000000,PC=$0000,A=$00,X=$00,Y=$00,SP=$fd,P=%00100100" := by
    decide
  have pushed : (broken.afterBreak true).sp = 0xfa := by decide
  refine ⟨fails.trans (by decide), governed.keys, ?_, ?_⟩
  next => exact heeds.prints.trans (congrArg (fun text => [text]) line)
  next => exact (congrArg (·.machine.sp) breaks).trans pushed

end Machine

end Mos6502
