import Mathlib.Data.List.Nodup
import Mos6502.Core

set_option autoImplicit false

namespace Mos6502

namespace Settings

def Knows (settings : Settings) (name : String) : Prop :=
  Text.lowercase name ∈ settings.known

instance (settings : Settings) (name : String) : Decidable (settings.Knows name) :=
  inferInstanceAs (Decidable (_ ∈ _))

def keys (settings : Settings) : List String :=
  settings.entries.map Prod.fst

def blank (defaults : List (String × Value)) : Settings where
  known := defaults.map Prod.fst

def afterUpdates (settings : Settings) (calls : List (List (String × Value))) : Settings :=
  calls.foldl (fun settings call => (settings.update call).1) settings

def accepted (known : List String) (call : List (String × Value)) : List (String × Value) :=
  (call.takeWhile fun option => Text.lowercase option.1 ∈ known).map fun option =>
    (Text.lowercase option.1, option.2)

def latest (known : List String) (calls : List (List (String × Value))) (key : String) :
    Option Value :=
  (calls.flatMap (accepted known)).reverse.lookup key

structure Answers (settings : Settings) (call : List (String × Value)) : Prop where
  fails_iff : (settings.update call).2 ≠ none ↔
    ∃ option ∈ call, Text.lowercase option.1 ∉ settings.known
  first : ∀ (before after : List (String × Value)) (name : String) (value : Value),
    call = before ++ (name, value) :: after →
      (∀ option ∈ before, Text.lowercase option.1 ∈ settings.known) →
        Text.lowercase name ∉ settings.known →
          (settings.update call).2 = some (.unknownOption (Text.lowercase name))

structure Records (settings : Settings) (calls : List (List (String × Value))) : Prop where
  distinct : settings.keys.Nodup
  given : ∀ key ∈ settings.keys, key ∈ settings.known ∧
    ∃ call ∈ calls, ∃ option ∈ call, Text.lowercase option.1 = key
  latest : ∀ key, settings.get? key = latest settings.known calls key

section Call

variable {settings : Settings} {name : String} {value : Value} {rest : List (String × Value)}

theorem update_cons_of_known (known : settings.Knows name) :
    settings.update ((name, value) :: rest) =
      (settings.put (Text.lowercase name) value).update rest :=
  if_pos known

theorem update_cons_of_unknown (unknown : ¬settings.Knows name) :
    settings.update ((name, value) :: rest) =
      (settings, some (.unknownOption (Text.lowercase name))) :=
  if_neg unknown

theorem accepted_cons_of_known {known : List String} (listed : Text.lowercase name ∈ known) :
    accepted known ((name, value) :: rest) =
      (Text.lowercase name, value) :: accepted known rest := by
  simp [accepted, listed]

theorem accepted_cons_of_unknown {known : List String} (missing : Text.lowercase name ∉ known) :
    accepted known ((name, value) :: rest) = [] := by
  simp [accepted, missing]

end Call

@[simp] theorem known_update (settings : Settings) (call : List (String × Value)) :
    (settings.update call).1.known = settings.known := by
  induction call generalizing settings with
  | nil => rfl
  | cons option rest ih =>
    obtain ⟨name, value⟩ := option
    by_cases known : settings.Knows name
    next => rw [update_cons_of_known known, ih, known_put]
    next => rw [update_cons_of_unknown known]

theorem fault_update (settings : Settings) (call : List (String × Value)) :
    (settings.update call).2 =
      (call.find? fun option => ¬settings.Knows option.1).map fun option =>
        .unknownOption (Text.lowercase option.1) := by
  induction call generalizing settings with
  | nil => rfl
  | cons option rest ih =>
    obtain ⟨name, value⟩ := option
    by_cases known : settings.Knows name
    next =>
      rw [update_cons_of_known known, ih, List.find?_cons_of_neg (by simpa using known)]
      rfl
    next =>
      rw [update_cons_of_unknown known, List.find?_cons_of_pos (by simpa using known)]
      rfl

theorem update_of_known {settings : Settings} {options : List (String × Value)}
    (known : ∀ option ∈ options, settings.Knows option.1) : (settings.update options).2 = none := by
  have found : (options.find? fun option => ¬settings.Knows option.1) = none := by
    rw [List.find?_eq_none]
    intro option given
    simpa using known option given
  rw [fault_update, found]
  rfl

theorem update_of_unknown {settings : Settings} {before : List (String × Value)}
    (known : ∀ option ∈ before, settings.Knows option.1) {name : String}
    (unknown : ¬settings.Knows name) (value : Value) (after : List (String × Value)) :
    (settings.update (before ++ (name, value) :: after)).2 =
      some (.unknownOption (Text.lowercase name)) := by
  have found : ((before ++ (name, value) :: after).find? fun option =>
      ¬settings.Knows option.1) = some (name, value) := by
    rw [List.find?_eq_some_iff_append]
    refine ⟨by simpa using unknown, before, after, rfl, ?_⟩
    intro option earlier
    simpa using known option earlier
  rw [fault_update, found]
  rfl

theorem exists_first_unknown {settings : Settings} {options : List (String × Value)}
    (unknown : ¬∀ option ∈ options, settings.Knows option.1) :
    ∃ before name value after, options = before ++ (name, value) :: after ∧
      (∀ option ∈ before, settings.Knows option.1) ∧ ¬settings.Knows name := by
  cases found : options.find? fun option => ¬settings.Knows option.1 with
  | none => exact absurd (by simpa using found) unknown
  | some option =>
    obtain ⟨missing, before, after, split, earlier⟩ := List.find?_eq_some_iff_append.mp found
    exact ⟨before, option.1, option.2, after, split, by simpa using earlier, by simpa using missing⟩

theorem answers (settings : Settings) (call : List (String × Value)) :
    settings.Answers call where
  fails_iff := by
    rw [fault_update, ← Option.isSome_iff_ne_none, Option.isSome_map, List.find?_isSome]
    simp only [decide_eq_true_eq]
    rfl
  first := by
    rintro before after name value rfl known unknown
    exact update_of_unknown known unknown value after

-- A new value of a key goes in the old one's place, and a new key after all others.
theorem keys_put (settings : Settings) (name : String) (value : Value) :
    (settings.put name value).keys =
      if name ∈ settings.keys then settings.keys else settings.keys ++ [name] := by
  obtain ⟨known, entries⟩ := settings
  simp only [keys, put]
  induction entries with
  | nil => simp [putEntry]
  | cons entry rest ih =>
    by_cases here : entry.1 = name
    next => simp [putEntry, here]
    next =>
      have later : name ≠ entry.1 := fun same => here same.symm
      rw [putEntry, if_neg here, List.map_cons, ih]
      by_cases there : name ∈ rest.map Prod.fst
      next => simp [there]
      next => simp [there, later]

theorem mem_keys {settings : Settings} {key : String} :
    key ∈ settings.keys ↔ (settings.get? key).isSome := by
  rw [get?, List.lookup_isSome_iff, keys, List.mem_map]
  simp only [beq_iff_eq, @eq_comm _ key]

theorem nodup_put {settings : Settings} (distinct : settings.keys.Nodup) (name : String)
    (value : Value) : (settings.put name value).keys.Nodup := by
  rw [keys_put]
  split
  next => exact distinct
  next missing =>
    rw [← List.concat_eq_append]
    exact distinct.concat missing

theorem nodup_update {settings : Settings} (distinct : settings.keys.Nodup)
    (call : List (String × Value)) : (settings.update call).1.keys.Nodup := by
  induction call generalizing settings with
  | nil => exact distinct
  | cons option rest ih =>
    obtain ⟨name, value⟩ := option
    by_cases known : settings.Knows name
    next =>
      rw [update_cons_of_known known]
      exact ih (nodup_put distinct _ value)
    next =>
      rw [update_cons_of_unknown known]
      exact distinct

theorem keys_update {settings : Settings} (full : settings.keys = settings.known)
    (call : List (String × Value)) : (settings.update call).1.keys = settings.known := by
  induction call generalizing settings with
  | nil => exact full
  | cons option rest ih =>
    obtain ⟨name, value⟩ := option
    by_cases known : settings.Knows name
    next =>
      have present : Text.lowercase name ∈ settings.keys := full ▸ known
      rw [update_cons_of_known known]
      apply ih
      rw [keys_put, if_pos present, full, known_put]
    next =>
      rw [update_cons_of_unknown known]
      exact full

theorem get_update (settings : Settings) (call : List (String × Value)) (key : String) :
    (settings.update call).1.get? key =
      ((accepted settings.known call).reverse.lookup key).or (settings.get? key) := by
  induction call generalizing settings with
  | nil => rfl
  | cons option rest ih =>
    obtain ⟨name, value⟩ := option
    by_cases known : settings.Knows name
    next =>
      have first : [(Text.lowercase name, value)].lookup key =
          if key = Text.lowercase name then some value else none :=
        lookup_putEntry (Text.lowercase name) value [] key
      rw [update_cons_of_known known, ih, accepted_cons_of_known known, List.reverse_cons,
        List.lookup_append, Option.or_assoc, get_put, known_put, first]
      split <;> rfl
    next =>
      rw [update_cons_of_unknown known, accepted_cons_of_unknown known]
      rfl

theorem mem_accepted {known : List String} {call : List (String × Value)}
    {entry : String × Value} (listed : entry ∈ accepted known call) :
    entry.1 ∈ known ∧ ∃ option ∈ call, Text.lowercase option.1 = entry.1 := by
  induction call with
  | nil => simp [accepted] at listed
  | cons option rest ih =>
    obtain ⟨name, value⟩ := option
    by_cases here : Text.lowercase name ∈ known
    next =>
      rw [accepted_cons_of_known here, List.mem_cons] at listed
      rcases listed with rfl | later
      next => exact ⟨here, (name, value), List.mem_cons_self, rfl⟩
      next =>
        obtain ⟨key, given, present, same⟩ := ih later
        exact ⟨key, given, List.mem_cons_of_mem _ present, same⟩
    next => simp [accepted_cons_of_unknown here] at listed

section Calls

variable (settings : Settings) (calls : List (List (String × Value)))

theorem afterUpdates_cons (call : List (String × Value)) :
    settings.afterUpdates (call :: calls) = (settings.update call).1.afterUpdates calls := rfl

@[simp] theorem known_afterUpdates : (settings.afterUpdates calls).known = settings.known := by
  induction calls generalizing settings with
  | nil => rfl
  | cons call later ih => exact (ih (settings.update call).1).trans (settings.known_update call)

variable {settings} in
theorem nodup_afterUpdates (distinct : settings.keys.Nodup) :
    (settings.afterUpdates calls).keys.Nodup := by
  induction calls generalizing settings with
  | nil => exact distinct
  | cons call later ih => exact ih (nodup_update distinct call)

variable {settings} in
theorem keys_afterUpdates (full : settings.keys = settings.known) :
    (settings.afterUpdates calls).keys = settings.known := by
  induction calls generalizing settings with
  | nil => exact full
  | cons call later ih =>
    have kept := settings.known_update call
    exact (ih ((keys_update full call).trans kept.symm)).trans kept

theorem get_afterUpdates (key : String) :
    (settings.afterUpdates calls).get? key =
      (latest settings.known calls key).or (settings.get? key) := by
  induction calls generalizing settings with
  | nil => rfl
  | cons call later ih =>
    have rest := ih (settings.update call).1
    rw [known_update, get_update, ← Option.or_assoc] at rest
    rw [latest, List.flatMap_cons, List.reverse_append, List.lookup_append]
    exact rest

end Calls

theorem given_of_latest {known : List String} {calls : List (List (String × Value))}
    {key : String} (found : (latest known calls key).isSome) :
    key ∈ known ∧ ∃ call ∈ calls, ∃ option ∈ call, Text.lowercase option.1 = key := by
  obtain ⟨entry, listed, same⟩ := List.lookup_isSome_iff.mp found
  obtain rfl : key = entry.1 := eq_of_beq same
  obtain ⟨call, made, kept⟩ := List.mem_flatMap.mp (List.mem_reverse.mp listed)
  obtain ⟨known, option, given, same⟩ := mem_accepted kept
  exact ⟨known, call, made, option, given, same⟩

theorem records_afterUpdates (defaults : List (String × Value))
    (calls : List (List (String × Value))) :
    ((blank defaults).afterUpdates calls).Records calls := by
  have holds (key : String) : ((blank defaults).afterUpdates calls).get? key =
      latest ((blank defaults).afterUpdates calls).known calls key := by
    rw [get_afterUpdates, known_afterUpdates]
    exact Option.or_none
  refine ⟨nodup_afterUpdates calls List.nodup_nil, fun key present => ?_, holds⟩
  rw [mem_keys, holds] at present
  exact given_of_latest present

end Settings

namespace Core

theorem keys_factorySettings : factorySettings.keys = factorySettings.known := rfl

theorem update_blank :
    ((Settings.blank factorySettings.entries).update factorySettings.entries).1 =
      factorySettings := by
  rfl

theorem records_afterUpdates (calls : List (List (String × Value))) :
    (factorySettings.afterUpdates calls).Records (factorySettings.entries :: calls) := by
  have records := Settings.records_afterUpdates factorySettings.entries
    (factorySettings.entries :: calls)
  rwa [Settings.afterUpdates_cons, update_blank] at records

theorem create_eq (options : List (String × Value)) :
    create options =
      match (factorySettings.update options).2 with
      | none => .ok { settings := (factorySettings.update options).1 }
      | some fault => .error fault := by
  rw [create]
  split
  next outcome => rw [outcome]
  next outcome => rw [outcome]

theorem create_of_known {options : List (String × Value)}
    (known : ∀ option ∈ options, factorySettings.Knows option.1) :
    create options = .ok { settings := (factorySettings.update options).1 } := by
  rw [create_eq, Settings.update_of_known known]

theorem create_of_unknown {before : List (String × Value)}
    (known : ∀ option ∈ before, factorySettings.Knows option.1) {name : String}
    (unknown : ¬factorySettings.Knows name) (value : Value) (after : List (String × Value)) :
    create (before ++ (name, value) :: after) = .error (.unknownOption (Text.lowercase name)) := by
  rw [create_eq, Settings.update_of_unknown known unknown]

theorem update_of_create {options : List (String × Value)} {core : Core}
    (created : create options = .ok core) :
    factorySettings.update options = (core.settings, none) := by
  rw [create] at created
  split at created
  next succeeded =>
    obtain rfl := Except.ok.inj created
    exact succeeded
  next => exact absurd created nofun

theorem exists_create_iff {options : List (String × Value)} :
    (∃ core, create options = .ok core) ↔ ∀ option ∈ options, factorySettings.Knows option.1 := by
  constructor
  next =>
    rintro ⟨core, created⟩ option given
    by_contra unknown
    have failed := (factorySettings.answers options).fails_iff.mpr ⟨option, given, unknown⟩
    exact failed (congrArg Prod.snd (update_of_create created))
  next =>
    intro known
    exact ⟨_, create_of_known known⟩

end Core

end Mos6502
