import Mos6502.Fault
import Mos6502.Settings.Value
import Mos6502.Text.Lowercase

set_option autoImplicit false

namespace Mos6502

structure Settings where
  known : List String
  entries : List (String × Value) := []

namespace Settings

def get? (settings : Settings) (name : String) : Option Value :=
  settings.entries.lookup name

def enabled (settings : Settings) (name : String) : Bool :=
  (settings.get? name).any Value.truthy

def putEntry (name : String) (value : Value) : List (String × Value) → List (String × Value)
  | [] => [(name, value)]
  | entry :: rest =>
    if entry.1 = name then (name, value) :: rest else entry :: putEntry name value rest

def put (settings : Settings) (name : String) (value : Value) : Settings :=
  { settings with entries := putEntry name value settings.entries }

-- The first unknown name ends it, and what was set before stays.
def update (settings : Settings) : List (String × Value) → Settings × Option Fault
  | [] => (settings, none)
  | (name, value) :: rest =>
    let key := Text.lowercase name
    if key ∈ settings.known then (settings.put key value).update rest
    else (settings, some (.unknownOption key))

theorem lookup_putEntry (name : String) (value : Value) (entries : List (String × Value))
    (other : String) :
    (putEntry name value entries).lookup other =
      if other = name then some value else entries.lookup other := by
  induction entries with
  | nil =>
    by_cases same : other = name
    next => simp [putEntry, same]
    next =>
      have missed : (other == name) = false := by simpa using same
      simp [putEntry, List.lookup_cons, same, missed]
  | cons entry rest ih =>
    obtain ⟨key, old⟩ := entry
    by_cases here : key = name
    next =>
      by_cases same : other = name
      next => simp [putEntry, here, same]
      next =>
        have missed : (other == name) = false := by simpa using same
        simp [putEntry, List.lookup_cons, here, same, missed]
    next =>
      by_cases same : other = key
      next => simp [putEntry, here, same]
      next =>
        have missed : (other == key) = false := by simpa using same
        simp [putEntry, List.lookup_cons, here, missed, ih]

theorem get_put (settings : Settings) (name : String) (value : Value) (other : String) :
    (settings.put name value).get? other =
      if other = name then some value else settings.get? other :=
  lookup_putEntry name value settings.entries other

@[simp] theorem known_put (settings : Settings) (name : String) (value : Value) :
    (settings.put name value).known = settings.known := rfl

end Settings

end Mos6502
