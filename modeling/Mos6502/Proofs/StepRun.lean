import Mos6502.Proofs.StepOutcome

set_option autoImplicit false

namespace Mos6502

namespace Machine

def after (machine : Machine) : Nat → Machine
  | 0 => machine
  | count + 1 => (machine.after count).step.machine

theorem after_add (machine : Machine) (first later : Nat) :
    machine.after (first + later) = (machine.after first).after later := by
  induction later with
  | zero => rfl
  | succ later ih => rw [← Nat.add_assoc, after, ih, after]

theorem settings_after (machine : Machine) (count : Nat) :
    (machine.after count).settings = machine.settings := by
  induction count with
  | zero => rfl
  | succ count ih => rw [after, settings_step, ih]

def traces (machine : Machine) (count : Nat) : List String :=
  (List.range count).flatMap fun index => (machine.after index).traceLines

theorem traces_one (machine : Machine) : machine.traces 1 = machine.traceLines :=
  List.append_nil _

theorem traces_succ (machine : Machine) (count : Nat) :
    machine.traces (count + 1) = machine.traces count ++ (machine.after count).traceLines := by
  simp only [traces, List.range_succ, List.flatMap_append, List.flatMap_singleton]

theorem traces_add (machine : Machine) (first later : Nat) :
    machine.traces (first + later) =
      machine.traces first ++ (machine.after first).traces later := by
  simp only [traces, List.range_add, List.flatMap_append, List.flatMap_map, after_add]

end Machine

end Mos6502
