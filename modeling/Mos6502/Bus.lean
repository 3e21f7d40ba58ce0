import Mos6502.Machine.Step

set_option autoImplicit false

namespace Mos6502

structure Bus where
  memory : Memory
  cores : List Core

namespace Bus

def shared (count : Nat) (machine : Machine) : Bus :=
  { memory := machine.memory, cores := List.replicate count machine.toCore }

def machine? (bus : Bus) (index : Nat) : Option Machine :=
  bus.cores[index]?.map fun core => { core with memory := bus.memory }

def put (bus : Bus) (index : Nat) (machine : Machine) : Bus :=
  { memory := machine.memory, cores := bus.cores.set index machine.toCore }

def step (bus : Bus) (index : Nat) : Bus :=
  match bus.machine? index with
  | some machine => bus.put index machine.step.machine
  | none => bus

theorem cores_put_ne (bus : Bus) (machine : Machine) {index other : Nat}
    (different : index ≠ other) : (bus.put index machine).cores[other]? = bus.cores[other]? := by
  simp [put, different]

end Bus

end Mos6502
