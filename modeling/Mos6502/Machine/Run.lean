import Mos6502.Machine.Step

set_option autoImplicit false

namespace Mos6502

structure Journey extends Outcome where
  visited : List Core := []

structure Search where
  machine : Machine
  printed : List String := []
  result : Except Fault Nat

namespace Machine

def run (limit : Nat) (machine : Machine) : Journey :=
  match limit with
  | 0 => { machine := machine }
  | limit + 1 =>
    let first := machine.step
    match first.fault with
    | some _ => { first with }
    | none =>
      let rest := first.machine.run limit
      { rest with
        printed := first.printed ++ rest.printed
        visited := first.machine.toCore :: rest.visited }

def search (stop : Int) (limit : Nat) (machine : Machine) : Search :=
  if (machine.pc.toNat : Int) = stop then { machine := machine, result := .ok 0 }
  else
    match limit with
    | 0 => { machine := machine, result := .error (.stopNotReached stop) }
    | limit + 1 =>
      let first := machine.step
      match first.fault with
      | some fault =>
        { machine := first.machine, printed := first.printed, result := .error fault }
      | none =>
        let rest := first.machine.search stop limit
        { machine := rest.machine
          printed := first.printed ++ rest.printed
          result := rest.result.map (· + 1) }

def runUntil (machine : Machine) (stop : Int) (limit : Int := 10000) : Search :=
  machine.search stop limit.toNat

def boot (program : List Int) (start : Int := Layout.defaultStart)
    (options : List (String × Value) := []) : Except Fault Machine := do
  let machine ← create options
  let loaded ← machine.memory.load start program
  let memory ← loaded.pokeWord Layout.resetVector.toNat start
  return { machine with memory := memory }.reset

end Machine

end Mos6502
