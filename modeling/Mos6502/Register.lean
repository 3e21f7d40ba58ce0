set_option autoImplicit false

namespace Mos6502

inductive Register where
  | a
  | x
  | y
  | sp
deriving DecidableEq

namespace Register

def all : List Register :=
  [.a, .x, .y, .sp]

def name : Register → String
  | .a => "a"
  | .x => "x"
  | .y => "y"
  | .sp => "sp"

def ofName? (name : String) : Option Register :=
  all.find? (·.name == name)

@[simp] theorem ofName_name (register : Register) : ofName? register.name = some register := by
  cases register <;> decide

end Register

end Mos6502
