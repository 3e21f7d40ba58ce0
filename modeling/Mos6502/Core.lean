import Mos6502.Layout
import Mos6502.Register
import Mos6502.Settings.Basic
import Mos6502.Status

set_option autoImplicit false

namespace Mos6502

structure Core where
  a : Byte := 0
  x : Byte := 0
  y : Byte := 0
  sp : Byte := Layout.resetStackPointer
  pc : Address := 0
  status : Status := .ofByte Layout.resetStatus
  lastInstruction : Option Byte := none
  instructionCount : Nat := 0
  settings : Settings

namespace Core

def breakPushesState : String := "brk_pushes_state"

def debug : String := "debug"

def factorySettings : Settings where
  known := [breakPushesState, debug]
  entries := [(breakPushesState, .bool false), (debug, .bool false)]

def create (options : List (String × Value) := []) : Except Fault Core :=
  match factorySettings.update options with
  | (settings, none) => .ok { settings := settings }
  | (_, some fault) => .error fault

def register (core : Core) : Register → Byte
  | .a => core.a
  | .x => core.x
  | .y => core.y
  | .sp => core.sp

def setRegister (core : Core) (register : Register) (value : Byte) : Core :=
  match register with
  | .a => { core with a := value }
  | .x => { core with x := value }
  | .y => { core with y := value }
  | .sp => { core with sp := value }

theorem register_setRegister (core : Core) (target : Register) (value : Byte)
    (register : Register) :
    (core.setRegister target value).register register =
      if register = target then value else core.register register := by
  cases target <;> cases register <;> rfl

def trace (core : Core) : String :=
  Text.decimal 8 core.instructionCount ++ ",PC=$" ++ Text.hex 4 core.pc.toNat ++
    ",A=$" ++ Text.hex 2 core.a.toNat ++ ",X=$" ++ Text.hex 2 core.x.toNat ++
    ",Y=$" ++ Text.hex 2 core.y.toNat ++ ",SP=$" ++ Text.hex 2 core.sp.toNat ++
    ",P=%" ++ Text.binary 8 core.status.toByte.toNat

end Core

end Mos6502
