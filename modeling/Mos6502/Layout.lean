import Mos6502.Word

set_option autoImplicit false

namespace Mos6502

namespace Layout

def resetVector : Address := 0xfffc

def interruptVector : Address := 0xfffe

def stackPage : Address := 0x0100

def stackCell (pointer : Byte) : Address :=
  stackPage + pointer.extend

def resetStackPointer : Byte := 0xfd

-- The unused bit and the interrupt disable.
def resetStatus : Byte := 0x24

def defaultStart : Int := 0x8000

end Layout

structure Version where
  major : Nat
  minor : Nat
  build : Nat

def Version.render (version : Version) : String :=
  toString version.major ++ "." ++ toString version.minor ++ "." ++ toString version.build

def Version.current : Version :=
  { major := 0, minor := 1, build := 0 }

end Mos6502
