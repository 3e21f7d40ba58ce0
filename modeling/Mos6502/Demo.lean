import Mos6502.Machine.Run

set_option autoImplicit false

namespace Mos6502.Demo

-- LDA #$42, NOP, ADC #$05, STA $6000
def program : List Int :=
  [0xa9, 0x42, 0xea, 0x69, 0x05, 0x8d, 0x00, 0x60]

def resultLocation : Int := 0x6000

def stepLine (index : Nat) (core : Core) : String :=
  "STEP " ++ Text.decimal 1 (index + 1) ++ ": A=$" ++ Text.upperHex 2 core.a.toNat ++
    " X=$" ++ Text.upperHex 2 core.x.toNat ++ " Y=$" ++ Text.upperHex 2 core.y.toNat ++
    " SP=$" ++ Text.upperHex 2 core.sp.toNat ++ " PC=$" ++ Text.upperHex 4 core.pc.toNat ++
    " P=%" ++ Text.binary 8 core.status.toByte.toNat

def report (machine : Machine) : List String :=
  let journey := machine.run 4
  journey.visited.mapIdx stepLine ++ journey.machine.memory.dump resultLocation 1

def transcript : Except Fault (List String) :=
  (Machine.boot program).map report

end Mos6502.Demo
