import Mos6502.Arithmetic
import Mos6502.Instruction.Mnemonic
import Mos6502.Register
import Mos6502.Status

set_option autoImplicit false

namespace Mos6502

open Arithmetic

inductive Operation where
  | add
  | subtract
  | combine (bitwise : Bitwise)
  | testBits
  | compare (register : Register)
  | shift (kind : Shift)
  | adjust (change : Byte)
  | adjustRegister (register : Register) (change : Byte)
  | load (register : Register)
  | store (register : Register)
  | transfer (source target : Register)
  | branch (flag : Flag) (wanted : Bool)
  | jump
  | call
  | returnFromCall
  | returnFromInterrupt
  | interrupt
  | pushAccumulator
  | pushStatus
  | pullAccumulator
  | pullStatus
  | putFlag (flag : Flag) (on : Bool)
  | nothing
deriving DecidableEq

def Mnemonic.operation : Mnemonic → Operation
  | .adc => .add
  | .sbc => .subtract
  | .and => .combine .and
  | .ora => .combine .or
  | .eor => .combine .xor
  | .bit => .testBits
  | .cmp => .compare .a
  | .cpx => .compare .x
  | .cpy => .compare .y
  | .asl => .shift .shiftLeft
  | .lsr => .shift .shiftRight
  | .rol => .shift .rotateLeft
  | .ror => .shift .rotateRight
  | .inc => .adjust 1
  | .dec => .adjust (-1)
  | .inx => .adjustRegister .x 1
  | .iny => .adjustRegister .y 1
  | .dex => .adjustRegister .x (-1)
  | .dey => .adjustRegister .y (-1)
  | .lda => .load .a
  | .ldx => .load .x
  | .ldy => .load .y
  | .sta => .store .a
  | .stx => .store .x
  | .sty => .store .y
  | .tax => .transfer .a .x
  | .tay => .transfer .a .y
  | .tsx => .transfer .sp .x
  | .txa => .transfer .x .a
  | .txs => .transfer .x .sp
  | .tya => .transfer .y .a
  | .bcc => .branch .carry false
  | .bcs => .branch .carry true
  | .beq => .branch .zero true
  | .bne => .branch .zero false
  | .bmi => .branch .negative true
  | .bpl => .branch .negative false
  | .bvc => .branch .overflow false
  | .bvs => .branch .overflow true
  | .jmp => .jump
  | .jsr => .call
  | .rts => .returnFromCall
  | .rti => .returnFromInterrupt
  | .brk => .interrupt
  | .pha => .pushAccumulator
  | .php => .pushStatus
  | .pla => .pullAccumulator
  | .plp => .pullStatus
  | .clc => .putFlag .carry false
  | .cld => .putFlag .decimal false
  | .cli => .putFlag .interrupt false
  | .clv => .putFlag .overflow false
  | .sec => .putFlag .carry true
  | .sed => .putFlag .decimal true
  | .sei => .putFlag .interrupt true
  | .nop => .nothing

end Mos6502
