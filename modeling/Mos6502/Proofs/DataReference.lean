import Mos6502.Proofs.ModeConformance

set_option autoImplicit false

namespace Mos6502

structure Change where
  store : Option (Designation × Int) := none
  status : Status
deriving DecidableEq

namespace Machine

def valueOf (machine : Machine) : Designation → Int
  | .register which => (machine.register which).toNat
  | .byte value => value
  | .cell address => machine.byteAt address

def place (machine : Machine) (designation : Designation) (value : Int) : Machine :=
  match designation with
  | .register which => machine.setRegister which (.wrap value)
  | .byte _ => machine
  | .cell address => machine.write (.wrap address) (.wrap value)

def carryOut (machine : Machine) (change : Change) : Machine :=
  let placed := change.store.elim machine fun stored => machine.place stored.1 stored.2
  { placed with status := change.status }

end Machine

namespace Change

def showing (status : Status) (value : Int) : Status :=
  { status with negative := 128 ≤ value, zero := value = 0, unused := true }

def copy (status : Status) (target : Designation) (value : Int) : Change :=
  { store := some (target, value), status := status }

def result (status : Status) (target : Designation) (value : Int) : Change :=
  .copy (showing status value) target value

-- The signed total is what the overflow flag is about.
def sum (status : Status) (total signedTotal : Int) (carry : Bool) : Change :=
  .copy
    { showing status (total % 256) with
      carry := carry
      overflow := signedTotal < -128 ∨ 127 < signedTotal }
    (.register .a) (total % 256)

def comparison (status : Status) (register value : Int) : Change where
  status :=
    { status with
      negative := 128 ≤ (register - value) % 256
      zero := register = value
      carry := value ≤ register
      unused := true }

def bitTest (status : Status) (accumulator value : Int) : Change where
  status :=
    { status with
      negative := value / 128 % 2 = 1
      overflow := value / 64 % 2 = 1
      zero := Int.land accumulator value = 0
      unused := true }

def shifted (status : Status) (target : Designation) (value outgoing : Int) : Change :=
  .copy { showing status value with carry := outgoing = 1 } target value

def flags (status : Status) : Change where
  status := { status with unused := true }

end Change

namespace Mnemonic

def control : List Mnemonic :=
  [.bcc, .bcs, .beq, .bne, .bmi, .bpl, .bvc, .bvs, .jmp, .jsr, .rts, .rti, .brk, .pha, .php,
    .pla, .plp]

-- In the formulas `m` is the operand byte and `c` the carry.
def change (mnemonic : Mnemonic) (machine : Machine) (target : Option Designation) :
    Option Change :=
  let status := machine.status
  let a : Int := machine.a.toNat
  let x : Int := machine.x.toNat
  let y : Int := machine.y.toNat
  let sp : Int := machine.sp.toNat
  let c : Int := status.carry.toNat
  let onPlace (work : Designation → Int → Change) : Option Change :=
    target.map fun target => work target (machine.valueOf target)
  let onByte (work : Int → Change) : Option Change := onPlace fun _ => work
  match mnemonic with
  | .adc => onByte fun m =>
    .sum status (a + m + c) (signedByte a + signedByte m + c) (256 ≤ a + m + c)
  -- the decimal flag has no part in either
  | .sbc => onByte fun m =>
    .sum status (a - m - (1 - c)) (signedByte a - signedByte m - (1 - c)) (0 ≤ a - m - (1 - c))
  | .and => onByte fun m => .result status (.register .a) (Int.land a m)
  | .ora => onByte fun m => .result status (.register .a) (Int.lor a m)
  | .eor => onByte fun m => .result status (.register .a) (Int.xor a m)
  | .bit => onByte (.bitTest status a)
  | .cmp => onByte (.comparison status a)
  | .cpx => onByte (.comparison status x)
  | .cpy => onByte (.comparison status y)
  | .asl => onPlace fun target m => .shifted status target (2 * m % 256) (m / 128)
  | .rol => onPlace fun target m => .shifted status target ((2 * m + c) % 256) (m / 128)
  | .lsr => onPlace fun target m => .shifted status target (m / 2) (m % 2)
  | .ror => onPlace fun target m => .shifted status target (m / 2 + 128 * c) (m % 2)
  | .inc => onPlace fun target m => .result status target ((m + 1) % 256)
  | .dec => onPlace fun target m => .result status target ((m - 1) % 256)
  | .inx => some (.result status (.register .x) ((x + 1) % 256))
  | .iny => some (.result status (.register .y) ((y + 1) % 256))
  | .dex => some (.result status (.register .x) ((x - 1) % 256))
  | .dey => some (.result status (.register .y) ((y - 1) % 256))
  | .lda => onByte (.result status (.register .a))
  | .ldx => onByte (.result status (.register .x))
  | .ldy => onByte (.result status (.register .y))
  | .sta => onPlace fun target _ => .copy status target a
  | .stx => onPlace fun target _ => .copy status target x
  | .sty => onPlace fun target _ => .copy status target y
  | .tax => some (.result status (.register .x) a)
  | .tay => some (.result status (.register .y) a)
  | .tsx => some (.result status (.register .x) sp)
  | .txa => some (.result status (.register .a) x)
  | .tya => some (.result status (.register .a) y)
  | .txs => some (.copy status (.register .sp) x)
  | .clc => some (.flags { status with carry := false })
  | .sec => some (.flags { status with carry := true })
  | .cld => some (.flags { status with decimal := false })
  | .sed => some (.flags { status with decimal := true })
  | .cli => some (.flags { status with interrupt := false })
  | .sei => some (.flags { status with interrupt := true })
  | .clv => some (.flags { status with overflow := false })
  | .nop => some { status := status }
  | _ => none

end Mnemonic

end Mos6502
