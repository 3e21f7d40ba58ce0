import Mos6502.Word

set_option autoImplicit false

namespace Mos6502

inductive Flag where
  | negative
  | overflow
  | unused
  | brk
  | decimal
  | interrupt
  | zero
  | carry
deriving DecidableEq

def Flag.mask : Flag → Byte
  | .negative => 0x80
  | .overflow => 0x40
  | .unused => 0x20
  | .brk => 0x10
  | .decimal => 0x08
  | .interrupt => 0x04
  | .zero => 0x02
  | .carry => 0x01

@[ext] structure Status where
  negative : Bool
  overflow : Bool
  unused : Bool
  brk : Bool
  decimal : Bool
  interrupt : Bool
  zero : Bool
  carry : Bool
deriving DecidableEq

namespace Status

def get (status : Status) : Flag → Bool
  | .negative => status.negative
  | .overflow => status.overflow
  | .unused => status.unused
  | .brk => status.brk
  | .decimal => status.decimal
  | .interrupt => status.interrupt
  | .zero => status.zero
  | .carry => status.carry

def ofByte (byte : Byte) : Status where
  negative := byte.getLsbD 7
  overflow := byte.getLsbD 6
  unused := byte.getLsbD 5
  brk := byte.getLsbD 4
  decimal := byte.getLsbD 3
  interrupt := byte.getLsbD 2
  zero := byte.getLsbD 1
  carry := byte.getLsbD 0

def bit (on : Bool) (flag : Flag) : Byte :=
  if on then flag.mask else 0

def toByte (status : Status) : Byte :=
  bit status.negative .negative ||| bit status.overflow .overflow |||
    bit status.unused .unused ||| bit status.brk .brk |||
    bit status.decimal .decimal ||| bit status.interrupt .interrupt |||
    bit status.zero .zero ||| bit status.carry .carry

@[simp] theorem ofByte_toByte (status : Status) : ofByte status.toByte = status := by
  obtain ⟨negative, overflow, unused, brk, decimal, interrupt, zero, carry⟩ := status
  revert negative overflow unused brk decimal interrupt zero carry
  decide +kernel

@[simp] theorem toByte_ofByte (byte : Byte) : (ofByte byte).toByte = byte := by
  revert byte
  decide +kernel

-- Every write of a flag also sets the unused bit.
def put (status : Status) (flag : Flag) (on : Bool) : Status :=
  match flag with
  | .negative => { status with negative := on, unused := true }
  | .overflow => { status with overflow := on, unused := true }
  | .unused => { status with unused := true }
  | .brk => { status with brk := on, unused := true }
  | .decimal => { status with decimal := on, unused := true }
  | .interrupt => { status with interrupt := on, unused := true }
  | .zero => { status with zero := on, unused := true }
  | .carry => { status with carry := on, unused := true }

def assign (status : Status) (mask : Byte) (on : Bool) : Status :=
  { ofByte (if on then status.toByte ||| mask else status.toByte &&& ~~~mask) with unused := true }

theorem assign_mask (status : Status) (flag : Flag) (on : Bool) :
    status.assign flag.mask on = status.put flag on := by
  have bits := ofByte_toByte status
  simp [ofByte, Status.ext_iff] at bits
  cases flag <;> cases on <;> simp [assign, put, ofByte, Flag.mask, bits]

def withResult (status : Status) (result : Byte) : Status :=
  { status with negative := result.msb, zero := result == 0, unused := true }

-- The break bit is set in every pushed status and in no pulled one.
def pushed (status : Status) : Byte :=
  { status with brk := true, unused := true }.toByte

def ofPulled (byte : Byte) : Status :=
  { ofByte byte with brk := false, unused := true }

end Status

end Mos6502
