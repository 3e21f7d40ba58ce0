import Mos6502.Demo

set_option autoImplicit false

def main : IO UInt32 := do
  match Mos6502.Demo.transcript with
  | .ok lines =>
    lines.forM fun line => IO.println line
    return 0
  | .error fault =>
    IO.eprintln fault.message
    return 1
