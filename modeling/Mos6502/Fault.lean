import Mos6502.Register
import Mos6502.Text.Numeral
import Mos6502.Text.Quoted

set_option autoImplicit false

namespace Mos6502

inductive Fault where
  | unimplementedOpcode (opcode : Int) (address : Option Int)
  | unknownOption (name : String)
  | wordOutOfRange (word : Int)
  | imageTooLong (length : Nat)
  | notBytes
  | flagsOfNonByte
  | byteOutOfRange (value : Option Int)
  | locationOutOfRange (value : Option Int)
  | registerWithValue (register : Register)
  | unknownOperandKind (kind : Option String)
  | storeIntoByte
  | stopNotReached (stop : Int)
  | operandMissing
  | registerAsTarget (register : Register)
deriving DecidableEq

namespace Fault

inductive Kind where
  | unimplementedOpcode
  | value
  | byteRange
  | assertion
deriving DecidableEq

def Kind.name : Kind → String
  | .unimplementedOpcode => "UnimplementedOpcode"
  | .value => "Emu6502ValueError"
  | .byteRange => "ValueError"
  | .assertion => "AssertionError"

def kind : Fault → Kind
  | .unimplementedOpcode .. => .unimplementedOpcode
  | .notBytes => .byteRange
  | .flagsOfNonByte | .stopNotReached _ => .assertion
  | .unknownOption _ | .wordOutOfRange _ | .imageTooLong _ | .byteOutOfRange _
  | .locationOutOfRange _ | .registerWithValue _ | .unknownOperandKind _ | .storeIntoByte
  | .operandMissing | .registerAsTarget _ => .value

def numberOrNone (value : Option Int) : String :=
  value.elim "None" (Text.decimal 1)

def quotedOrNone (text : Option String) : String :=
  text.elim "None" Text.quoted

def message : Fault → String
  | .unimplementedOpcode opcode none => "Error: unimplemented opcode $" ++ Text.upperHex 2 opcode
  | .unimplementedOpcode opcode (some address) =>
    "Error: unimplemented opcode $" ++ Text.upperHex 2 opcode ++ " at $" ++ Text.upperHex 4 address
  | .unknownOption name => "Error: Unexpected option \"" ++ name ++ "\""
  | .wordOutOfRange word => "Error: word value \"" ++ Text.decimal 1 word ++ "\" out of range"
  | .imageTooLong length =>
    "Error: " ++ Text.decimal 1 length ++ " bytes will not fit in 64K of memory"
  | .notBytes => "bytes must be in range(0, 256)"
  | .flagsOfNonByte => "Error: can't set flags using non-byte value"
  | .byteOutOfRange value => "Error: byte operand " ++ numberOrNone value ++ " out of range"
  | .locationOutOfRange value => "Error: memory location " ++ numberOrNone value ++ " out of range"
  | .registerWithValue register =>
    "Error: register operand '" ++ register.name ++ "' takes no value"
  | .unknownOperandKind kind => "Error: unknown operand kind " ++ quotedOrNone kind
  | .storeIntoByte => "Error: can't store into a byte value operand"
  | .stopNotReached stop => "Error: gave up waiting for PC $" ++ Text.hex 4 stop
  | .operandMissing => "Error: instruction needs an operand"
  | .registerAsTarget register =>
    "Error: register operand '" ++ register.name ++ "' has no location"

end Fault

end Mos6502
