set_option autoImplicit false

namespace Mos6502.Text

-- The width counts the sign, and the zeros that fill it follow the sign.
def numeral (base width : Nat) (number : Int) : List Char :=
  if number < 0 then '-' :: (Nat.toDigits base number.natAbs).leftpad (width - 1) '0'
  else (Nat.toDigits base number.natAbs).leftpad width '0'

def decimal (width : Nat) (number : Int) : String :=
  .ofList (numeral 10 width number)

def binary (width : Nat) (number : Int) : String :=
  .ofList (numeral 2 width number)

def hex (width : Nat) (number : Int) : String :=
  .ofList (numeral 16 width number)

def upperHexDigits (width : Nat) (number : Int) : List Char :=
  (numeral 16 width number).map Char.toUpper

def upperHex (width : Nat) (number : Int) : String :=
  .ofList (upperHexDigits width number)

end Mos6502.Text
