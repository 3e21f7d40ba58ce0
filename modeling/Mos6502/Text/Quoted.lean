import Mos6502.Text.Numeral
import Mos6502.Text.Printable

set_option autoImplicit false

namespace Mos6502.Text

def singleQuote : Char := Char.ofNat 0x27
def doubleQuote : Char := Char.ofNat 0x22
def backslash : Char := Char.ofNat 0x5c

-- Single quotes, unless the text holds one and no double quote.
def quoteMark (text : List Char) : Char :=
  if singleQuote ∈ text ∧ doubleQuote ∉ text then doubleQuote else singleQuote

def codePoint (letter : Char) (width : Nat) (character : Char) : List Char :=
  backslash :: letter :: numeral 16 width character.toNat

def escape (mark character : Char) : List Char :=
  if character = mark ∨ character = backslash then [backslash, character]
  else if character = '\n' then [backslash, 'n']
  else if character = '\r' then [backslash, 'r']
  else if character = '\t' then [backslash, 't']
  else if isPrintable character then [character]
  else if character.toNat < 0x100 then codePoint 'x' 2 character
  else if character.toNat < 0x10000 then codePoint 'u' 4 character
  else codePoint 'U' 8 character

def quoted (text : String) : String :=
  let mark := quoteMark text.toList
  .ofList (mark :: text.toList.flatMap (escape mark) ++ [mark])

end Mos6502.Text
