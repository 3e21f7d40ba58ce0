import Mos6502.Text.LetterCase

set_option autoImplicit false

namespace Mos6502.Text

def meetsLetter (characters : List Char) : Bool :=
  (characters.find? fun character => !isCaseIgnorable character).any isCased

def capitalSigma : Char := 'Σ'

-- A capital sigma has a form of its own at the end of a word. `before` runs backwards.
def lowerAt (before : List Char) (character : Char) (after : List Char) : List Char :=
  if character = 'İ' then ['i', Char.ofNat 0x307]
  else if character = capitalSigma then
    if meetsLetter before && !meetsLetter after then ['ς'] else ['σ']
  else [smallLetter character]

def lowerFrom (before : List Char) : List Char → List Char
  | [] => []
  | character :: after => lowerAt before character after ++ lowerFrom (character :: before) after

def lowercase (text : String) : String :=
  .ofList (lowerFrom [] text.toList)

end Mos6502.Text
