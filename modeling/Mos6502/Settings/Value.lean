set_option autoImplicit false

namespace Mos6502

inductive Value where
  | null
  | bool (on : Bool)
  | number (value : Int)
  | text (value : String)
  | list (items : List Value)
  | dictionary (entries : List (String × Value))

def Value.truthy : Value → Bool
  | .null => false
  | .bool on => on
  | .number value => value != 0
  | .text value => value != ""
  | .list items => !items.isEmpty
  | .dictionary entries => !entries.isEmpty

end Mos6502
