import Mos6502.Text.Numeral
import Mos6502.Word

set_option autoImplicit false

namespace Mos6502.Hexdump

-- The last row holds what is left, and a width of zero counts as one.
def rows {α : Type} (width : Nat) : List α → List (List α)
  | [] => []
  | first :: rest =>
    (first :: rest.take (width - 1)) :: rows width (rest.drop (width - 1))
termination_by values => values.length
decreasing_by simp only [List.length_drop, List.length_cons]; omega

theorem flatten_rows {α : Type} (width : Nat) (values : List α) :
    (rows width values).flatten = values := by
  fun_induction rows width values with
  | case1 => rfl
  | case2 first rest ih => simp [ih]

def glyph (value : Int) : Char :=
  if 32 ≤ value ∧ value < 127 then Char.ofNat value.toNat else '.'

def hexColumn (row : List Int) : List Char :=
  [' ', ' '].intercalate ((rows 8 row).map fun half =>
    [' '].intercalate (half.map (Text.upperHexDigits 2)))

def lineCharacters (address : Address) (row : List Int) : List Char :=
  Text.upperHexDigits 4 address.toNat ++ [':', ' '] ++ (hexColumn row).rightpad 48 ' ' ++
    [' ', ' '] ++ (row.map glyph).rightpad 16 ' '

def lines (data : List Int) (start : Int := 0) : List String :=
  (rows 16 data).mapIdx fun index row =>
    .ofList (lineCharacters (.wrap (16 * index + start)) row)

end Mos6502.Hexdump
