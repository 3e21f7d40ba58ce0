import Mos6502.Hexdump
import Mos6502.Proofs.Numerals

set_option autoImplicit false

namespace Mos6502

namespace Text

def upperDigits : List Char :=
  ['0', '1', '2', '3', '4', '5', '6', '7', '8', '9', 'A', 'B', 'C', 'D', 'E', 'F']

def upperDigit (digit : Nat) : Char :=
  upperDigits.getD digit ' '

theorem toUpper_digitChar : ∀ digit < 16, (Nat.digitChar digit).toUpper = upperDigit digit := by
  decide

-- One more digit of width is one more digit at the end.
theorem numeral_succ {base width : Nat} (several : 1 < base) (wide : 0 < width) (number : Nat) :
    numeral base (width + 1) number =
      numeral base width ((number / base : Nat) : Int) ++ [Nat.digitChar (number % base)] := by
  simp only [numeral_natCast, List.leftpad]
  by_cases small : number < base
  next =>
    have padding : List.replicate width '0' = List.replicate (width - 1) '0' ++ ['0'] := by
      rw [← List.replicate_succ', Nat.sub_add_cancel wide]
    simp only [Nat.toDigits_of_lt_base small, Nat.div_eq_of_lt small, Nat.mod_eq_of_lt small,
      Nat.toDigits_zero, List.length_singleton, Nat.add_sub_cancel, padding]
  next =>
    have large : base ≤ number := by omega
    simp only [Nat.toDigits_of_base_le several large, List.length_append, List.length_singleton,
      Nat.add_sub_add_right, List.append_assoc]

theorem upperHexDigits_one {number : Nat} (small : number < 16) :
    upperHexDigits 1 number = [upperDigit number] := by
  simp only [upperHexDigits, numeral_natCast, Nat.toDigits_of_lt_base small, List.leftpad,
    List.length_singleton, Nat.sub_self, List.replicate_zero, List.nil_append, List.map_cons,
    List.map_nil, toUpper_digitChar number small]

theorem upperHexDigits_succ {width : Nat} (wide : 0 < width) (number : Nat) :
    upperHexDigits (width + 1) number =
      upperHexDigits width ((number / 16 : Nat) : Int) ++ [upperDigit (number % 16)] := by
  have digit := toUpper_digitChar (number % 16) (Nat.mod_lt _ (by decide))
  simp only [upperHexDigits, numeral_succ (by decide : 1 < 16) wide, List.map_append, List.map_cons,
    List.map_nil, digit]

theorem upperHexDigits_byte (byte : Byte) :
    upperHexDigits 2 byte.toNat = [upperDigit (byte.toNat / 16), upperDigit (byte.toNat % 16)] := by
  have bound := byte.isLt
  have top : byte.toNat / 16 < 16 := by omega
  simp only [upperHexDigits_succ (by decide : 0 < 1), upperHexDigits_one top,
    List.singleton_append]

theorem upperHexDigits_address (address : Address) :
    upperHexDigits 4 address.toNat =
      [upperDigit (address.toNat / 4096), upperDigit (address.toNat / 256 % 16),
        upperDigit (address.toNat / 16 % 16), upperDigit (address.toNat % 16)] := by
  have bound := address.isLt
  have top : address.toNat / 16 / 16 / 16 < 16 := by omega
  simp only [upperHexDigits_succ (by decide : 0 < 3), upperHexDigits_succ (by decide : 0 < 2),
    upperHexDigits_succ (by decide : 0 < 1), upperHexDigits_one top]
  simp only [Nat.div_div_eq_div_mul]
  rfl

end Text

namespace Hexdump

section Rows

variable {α β : Type} {width : Nat}

theorem rows_cons (positive : 0 < width) {values : List α} (nonempty : values ≠ []) :
    rows width values = values.take width :: rows width (values.drop width) := by
  obtain ⟨less, rfl⟩ := Nat.exists_eq_succ_of_ne_zero (Nat.ne_of_gt positive)
  cases values with
  | nil => exact absurd rfl nonempty
  | cons first rest => rw [rows]; rfl

theorem rows_map (change : α → β) (values : List α) :
    rows width (values.map change) = (rows width values).map (List.map change) := by
  fun_induction rows width values with
  | case1 => simp [rows]
  | case2 first rest ih => simp [rows, ← ih]

theorem getElem?_rows (positive : 0 < width) (values : List α) (index : Nat) :
    (rows width values)[index]? =
      if width * index < values.length then some ((values.drop (width * index)).take width)
      else none := by
  induction index generalizing values with
  | zero =>
    cases values with
    | nil => simp [rows]
    | cons first rest => simp [rows_cons positive]
  | succ index ih =>
    by_cases nonempty : values = []
    next => simp [nonempty, rows]
    next =>
      rw [rows_cons positive nonempty, List.getElem?_cons_succ, ih]
      have within : width * index < values.length - width ↔
          width * (index + 1) < values.length := by
        rw [Nat.mul_succ]
        omega
      simp only [List.length_drop, List.drop_drop, within, Nat.mul_succ, Nat.add_comm]

theorem length_rows (positive : 0 < width) (values : List α) :
    (rows width values).length = (values.length + width - 1) / width := by
  fun_induction rows width values with
  | case1 =>
    have empty : (width - 1) / width = 0 := Nat.div_eq_of_lt (by omega)
    simp [empty]
  | case2 first rest ih =>
    have later : (rest.length - (width - 1) + width - 1) / width = rest.length / width := by
      by_cases short : rest.length < width - 1
      next => rw [Nat.div_eq_of_lt (by omega), Nat.div_eq_of_lt (by omega)]
      next => rw [(by omega : rest.length - (width - 1) + width - 1 = rest.length)]
    have total : rest.length + 1 + width - 1 = rest.length + width := by omega
    rw [List.length_cons, ih, List.length_drop, later, List.length_cons, total,
      Nat.add_div_right _ positive]

end Rows

section Cells

theorem map_getElem?_range {α β : Type} {width : Nat} (fill : Option α → β) {values : List α}
    (short : values.length ≤ width) :
    (List.range width).map (fun index => fill values[index]?) =
      values.map (fill ∘ some) ++ List.replicate (width - values.length) (fill none) := by
  induction width generalizing values with
  | zero =>
    obtain rfl : values = [] := List.length_eq_zero_iff.mp (Nat.le_zero.mp short)
    rfl
  | succ width ih =>
    simp only [List.range_succ_eq_map, List.map_cons, List.map_map, Function.comp_def]
    cases values with
    | nil => simp [List.replicate_succ, List.map_const']
    | cons first rest =>
      simpa [Function.comp_def] using ih (by simpa using short)

def cell : Option Byte → List Char
  | some byte => [Text.upperDigit (byte.toNat / 16), Text.upperDigit (byte.toNat % 16), ' ']
  | none => [' ', ' ', ' ']

def cells (entries : List Byte) : List Char :=
  entries.flatMap (cell ∘ some)

def half (entries : List Byte) : List Char :=
  (List.range 8).flatMap fun index => cell entries[index]?

def numbers (bytes : List Byte) : List Int :=
  bytes.map fun byte => (byte.toNat : Int)

def spaced (entries : List Byte) : List Char :=
  [' '].intercalate ((numbers entries).map (Text.upperHexDigits 2))

theorem length_cell (entry : Option Byte) : (cell entry).length = 3 := by
  cases entry <;> rfl

theorem length_cells (entries : List Byte) : (cells entries).length = 3 * entries.length := by
  induction entries with
  | nil => rfl
  | cons byte rest ih =>
    simp only [cells, List.flatMap_cons, List.length_append, Function.comp_apply, length_cell,
      List.length_cons] at ih ⊢
    omega

theorem half_eq_cells {entries : List Byte} (short : entries.length ≤ 8) :
    half entries = cells entries ++ List.replicate (3 * (8 - entries.length)) ' ' := by
  have blank : cell none = List.replicate 3 ' ' := rfl
  simp only [half, cells, List.flatMap_def, map_getElem?_range cell short, List.flatten_append,
    blank, List.flatten_replicate_replicate, Nat.mul_comm]

theorem spaced_cons (byte : Byte) {rest : List Byte} (more : rest ≠ []) :
    spaced (byte :: rest) = Text.upperHexDigits 2 byte.toNat ++ [' '] ++ spaced rest :=
  List.intercalate_cons_of_ne_nil (by simpa [numbers] using more)

theorem spaced_concat {entries : List Byte} (nonempty : entries ≠ []) :
    spaced entries ++ [' '] = cells entries := by
  induction entries with
  | nil => exact absurd rfl nonempty
  | cons byte rest ih =>
    have here : Text.upperHexDigits 2 byte.toNat ++ [' '] = cell (some byte) := by
      rw [Text.upperHexDigits_byte]
      rfl
    by_cases more : rest = []
    next =>
      subst more
      simpa [spaced, numbers, cells] using here
    next =>
      rw [spaced_cons byte more, List.append_assoc, ih more, here]
      rfl

theorem length_spaced {entries : List Byte} (nonempty : entries ≠ []) :
    (spaced entries).length + 1 = 3 * entries.length := by
  rw [← length_cells, ← spaced_concat nonempty, List.length_append]
  rfl

theorem half_eq_spaced {entries : List Byte} (nonempty : entries ≠ [])
    (short : entries.length ≤ 8) :
    half entries = spaced entries ++ List.replicate (25 - 3 * entries.length) ' ' := by
  have count : 25 - 3 * entries.length = 1 + 3 * (8 - entries.length) := by omega
  rw [half_eq_cells short, ← spaced_concat nonempty, count, ← List.replicate_append_replicate,
    List.append_assoc]
  rfl

end Cells

section Column

variable {row : List Byte}

theorem hexColumn_of_short (nonempty : row ≠ []) (short : row.length ≤ 8) :
    hexColumn (numbers row) = spaced row := by
  have nonemptyNumbers : numbers row ≠ [] := by simpa [numbers] using nonempty
  have shortNumbers : (numbers row).length ≤ 8 := by simpa [numbers] using short
  rw [hexColumn, rows_cons (by decide) nonemptyNumbers, List.take_of_length_le shortNumbers,
    List.drop_of_length_le shortNumbers, rows]
  exact List.intercalate_singleton

theorem hexColumn_of_long (long : 8 < row.length) (short : row.length ≤ 16) :
    hexColumn (numbers row) = spaced (row.take 8) ++ [' ', ' '] ++ spaced (row.drop 8) := by
  have nonempty : numbers row ≠ [] := by
    rintro empty
    simp [numbers] at empty
    simp [empty] at long
  have more : numbers (row.drop 8) ≠ [] := by
    intro empty
    simp [numbers] at empty
    omega
  have last : (numbers (row.drop 8)).length ≤ 8 := by
    simp [numbers]
    omega
  have first : (numbers row).take 8 = numbers (row.take 8) := (List.map_take ..).symm
  have second : (numbers row).drop 8 = numbers (row.drop 8) := (List.map_drop ..).symm
  rw [hexColumn, rows_cons (by decide) nonempty, first, second, rows_cons (by decide) more,
    List.take_of_length_le last, List.drop_of_length_le last, rows]
  simp [spaced]

theorem hexColumn_padded (nonempty : row ≠ []) (short : row.length ≤ 16) :
    (hexColumn (numbers row)).rightpad 48 ' ' ++ [' ', ' '] =
      half (row.take 8) ++ [' '] ++ half (row.drop 8) ++ [' '] := by
  -- Both sides are the digits and then blanks, which only have to be counted.
  have one : [' '] = List.replicate 1 ' ' := rfl
  have two : [' ', ' '] = List.replicate 2 ' ' := rfl
  by_cases few : row.length ≤ 8
  next =>
    have length := length_spaced nonempty
    have rest : half [] = List.replicate 24 ' ' := rfl
    have count : 48 - (spaced row).length + 2 = 25 - 3 * row.length + (1 + (24 + 1)) := by omega
    rw [hexColumn_of_short nonempty few, List.take_of_length_le few, List.drop_of_length_le few,
      half_eq_spaced nonempty few, rest, two, one]
    simp only [List.rightpad, List.append_assoc, List.replicate_append_replicate, count]
  next =>
    have first : (row.take 8).length = 8 := by
      rw [List.length_take]
      omega
    have second : (row.drop 8).length = row.length - 8 := List.length_drop ..
    have nonemptyFirst : row.take 8 ≠ [] := List.length_pos_iff.mp (by omega)
    have nonemptySecond : row.drop 8 ≠ [] := List.length_pos_iff.mp (by omega)
    have length := length_spaced nonemptyFirst
    have later := length_spaced nonemptySecond
    have full : half (row.take 8) ++ [' '] = spaced (row.take 8) ++ List.replicate 2 ' ' := by
      rw [half_eq_spaced nonemptyFirst (Nat.le_of_eq first), first, List.append_assoc]
      rfl
    have count : 48 - ((spaced (row.take 8)).length + (2 + (spaced (row.drop 8)).length)) + 2 =
        25 - 3 * (row.drop 8).length + 1 := by
      omega
    rw [hexColumn_of_long (by omega) short, full, half_eq_spaced nonemptySecond (by omega), two,
      one]
    simp only [List.rightpad, List.length_append, List.length_replicate, List.append_assoc,
      List.replicate_append_replicate, count]

end Column

section Layout

def textGlyph : Option Byte → Char
  | some byte => if 32 ≤ byte.toNat ∧ byte.toNat ≤ 126 then Char.ofNat byte.toNat else '.'
  | none => ' '

def addressDigits (address : Address) : List Char :=
  [Text.upperDigit (address.toNat / 4096), Text.upperDigit (address.toNat / 256 % 16),
    Text.upperDigit (address.toNat / 16 % 16), Text.upperDigit (address.toNat % 16), ':', ' ']

-- Pieces whose widths are the same for every row.
def layout (address : Address) (row : List Byte) : List Char :=
  addressDigits address ++ (half (row.take 8) ++ ([' '] ++ (half (row.drop 8) ++ ([' '] ++
    (List.range 16).map fun index => textGlyph row[index]?))))

def byteColumn (index : Nat) : Nat :=
  if index < 8 then 6 + 3 * index else 7 + 3 * index

theorem glyph_toNat (byte : Byte) : glyph byte.toNat = textGlyph (some byte) := by
  have same : (32 : Int) ≤ byte.toNat ∧ (byte.toNat : Int) < 127 ↔
      32 ≤ byte.toNat ∧ byte.toNat ≤ 126 := by
    omega
  simp only [glyph, same, textGlyph, Int.toNat_natCast]

variable {row : List Byte}

theorem lineCharacters_eq (address : Address) (nonempty : row ≠ []) (short : row.length ≤ 16) :
    lineCharacters address (numbers row) = layout address row := by
  have text : ((numbers row).map glyph).rightpad 16 ' ' =
      (List.range 16).map fun index => textGlyph row[index]? := by
    rw [map_getElem?_range textGlyph short]
    simp [numbers, glyph_toNat, Function.comp_def, List.rightpad, textGlyph]
  have digits := hexColumn_padded nonempty short
  rw [lineCharacters, List.append_assoc _ _ [' ', ' '], digits, text,
    Text.upperHexDigits_address]
  simp only [layout, addressDigits, List.append_assoc, List.cons_append, List.nil_append]

theorem getElem?_range_cells (entries : Nat → Option Byte) {count index place : Nat}
    (within : index < count) (inside : place < 3) :
    ((List.range count).flatMap fun index => cell (entries index))[3 * index + place]? =
      (cell (entries index))[place]? := by
  induction index generalizing entries count with
  | zero =>
    obtain ⟨less, rfl⟩ := Nat.exists_eq_succ_of_ne_zero (Nat.ne_of_gt within)
    simp [List.range_succ_eq_map, List.getElem?_append_left, length_cell, inside]
  | succ index ih =>
    obtain ⟨less, rfl⟩ := Nat.exists_eq_succ_of_ne_zero (Nat.ne_of_gt (Nat.zero_lt_of_lt within))
    have later := ih (fun index => entries (index + 1)) (Nat.lt_of_succ_lt_succ within)
    have place : 3 * (index + 1) + place = 3 + (3 * index + place) := by omega
    simp only [List.range_succ_eq_map, List.flatMap_cons, List.flatMap_map, place]
    rw [List.getElem?_append_right (by rw [length_cell]; omega), length_cell,
      Nat.add_sub_cancel_left]
    exact later

theorem length_half (entries : List Byte) : (half entries).length = 24 := by
  simp only [half, List.length_flatMap, length_cell]
  rfl

theorem length_layout (address : Address) (row : List Byte) : (layout address row).length = 72 := by
  simp [layout, length_half, addressDigits]

theorem length_addressDigits (address : Address) : (addressDigits address).length = 6 := rfl

theorem length_blank : [' '].length = 1 := rfl

theorem getElem?_past {front back : List Char} {width : Nat} (length : front.length = width)
    (column : Nat) : (front ++ back)[width + column]? = back[column]? := by
  rw [List.getElem?_append_right (by omega), length, Nat.add_sub_cancel_left]

theorem getElem?_layout_cell (address : Address) (row : List Byte) {index place : Nat}
    (within : index < 16) (inside : place < 3) :
    (layout address row)[byteColumn index + place]? = (cell row[index]?)[place]? := by
  by_cases first : index < 8
  next =>
    have column : byteColumn index + place = 6 + (3 * index + place) := by
      simp only [byteColumn, first, if_true]
      omega
    have entry : (row.take 8)[index]? = row[index]? := List.getElem?_take_of_lt first
    rw [column, layout, getElem?_past (length_addressDigits _), List.getElem?_append_left, half,
      getElem?_range_cells (fun index => (row.take 8)[index]?) first inside, entry]
    rw [length_half]
    omega
  next =>
    have column : byteColumn index + place = 6 + (24 + (1 + (3 * (index - 8) + place))) := by
      simp only [byteColumn, first, if_false]
      omega
    have entry : (row.drop 8)[index - 8]? = row[index]? := by
      rw [List.getElem?_drop, Nat.add_sub_cancel' (by omega)]
    rw [column, layout, getElem?_past (length_addressDigits _), getElem?_past (length_half _),
      getElem?_past length_blank, List.getElem?_append_left, half,
      getElem?_range_cells (fun index => (row.drop 8)[index]?) (by omega : index - 8 < 8) inside,
      entry]
    rw [length_half]
    omega

theorem getElem?_layout_text (address : Address) (row : List Byte) {index : Nat}
    (within : index < 16) :
    (layout address row)[56 + index]? = some (textGlyph row[index]?) := by
  have column : 56 + index = 6 + (24 + (1 + (24 + (1 + index)))) := by omega
  rw [column, layout, getElem?_past (length_addressDigits _), getElem?_past (length_half _),
    getElem?_past length_blank, getElem?_past (length_half _), getElem?_past length_blank,
    List.getElem?_map, List.getElem?_range within, Option.map_some]

theorem getElem?_layout_gap (address : Address) (row : List Byte) :
    (layout address row)[30]? = some ' ' ∧ (layout address row)[55]? = some ' ' := by
  constructor
  next =>
    have column : 30 = 6 + (24 + 0) := rfl
    rw [column, layout, getElem?_past (length_addressDigits _), getElem?_past (length_half _)]
    rfl
  next =>
    have column : 55 = 6 + (24 + (1 + (24 + 0))) := rfl
    rw [column, layout, getElem?_past (length_addressDigits _), getElem?_past (length_half _),
      getElem?_past length_blank, getElem?_past (length_half _)]
    rfl

-- A byte has two digits at its place in the columns and a character at its place in the text.
structure Renders (location : Int) (row : Nat → Option Byte) (line : String) : Prop where
  width : line.length = 72
  address : line.toList.take 6 = addressDigits (.wrap location)
  high : ∀ index < 16, ∀ byte, row index = some byte →
    line.toList[byteColumn index]? = some (Text.upperDigit (byte.toNat / 16))
  low : ∀ index < 16, ∀ byte, row index = some byte →
    line.toList[byteColumn index + 1]? = some (Text.upperDigit (byte.toNat % 16))
  text : ∀ index < 16, ∀ byte, row index = some byte →
    line.toList[56 + index]? =
      some (if 32 ≤ byte.toNat ∧ byte.toNat ≤ 126 then Char.ofNat byte.toNat else '.')
  blank : ∀ column < 72, 6 ≤ column →
    (∀ index < 16, (row index).isSome → column ≠ byteColumn index ∧
      column ≠ byteColumn index + 1 ∧ column ≠ 56 + index) →
    line.toList[column]? = some ' '

theorem Renders.congr {location : Int} {row other : Nat → Option Byte} {line : String}
    (renders : Renders location row line) (same : ∀ index < 16, row index = other index) :
    Renders location other line where
  width := renders.width
  address := renders.address
  high := by
    intro index within byte stored
    exact renders.high index within byte ((same index within).trans stored)
  low := by
    intro index within byte stored
    exact renders.low index within byte ((same index within).trans stored)
  text := by
    intro index within byte stored
    exact renders.text index within byte ((same index within).trans stored)
  blank := by
    intro column bounded past free
    refine renders.blank column bounded past fun index within stored => free index within ?_
    rwa [← same index within]

theorem exists_byteColumn {column : Nat} (past : 6 ≤ column) (before : column < 55)
    (between : column ≠ 30) :
    ∃ index < 16, ∃ place < 3, column = byteColumn index + place := by
  by_cases first : column < 30
  next =>
    refine ⟨(column - 6) / 3, by omega, (column - 6) % 3, by omega, ?_⟩
    rw [byteColumn, if_pos (by omega)]
    omega
  next =>
    refine ⟨(column - 7) / 3, by omega, (column - 7) % 3, by omega, ?_⟩
    rw [byteColumn, if_neg (by omega)]
    omega

theorem getElem?_layout_free (address : Address) {column : Nat} (bounded : column < 72)
    (past : 6 ≤ column)
    (free : ∀ index < 16, row[index]?.isSome → column ≠ byteColumn index ∧
      column ≠ byteColumn index + 1 ∧ column ≠ 56 + index) :
    (layout address row)[column]? = some ' ' := by
  -- Every column behind the address is one of the text, of a cell, or between them.
  by_cases text : 56 ≤ column
  next =>
    obtain ⟨index, rfl⟩ := Nat.exists_eq_add_of_le text
    have within : index < 16 := by omega
    rw [getElem?_layout_text address row within]
    cases stored : row[index]? with
    | none => rfl
    | some byte => exact absurd rfl (free index within (by simp [stored])).2.2
  next =>
    by_cases between : column = 30 ∨ column = 55
    next =>
      obtain ⟨first, second⟩ := getElem?_layout_gap address row
      rcases between with rfl | rfl
      next => exact first
      next => exact second
    next =>
      obtain ⟨index, within, place, inside, rfl⟩ :=
        exists_byteColumn past (by omega) (by omega : column ≠ 30)
      rw [getElem?_layout_cell address row within inside]
      cases stored : row[index]? with
      | none => exact List.getElem?_replicate_of_lt inside
      | some byte =>
        obtain ⟨high, low, _⟩ := free index within (by simp [stored])
        obtain rfl : place = 2 := by omega
        rfl

theorem layout_renders (location : Int) (row : List Byte) :
    Renders location (row[·]?) (.ofList (layout (.wrap location) row)) where
  width := by rw [String.length_ofList, length_layout]
  address := by
    rw [String.toList_ofList]
    rfl
  high := by
    intro index within byte stored
    have shown := getElem?_layout_cell (.wrap location) row within (by decide : 0 < 3)
    rw [stored] at shown
    rwa [String.toList_ofList]
  low := by
    intro index within byte stored
    have shown := getElem?_layout_cell (.wrap location) row within (by decide : 1 < 3)
    rw [stored] at shown
    rwa [String.toList_ofList]
  text := by
    intro index within byte stored
    rw [String.toList_ofList, getElem?_layout_text _ _ within, stored]
    rfl
  blank := by
    intro column bounded past free
    rw [String.toList_ofList]
    exact getElem?_layout_free _ bounded past free

end Layout

section Lines

variable (data : List Byte) (start : Int)

theorem length_lines : (lines (numbers data) start).length = (data.length + 15) / 16 := by
  rw [lines, List.length_mapIdx, length_rows (by decide), numbers, List.length_map]
  rfl

theorem lines_eq : lines (numbers data) start =
    (rows 16 data).mapIdx fun index row => .ofList (layout (.wrap (start + 16 * index)) row) := by
  apply List.ext_getElem?
  intro index
  rw [lines, numbers, rows_map, List.getElem?_mapIdx, List.getElem?_mapIdx, List.getElem?_map,
    getElem?_rows (by decide)]
  split
  next within =>
    have nonempty : (data.drop (16 * index)).take 16 ≠ [] := by
      apply List.length_pos_iff.mp
      rw [List.length_take, List.length_drop]
      omega
    have characters := lineCharacters_eq (.wrap (start + 16 * index)) nonempty
      (List.length_take_le 16 _)
    rw [numbers] at characters
    simp only [Option.map_some, Int.add_comm _ start, characters]
  next => rfl

theorem lines_render {index : Nat} {line : String}
    (listed : (lines (numbers data) start)[index]? = some line) :
    Renders (start + 16 * index) (fun place => data[16 * index + place]?) line := by
  rw [lines_eq, List.getElem?_mapIdx, getElem?_rows (by decide)] at listed
  split at listed
  next within =>
    obtain rfl := Option.some.inj listed
    refine (layout_renders _ _).congr fun place inside => ?_
    rw [List.getElem?_take_of_lt inside, List.getElem?_drop]
  next => cases listed

end Lines

end Hexdump

end Mos6502
