import Mos6502.Proofs.HexdumpColumns
import Mos6502.Proofs.MemoryHistory

set_option autoImplicit false

namespace Mos6502

namespace Hexdump

def digitOf? (digit : Char) : Option Nat :=
  Text.upperDigits.idxOf? digit

def byteAt? (characters : List Char) (index : Nat) : Option Byte := do
  let high ← characters[byteColumn index]?.bind digitOf?
  let low ← characters[byteColumn index + 1]?.bind digitOf?
  return .ofNat 8 (16 * high + low)

def readLine (line : String) : List Byte :=
  (List.range 16).filterMap (byteAt? line.toList)

def readLines (lines : List String) : List Byte :=
  lines.flatMap readLine

theorem digitOf?_upperDigit : ∀ digit < 16, digitOf? (Text.upperDigit digit) = some digit := by
  decide

section Line

variable {location : Int} {row : Nat → Option Byte} {line : String} {index : Nat}

theorem Renders.blank_byteColumn (renders : Renders location row line) (within : index < 16)
    (absent : row index = none) : line.toList[byteColumn index]? = some ' ' := by
  refine renders.blank _ ?_ ?_ fun other inside stored => ?_
  next => rw [byteColumn]; split <;> omega
  next => rw [byteColumn]; split <;> omega
  next =>
    have different : index ≠ other := by
      rintro rfl
      simp [absent] at stored
    simp only [byteColumn]
    split <;> split <;> omega

theorem Renders.byteAt? (renders : Renders location row line) (within : index < 16) :
    byteAt? line.toList index = row index := by
  cases stored : row index with
  | none =>
    have blank : digitOf? ' ' = none := by decide
    simp [Hexdump.byteAt?, renders.blank_byteColumn within stored, blank]
  | some byte =>
    have bound := byte.isLt
    have high := digitOf?_upperDigit (byte.toNat / 16) (by omega)
    have low := digitOf?_upperDigit (byte.toNat % 16) (by omega)
    have total : 16 * (byte.toNat / 16) + byte.toNat % 16 = byte.toNat := Nat.div_add_mod ..
    simp [Hexdump.byteAt?, renders.high index within byte stored,
      renders.low index within byte stored, high, low, total]

end Line

section Lines

variable (data : List Byte) (start : Int)

theorem filterMap_getElem?_range {α : Type} {width : Nat} {values : List α}
    (short : values.length ≤ width) : (List.range width).filterMap (values[·]?) = values := by
  have entries := congrArg (List.filterMap id) (map_getElem?_range id short)
  simpa [List.filterMap_map, Function.comp_def] using entries

theorem readLine_layout (location : Int) {row : List Byte} (short : row.length ≤ 16) :
    readLine (.ofList (layout (.wrap location) row)) = row := by
  have renders := layout_renders location row
  have entries : readLine (.ofList (layout (.wrap location) row)) =
      (List.range 16).filterMap (row[·]?) :=
    List.filterMap_congr fun index within => renders.byteAt? (List.mem_range.mp within)
  rw [entries, filterMap_getElem?_range short]

theorem readLines_lines : readLines (lines (numbers data) start) = data := by
  have read : (lines (numbers data) start).map readLine = rows 16 data := by
    rw [lines_eq]
    apply List.ext_getElem?
    intro index
    rw [List.getElem?_map, List.getElem?_mapIdx, getElem?_rows (by decide)]
    split
    next => simp only [Option.map_some, readLine_layout _ (List.length_take_le 16 _)]
    next => rfl
  rw [readLines, List.flatMap_def, read, flatten_rows]

theorem lines_nil : lines [] start = [] := by
  rw [lines, rows]
  rfl

end Lines

end Hexdump

namespace Memory

variable (memory : Memory) (start length : Int)

theorem dump_eq : memory.dump start length =
    Hexdump.lines (Hexdump.numbers (memory.range start length)) start := rfl

theorem length_range : (memory.range start length).length = length.toNat := by
  rw [range, List.length_map, List.length_range]

theorem getElem?_numbers_range {offset : Nat} (within : offset < length.toNat) :
    (Hexdump.numbers (memory.range start length))[offset]? =
      some ((memory.peek (start + offset)).toNat : Int) := by
  simp [Hexdump.numbers, range, within]

theorem readLines_dump : Hexdump.readLines (memory.dump start length) =
    memory.range start length := by
  rw [dump_eq, Hexdump.readLines_lines]

theorem peek_store_dump {length : Int} (fits : length ≤ 65536) (other : Memory) (location : Int) :
    (other.store start
        (Hexdump.numbers (Hexdump.readLines (memory.dump start length)))).peek location =
      if (location - start) % 65536 < length then memory.peek location
      else other.peek location := by
  have count : (Hexdump.numbers (memory.range start length)).length = length.toNat := by
    rw [Hexdump.numbers, List.length_map, length_range]
  rw [readLines_dump]
  split
  next within =>
    have offset : ((location - start) % 65536).toNat < length.toNat := by omega
    have here : location % 65536 = (start + ((location - start) % 65536).toNat) % 65536 := by omega
    have stored := memory.getElem?_numbers_range start length offset
    have same : Address.wrap (start + ((location - start) % 65536).toNat) = .wrap location :=
      Address.wrap_eq_wrap.mpr here.symm
    rw [peek_store other (by omega) stored here, Byte.wrap_toNat, peek, same, peek]
  next outside =>
    refine peek_store_outside other fun index within => ?_
    omega

theorem load_dump {length : Int} (fits : length ≤ 65536) (other : Memory) :
    other.load start (Hexdump.numbers (Hexdump.readLines (memory.dump start length))) =
      .ok (other.store start
        (Hexdump.numbers (Hexdump.readLines (memory.dump start length)))) := by
  refine if_pos ?_
  rw [readLines_dump, Hexdump.numbers, List.length_map, length_range, size]
  omega

theorem load_dump_same {length : Int} (fits : length ≤ 65536) :
    memory.load start (Hexdump.numbers (Hexdump.readLines (memory.dump start length))) =
      .ok memory := by
  rw [memory.load_dump start fits]
  congr 1
  refine ext_read fun address => ?_
  have here := memory.peek_store_dump start fits memory address.toNat
  simpa [peek] using here

end Memory

namespace Hexdump

-- A dump is read back from its digits, and loading it puts back its range and nothing else.
theorem hexdump_conforms (data : List Byte) (start : Int) :
    (lines (numbers data) start).length = (data.length + 15) / 16 ∧
    (∀ (index : Nat) (line : String), (lines (numbers data) start)[index]? = some line →
      Renders (start + 16 * index) (fun place => data[16 * index + place]?) line) ∧
    readLines (lines (numbers data) start) = data ∧
    (∀ (other : List Byte) (origin : Int),
      lines (numbers other) origin = lines (numbers data) start → other = data) ∧
    ∀ (memory : Memory) (length : Int),
      let bytes := (List.range length.toNat).map fun offset : Nat => memory.peek (start + offset)
      memory.dump start length = lines (numbers bytes) start ∧
      (length ≤ 0 → memory.dump start length = []) ∧
      readLines (memory.dump start length) = bytes ∧
      (length ≤ 65536 →
        memory.load start (numbers (readLines (memory.dump start length))) = .ok memory ∧
        ∀ other : Memory, ∃ loaded,
          other.load start (numbers (readLines (memory.dump start length))) = .ok loaded ∧
          ∀ location, loaded.peek location =
            if (location - start) % 65536 < length then memory.peek location
            else other.peek location) := by
  refine ⟨length_lines data start, fun index line => lines_render data start,
    readLines_lines data start, fun other origin same => ?_, fun memory length =>
    ⟨memory.dump_eq start length, fun none => ?_, memory.readLines_dump start length,
      fun fits => ⟨memory.load_dump_same start fits,
        fun other => ⟨_, memory.load_dump start fits other,
          memory.peek_store_dump start fits other⟩⟩⟩⟩
  next => rw [← readLines_lines other origin, same, readLines_lines]
  next =>
    have empty : length.toNat = 0 := Int.toNat_eq_zero.mpr none
    rw [Memory.dump_eq, Memory.range, empty]
    exact lines_nil start

-- A last row of one byte, and a dump of the last cell and the first.
theorem hexdump_shortRow :
    (∃ line, (lines (numbers (List.replicate 17 0x41)) 0xfff0)[1]? = some line ∧
      line.toList.take 6 = ['0', '0', '0', '0', ':', ' '] ∧ line.toList[6]? = some '4' ∧
      line.toList[7]? = some '1' ∧ line.toList[9]? = some ' ' ∧ line.toList[56]? = some 'A') ∧
    lines (numbers (List.replicate 16 0x41)) ≠ lines (numbers (List.replicate 17 0x41)) 0xfff0 ∧
    (Memory.blank.poke 0 0x7f).dump 0xffff 0 = [] ∧
    readLines ((Memory.blank.poke 0 0x7f).dump 0xffff 2) = [0x00, 0x7f] ∧
    (Memory.blank.poke 0 0x7f).load 0xffff
      (numbers (readLines ((Memory.blank.poke 0 0x7f).dump 0xffff 2))) =
        .ok (Memory.blank.poke 0 0x7f) := by
  obtain ⟨count, render, _, injective, _⟩ := hexdump_conforms (List.replicate 17 0x41) 0xfff0
  obtain ⟨_, _, _, _, dumps⟩ := hexdump_conforms [] 0xffff
  obtain ⟨_, _, read, loaded⟩ := dumps (Memory.blank.poke 0 0x7f) 2
  have second : 1 < (lines (numbers (List.replicate 17 0x41)) 0xfff0).length := by
    rw [count]
    decide
  have listed := List.getElem?_eq_getElem second
  have renders := render 1 _ listed
  have last : (Memory.blank.poke 0 0x7f).peek 0xffff = 0x00 := by
    rw [Memory.peek_poke, if_neg (by decide), Memory.peek, Memory.read_blank]
  have first : (Memory.blank.poke 0 0x7f).peek 0x10000 = 0x7f := by
    rw [Memory.peek_poke, if_pos (by decide)]
    rfl
  have bytes : [(Memory.blank.poke 0 0x7f).peek 0xffff, (Memory.blank.poke 0 0x7f).peek 0x10000] =
      [0x00, 0x7f] := by
    rw [last, first]
  refine ⟨⟨_, listed, renders.address, renders.high 0 (by decide) 0x41 rfl,
      renders.low 0 (by decide) 0x41 rfl, renders.blank 9 (by decide) (by decide) (by decide),
      renders.text 0 (by decide) 0x41 rfl⟩,
    fun same => ?_, (dumps _ 0).2.1 (by decide), read.trans bytes, (loaded (by decide)).1⟩
  exact absurd (injective _ _ same) (by decide)

end Hexdump

end Mos6502
