import Mathlib.Data.List.Nodup
import Mos6502.Memory
import Mos6502.Proofs.ByteNumbers

set_option autoImplicit false

namespace Mos6502

inductive Edit where
  | write (location value : Int)
  | writeWord (location word : Int)
  | load (start : Int) (data : List Int)
  | clear
deriving DecidableEq

namespace Edit

def run (memory : Memory) : Edit → Except Fault Memory
  | .write location value => .ok (memory.poke location value)
  | .writeWord location word => memory.pokeWord location word
  | .load start data => memory.load start data
  | .clear => .ok .blank

def refusal? : Edit → Option Fault
  | .writeWord _ word =>
    if word < 0 ∨ 65535 < word then some (.wordOutOfRange word) else none
  | .load _ data => if 65536 < data.length then some (.imageTooLong data.length) else none
  | .write .. | .clear => none

def stores : Edit → List (Int × Int)
  | .write location value => [(location, value % 256)]
  | .writeWord location word => [(location, word % 256), (location + 1, word / 256)]
  | .load start data => data.mapIdx fun index value => (start + index, value % 256)
  | .clear => []

def record (log : List (Int × Int)) (edit : Edit) : List (Int × Int) :=
  match edit.refusal? with
  | some _ => log
  | none => if edit = .clear then [] else edit.stores.reverse ++ log

def log (edits : List Edit) : List (Int × Int) :=
  edits.foldl record []

def latest (location : Int) : List (Int × Int) → Int
  | [] => 0
  | (target, byte) :: earlier =>
    if location % 65536 = target % 65536 then byte else latest location earlier

end Edit

namespace Memory

def edit (memory : Memory) (edit : Edit) : Memory :=
  match edit.run memory with
  | .ok edited => edited
  | .error _ => memory

def edits (memory : Memory) (edits : List Edit) : Memory :=
  edits.foldl Memory.edit memory

-- The cells of a load, as one array of sums on 64 bits.
def imageCells (start : Int) (count : Nat) : List Address :=
  (List.range count).map fun index => (BitVec.ofInt 64 start + BitVec.ofNat 64 index).setWidth 16

def assign (memory : Memory) (cells : List Address) (values : List Byte) : Memory :=
  { cells := Vector.ofFn fun index =>
      ((cells.zip values).lookup (.ofFin index)).getD (memory.read (.ofFin index)) }

def Shows (memory : Memory) (log : List (Int × Int)) : Prop :=
  ∀ location, ((memory.peek location).toNat : Int) = Edit.latest location log

theorem peek_poke (memory : Memory) (target value location : Int) :
    (memory.poke target value).peek location =
      if location % 65536 = target % 65536 then .wrap value else memory.peek location := by
  simp [peek, poke, read_write, Address.wrap_eq_wrap]

theorem peek_store_outside (memory : Memory) {start location : Int} {data : List Int}
    (outside : ∀ index < data.length, location % 65536 ≠ (start + index) % 65536) :
    (memory.store start data).peek location = memory.peek location := by
  induction data generalizing memory start with
  | nil => rfl
  | cons value rest ih =>
    have first := outside 0 (by simp)
    have missed : location % 65536 ≠ start % 65536 := by simpa using first
    rw [store, ih (memory.poke start value), peek_poke, if_neg missed]
    intro index within
    have later := outside (index + 1) (by simpa using within)
    push_cast at later
    omega

theorem peek_store (memory : Memory) {start location : Int} {data : List Int}
    (fits : data.length ≤ 65536) {index : Nat} {value : Int} (stored : data[index]? = some value)
    (here : location % 65536 = (start + index) % 65536) :
    (memory.store start data).peek location = .wrap value := by
  induction data generalizing memory start index with
  | nil => simp at stored
  | cons first rest ih =>
    rw [List.length_cons] at fits
    cases index with
    | zero =>
      obtain rfl : first = value := by simpa using stored
      have same : location % 65536 = start % 65536 := by simpa using here
      -- no element of a load is overwritten by one after it
      rw [store, peek_store_outside, peek_poke, if_pos same]
      intro index within
      omega
    | succ index =>
      have later : rest[index]? = some value := by simpa using stored
      refine ih (memory.poke start first) (by omega) later ?_
      push_cast at here
      omega

theorem shows_blank : blank.Shows [] := by
  intro location
  simp [peek, Edit.latest]

section Stores

variable {memory : Memory} {log : List (Int × Int)}

theorem Shows.poke (shows : memory.Shows log) (target value : Int) :
    (memory.poke target value).Shows ((target, value % 256) :: log) := by
  intro location
  rw [peek_poke, Edit.latest]
  by_cases here : location % 65536 = target % 65536
  next =>
    simp only [here, if_true, Byte.toNat_wrap]
    omega
  next => simpa [here] using shows location

theorem Shows.store (shows : memory.Shows log) (start : Int) (data : List Int) :
    (memory.store start data).Shows ((Edit.load start data).stores.reverse ++ log) := by
  induction data generalizing memory start log with
  | nil => exact shows
  | cons value rest ih =>
    have later := ih (shows.poke start value) (start + 1)
    simpa [Memory.store, Edit.stores, List.mapIdx_cons, Int.add_assoc, Int.add_comm 1] using later

theorem Shows.pokeWord (shows : memory.Shows log) (location : Int) {word : Int}
    (inRange : 0 ≤ word ∧ word ≤ 65535) :
    ((memory.poke location (word % 256)).poke (location + 1) (word / 256)).Shows
      ((Edit.writeWord location word).stores.reverse ++ log) := by
  have stored := (shows.poke location (word % 256)).poke (location + 1) (word / 256)
  have low : word % 256 % 256 = word % 256 := by omega
  have high : word / 256 % 256 = word / 256 := by omega
  rw [low, high] at stored
  exact stored

end Stores

end Memory

namespace Edit

def outcome (memory : Memory) : Edit → Memory
  | .write location value => memory.poke location value
  | .writeWord location word =>
    (memory.poke location (word % 256)).poke (location + 1) (word / 256)
  | .load start data => memory.store start data
  | .clear => .blank

theorem run_eq (memory : Memory) (edit : Edit) :
    edit.run memory = edit.refusal?.elim (.ok (edit.outcome memory)) .error := by
  cases edit with
  | write location value => rfl
  | writeWord location word =>
    by_cases inRange : 0 ≤ word ∧ word ≤ 65535
    next =>
      have accepted : ¬(word < 0 ∨ 65535 < word) := by omega
      simp [run, Memory.pokeWord, refusal?, outcome, inRange, accepted]
    next =>
      have refused : word < 0 ∨ 65535 < word := by omega
      simp [run, Memory.pokeWord, refusal?, inRange, refused]
  | load start data =>
    by_cases fits : data.length ≤ 65536
    next => simp [run, Memory.load, Memory.size, refusal?, outcome, fits, Nat.not_lt.mpr fits]
    next => simp [run, Memory.load, Memory.size, refusal?, fits, Nat.lt_of_not_le fits]
  | clear => rfl

theorem run_error_iff (memory : Memory) (edit : Edit) (fault : Fault) :
    edit.run memory = .error fault ↔ edit.refusal? = some fault := by
  rw [run_eq]
  cases edit.refusal? <;> simp

theorem shows_outcome {memory : Memory} {log : List (Int × Int)} (shows : memory.Shows log)
    {edit : Edit} (accepted : edit.refusal? = none) :
    (edit.outcome memory).Shows (edit.record log) := by
  cases edit with
  | write location value => exact shows.poke location value
  | writeWord location word =>
    have inRange : 0 ≤ word ∧ word ≤ 65535 := by
      simp [refusal?] at accepted
      omega
    simpa [record, accepted, outcome] using shows.pokeWord location inRange
  | load start data => simpa [record, accepted, outcome] using shows.store start data
  | clear => exact Memory.shows_blank

end Edit

namespace Memory

theorem edit_eq (memory : Memory) (edit : Edit) :
    memory.edit edit = edit.refusal?.elim (edit.outcome memory) fun _ => memory := by
  rw [Memory.edit, edit.run_eq]
  cases edit.refusal? <;> rfl

theorem Shows.edit {memory : Memory} {log : List (Int × Int)} (shows : memory.Shows log)
    (edit : Edit) : (memory.edit edit).Shows (edit.record log) := by
  rw [edit_eq]
  cases refusal : edit.refusal? with
  | none => exact Edit.shows_outcome shows refusal
  | some fault => simpa [Edit.record, refusal] using shows

theorem Shows.edits {memory : Memory} {log : List (Int × Int)} (shows : memory.Shows log)
    (edits : List Edit) : (memory.edits edits).Shows (edits.foldl Edit.record log) := by
  induction edits generalizing memory log with
  | nil => exact shows
  | cons edit rest ih => exact ih (shows.edit edit)

theorem store_eq_edits (memory : Memory) (start : Int) (data : List Int) :
    memory.store start data =
      memory.edits (data.mapIdx fun index value => .write (start + index) value) := by
  induction data generalizing memory start with
  | nil => rfl
  | cons value rest ih =>
    rw [store, ih]
    simp [edits, List.mapIdx_cons, Memory.edit, Edit.run, Int.add_assoc, Int.add_comm 1]

theorem read_assign (memory : Memory) (cells : List Address) (values : List Byte)
    (address : Address) : (memory.assign cells values).read address =
      ((cells.zip values).lookup address).getD (memory.read address) := by
  simp [assign, read]

theorem imageCells_eq (start : Int) (count : Nat) :
    imageCells start count = (List.range count).map fun index => .wrap (start + index) := by
  refine List.map_congr_left fun index _ => ?_
  apply BitVec.eq_of_toNat_eq
  -- The sums overflow 64 bits by multiples of the size of the memory.
  simp [BitVec.toNat_ofInt]
  omega

theorem imageCells_succ (start : Int) (count : Nat) :
    imageCells start (count + 1) = .wrap start :: imageCells (start + 1) count := by
  simp [imageCells_eq, List.range_succ_eq_map, Int.add_assoc, Int.add_comm 1]

theorem imageCells_nodup (start : Int) {count : Nat} (fits : count ≤ 65536) :
    (imageCells start count).Nodup := by
  rw [imageCells_eq]
  refine List.nodup_range.map_on fun index here other there same => ?_
  rw [Address.wrap_eq_wrap] at same
  rw [List.mem_range] at here there
  omega

theorem store_eq_assign (memory : Memory) (start : Int) {data : List Int}
    (fits : data.length ≤ 65536) : memory.store start data =
      memory.assign (imageCells start data.length) (data.map Byte.wrap) := by
  induction data generalizing memory start with
  | nil =>
    refine ext_read fun address => ?_
    simp [store, read_assign]
  | cons value rest ih =>
    have distinct := imageCells_nodup start fits
    rw [List.length_cons] at fits distinct
    rw [imageCells_succ, List.nodup_cons] at distinct
    rw [store, ih _ _ (by omega)]
    refine ext_read fun address => ?_
    rw [read_assign, read_assign, List.length_cons, imageCells_succ, List.map_cons,
      List.zip_cons_cons, List.lookup_cons, poke, read_write]
    by_cases first : address = .wrap start
    next =>
      subst first
      have absent : ((imageCells (start + 1) rest.length).zip (rest.map Byte.wrap)).lookup
          (.wrap start) = none := by
        rw [List.lookup_eq_none_iff]
        intro stored member
        have other := (List.of_mem_zip member).1
        rw [bne_iff_ne]
        intro same
        exact distinct.1 (same ▸ other)
      simp [absent]
    next => simp [first, beq_false_of_ne first]

theorem toNat_peekWord (memory : Memory) (location : Int) :
    (memory.peekWord location).toNat =
      (memory.peek location).toNat + 256 * (memory.peek (location + 1)).toNat := by
  have next : Address.wrap (location + 1) = .wrap location + 1 := Address.wrap_add location 1
  simp [peekWord, readWord, peek, next]

theorem toList_eq (memory : Memory) :
    memory.toList = (List.range 65536).map fun index : Nat => memory.peek index := by
  apply List.ext_getElem
  next => simp [toList]
  next =>
    intro index inside _
    have bound : index < 65536 := by simpa [toList] using inside
    have here : ((index : Int) % 65536).toNat = index := by omega
    simp [toList, peek, read, here]

-- A word is stored as its digits are, one after the other.
theorem pokeWord_eq_store (memory : Memory) (location : Int) {word : Int}
    (inRange : 0 ≤ word ∧ word ≤ 65535) : memory.pokeWord location word =
      .ok (memory.store location
        ((LittleEndian.encode word.toNat).map fun byte => (byte.toNat : Int))) := by
  have bytes : (LittleEndian.encode word.toNat).map (fun byte => (byte.toNat : Int)) =
      [word % 256, word / 256] := by
    rw [LittleEndian.encode_word (by omega)]
    simp
    omega
  rw [bytes, pokeWord, if_pos inRange]
  rfl

theorem peekWord_pokeWord {memory later : Memory} {target word : Int}
    (success : memory.pokeWord target word = .ok later) {location : Int}
    (same : location % 65536 = target % 65536) :
    ((later.peekWord location).toNat : Int) = word := by
  rw [pokeWord] at success
  split at success
  next inRange =>
    have stored := Except.ok.inj success
    have apart : location % 65536 ≠ (target + 1) % 65536 := by omega
    have next : (location + 1) % 65536 = (target + 1) % 65536 := by omega
    rw [← stored, toNat_peekWord, peek_poke, peek_poke, peek_poke, if_neg apart, if_pos same,
      if_pos next]
    simp only [Byte.toNat_wrap]
    omega
  next => cases success

-- A load at once is the writes of its elements one after the other.
theorem history_conforms :
    (∀ (edits : List Edit) (location : Int),
      (((blank.edits edits).peek location).toNat : Int) =
        Edit.latest location (Edit.log edits)) ∧
    ∀ memory : Memory,
      (∀ (edit : Edit) (fault : Fault),
        (edit.run memory = .error fault ↔ edit.refusal? = some fault) ∧
        (edit.run memory = .error fault → memory.edit edit = memory)) ∧
      (∀ (start : Int) (data : List Int), data.length ≤ 65536 →
        memory.load start data =
          .ok (memory.assign (imageCells start data.length) (data.map Byte.wrap)) ∧
        (imageCells start data.length).Nodup ∧
        memory.load start data =
          .ok (memory.edits (data.mapIdx fun index value => .write (start + index) value))) ∧
      (∀ location word : Int, 0 ≤ word ∧ word ≤ 65535 →
        memory.pokeWord location word = .ok (memory.store location
          ((LittleEndian.encode word.toNat).map fun byte => (byte.toNat : Int)))) ∧
      (∀ (target word : Int) (later : Memory), memory.pokeWord target word = .ok later →
        ∀ location : Int, location % 65536 = target % 65536 →
          ((later.peekWord location).toNat : Int) = word) ∧
      (∀ location : Int, (memory.peekWord location).toNat =
        (memory.peek location).toNat + 256 * (memory.peek (location + 1)).toNat) ∧
      memory.toList = (List.range 65536).map fun index : Nat => memory.peek index := by
  refine ⟨fun edits => shows_blank.edits edits, fun memory => ⟨fun edit fault => ?_,
    fun start data fits => ?_, fun location word => memory.pokeWord_eq_store location,
    fun target word later success location => peekWord_pokeWord success, memory.toNat_peekWord,
    memory.toList_eq⟩⟩
  next =>
    refine ⟨edit.run_error_iff memory fault, fun error => ?_⟩
    simp [Memory.edit, error]
  next =>
    have load : memory.load start data = .ok (memory.store start data) := if_pos fits
    refine ⟨?_, imageCells_nodup start fits, ?_⟩
    next => rw [load, store_eq_assign memory start fits]
    next => rw [load, store_eq_edits]

def wrappingEdits : List Edit :=
  [.load 0xfffe [1, 2, 0x103], .write (-1) 0x1ff, .writeWord 0 0x10000, .writeWord (-2) 0x1234]

-- The load ends on the first cell, one word is refused and the last one covers two stores.
theorem history_wrappingEdits :
    (blank.edits wrappingEdits).peek 0x10000 = 3 ∧
    (blank.edits wrappingEdits).peek 0xffff = 0x12 ∧
    (Edit.writeWord 0 0x10000).run blank = .error (.wordOutOfRange 0x10000) ∧
    blank.edit (.writeWord 0 0x10000) = blank ∧
    blank.load 0xfffe [1, 2, 0x103] =
      .ok (blank.assign [0xfffe, 0xffff, 0x0000] [0x01, 0x02, 0x03]) ∧
    ∃ later, blank.pokeWord (-1) 0x1234 = .ok later ∧ (later.peekWord 0xffff).toNat = 0x1234 := by
  obtain ⟨shows, memories⟩ := history_conforms
  obtain ⟨refuses, loads, pokes, returns, _⟩ := memories blank
  have wrapped := shows wrappingEdits 0x10000
  have covered := shows wrappingEdits 0xffff
  have refused := (refuses (.writeWord 0 0x10000) (.wordOutOfRange 0x10000)).1.mpr rfl
  have stored := pokes (-1) 0x1234 (by decide)
  refine ⟨BitVec.eq_of_toNat_eq (Int.ofNat_inj.mp wrapped),
    BitVec.eq_of_toNat_eq (Int.ofNat_inj.mp covered), refused, (refuses _ _).2 refused,
    (loads 0xfffe [1, 2, 0x103] (by decide)).1, _, stored, ?_⟩
  exact Int.ofNat_inj.mp (returns _ _ _ stored 0xffff (by decide))

end Memory

end Mos6502
