import Mos6502.Machine.Run
import Mos6502.Proofs.MemoryHistory
import Mos6502.Proofs.SettingsHistory
import Mos6502.Proofs.StepOutcome

set_option autoImplicit false

namespace Mos6502

namespace Machine

def atReset (settings : Settings) (memory : Memory) : Machine where
  pc := memory.readWord Layout.resetVector
  settings := settings
  memory := memory

def bootMemory (program : List Int) (start : Int) : Memory :=
  ((Memory.blank.store start program).poke 0xfffc (start % 256)).poke 0xfffd (start / 256)

def IsVector (location : Int) : Prop :=
  location % 65536 = 0xfffc ∨ location % 65536 = 0xfffd

instance (location : Int) : Decidable (IsVector location) :=
  inferInstanceAs (Decidable (_ ∨ _))

structure Boots (program : List Int) (start : Int) (machine : Machine) : Prop where
  pc : (machine.pc.toNat : Int) = start
  registers : machine.a = 0 ∧ machine.x = 0 ∧ machine.y = 0 ∧ machine.sp = 0xfd
  status : machine.status.toByte = 0x24
  uncounted : machine.instructionCount = 0 ∧ machine.lastInstruction = none
  vector : ((machine.memory.peek 0xfffc).toNat : Int) = start % 256 ∧
    ((machine.memory.peek 0xfffd).toNat : Int) = start / 256
  loaded : ∀ (index : Nat) (value location : Int), program[index]? = some value →
    location % 65536 = (start + index) % 65536 → ¬IsVector location →
      ((machine.memory.peek location).toNat : Int) = value % 256
  blank : ∀ location : Int, ¬IsVector location →
    (∀ index < program.length, location % 65536 ≠ (start + index) % 65536) →
      machine.memory.peek location = 0

def fetched (machine : Machine) : Nat → List Byte
  | 0 => []
  | count + 1 => machine.fetch.1 :: machine.fetch.2.fetched count

section Image

variable {program : List Int} {start : Int}

theorem peek_bootMemory {location : Int} (apart : ¬IsVector location) :
    (bootMemory program start).peek location =
      (Memory.blank.store start program).peek location := by
  have low : location % 65536 ≠ 0xfffc % 65536 := fun same => apart (.inl same)
  have high : location % 65536 ≠ 0xfffd % 65536 := fun same => apart (.inr same)
  rw [bootMemory, Memory.peek_poke, if_neg high, Memory.peek_poke, if_neg low]

theorem vector_bootMemory (program : List Int) (inRange : 0 ≤ start ∧ start ≤ 65535) :
    (((bootMemory program start).peek 0xfffc).toNat : Int) = start % 256 ∧
      (((bootMemory program start).peek 0xfffd).toNat : Int) = start / 256 := by
  have apart : (0xfffc : Int) % 65536 ≠ 0xfffd % 65536 := by decide
  constructor
  next =>
    rw [bootMemory, Memory.peek_poke, if_neg apart, Memory.peek_poke, if_pos rfl]
    exact Byte.intCast_toNat_wrap (by omega)
  next =>
    rw [bootMemory, Memory.peek_poke, if_pos rfl]
    exact Byte.intCast_toNat_wrap (by omega)

theorem readWord_bootMemory (program : List Int) (inRange : 0 ≤ start ∧ start ≤ 65535) :
    (bootMemory program start).readWord Layout.resetVector = .wrap start := by
  obtain ⟨low, high⟩ := vector_bootMemory program inRange
  have word := (bootMemory program start).toNat_peekWord 0xfffc
  have bound := Address.intCast_toNat_wrap inRange
  apply BitVec.eq_of_toNat_eq
  change ((bootMemory program start).peekWord 0xfffc).toNat = _
  change _ = _ + 256 * ((bootMemory program start).peek 0xfffd).toNat at word
  omega

end Image

section Outcome

variable {program : List Int} {start : Int} {options : List (String × Value)}

theorem boot_of_unknown {before : List (String × Value)}
    (known : ∀ option ∈ before, Core.factorySettings.Knows option.1) {name : String}
    (unknown : ¬Core.factorySettings.Knows name) (value : Value)
    (after : List (String × Value)) :
    boot program start (before ++ (name, value) :: after) =
      .error (.unknownOption (Text.lowercase name)) := by
  simp only [boot, create, Core.create_of_unknown known unknown value after]
  rfl

variable (known : ∀ option ∈ options, Core.factorySettings.Knows option.1)
include known

theorem boot_of_known :
    boot program start options = (do
      let loaded ← Memory.blank.load start program
      let memory ← loaded.pokeWord Layout.resetVector.toNat start
      return atReset (Core.factorySettings.update options).1 memory) := by
  simp only [boot, create, Core.create_of_known known]
  rfl

theorem boot_of_long (long : 65536 < program.length) :
    boot program start options = .error (.imageTooLong program.length) := by
  have refused : Memory.blank.load start program = .error (.imageTooLong program.length) :=
    if_neg (Nat.not_le.mpr long)
  rw [boot_of_known known, refused]
  rfl

variable (fits : program.length ≤ 65536)
include fits

theorem boot_of_outside (outside : ¬(0 ≤ start ∧ start ≤ 65535)) :
    boot program start options = .error (.wordOutOfRange start) := by
  have loaded : Memory.blank.load start program = .ok (Memory.blank.store start program) :=
    if_pos fits
  have refused : (Memory.blank.store start program).pokeWord Layout.resetVector.toNat start =
      .error (.wordOutOfRange start) := if_neg outside
  rw [boot_of_known known, loaded]
  change Except.bind (Memory.pokeWord _ _ _) _ = _
  rw [refused]
  rfl

theorem boot_of_fits (inRange : 0 ≤ start ∧ start ≤ 65535) :
    boot program start options =
      .ok (atReset (Core.factorySettings.update options).1 (bootMemory program start)) := by
  have loaded : Memory.blank.load start program = .ok (Memory.blank.store start program) :=
    if_pos fits
  have vector : (Memory.blank.store start program).pokeWord Layout.resetVector.toNat start =
      .ok (bootMemory program start) := if_pos inRange
  rw [boot_of_known known, loaded]
  change Except.bind (Memory.pokeWord _ _ _) _ = _
  rw [vector]
  rfl

omit known fits in
theorem accepted_of_boot {machine : Machine} (booted : boot program start options = .ok machine) :
    (∀ option ∈ options, Core.factorySettings.Knows option.1) ∧ program.length ≤ 65536 ∧
      0 ≤ start ∧ start ≤ 65535 := by
  have known : ∀ option ∈ options, Core.factorySettings.Knows option.1 := by
    by_contra unknown
    obtain ⟨before, name, value, after, rfl, earlier, missing⟩ :=
      Settings.exists_first_unknown unknown
    rw [boot_of_unknown earlier missing] at booted
    cases booted
  have fits : program.length ≤ 65536 := by
    by_contra long
    rw [boot_of_long known (by omega)] at booted
    cases booted
  refine ⟨known, fits, ?_⟩
  by_contra outside
  rw [boot_of_outside known fits outside] at booted
  cases booted

omit known fits in
theorem kind_of_boot {fault : Fault} (failed : boot program start options = .error fault) :
    fault.kind = .value := by
  by_cases known : ∀ option ∈ options, Core.factorySettings.Knows option.1
  next =>
    by_cases fits : program.length ≤ 65536
    next =>
      by_cases inRange : 0 ≤ start ∧ start ≤ 65535
      next =>
        rw [boot_of_fits known fits inRange] at failed
        cases failed
      next =>
        rw [boot_of_outside known fits inRange] at failed
        obtain rfl := Except.error.inj failed
        rfl
    next =>
      rw [boot_of_long known (by omega)] at failed
      obtain rfl := Except.error.inj failed
      rfl
  next =>
    obtain ⟨before, name, value, after, rfl, earlier, missing⟩ :=
      Settings.exists_first_unknown known
    rw [boot_of_unknown earlier missing] at failed
    obtain rfl := Except.error.inj failed
    rfl

end Outcome

section Booted

variable {program : List Int} {start : Int}

theorem boots_atReset (settings : Settings) (fits : program.length ≤ 65536)
    (inRange : 0 ≤ start ∧ start ≤ 65535) :
    Boots program start (atReset settings (bootMemory program start)) where
  pc := by
    rw [atReset, readWord_bootMemory program inRange]
    exact Address.intCast_toNat_wrap inRange
  registers := ⟨rfl, rfl, rfl, rfl⟩
  status := Status.toByte_ofByte _
  uncounted := ⟨rfl, rfl⟩
  vector := vector_bootMemory program inRange
  loaded := by
    intro index value location stored here apart
    change (((bootMemory program start).peek location).toNat : Int) = _
    rw [peek_bootMemory apart, Memory.peek_store _ fits stored here, Byte.toNat_wrap]
    omega
  blank := by
    intro location apart outside
    change (bootMemory program start).peek location = 0
    rw [peek_bootMemory apart, Memory.peek_store_outside _ outside]
    exact Memory.read_blank _

theorem fetched_eq (machine : Machine) (count : Nat) :
    machine.fetched count = (List.range count).map fun index =>
      machine.memory.read (machine.pc + BitVec.ofNat 16 index) := by
  induction count generalizing machine with
  | zero => rfl
  | succ count ih =>
    simp only [fetched, ih, List.range_succ_eq_map, List.map_cons, List.map_map]
    congr 1
    next => simp [fetch]
    next =>
      refine List.map_congr_left fun index _ => ?_
      have moved : machine.pc + 1 + BitVec.ofNat 16 index =
          machine.pc + BitVec.ofNat 16 (index + 1) := by
        bv_omega
      exact congrArg machine.memory.read moved

variable {machine : Machine}

theorem Boots.read (boots : Boots program start machine)
    (apart : ∀ index < program.length, ¬IsVector (start + index)) {index : Nat} {value : Int}
    (stored : program[index]? = some value) :
    machine.memory.read (machine.pc + BitVec.ofNat 16 index) = .wrap value := by
  have within : index < program.length := (List.getElem?_eq_some_iff.mp stored).1
  have loaded := boots.loaded index value (start + index) stored rfl (apart index within)
  have here : machine.pc + BitVec.ofNat 16 index = .wrap (start + index) := by
    rw [← boots.pc, Address.wrap_add, Address.wrap_toNat]
    rfl
  apply BitVec.eq_of_toNat_eq
  rw [here, Byte.toNat_wrap]
  change (machine.memory.peek (start + index)).toNat = _
  omega

-- Beyond the program the bytes are whatever else is in the memory.
theorem Boots.fetched (boots : Boots program start machine)
    (apart : ∀ index < program.length, ¬IsVector (start + index)) (count : Nat) :
    (machine.fetched count).take program.length = (program.take count).map Byte.wrap := by
  apply List.ext_getElem?
  intro index
  rw [fetched_eq, List.getElem?_take, List.getElem?_map, List.getElem?_map, List.getElem?_take]
  by_cases within : index < program.length
  next =>
    have stored := List.getElem?_eq_getElem within
    by_cases asked : index < count
    next => simp [within, asked, boots.read apart stored]
    next => simp [asked]
  next => simp [within]

theorem Boots.step (boots : Boots program start machine)
    (apart : ∀ index < program.length, ¬IsVector (start + index)) {first : Int}
    (stored : program[0]? = some first) :
    match Instruction.decode (.wrap first) with
    | some _ =>
      machine.step.fault = none ∧ machine.step.machine.lastInstruction = some (.wrap first)
    | none => machine.step.fault = some (.unimplementedOpcode (first % 256) (some start)) := by
  have opcode : machine.opcode = .wrap first := by
    simpa [Machine.opcode] using boots.read apart stored
  split
  next instruction decoded =>
    have known : machine.instruction? = some instruction := by rw [instruction?, opcode, decoded]
    have ledger := congrArg (·.1) (ledger_step known)
    exact ⟨congrArg Effect.fault (step_of_decode known), opcode ▸ ledger⟩
  next unknown =>
    have refused : machine.instruction? = none := by rw [instruction?, opcode, unknown]
    have number : ((Byte.wrap first).toNat : Int) = first % 256 := by
      rw [Byte.toNat_wrap]
      omega
    rw [step_eq_refused refused, opcode, number, boots.pc]

end Booted

-- Of what is wrong, the first in the order of the conditions is the outcome.
theorem boot_conforms (program : List Int) (start : Int) (options : List (String × Value)) :
    ((∃ machine, boot program start options = .ok machine) ↔
      (∀ option ∈ options, Text.lowercase option.1 ∈ ["brk_pushes_state", "debug"]) ∧
        program.length ≤ 65536 ∧ 0 ≤ start ∧ start ≤ 65535) ∧
    (∀ (before after : List (String × Value)) (name : String) (value : Value),
      options = before ++ (name, value) :: after →
        (∀ option ∈ before, Text.lowercase option.1 ∈ ["brk_pushes_state", "debug"]) →
          Text.lowercase name ∉ ["brk_pushes_state", "debug"] →
            boot program start options = .error (.unknownOption (Text.lowercase name))) ∧
    ((∀ option ∈ options, Text.lowercase option.1 ∈ ["brk_pushes_state", "debug"]) →
      (65536 < program.length →
        boot program start options = .error (.imageTooLong program.length)) ∧
      (program.length ≤ 65536 → ¬(0 ≤ start ∧ start ≤ 65535) →
        boot program start options = .error (.wordOutOfRange start))) ∧
    (∀ fault, boot program start options = .error fault → fault.kind = .value) ∧
    ∀ machine, boot program start options = .ok machine →
      Boots program start machine ∧
      ∀ first, program[0]? = some first →
        (∀ index < program.length, ¬IsVector (start + index)) →
          (∀ count, (machine.fetched count).take program.length =
            (program.take count).map Byte.wrap) ∧
          match Instruction.decode (.wrap first) with
          | some _ =>
            machine.step.fault = none ∧ machine.step.machine.lastInstruction = some (.wrap first)
          | none =>
            machine.step.fault = some (.unimplementedOpcode (first % 256) (some start)) := by
  refine ⟨⟨fun ⟨_, booted⟩ => accepted_of_boot booted, fun ⟨known, fits, inRange⟩ =>
      ⟨_, boot_of_fits known fits inRange⟩⟩,
    fun before after name value split known unknown =>
      split ▸ boot_of_unknown known unknown value after,
    fun known => ⟨boot_of_long known, boot_of_outside known⟩, fun fault => kind_of_boot,
    fun machine booted => ?_⟩
  obtain ⟨known, fits, inRange⟩ := accepted_of_boot booted
  rw [boot_of_fits known fits inRange] at booted
  obtain rfl := Except.ok.inj booted
  have boots := boots_atReset (Core.factorySettings.update options).1 fits inRange
  exact ⟨boots, fun first stored apart => ⟨boots.fetched apart, boots.step apart stored⟩⟩

-- One program lies over the reset vector, and one goes on past the last address.
theorem boot_aroundVector :
    (∃ machine, boot [0xa9, 1, 2] 0xfffb = .ok machine ∧
      ((machine.memory.peek 0xfffb).toNat : Int) = 0xa9 ∧
      ((machine.memory.peek 0xfffc).toNat : Int) = 0xfb) ∧
    (∃ machine, boot [0x1ea, -1, 7] 0xfffe [("DEBUG", .bool true)] = .ok machine ∧
      (machine.fetched 4).take 3 = [0xea, 0xff, 0x07] ∧
      machine.step.machine.lastInstruction = some 0xea) ∧
    boot [] (-1) [("verbose", .null)] = .error (.unknownOption (Text.lowercase "verbose")) ∧
    boot [] (-1) = .error (.wordOutOfRange (-1)) := by
  obtain ⟨patched, _, _, _, patches⟩ := boot_conforms [0xa9, 1, 2] 0xfffb []
  obtain ⟨placed, _, _, _, places⟩ := boot_conforms [0x1ea, -1, 7] 0xfffe [("DEBUG", .bool true)]
  obtain ⟨_, refused, _⟩ := boot_conforms [] (-1) [("verbose", .null)]
  obtain ⟨vectored, bootedVectored⟩ := patched.mpr (by decide)
  obtain ⟨around, bootedAround⟩ := placed.mpr (by decide +kernel)
  have boots := (patches vectored bootedVectored).1
  obtain ⟨fetched, stepped⟩ := (places around bootedAround).2 0x1ea rfl (by decide)
  have loaded := boots.loaded 0 0xa9 0xfffb rfl (by decide) (by decide)
  refine ⟨⟨vectored, bootedVectored, loaded, boots.vector.1⟩,
    ⟨around, bootedAround, fetched 4, stepped.2⟩,
    refused [] [] "verbose" .null rfl nofun (by decide +kernel),
    ((boot_conforms [] (-1) []).2.2.1 nofun).2 (by decide) (by decide)⟩

end Machine

end Mos6502
