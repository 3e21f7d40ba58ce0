import Mathlib.Data.List.Infix
import Mos6502.Proofs.Stack

set_option autoImplicit false

namespace Mos6502

inductive StackCall where
  | push (value : Int)
  | pull
deriving DecidableEq

namespace StackCall

-- An empty list has nothing to pull.
def onList : List Int → List StackCall → Option (List Int × List Int)
  | entries, [] => some ([], entries)
  | entries, .push value :: rest => onList (value % 256 :: entries) rest
  | [], .pull :: _ => none
  | top :: entries, .pull :: rest =>
    (onList entries rest).map fun ended => (top :: ended.1, ended.2)

def weight : StackCall → Int
  | .push _ => 1
  | .pull => -1

def depth (calls : List StackCall) : Int :=
  (calls.map weight).sum

def Within (used : Int) (calls : List StackCall) : Prop :=
  ∀ earlier, earlier <+: calls → 0 ≤ used + depth earlier ∧ used + depth earlier ≤ 256

instance (used : Int) (calls : List StackCall) : Decidable (Within used calls) :=
  decidable_of_iff (∀ earlier ∈ calls.inits, 0 ≤ used + depth earlier ∧ used + depth earlier ≤ 256)
    (forall_congr' fun earlier => by rw [List.mem_inits])

variable {used : Int} {call : StackCall} {calls : List StackCall}

theorem depth_cons (call : StackCall) (calls : List StackCall) :
    depth (call :: calls) = call.weight + depth calls := by
  simp only [depth, List.map_cons, List.sum_cons]

theorem Within.first (within : Within used (call :: calls)) :
    0 ≤ used + call.weight ∧ used + call.weight ≤ 256 := by
  have first := within [call] (List.prefix_append [call] calls)
  simpa [depth] using first

theorem Within.rest (within : Within used (call :: calls)) :
    Within (used + call.weight) calls := by
  intro earlier begun
  have longer := within (call :: earlier) ((List.prefix_cons_inj call).mpr begun)
  rw [depth_cons] at longer
  omega

end StackCall

namespace Machine

def useStack (machine : Machine) : List StackCall → List Int × Machine
  | [] => ([], machine)
  | .push value :: rest => (machine.push (.wrap value)).useStack rest
  | .pull :: rest =>
    let later := machine.pull.2.useStack rest
    (machine.pull.1.toNat :: later.1, later.2)

structure Keeps (machine : Machine) (entries : List Int) : Prop where
  fits : entries.length ≤ 256
  held : ∀ (index : Nat) (value : Int), entries[index]? = some value →
    (machine.memory.read
      (Layout.stackCell (machine.sp + 1 + BitVec.ofNat 8 index))).toNat = value

namespace Keeps

variable {machine : Machine} {entries : List Int}

theorem empty (machine : Machine) : machine.Keeps [] where
  fits := by decide
  held := nofun

theorem held_push (keeps : machine.Keeps entries) (value : Int) {index : Nat} {entry : Int}
    (inside : index < 256) (found : (value % 256 :: entries)[index]? = some entry) :
    ((machine.push (.wrap value)).memory.read (Layout.stackCell
      ((machine.push (.wrap value)).sp + 1 + BitVec.ofNat 8 index))).toNat = entry := by
  cases index with
  | zero =>
    obtain rfl : value % 256 = entry := by simpa using found
    have top : (machine.push (.wrap value)).sp + 1 + BitVec.ofNat 8 0 = machine.sp := by
      change machine.sp - 1 + 1 + _ = _
      bv_omega
    have written : (machine.push (.wrap value)).memory.read (Layout.stackCell machine.sp) =
        .wrap value := Memory.read_write_same _ _ _
    rw [top, written, Byte.toNat_wrap]
    omega
  | succ index =>
    have cell : (machine.push (.wrap value)).sp + 1 + BitVec.ofNat 8 (index + 1) =
        machine.sp + 1 + BitVec.ofNat 8 index := by
      change machine.sp - 1 + 1 + _ = _
      bv_omega
    have other : Layout.stackCell (machine.sp + 1 + BitVec.ofNat 8 index) ≠
        Layout.stackCell machine.sp := by
      rw [ne_eq, Layout.stackCell_inj]
      bv_omega
    rw [cell, machine.read_push _ other]
    exact keeps.held index entry (by simpa using found)

-- A push onto 256 entries goes over the oldest of them.
theorem push (keeps : machine.Keeps entries) (value : Int) :
    (machine.push (.wrap value)).Keeps ((value % 256 :: entries).take 256) where
  fits := List.length_take_le _ _
  held := by
    intro index entry found
    rw [List.getElem?_take] at found
    split at found
    next inside => exact keeps.held_push value inside found
    next => cases found

theorem pull {top : Int} (keeps : machine.Keeps (top :: entries)) :
    machine.pull.1.toNat = top ∧ machine.pull.2.Keeps entries := by
  refine ⟨?_, ?_, ?_⟩
  next =>
    have first := keeps.held 0 top rfl
    rwa [BitVec.ofNat_eq_ofNat, BitVec.add_zero] at first
  next => exact Nat.le_of_succ_le keeps.fits
  next =>
    intro index value found
    have cell : machine.sp + 1 + 1 + BitVec.ofNat 8 index =
        machine.sp + 1 + BitVec.ofNat 8 (index + 1) := by bv_omega
    have held := keeps.held (index + 1) value found
    rw [← cell] at held
    exact held

theorem simulates (keeps : machine.Keeps entries) {calls : List StackCall}
    (within : StackCall.Within entries.length calls) :
    ∃ pulled left, StackCall.onList entries calls = some (pulled, left) ∧
      (machine.useStack calls).1 = pulled ∧ (machine.useStack calls).2.Keeps left := by
  induction calls generalizing machine entries with
  | nil => exact ⟨[], entries, by rw [StackCall.onList], rfl, keeps⟩
  | cons call calls ih =>
    have first := within.first
    have rest := within.rest
    cases call with
    | push value =>
      -- within the bound no entry is lost
      have whole : (value % 256 :: entries).take 256 = value % 256 :: entries := by
        apply List.take_of_length_le
        rw [StackCall.weight] at first
        rw [List.length_cons]
        omega
      have pushed := keeps.push value
      rw [whole] at pushed
      obtain ⟨pulled, left, list, run⟩ := ih pushed rest
      exact ⟨pulled, left, list, run⟩
    | pull =>
      cases entries with
      | nil => simp [StackCall.weight] at first
      | cons top entries =>
        have fewer : ((top :: entries).length : Int) + StackCall.pull.weight = entries.length := by
          simp [StackCall.weight]
        rw [fewer] at rest
        obtain ⟨value, popped⟩ := keeps.pull
        obtain ⟨pulled, left, list, run, kept⟩ := ih popped rest
        refine ⟨top :: pulled, left, ?_, ?_, kept⟩
        next => rw [StackCall.onList, list]; rfl
        next => rw [useStack, run, value]

theorem pushes (keeps : machine.Keeps entries) (values : List Int) :
    (machine.useStack (values.map .push)).2.Keeps
      (((values.map (· % 256)).reverse ++ entries).take 256) := by
  induction values generalizing machine entries with
  | nil => simpa [useStack, List.take_of_length_le keeps.fits] using keeps
  | cons value rest ih =>
    have later := ih (keeps.push value)
    have newest : ((rest.map (· % 256)).reverse ++ (value % 256 :: entries).take 256).take 256 =
        (((value :: rest).map (· % 256)).reverse ++ entries).take 256 := by
      simp only [List.map_cons, List.reverse_cons, List.append_assoc, List.singleton_append,
        List.take_append, List.take_take, Nat.min_eq_left (Nat.sub_le _ _)]
    rw [newest] at later
    exact later

theorem pulls (keeps : machine.Keeps entries) {count : Nat} (few : count ≤ entries.length) :
    (machine.useStack (List.replicate count .pull)).1 = entries.take count := by
  induction count generalizing machine entries with
  | zero => rfl
  | succ count ih =>
    cases entries with
    | nil => simp at few
    | cons top entries =>
      obtain ⟨value, popped⟩ := keeps.pull
      have later := ih popped (by simpa using few)
      rw [List.replicate_succ, useStack, later, value, List.take_succ_cons]

end Keeps

variable (machine : Machine)

theorem useStack_core (calls : List StackCall) :
    (machine.useStack calls).2.toCore =
      { machine.toCore with sp := .wrap (machine.sp.toNat - StackCall.depth calls) } := by
  induction calls generalizing machine with
  | nil => simp [useStack, StackCall.depth]
  | cons call calls ih =>
    rw [StackCall.depth_cons]
    cases call with
    | push value =>
      have moved : Byte.wrap ((machine.sp - 1).toNat - StackCall.depth calls) =
          .wrap (machine.sp.toNat - (1 + StackCall.depth calls)) := by
        have below : ((machine.sp.toNat : Int) - 1) % 256 = (machine.sp - 1).toNat :=
          Byte.sub_mod machine.sp 1
        rw [Byte.wrap_eq_wrap, ← below]
        omega
      exact (ih (machine.push (.wrap value))).trans
        (congrArg (fun sp => { machine.toCore with sp := sp }) moved)
    | pull =>
      have moved : Byte.wrap ((machine.sp + 1).toNat - StackCall.depth calls) =
          .wrap (machine.sp.toNat - (-1 + StackCall.depth calls)) := by
        have above := Byte.succ_mod machine.sp
        rw [Byte.wrap_eq_wrap, ← above]
        omega
      exact (ih machine.pull.2).trans
        (congrArg (fun sp => { machine.toCore with sp := sp }) moved)

theorem read_useStack_outside (calls : List StackCall) {address : Address}
    (outside : address.toNat < 0x0100 ∨ 0x01ff < address.toNat) :
    (machine.useStack calls).2.memory.read address = machine.memory.read address := by
  induction calls generalizing machine with
  | nil => rfl
  | cons call calls ih =>
    cases call with
    | push value =>
      have low := Layout.page_le_stackCell machine.sp
      have high := Layout.stackCell_lt machine.sp
      have other : address ≠ Layout.stackCell machine.sp := by
        rintro rfl
        omega
      exact (ih (machine.push (.wrap value))).trans (machine.read_push _ other)
    | pull => exact ih machine.pull.2

theorem useStack_pulls (count : Nat) :
    (machine.useStack (List.replicate count .pull)).2 =
      { machine with sp := machine.sp + BitVec.ofNat 8 count } := by
  induction count generalizing machine with
  | zero => simp [useStack]
  | succ count ih =>
    have moved : machine.sp + 1 + BitVec.ofNat 8 count =
        machine.sp + BitVec.ofNat 8 (count + 1) := by bv_omega
    rw [List.replicate_succ, useStack, ih, ← moved]
    rfl

-- Past 256 bytes the last ones pushed are left, and pulling these comes back to the first.
theorem stack_simulates :
    (∀ calls, StackCall.Within 0 calls →
      ∃ pulled left, StackCall.onList [] calls = some (pulled, left) ∧
        (machine.useStack calls).1 = pulled ∧ (machine.useStack calls).2.Keeps left) ∧
    (∀ calls,
      let used := (machine.useStack calls).2
      (used.sp.toNat : Int) = (machine.sp.toNat - StackCall.depth calls) % 256 ∧
        used.toCore = { machine.toCore with sp := used.sp } ∧
        ∀ address : Address, address.toNat < 0x0100 ∨ 0x01ff < address.toNat →
          used.memory.read address = machine.memory.read address) ∧
    ∀ values : List Int, 256 ≤ values.length →
      let pushed := (machine.useStack (values.map .push)).2
      (∀ count ≤ 256, (pushed.useStack (List.replicate count .pull)).1 =
        (values.map (· % 256)).reverse.take count) ∧
      (pushed.useStack (List.replicate 256 .pull)).2 = pushed := by
  refine ⟨fun calls within => (Keeps.empty machine).simulates within, fun calls => ?_,
    fun values many => ⟨fun count few => ?_, ?_⟩⟩
  next =>
    have core := machine.useStack_core calls
    have pointer := congrArg Core.sp core
    refine ⟨?_, ?_, fun address outside => machine.read_useStack_outside calls outside⟩
    next =>
      rw [pointer, Byte.toNat_wrap]
      omega
    next => rw [pointer, core]
  next =>
    have kept := (Keeps.empty machine).pushes values
    have full : (((values.map (· % 256)).reverse ++ []).take 256).length = 256 := by
      rw [List.length_take, List.append_nil, List.length_reverse, List.length_map]
      exact Nat.min_eq_left many
    rw [kept.pulls (full.symm ▸ few), List.append_nil, List.take_take, Nat.min_eq_left few]
  next =>
    rw [useStack_pulls]
    simp

def emptied : Machine where
  sp := 0x01
  settings := Core.factorySettings
  memory := .blank

theorem stack_wraps :
    (emptied.useStack [.push (-1), .push 0x102, .push 3, .pull, .pull, .push 0x204, .pull]).1 =
        [3, 2, 4] ∧
      ((emptied.useStack (((List.range 300).map Int.ofNat).map .push)).2.useStack
        (List.replicate 3 .pull)).1 = [43, 42, 41] := by
  obtain ⟨simulates, _, laps⟩ := stack_simulates emptied
  obtain ⟨pulled, left, list, run, _⟩ := simulates
    [.push (-1), .push 0x102, .push 3, .pull, .pull, .push 0x204, .pull] (by decide)
  have listed : StackCall.onList []
      [.push (-1), .push 0x102, .push 3, .pull, .pull, .push 0x204, .pull] =
        some ([3, 2, 4], [255]) := by decide
  obtain ⟨rfl, _⟩ := Prod.mk.inj (Option.some.inj (list.symm.trans listed))
  have many : 256 ≤ ((List.range 300).map Int.ofNat).length := by simp
  exact ⟨run, ((laps _ many).1 3 (by decide)).trans (by decide +kernel)⟩

end Machine

end Mos6502
