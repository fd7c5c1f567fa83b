import EventQuery.Regex.Automaton.Draft
import EventQuery.Regex.Encoding
import Std.Data.HashMap

/-!
# Automata for classes of characters

A class that keeps to ASCII is one state with its ranges. For any other the sequences of byte ranges
are put together, and states that would do the same are built once. What has been built is looked up
in a table of fixed size, in which a new entry takes the place of an older one with the same slot:
so the number of states depends on the numbers that the states got.
-/

namespace EventQuery.Regex

open Encoding (ByteRange)

/-- What has been built, and the number of its state, by slots. -/
abbrev SlotTable (α : Type) := Std.HashMap UInt64 (α × Nat)

/-- The slot of a key among so many. -/
def slotOf (slots : UInt64) (key : List Nat) : UInt64 :=
  key.foldl (fun h x => (h ^^^ x.toUInt64) * 1099511628211) 14695981039346656037 % slots

/-! ## Forward

The bytes of a character are read from the first to the last. The sequences come in ascending order,
so that only the states along the last one can still change; all others are finished, and a finished
state is shared with one that has the same ranges and leads to the same states. -/

/-- A byte range and the state it leads to. -/
structure Transition where
  range : ByteRange
  next : Nat
deriving DecidableEq, Repr

/-- A state along the last sequence: its finished transitions, latest first, and the range of the
    sequence. -/
structure OpenState where
  done : List Transition := []
  last : Option ByteRange := none

/-- The state with the range of the last sequence led to another one. -/
def OpenState.closed (s : OpenState) (next : Nat) : OpenState :=
  match s.last with
  | some range => { done := ⟨range, next⟩ :: s.done }
  | none => s

namespace CharacterClass

/-- A construction with a table of finished states. -/
abbrev Sharing := StateT (SlotTable (List Transition)) Building

/-- The state with these transitions: one that has been built, or a new one. -/
def finished (transitions : List Transition) : Sharing Nat := do
  let slot := slotOf 10000 (transitions.flatMap fun t => [t.range.1, t.range.2, t.next])
  match (← get)[slot]? with
  | some (known, id) => if known = transitions then return id else add slot
  | none => add slot
where
  add (slot : UInt64) : Sharing Nat := do
    let id ← Building.state (Draft.rangeSize * transitions.length)
    modify (·.insert slot (transitions, id))
    return id

/-- Finishes the open states, the innermost first, which leads to `target`. -/
def close (target : Nat) : List OpenState → Sharing Nat
  | [] => return target
  | s :: inner => do
    let next ← close target inner
    finished (s.closed next).done.reverse

/-- Adds a sequence: the open states along which it agrees with the last one stay open. -/
def addSequence (target : Nat) : List OpenState → List ByteRange → Sharing (List OpenState)
  | s :: inner, range :: ranges =>
    if s.last = some range then do
      let inner ← addSequence target inner ranges
      return s :: inner
    else do
      let next ← close target inner
      return { s.closed next with last := some range } ::
        ranges.map fun range => { last := some range }
  | _, ranges => return ranges.map fun range => { last := some range }

/-- The states for some sequences, which all lead to `target`. -/
def forward (target : Nat) (sequences : List (List ByteRange)) : Sharing Unit := do
  let states ← sequences.foldlM (addSequence target) [{}]
  let _ ← close target states

/-! ## Backward

The bytes of a character are read from the last to the first. Every sequence is a branch of a
choice, and branches share what they have in common at their end. -/

/-- Where a state leads, and its range. -/
abbrev Link := Nat × ByteRange

/-- The state that leads to `target` with a range: one that has been built, or a new one. -/
def link (found : SlotTable Link × Nat) (range : ByteRange) : Building (SlotTable Link × Nat) :=
  let (table, target) := found
  let slot := slotOf 1000 [target, range.1, range.2]
  let add : Building (SlotTable Link × Nat) := do
    let id ← Building.state 0
    return (table.insert slot ((target, range), id), id)
  match table[slot]? with
  | some (known, id) => if known = (target, range) then return (table, id) else add
  | none => add

/-- Adds a sequence as a branch that leads to `target`. -/
def addBranch (target : Nat) (table : SlotTable Link) (sequence : List ByteRange) :
    Building (SlotTable Link) := do
  let (table, _) ← sequence.foldlM link (table, target)
  Building.way
  return table

/-! ## Both ways -/

/-- The automaton for a class. -/
def build (backward : Bool) (s : CodeSet) : Building Exit := do
  let ranges := Encoding.ranges s
  if ranges.all (·.2 < 0x80) then
    Building.plainState
    let _ ← Building.state (Draft.rangeSize * ranges.length)
  else
    let sequences := ranges.flatMap fun (lo, hi) => Encoding.sequences lo hi
    if backward then
      Building.plainState
      let target ← Building.state 0
      let _ ← sequences.foldlM (addBranch target) ∅
    else
      let target ← Building.state 0
      let _ ← (forward target sequences).run ∅
  return .single

end CharacterClass
end EventQuery.Regex
