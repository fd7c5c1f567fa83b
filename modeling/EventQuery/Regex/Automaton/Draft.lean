/-!
# Automata under construction

An automaton is counted while it is built: its states, each of the same size, and the entries that
some states list beside it. Building stops when the size passes the limit, so a `Building` is a
computation on the count that may fail (`Draft.fits`). States are numbered in the order in which
they are added.
-/

namespace EventQuery.Regex

/-- The count of an automaton under construction, in states and in bytes of listed entries. -/
structure Draft where
  /-- The size in bytes that must not be passed. -/
  limit : Nat
  states : Nat := 0
  listed : Nat := 0

namespace Draft

/-- The bytes of a state, of a byte range with the state it leads to, and of one way of a choice. -/
def stateSize : Nat := 32
def rangeSize : Nat := 8
def waySize : Nat := 4

/-- The size in bytes. -/
def size (d : Draft) : Nat := stateSize * d.states + d.listed

/-- The draft, if it is not too large. -/
def fitting (d : Draft) : Option Draft := if d.limit < d.size then none else some d

end Draft

/-- A step of the construction of an automaton. -/
abbrev Building := StateT Draft Option

namespace Building

/-- Adds a state with so many bytes of entries, and gives its number. -/
def state (listed : Nat) : Building Nat := fun d =>
  (Draft.fitting { d with states := d.states + 1, listed := d.listed + listed }).map fun d' =>
    (d.states, d')

/-- Adds a state without entries. -/
def plainState : Building Unit := do
  let _ ← state 0

/-- Adds so many states without entries. -/
def plainStates : Nat → Building Unit
  | 0 => return
  | n + 1 => do
    plainState
    plainStates n

/-- Adds a way to a choice. -/
def way : Building Unit := fun d =>
  (Draft.fitting { d with listed := d.listed + Draft.waySize }).map fun d' => ((), d')

end Building

/-- How a part of an automaton is left: by a state with a single way on, or by a choice, which lists
    its ways. -/
inductive Exit where
  | single
  | choice
deriving DecidableEq, Repr

/-- Leads the exit on to another state. -/
def Exit.lead : Exit → Building Unit
  | single => return
  | choice => Building.way

end EventQuery.Regex
