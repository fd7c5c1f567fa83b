import EventQuery.Regex.Automaton.CharacterClass
import EventQuery.Regex.Automaton.WordChoice
import EventQuery.Regex.Blueprint

/-!
# The size of the automata of a blueprint

To search with a blueprint two automata are built, one that reads a text forward and one that reads
it backward. Neither may be larger than a limit (`Blueprint.fits`). Only the forward one remembers
what groups have matched; a counted repetition is so many copies in both.
-/

namespace EventQuery.Regex

namespace Automaton

/-- So many copies one after the other; no copy is a state that is passed through. -/
def copies (one : Building Exit) : Nat → Building Exit
  | 0 => do
    Building.plainState
    return .single
  | 1 => one
  | n + 2 => do
    let exit ← one
    exit.lead
    copies one (n + 1)

/-- A choice whether to enter a part or to pass it by. -/
def optional (one : Building Exit) : Building Exit := do
  Building.plainState
  let exit ← one
  Building.way
  Building.way
  return exit

/-- So many optional copies, each of which leads on to the next. -/
def optionals (one : Building Exit) (exit : Exit) : Nat → Building Exit
  | 0 => return exit
  | n + 1 => do
    let next ← optional one
    exit.lead
    optionals one next n

/-- A repetition without end. A part that might match nothing is entered once and then repeated, so
    that a round without progress ends it. -/
def repeated (one : Building Exit) (takesText : Bool) : Nat → Building Exit
  | 0 =>
    if takesText then do
      Building.plainState
      let exit ← one
      Building.way
      exit.lead
      return .choice
    else do
      let exit ← one
      Building.plainState
      exit.lead
      Building.way
      Building.plainState
      Building.plainState
      Building.way
      Building.way
      Building.way
      return .single
  | 1 => do
    let exit ← one
    Building.plainState
    exit.lead
    Building.way
    return .choice
  | n + 2 => do
    let first ← copies one (n + 1)
    let last ← one
    Building.plainState
    first.lead
    last.lead
    Building.way
    return .choice

/-- A repetition, from its bounds. -/
def repetition (one : Building Exit) (takesText : Bool) (least : Nat) :
    Option Nat → Building Exit
  | none => repeated one takesText least
  | some most =>
    if least = 0 ∧ most = 1 then do
      let exit ← optional one
      Building.plainState
      exit.lead
      return .single
    else if least = most then copies one least
    else do
      let exit ← copies one least
      Building.plainState
      let exit ← optionals one exit (most - least)
      exit.lead
      return .single

/-- The words of a choice that is between words alone. -/
def words? (branches : List Blueprint) : Option (List (List Nat)) :=
  branches.mapM fun
    | .word cs => some (cs.flatMap Encoding.bytes)
    | _ => none

mutual

/-- The automaton for a blueprint. -/
def build (backward : Bool) : Blueprint → Building Exit
  | .empty | .look _ => do
    Building.plainState
    return .single
  | .word cs => do
    Building.plainStates (Text.byteLength cs)
    return .single
  | .set s => CharacterClass.build backward s
  | .capture body =>
    if backward then build backward body
    else do
      Building.plainState
      let exit ← build backward body
      Building.plainState
      exit.lead
      return .single
  | .concat parts => buildParts backward parts
  | .choice branches =>
    match words? branches with
    | some words => WordChoice.build backward words
    | none => buildChoice backward branches
  | .rep body least most _ =>
    repetition (build backward body) (body.minLength.any (0 < ·)) least most

/-- The automata for the parts of a sequence, in the order in which they are read. -/
def buildParts (backward : Bool) : List Blueprint → Building Exit
  | [] => do
    Building.plainState
    return .single
  | [part] => build backward part
  | part :: rest =>
    if backward then do
      let exit ← buildParts backward rest
      exit.lead
      build backward part
    else do
      let exit ← build backward part
      exit.lead
      buildParts backward rest

/-- The automata for the branches of a choice: the first two, the choice and the state behind it,
    and the other branches. -/
def buildChoice (backward : Bool) : List Blueprint → Building Exit
  | [] => do
    Building.plainState
    return .single
  | first :: rest => do
    let exit ← build backward first
    buildSecond backward exit rest

def buildSecond (backward : Bool) (first : Exit) : List Blueprint → Building Exit
  | [] => return first
  | second :: rest => do
    let exit ← build backward second
    Building.plainState
    Building.plainState
    Building.way
    first.lead
    Building.way
    exit.lead
    buildOthers backward rest
    return .single

def buildOthers (backward : Bool) : List Blueprint → Building Unit
  | [] => return
  | branch :: rest => do
    let exit ← build backward branch
    Building.way
    exit.lead
    buildOthers backward rest

end

/-- The whole automaton. Unless every match is at the start of what is read, any bytes may stand in
    front of one. -/
def whole (backward : Bool) (b : Blueprint) : Building Unit := do
  let anchored := if backward then b.demands .textEnd true else b.demands .textStart false
  if anchored then
    Building.plainState
  else
    Building.plainStates 2
    let _ ← Building.state Draft.rangeSize
    Building.way
    Building.way
  let exit ← build backward (if backward then b else .capture b)
  exit.lead
  Building.plainState

end Automaton

/-- Both automata for the blueprint keep to a size in bytes. -/
def Blueprint.fits (limit : Nat) (b : Blueprint) : Bool :=
  [false, true].all fun backward => ((Automaton.whole backward b).run { limit }).isSome

end EventQuery.Regex
