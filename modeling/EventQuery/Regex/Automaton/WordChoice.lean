import EventQuery.Regex.Automaton.Draft

/-!
# Automata for choices between words

A choice between words is a tree: words that start alike share the states for their start. A word
that ends where others go on keeps its place among them, since what stands first in a choice is
preferred; so the words before it and after it go different ways.
-/

namespace EventQuery.Regex.WordChoice

/-- The words before the first that has ended, between it and the next, and so on. A word that has
    ended before any other goes on counts once. -/
def groups (words : List (List Nat)) : List (List (List Nat)) :=
  match words with
  | [] :: rest => [] :: split (rest.dropWhile (·.isEmpty))
  | words => split words
where
  split : List (List Nat) → List (List (List Nat))
    | [] => [[]]
    | [] :: rest => [] :: split rest
    | w :: rest =>
      match split rest with
      | [] => [[w]]
      | first :: more => (w :: first) :: more

/-- The first bytes of some words, each once, in ascending order. -/
def firstBytes (words : List (List Nat)) : List Nat :=
  (words.filterMap List.head?).eraseDups.mergeSort (· ≤ ·)

/-- What follows a byte in the words that start with it. -/
def after (byte : Nat) (words : List (List Nat)) : List (List Nat) :=
  words.filterMap fun
    | b :: w => if b = byte then some w else none
    | [] => none

/-- The tree of words of at most so many bytes: for each group a state with the first bytes, after
    what these lead to, and then the choice between the groups. Words that have all ended need no
    state of their own. -/
def tree : Nat → List (List Nat) → Building Unit
  | 0, _ => return
  | length + 1, words => do
    if words.all (·.isEmpty) then return
    let groups := groups words
    for group in groups do
      let bytes := firstBytes group
      for byte in bytes do
        tree length (after byte group)
      match bytes.length with
      | 0 => pure ()
      | 1 => Building.plainState
      | n => do
        let _ ← Building.state (Draft.rangeSize * n)
    let ways := (groups.filter (!·.isEmpty)).length + (groups.length - 1)
    let _ ← Building.state (Draft.waySize * ways)

/-- The automaton for a choice between words, given by their bytes. -/
def build (backward : Bool) (words : List (List Nat)) : Building Exit := do
  let words := if backward then words.map List.reverse else words
  Building.plainState
  tree (words.foldl (fun n w => max n w.length) 0) words
  return .single

end EventQuery.Regex.WordChoice
