import EventQuery.Regex.Basic

/-!
# Matching

All possible ends of a match are computed at once from all its possible starts. A set of positions
of a text is a number whose bits are the positions. An expression is first turned into what it does
to the positions of one text (`Regex.movesIn`): a set of characters shifts those that stand before
one of them, a condition keeps those where it holds, and a repetition adds positions until no new
ones come.
-/

namespace EventQuery.Regex

/-- Positions of a text, as the bits of a number. -/
abbrev Positions := Nat

namespace Positions

/-- The positions that a list marks. -/
def ofMarks : List Bool → Positions
  | [] => 0
  | mark :: marks => 2 * ofMarks marks + mark.toNat

/-- Every position of a text. -/
def all (w : List Char) : Positions := 1 <<< (w.length + 1) - 1

/-- The positions before a character of the set. -/
def before (s : CodeSet) (w : List Char) : Positions := ofMarks (w.map s.contains)

/-- The positions where the condition holds. -/
def satisfying (l : Look) (w : List Char) : Positions := ofMarks (marks none w)
where
  marks (last : Option Char) : List Char → List Bool
    | [] => [l.holds last none]
    | c :: cs => l.holds last (some c) :: marks (some c) cs

end Positions

/-- What an expression does to the positions of a text. -/
inductive Moves where
  /-- From each of these positions to the next. -/
  | advance (starts : Positions)
  /-- Staying at each of these positions. -/
  | stay (places : Positions)
  | seq (parts : List Moves)
  | alt (branches : List Moves)
  /-- So many times, and then at most so many times more. -/
  | rep (m : Moves) (least more : Nat)
deriving Repr, Inhabited

mutual

/-- What the expression does to the positions of this text. -/
def movesIn (w : List Char) : Regex → Moves
  | .set s => .advance (.before s w)
  | .look l => .stay (.satisfying l w)
  | .seq parts => .seq (movesOfAll w parts)
  | .alt branches => .alt (movesOfAll w branches)
  | .rep r least most _ =>
    -- Every round but the last adds one of the positions of the text.
    .rep (movesIn w r) least (most.elim (w.length + 1) (· - least))
  | .group r => movesIn w r

def movesOfAll (w : List Char) : List Regex → List Moves
  | [] => []
  | r :: rs => movesIn w r :: movesOfAll w rs

end

namespace Moves

/-- A step taken so many times, or until it changes nothing. -/
def exactly (step : Positions → Positions) : Nat → Positions → Positions
  | 0, p => p
  | n + 1, p =>
    let q := step p
    if q = p then p else exactly step n q

/-- A step taken at most so many times, all positions on the way included. -/
def atMost (step : Positions → Positions) : Nat → Positions → Positions
  | 0, p => p
  | n + 1, p =>
    let q := p ||| step p
    if q = p then p else atMost step n q

mutual

/-- Where the moves lead from any of the given positions. -/
def ends : Moves → Positions → Positions
  | .advance starts, p => (p &&& starts) <<< 1
  | .stay places, p => p &&& places
  | .seq parts, p => endsInOrder parts p
  | .alt branches, p => endsOfAny branches p
  | .rep m least more, p => atMost (ends m) more (exactly (ends m) least p)

/-- Where several moves one after the other lead. -/
def endsInOrder : List Moves → Positions → Positions
  | [], p => p
  | m :: ms, p =>
    let q := ends m p
    if q = 0 then 0 else endsInOrder ms q

/-- Where any of several moves leads. -/
def endsOfAny : List Moves → Positions → Positions
  | [], _ => 0
  | m :: ms, p => ends m p ||| endsOfAny ms p

end

end Moves

/-- The expression matches some part of the text. -/
def occursIn (r : Regex) (w : List Char) : Bool := (r.movesIn w).ends (.all w) != 0

end EventQuery.Regex
