import EventQuery.Regex.Basic
import EventQuery.Regex.Encoding

/-!
# Blueprints

The simplest form of an expression, from which an automaton is built. Characters in a row are words,
nested sequences and choices are one, a choice between single characters is a class, and what the
branches of a choice have in common at their start stands in front of it. The functions that make a
blueprint from smaller ones (`Blueprint.inOrder`, `Blueprint.anyOf`, `Blueprint.repeated`) keep that
form.
-/

namespace EventQuery.Regex

/-- The simplest form of an expression. -/
inductive Blueprint where
  | empty
  | word (cs : List Char)
  | set (s : CodeSet)
  | look (l : Look)
  | capture (body : Blueprint)
  | concat (parts : List Blueprint)
  | choice (branches : List Blueprint)
  | rep (body : Blueprint) (least : Nat) (most : Option Nat) (greedy : Bool)
deriving Repr, Inhabited

namespace Blueprint

/-! ## What a blueprint can match -/

mutual

/-- The length in bytes of the shortest match, if the parts say so. -/
def minLength : Blueprint → Option Nat
  | empty => some 0
  | word cs => some (Text.byteLength cs)
  | set s =>
    match Encoding.ranges s with
    | [] => none
    | (lo, _) :: _ => some (Char.ofNat lo).utf8Size
  | look _ => some 0
  | capture body => minLength body
  | concat parts => minTotal parts
  | choice branches => minOfAny branches
  | rep body least _ _ => (minLength body).map (· * least)

/-- The length of the shortest match of several one after the other. -/
def minTotal : List Blueprint → Option Nat
  | [] => some 0
  | part :: rest => do
    let m ← minLength part
    let n ← minTotal rest
    return m + n

/-- The length of the shortest match of any of several. -/
def minOfAny : List Blueprint → Option Nat
  | [] => none
  | [branch] => minLength branch
  | branch :: rest => do
    let m ← minLength branch
    let n ← minOfAny rest
    return min m n

end

mutual

/-- Only the empty text can be matched. -/
def isBlank : Blueprint → Bool
  | empty | look _ => true
  | word _ | set _ => false
  | capture body => isBlank body
  | concat parts => areBlank parts
  | choice branches => areBlank branches
  | rep body _ most _ => most.isSome && isBlank body

def areBlank : List Blueprint → Bool
  | [] => true
  | part :: rest => isBlank part && areBlank rest

end

mutual

/-- Every match starts, or ends, with the condition. -/
def demands (l : Look) (atEnd : Bool) : Blueprint → Bool
  | look l' => l == l'
  | capture body => demands l atEnd body
  | concat parts => demandedAtEdge l atEnd parts
  | choice branches => demandedByAll l atEnd branches
  | rep body least _ _ => least != 0 && demands l atEnd body
  | empty | word _ | set _ => false

/-- One of the parts up to the first, or from the last, that takes characters has the condition. -/
def demandedAtEdge (l : Look) (atEnd : Bool) : List Blueprint → Bool
  | [] => false
  | part :: rest =>
    if atEnd then demandedAtEdge l atEnd rest || (areBlank rest && demands l atEnd part)
    else demands l atEnd part || (isBlank part && demandedAtEdge l atEnd rest)

def demandedByAll (l : Look) (atEnd : Bool) : List Blueprint → Bool
  | [] => true
  | branch :: rest => demands l atEnd branch && demandedByAll l atEnd rest

end

mutual

/-- Two blueprints are the same and remember nothing: no two groups are the same. -/
def alike : Blueprint → Blueprint → Bool
  | empty, empty => true
  | word a, word b => a == b
  | set a, set b => a == b
  | look a, look b => a == b
  | concat a, concat b => allAlike a b
  | choice a, choice b => allAlike a b
  | rep a least most greedy, rep b least' most' greedy' =>
    least == least' && most == most' && greedy == greedy' && alike a b
  | _, _ => false

def allAlike : List Blueprint → List Blueprint → Bool
  | [], [] => true
  | a :: as, b :: bs => alike a b && allAlike as bs
  | _, _ => false

end

/-! ## Building blocks -/

/-- A class, which is a word if it has one member. -/
def ofSet (s : CodeSet) : Blueprint :=
  match Encoding.ranges s with
  | [(lo, hi)] => if lo = hi then word [Char.ofNat lo] else set (CodeSet.ofRanges [(lo, hi)])
  | ranges => set (CodeSet.ofRanges ranges)

/-- What a blueprint is in a sequence. -/
def parts : Blueprint → List Blueprint
  | empty => []
  | concat ps => ps
  | p => [p]

/-- Words that stand side by side are one word. -/
def joinWords : List Blueprint → List Blueprint
  | [] => []
  | word a :: rest =>
    match joinWords rest with
    | word b :: more => word (a ++ b) :: more
    | more => word a :: more
  | p :: rest => p :: joinWords rest

/-- Several one after the other. -/
def inOrder (ps : List Blueprint) : Blueprint :=
  match joinWords (ps.flatMap parts) with
  | [] => empty
  | [p] => p
  | ps => concat ps

/-- What a blueprint is in a choice. -/
def branches : Blueprint → List Blueprint
  | choice bs => bs
  | b => [b]

/-- The class that a choice is when its branches are all single characters or all classes. -/
def asSet? (bs : List Blueprint) : Option CodeSet :=
  let singles : Option (List CodeSet) := bs.mapM fun
    | word [c] => some (CodeSet.singleton c)
    | _ => none
  let sets : Option (List CodeSet) := bs.mapM fun
    | set s => some s
    | _ => none
  (singles.or sets).map CodeSet.unionAll

/-- How many parts two sequences have in common at their start. -/
def commonCount : List Blueprint → List Blueprint → Nat
  | a :: as, b :: bs => if alike a b then commonCount as bs + 1 else 0
  | _, _ => 0

/-- What the branches of a choice have in common at their start, and what is left of each one. Only
    sequences of several parts have a start in this sense. -/
def lift? (bs : List Blueprint) : Option (List Blueprint × List (List Blueprint)) := do
  let sequences ← bs.mapM fun
    | concat ps => some ps
    | _ => none
  let first ← sequences.head?
  let n := sequences.tail.foldl (fun n ps => commonCount (first.take n) ps) first.length
  if n = 0 then none else return (first.take n, sequences.map (·.drop n))

/-- Any of several; `fuel` bounds how often a common start may be taken out. -/
def anyOfWithin : Nat → List Blueprint → Blueprint
  | fuel, bs =>
    match bs.flatMap branches with
    | [] => set CodeSet.empty
    | [b] => b
    | bs =>
      match asSet? bs with
      | some s => ofSet s
      | none =>
        match fuel, lift? bs with
        | fuel + 1, some (common, rests) =>
          inOrder (common ++ [anyOfWithin fuel (rests.map inOrder)])
        | _, _ => choice bs

mutual

/-- The number of parts, those of parts included. -/
def weight : Blueprint → Nat
  | capture body | rep body _ _ _ => weight body + 1
  | concat ps | choice ps => totalWeight ps + 1
  | _ => 1

def totalWeight : List Blueprint → Nat
  | [] => 0
  | p :: rest => weight p + totalWeight rest

end

/-- Any of several. Each common start that is taken out makes them lighter. -/
def anyOf (bs : List Blueprint) : Blueprint := anyOfWithin (totalWeight bs) bs

/-- A repetition. What matches only the empty text need not be tried twice, nothing is left of what
    is not tried at all, and once is no repetition. -/
def repeated (body : Blueprint) (least : Nat) (most : Option Nat) (greedy : Bool) : Blueprint :=
  let (least, most) :=
    if isBlank body then (min least 1, some (min (most.getD 1) 1)) else (least, most)
  if least = 0 ∧ most = some 0 then empty
  else if least = 1 ∧ most = some 1 then body
  else rep body least most greedy

mutual

/-- The simplest form of an expression. -/
def ofRegex : Regex → Blueprint
  | .set s => ofSet s
  | .look l => look l
  | .seq rs => inOrder (ofRegexes rs)
  | .alt rs => anyOf (ofRegexes rs)
  | .rep r least most greedy => repeated (ofRegex r) least most greedy
  | .group r => capture (ofRegex r)

def ofRegexes : List Regex → List Blueprint
  | [] => []
  | r :: rs => ofRegex r :: ofRegexes rs

end

end EventQuery.Regex.Blueprint
