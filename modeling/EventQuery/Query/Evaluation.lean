import EventQuery.Path.Resolve
import EventQuery.Projection
import EventQuery.Query.Expr
import EventQuery.Value.Order

/-!
# Evaluating conditions and select lists

A comparison of paths holds if it holds of some pair of values that the paths lead to; of a path
that leads nowhere nothing holds. A condition never fails on an event.

How paths are looked up is left open: an event by itself is searched at once, while the queries of a
plan share what they find. Therefore a path is looked up only where its matches are needed, and in
the order of the condition.
-/

namespace EventQuery

/-- A comparison holds of two values. That of a value and a pattern is not among these. -/
def Comparison.holds (op : Comparison) (a b : Value) : Bool :=
  match op with
  | eq => a.equal b
  | ne => !a.equal b
  | lt => a.compare? b == some .lt
  | le => a.compare? b == some .lt || a.compare? b == some .eq
  | gt => a.compare? b == some .gt
  | ge => a.compare? b == some .gt || a.compare? b == some .eq
  | matching => false

/-- A pattern matches a value. Only strings are matched. -/
def Pattern.matchesValue (p : Pattern) (v : Value) : Bool :=
  match v.toString? with
  | some s => p.isMatch s
  | none => false

variable {m : Type → Type} [Monad m] {P : Type}

namespace Expr

/-- The values that an operand stands for: all that a path leads to, and one for anything else.
    `truth` is that of the operand as a condition. -/
def values (find : P → m (List Match)) (truth : m Bool) : Expr P → m (List Value)
  | literal v => return [v]
  | path p => do
    let found ← find p
    return found.map Match.value
  | pattern p => return [.string p.source]
  | _ => do
    let b ← truth
    return [.bool b]

/-- A comparison holds of some value on the left and some value on the right. The right side is
    evaluated only if there is a value on the left. -/
def compareValues (left : m (List Value)) (op : Comparison) (right : Expr P)
    (rightValues : m (List Value)) : m Bool := do
  let as ← left
  if as.isEmpty then return false
  else
    match op, right with
    | .matching, pattern p => return as.any p.matchesValue
    | .matching, _ => return false
    | op, _ => do
      let bs ← rightValues
      return as.any fun a => bs.any fun b => op.holds a b

/-- A condition holds, with `find` to look up paths. -/
def holds (find : P → m (List Match)) : Expr P → m Bool
  | literal v => return v.toBool? == some true
  | bool b => return b
  | pattern _ => return false
  | path p => do
    let found ← find p
    return found.any fun m => m.value.toBool? == some true
  | compare left op right =>
    compareValues (left.values find (left.holds find)) op right
      (right.values find (right.holds find))
  | and left right => do
    let l ← left.holds find
    if l then right.holds find else return false
  | or left right => do
    let l ← left.holds find
    if l then return true else right.holds find
  | not inner => do
    let b ← inner.holds find
    return !b

end Expr

/-- A projection with the matches of an entry of a select list written into it. -/
def SelectItem.writeInto (find : P → m (List Match)) (p : Projection) :
    SelectItem P → m Projection
  | all => return p
  | path q none => do
    let found ← find q
    return found.foldl Projection.insert p
  | path q (some name) => do
    let found ← find q
    return p.insertAliased name found

/-- What a select list makes of an event. -/
def select (find : P → m (List Match)) (items : List (SelectItem P)) (event : Value) : m Value := do
  if items.any SelectItem.isAll then return event
  else
    let p ← items.foldlM (fun p item => item.writeInto find p) Projection.empty
    return p.toValue

/-- The part of an event that some paths lead to. -/
def gather (find : P → m (List Match)) (paths : List P) : m Value := do
  let p ← paths.foldlM (fun p q => return (← find q).foldl Projection.insert p) Projection.empty
  return p.toValue

end EventQuery
