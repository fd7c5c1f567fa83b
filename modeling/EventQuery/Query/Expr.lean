import EventQuery.Regex.Pattern
import EventQuery.Value

/-!
# Conditions

A condition is built from literals, paths and patterns by comparison and by the connectives. It does
not depend on how a path is referred to: by the path itself when it is read from a query, by its
number in a table when queries are merged. `Expr.traverse` goes from one to the other, visiting the
references from left to right as `Expr.paths` lists them, and `Expr.mapPaths` is the same where
nothing happens on the way.
-/

namespace EventQuery

/-- The operators of comparison. -/
inductive Comparison where
  | eq
  | ne
  | lt
  | le
  | gt
  | ge
  | matching
deriving DecidableEq, Repr, Inhabited

namespace Comparison

def symbol : Comparison → String
  | eq => "=="
  | ne => "!="
  | lt => "<"
  | le => "<="
  | gt => ">"
  | ge => ">="
  | matching => "=~"

def all : List Comparison := [eq, ne, lt, le, gt, ge, matching]

end Comparison

/-- A condition whose paths are referred to by `P`. -/
inductive Expr (P : Type) where
  | literal (v : Value)
  | bool (b : Bool)
  | pattern (p : Pattern)
  | path (p : P)
  | compare (left : Expr P) (op : Comparison) (right : Expr P)
  | and (left right : Expr P)
  | or (left right : Expr P)
  | not (inner : Expr P)
deriving Repr, Inhabited

namespace Expr

variable {P Q : Type}

/-- The condition with every reference to a path replaced. -/
def mapPaths (f : P → Q) : Expr P → Expr Q
  | literal v => literal v
  | bool b => bool b
  | pattern p => pattern p
  | path p => path (f p)
  | compare l op r => compare (l.mapPaths f) op (r.mapPaths f)
  | and l r => and (l.mapPaths f) (r.mapPaths f)
  | or l r => or (l.mapPaths f) (r.mapPaths f)
  | not e => not (e.mapPaths f)

/-- The condition with every reference to a path replaced by what a step makes of it, from left to
    right. -/
def traverse {m : Type → Type} [Monad m] (f : P → m Q) : Expr P → m (Expr Q)
  | literal v => return literal v
  | bool b => return bool b
  | pattern p => return pattern p
  | path p => do
    let q ← f p
    return path q
  | compare l op r => do
    let l ← l.traverse f
    let r ← r.traverse f
    return compare l op r
  | and l r => do
    let l ← l.traverse f
    let r ← r.traverse f
    return and l r
  | or l r => do
    let l ← l.traverse f
    let r ← r.traverse f
    return or l r
  | not e => do
    let e ← e.traverse f
    return not e

/-- The references to paths, from left to right. -/
def paths : Expr P → List P
  | literal _ | bool _ | pattern _ => []
  | path p => [p]
  | compare l _ r => l.paths ++ r.paths
  | and l r => l.paths ++ r.paths
  | or l r => l.paths ++ r.paths
  | not e => e.paths

/-- The height of a condition as a tree. -/
def height : Expr P → Nat
  | literal _ | bool _ | pattern _ | path _ => 1
  | compare l _ r => max l.height r.height + 1
  | and l r => max l.height r.height + 1
  | or l r => max l.height r.height + 1
  | not e => e.height + 1

/-- Two conditions are the same: literals by value, patterns by source. -/
def same [DecidableEq P] : Expr P → Expr P → Bool
  | literal a, literal b => a.equal b
  | bool a, bool b => a == b
  | pattern p, pattern q => p == q
  | path p, path q => p = q
  | compare l op r, compare l' op' r' => l.same l' && op = op' && r.same r'
  | and l r, and l' r' => l.same l' && r.same r'
  | or l r, or l' r' => l.same l' && r.same r'
  | not e, not e' => e.same e'
  | _, _ => false

end Expr

/-- An entry of a select list. -/
inductive SelectItem (P : Type) where
  /-- The whole event. -/
  | all
  | path (p : P) (name : Option String)
deriving DecidableEq, Repr, Inhabited

namespace SelectItem

variable {P Q : Type}

def mapPath (f : P → Q) : SelectItem P → SelectItem Q
  | all => all
  | path p name => path (f p) name

/-- The entry with its path replaced by what a step makes of it. -/
def traverse {m : Type → Type} [Monad m] (f : P → m Q) : SelectItem P → m (SelectItem Q)
  | all => return all
  | path p name => do
    let q ← f p
    return path q name

def isAll : SelectItem P → Bool
  | all => true
  | path _ _ => false

def path? : SelectItem P → Option P
  | all => none
  | path p _ => some p

/-- Whether the whole event is selected does not depend on how paths are referred to. -/
theorem isAll_comp_mapPath (f : P → Q) : isAll ∘ mapPath f = isAll := by
  funext i
  cases i <;> rfl

end SelectItem
end EventQuery
