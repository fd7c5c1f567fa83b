/-!
# Sets of code points

A set of code points is kept as the ascending list of the points where membership switches:
outside before the first one, inside from it on, outside again from the second, and so on. Every
Boolean operation on two sets is then one walk along both lists (`CodeSet.combine`), and a
complement is one switch at zero.
-/

namespace EventQuery

/-- A set of code points, as the ascending points at which membership switches. -/
structure CodeSet where
  switches : List Nat
deriving DecidableEq, Repr, Inhabited

namespace CodeSet

/-- Whether `n` is inside, for one who stands at `inside` before the first switch. -/
def insideAt (inside : Bool) : List Nat → Nat → Bool
  | [], _ => inside
  | p :: ps, n => if n < p then inside else insideAt (!inside) ps n

def containsCode (s : CodeSet) (n : Nat) : Bool := insideAt false s.switches n

def contains (s : CodeSet) (c : Char) : Bool := s.containsCode c.toNat

protected def empty : CodeSet := ⟨[]⟩

/-- Every code point. -/
def all : CodeSet := ⟨[0]⟩

/-- The code points from `lo` to `hi`, both included; nothing when `hi < lo`. -/
def range (lo hi : Nat) : CodeSet := if lo ≤ hi then ⟨[lo, hi + 1]⟩ else ⟨[]⟩

def singleton (c : Char) : CodeSet := range c.toNat c.toNat

/-- The set of ascending, disjoint, inclusive ranges. Ranges that touch are joined. -/
def ofRanges : List (Nat × Nat) → CodeSet
  | ranges => ⟨joined ranges⟩
where
  joined : List (Nat × Nat) → List Nat
    | [] => []
    | (lo, hi) :: rest =>
      match joined rest with
      | next :: more => if next = hi + 1 then lo :: more else lo :: (hi + 1) :: next :: more
      | [] => [lo, hi + 1]

/-- One walk along the switches of two sets. `inA` and `inB` say on which side of the next switch of
    each one stands; a switch is kept where the value of `f` changes. -/
def combineFrom (f : Bool → Bool → Bool) (inA inB : Bool) : List Nat → List Nat → List Nat
  | [], [] => []
  | a :: as, [] => keep a (f inA inB) (f (!inA) inB) (combineFrom f (!inA) inB as [])
  | [], b :: bs => keep b (f inA inB) (f inA (!inB)) (combineFrom f inA (!inB) [] bs)
  | a :: as, b :: bs =>
    if a < b then keep a (f inA inB) (f (!inA) inB) (combineFrom f (!inA) inB as (b :: bs))
    else if b < a then keep b (f inA inB) (f inA (!inB)) (combineFrom f inA (!inB) (a :: as) bs)
    else keep a (f inA inB) (f (!inA) (!inB)) (combineFrom f (!inA) (!inB) as bs)
termination_by as bs => as.length + bs.length
where
  /-- `p` in front of `rest` when the value changes there. -/
  keep (p : Nat) (before after : Bool) (rest : List Nat) : List Nat :=
    if before = after then rest else p :: rest

/-- The set on which `f` holds of the two memberships; `f` must fail where both do. -/
def combine (f : Bool → Bool → Bool) (a b : CodeSet) : CodeSet :=
  ⟨combineFrom f false false a.switches b.switches⟩

def union (a b : CodeSet) : CodeSet := combine (· || ·) a b
def inter (a b : CodeSet) : CodeSet := combine (· && ·) a b
def diff (a b : CodeSet) : CodeSet := combine (fun x y => x && !y) a b
def symmDiff (a b : CodeSet) : CodeSet := combine (fun x y => x != y) a b

/-- Everything that is not in the set. -/
def compl (s : CodeSet) : CodeSet :=
  match s.switches with
  | 0 :: rest => ⟨rest⟩
  | switches => ⟨0 :: switches⟩

def unionAll (sets : List CodeSet) : CodeSet := sets.foldl union CodeSet.empty

/-- The set has no member. -/
def isEmpty (s : CodeSet) : Bool := s.switches.isEmpty

/-- The set as inclusive ranges that end at or below `last`. -/
def rangesUpTo (s : CodeSet) (last : Nat) : List (Nat × Nat) :=
  pairs s.switches
where
  pairs : List Nat → List (Nat × Nat)
    | lo :: hi :: rest => if lo ≤ last then (lo, min (hi - 1) last) :: pairs rest else []
    | [lo] => if lo ≤ last then [(lo, last)] else []
    | [] => []

end CodeSet
end EventQuery
