import EventQuery.Path

/-!
# Tables of paths

A table numbers the distinct paths it has been given, in the order of first sight. It is read both
ways, by number and by path, and the two directions are inverse to each other by construction
(`PathTable.numbers_paths`). A path is put in once; numbers that have been given out stay as they
are.
-/

namespace EventQuery

/-- The number of a path in a table. -/
structure PathId where
  index : Nat
deriving DecidableEq, Repr, Inhabited

namespace PathId

def render (id : PathId) : String := s!"#{id.index}"

end PathId

/-- The distinct paths of a table, in the order of their numbers, and the number of each. -/
structure PathTable where
  paths : List Path
  numbers : List (Path × PathId)
  numbers_paths : ∀ p id, numbers.lookup p = some id ↔ paths[id.index]? = some p
deriving Repr

namespace PathTable

/-- The table without paths. -/
protected def empty : PathTable := ⟨[], [], fun _ _ => by simp⟩

instance : EmptyCollection PathTable := ⟨.empty⟩

instance : Inhabited PathTable := ⟨∅⟩

def size (t : PathTable) : Nat := t.paths.length

def isEmpty (t : PathTable) : Bool := t.paths.isEmpty

/-- The path behind a number. -/
def get? (t : PathTable) (id : PathId) : Option Path := t.paths[id.index]?

/-- The number of a path. -/
def idOf? (t : PathTable) (p : Path) : Option PathId := t.numbers.lookup p

/-- The two directions of a table are inverse to each other. -/
theorem idOf?_eq_some {t : PathTable} {p : Path} {id : PathId} :
    t.idOf? p = some id ↔ t.get? id = some p := t.numbers_paths p id

/-- Reading a list that has got one more item. -/
theorem getElem?_concat (ps : List Path) (p : Path) (i : Nat) :
    (ps ++ [p])[i]? = if i = ps.length then some p else ps[i]? := by
  split
  · next h => rw [h, List.getElem?_concat_length]
  · next h =>
    rcases Nat.lt_or_gt_of_ne h with hlt | hgt
    · rw [List.getElem?_append_left hlt]
    · rw [List.getElem?_eq_none (by simp; omega), List.getElem?_eq_none (by omega)]

/-- The table with a path at its end that it did not have. -/
def push (t : PathTable) (p : Path) (new : t.idOf? p = none) : PathTable where
  paths := t.paths ++ [p]
  numbers := (p, ⟨t.size⟩) :: t.numbers
  numbers_paths q id := by
    have fresh : t.paths[id.index]? ≠ some p := by
      intro h
      rw [idOf?_eq_some.mpr h] at new
      cases new
    rw [List.lookup_cons, getElem?_concat]
    by_cases hq : q = p
    · subst hq
      have hsize : some (⟨t.size⟩ : PathId) = some id ↔ id.index = t.paths.length := by
        cases id
        simp [size, eq_comm]
      simp [hsize, fresh]
    · have hp : ¬p = q := fun h => hq h.symm
      rw [show (q == p) = false by simpa using hq]
      simp only
      rw [t.numbers_paths]
      split
      · next hlast =>
        rw [List.getElem?_eq_none (Nat.le_of_eq hlast.symm)]
        simp [hp]
      · rfl

/-- The number of a path, which is put in if it is new, and the table then. -/
def intern (t : PathTable) (p : Path) : PathId × PathTable :=
  match new : t.idOf? p with
  | some id => (id, t)
  | none => (⟨t.size⟩, t.push p new)

/-- The number of a path in the table at hand, where it is put in if it is new. -/
def number (p : Path) : StateM PathTable PathId := fun t => t.intern p

/-- All numbers, in order. -/
def ids (t : PathTable) : List PathId := (List.range t.size).map PathId.mk

end PathTable
end EventQuery
