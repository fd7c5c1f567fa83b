import EventQuery.Path.Resolve
import EventQuery.Path.Table

/-!
# Shared resolutions

While the queries of a plan are evaluated on one event, the matches of a path are kept from the
first time it is looked up. No path is resolved before that, and none a second time.
-/

namespace EventQuery

/-- What is known of the paths of a table on an event. -/
structure Resolution where
  table : PathTable
  event : Value
  /-- The matches of each path that has been looked up, by number. -/
  known : List (Option (List Match))
deriving Repr

namespace Resolution

/-- Nothing is known yet. -/
def start (table : PathTable) (event : Value) : Resolution :=
  ⟨table, event, List.replicate table.size none⟩

/-- The number of paths that have been looked up. -/
def walked (r : Resolution) : Nat := r.known.countP Option.isSome

/-- The matches of the path behind a number on the event; a number without a path has none. -/
def resolve (r : Resolution) (id : PathId) : List Match :=
  match r.table.get? id with
  | some p => p.resolve r.event
  | none => []

/-- The matches of a path, which are known from then on. -/
def find (id : PathId) : StateM Resolution (List Match) := fun r =>
  match r.known[id.index]? with
  | some (some found) => (found, r)
  | _ =>
    let found := r.resolve id
    (found, { r with known := r.known.set id.index (some found) })

end Resolution
end EventQuery
