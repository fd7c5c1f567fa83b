import EventQuery.Query.Evaluation
import EventQuery.Query.Reader.Statement

/-!
# Queries

A query is a statement that was read from a text, under the name of its subscriber. By itself it
says of an event whether it matches, what the subscriber gets of it, and which part of it the query
depends on.
-/

namespace EventQuery

/-- A query of a subscriber. -/
structure Query where
  id : String
  text : String
  statement : Statement
deriving Repr, Inhabited

namespace Query

/-- The query that a text is. -/
def read (limits : QueryLimits) (id text : String) : Except SyntaxError Query :=
  (Statement.read limits text).map fun statement => ⟨id, text, statement⟩

theorem read_eq_ok {limits : QueryLimits} {id text : String} {q : Query} :
    read limits id text = .ok q ↔
      ∃ statement, Statement.read limits text = .ok statement ∧ q = ⟨id, text, statement⟩ := by
  unfold read
  cases Statement.read limits text with
  | error e => simp [Except.map]
  | ok statement => simp [Except.map, eq_comm]

theorem read_eq_error {limits : QueryLimits} {id text : String} {e : SyntaxError} :
    read limits id text = .error e ↔ Statement.read limits text = .error e := by
  unfold read
  cases Statement.read limits text with
  | error e' => simp [Except.map]
  | ok statement => simp [Except.map]

/-- The matches of a path on an event. -/
def find (event : Value) (p : Path) : Id (List Match) := p.resolve event

/-- The event satisfies the condition of the query, if it has one. -/
def holds (q : Query) (event : Value) : Bool :=
  match q.statement.condition with
  | none => true
  | some e => (e.holds (find event)).run

/-- What the query selects of an event. -/
def project (q : Query) (event : Value) : Value :=
  (select (find event) q.statement.select event).run

/-- The part of an event that the query depends on: all of it if all is selected, and what the paths
    of the query lead to if not. -/
def neededProjection (q : Query) (event : Value) : Value :=
  if q.statement.selectsAll then event
  else (gather (find event) q.statement.referencedPaths).run

end Query
end EventQuery
