import EventQuery.Plan.Resolution
import EventQuery.Query

/-!
# Plans

A plan puts many queries together, so that an event is searched once for every path that some of
them need. All paths are kept in one table, and the queries refer to them by number. What a plan
says of an event is what its queries say one by one.
-/

namespace EventQuery

/-- A query whose paths are in a table. -/
structure BoundQuery where
  id : String
  select : List (SelectItem PathId)
  condition : Option (Expr PathId)
  /-- The distinct paths of the query, in the order in which they come first. -/
  referenced : List PathId
  sample : Option SampleClause
deriving Repr, Inhabited

/-- What becomes of an event at a query. -/
inductive Answer where
  | missed
  /-- The event matches, and this is selected of it. -/
  | matched (projection : Value)
deriving Repr, Inhabited

namespace Answer

def projection? : Answer → Option Value
  | missed => none
  | matched v => some v

end Answer

namespace BoundQuery

/-- The query with its paths in the table at hand: those of the select list are put in first, then
    those of the condition, then all others that the query reads. -/
def bind (q : Query) : StateM PathTable BoundQuery := do
  let statement := q.statement
  let select ← statement.select.mapM (SelectItem.traverse PathTable.number)
  let condition ← statement.condition.mapM (Expr.traverse PathTable.number)
  let referenced ← statement.referencedPaths.mapM PathTable.number
  return { id := q.id, select, condition, referenced, sample := statement.sample }

def selectsAll (q : BoundQuery) : Bool := q.select.any SelectItem.isAll

/-- The event satisfies the condition of the query, if it has one. -/
def holds (q : BoundQuery) : StateM Resolution Bool :=
  match q.condition with
  | none => return true
  | some e => e.holds Resolution.find

/-- What the query selects of the event. -/
def project (q : BoundQuery) : StateM Resolution Value := do
  let r ← get
  EventQuery.select Resolution.find q.select r.event

/-- What becomes of the event. Only a match is projected. -/
def answer (q : BoundQuery) : StateM Resolution Answer := do
  if ← q.holds then return .matched (← q.project) else return .missed

end BoundQuery

/-- Queries with distinct names over one table of paths. -/
structure Plan where
  table : PathTable := ∅
  queries : List BoundQuery := []
deriving Repr, Inhabited

namespace Plan

/-- The query with a name. -/
def query? (p : Plan) (id : String) : Option BoundQuery := p.queries.find? (·.id == id)

/-- The plan with a query added at the end, unless there is one of that name. -/
def add (p : Plan) (q : Query) : Plan :=
  if (p.query? q.id).isSome then p
  else
    let (bound, table) := (BoundQuery.bind q).run p.table
    ⟨table, p.queries ++ [bound]⟩

/-- The plan of some queries. Of those with one name the first counts. -/
def ofQueries (qs : List Query) : Plan := qs.foldl add {}

def size (p : Plan) : Nat := p.queries.length

def isEmpty (p : Plan) : Bool := p.queries.isEmpty

def ids (p : Plan) : List String := p.queries.map BoundQuery.id

/-- Nothing is known of an event yet. -/
def start (p : Plan) (event : Value) : Resolution := .start p.table event

/-- What becomes of an event at all queries, under their names and in their order. -/
def evaluate (p : Plan) (event : Value) : List (String × Answer) :=
  let answers : StateM Resolution (List (String × Answer)) :=
    p.queries.mapM fun q => return (q.id, ← q.answer)
  Record.ofList (answers.run (p.start event)).1

/-- What becomes of an event at one query. -/
def evaluateOne? (p : Plan) (id : String) (event : Value) : Option Answer :=
  (p.query? id).map fun q => (q.answer.run (p.start event)).1

/-- The part of an event that all queries together depend on. -/
def supersetProjection (p : Plan) (event : Value) : Value :=
  if p.queries.any BoundQuery.selectsAll then event
  else ((gather Resolution.find p.table.ids).run (p.start event)).1

end Plan
end EventQuery
