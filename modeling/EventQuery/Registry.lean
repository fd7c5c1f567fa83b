import EventQuery.Plan
import EventQuery.Sampling.Sampler
import EventQuery.Settings

/-!
# The registry of subscriptions

A registry holds the queries of its subscribers in the order in which they came, and the plan that
puts them together. A change that is refused leaves the registry as it was.
-/

namespace EventQuery

/-- The queries that are live, under distinct names, and their plan. -/
structure Registry where
  settings : Settings := {}
  queries : List (String × Query) := []
  plan : Plan := {}
deriving Repr, Inhabited

namespace Registry

/-- Why a registry is not changed, or not set up. -/
inductive Error where
  | rejected (id : String) (error : SyntaxError)
  | alreadyRegistered (id : String)
  | notRegistered (id : String)
  | full (limit : UInt64)
  | invalidSettings (error : Json.Error)
deriving DecidableEq, Repr

def Error.message : Error → String
  | rejected id error => s!"Query '{id}' rejected: {error.message}"
  | alreadyRegistered id => s!"Subscription '{id}' is already registered"
  | notRegistered id => s!"Subscription '{id}' is not registered"
  | full limit => s!"Registry is full ({limit} queries)"
  | invalidSettings error => s!"Invalid engine configuration: {error.message}"

/-- Settings from their document. -/
def readSettings (text : String) : Except Error Settings :=
  match Settings.ofText text with
  | .ok s => .ok s
  | .error e => .error (.invalidSettings e)

/-- The registry without queries. -/
def ofSettings (settings : Settings) : Registry := { settings }

/-- The registry with other queries, and the plan for them. -/
def withQueries (r : Registry) (qs : List (String × Query)) : Registry :=
  { r with queries := qs, plan := Plan.ofQueries (qs.map (·.2)) }

def size (r : Registry) : Nat := r.queries.length

def isEmpty (r : Registry) : Bool := r.queries.isEmpty

/-- The names of the subscriptions, in the order in which they came. -/
def ids (r : Registry) : List String := Record.keys r.queries

/-- The query with a name. -/
def query? (r : Registry) (id : String) : Option Query := Record.get? r.queries id

/-- There is no room for another query. -/
def full? (r : Registry) : Option UInt64 :=
  r.settings.maxQueries.filter fun limit => limit.toNat ≤ r.size

/-- The registry with another query at the end. -/
def register (r : Registry) (id text : String) : Except Error Registry :=
  match Query.read r.settings.queryLimits id text with
  | .error e => .error (.rejected id e)
  | .ok q =>
    if (r.query? id).isSome then .error (.alreadyRegistered id)
    else
      match r.full? with
      | some limit => .error (.full limit)
      | none => .ok (r.withQueries (Record.insert r.queries id q))

/-- The query with a name, and the registry without it. -/
def deregister (r : Registry) (id : String) : Except Error (Query × Registry) :=
  match r.query? id with
  | none => .error (.notRegistered id)
  | some q => .ok (q, r.withQueries (Record.erase r.queries id))

/-- What becomes of an event at all subscriptions. -/
def evaluate (r : Registry) (event : Value) : List (String × Answer) := r.plan.evaluate event

/-- The part of an event that all subscriptions together depend on. -/
def supersetProjection (r : Registry) (event : Value) : Value := r.plan.supersetProjection event

/-- What is delivered of an event: to each query that it matches, unless the sample clause of the
    query keeps it back. -/
def dispatch (r : Registry) (event : Value) : StateM Draws (List (String × Value)) := do
  let sampler := Sampler.ofFactor r.settings.sampleFactor
  let deliveries ← (r.plan.queries.zip (r.evaluate event)).filterMapM fun (q, id, answer) =>
    match answer with
    | .missed => return none
    | .matched v => do
      if ← sampler.admits q.sample event then return some (id, v) else return none
  return Record.ofList deliveries

end Registry
end EventQuery
