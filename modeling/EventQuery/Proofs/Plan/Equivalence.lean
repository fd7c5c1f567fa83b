import EventQuery.Proofs.Plan.Sharing

/-!
# A plan says what its queries say

Merging queries into a plan is invisible to their subscribers. Over every event the plan has one
answer for every name, in the order in which the names come first, and it is the answer of the first
query of that name by itself (`evaluate_ofQueries`). The same holds of a single query of the plan,
and of any sequence of questions put to the queries over one shared store, in whatever order and
however often.
-/

namespace EventQuery

/-! ## One query by itself -/

/-- What becomes of an event at a query by itself. Only a match is projected. -/
def Query.answer (q : Query) (event : Value) : Answer :=
  if q.holds event then .matched (q.project event) else .missed

/-- What a query can be asked about an event. -/
inductive Question where
  | holds
  | project
deriving DecidableEq, Repr

/-- What it says then. -/
inductive Reply where
  | truth (b : Bool)
  | document (v : Value)
deriving Repr

/-- The reply of a query by itself. -/
def Query.reply (q : Query) (event : Value) : Question → Reply
  | .holds => .truth (q.holds event)
  | .project => .document (q.project event)

/-- The reply of a bound query over the shared store. -/
def BoundQuery.reply (b : BoundQuery) : Question → StateM Resolution Reply
  | .holds => do
    let truth ← b.holds
    return .truth truth
  | .project => do
    let document ← b.project
    return .document document

/-- A question to the query of a plan with a name, if there is one. -/
def Plan.ask (p : Plan) (id : String) (asked : Question) : StateM Resolution (Option Reply) :=
  match p.query? id with
  | none => return none
  | some b => do
    let reply ← b.reply asked
    return some reply

namespace BoundQuery

variable {T : PathTable} {b : BoundQuery} {q : Query}

theorem Binds.agrees_answer (h : b.Binds T q) (event : Value) :
    Agrees T event b.answer (q.answer event) := by
  have hbranch : ∀ held, Agrees T event
      (if held = true then (do return Answer.matched (← b.project)) else pure Answer.missed)
      (if held = true then pure (Answer.matched (q.project event)) else pure Answer.missed) :=
    fun held => .ite _ ((h.agrees_project event).map Answer.matched) (.pure Answer.missed)
  exact (h.agrees_holds event).bind hbranch

theorem Binds.agrees_reply (h : b.Binds T q) (event : Value) (asked : Question) :
    Agrees T event (b.reply asked) (q.reply event asked) := by
  cases asked with
  | holds => exact (h.agrees_holds event).map Reply.truth
  | project => exact (h.agrees_project event).map Reply.document

/-- Looking for a name among bound queries finds the binding of what is found among the queries. -/
theorem find?_of_binds (id : String) : ∀ {bs : List BoundQuery} {qs : List Query},
    List.Forall₂ (Binds T) bs qs →
      (bs.find? (·.id == id) = none ∧ qs.find? (·.id == id) = none) ∨
      ∃ b q, bs.find? (·.id == id) = some b ∧ qs.find? (·.id == id) = some q ∧ b.Binds T q
  | [], [], .nil => Or.inl ⟨rfl, rfl⟩
  | b :: bs, q :: qs, .cons h hs => by
    rw [List.find?_cons, List.find?_cons, h.id]
    split
    · exact Or.inr ⟨b, q, rfl, rfl, h⟩
    · exact find?_of_binds id hs

end BoundQuery

/-! ## All queries of a plan -/

namespace Plan

variable {p : Plan} {ks : List Query}

theorem IsOf.query?_cases (h : p.IsOf ks) (id : String) :
    (p.query? id = none ∧ ks.find? (·.id == id) = none) ∨
    ∃ b q, p.query? id = some b ∧ ks.find? (·.id == id) = some q ∧ b.Binds p.table q :=
  BoundQuery.find?_of_binds id (h.binds p.table (.refl _))

/-- A plan has the answers of its queries under their names. -/
theorem IsOf.evaluate (h : p.IsOf ks) (hd : (ks.map Query.id).Nodup) (event : Value) :
    p.evaluate event = ks.map fun q => (q.id, q.answer event) := by
  have hagree : Agrees p.table event
      (p.queries.mapM fun b => do return (b.id, ← b.answer))
      (ks.mapM fun q => (pure (q.id, q.answer event) : Id (String × Answer))) := by
    refine Agrees.mapM ((h.binds p.table (.refl _)).imp fun b q hb => ?_)
    rw [hb.id]
    exact (hb.agrees_answer event).map (Prod.mk q.id)
  have hrun := (hagree _ (Resolution.sound_start p.table event)).1
  rw [List.idRun_mapM] at hrun
  have hkeys : (Record.keys (ks.map fun q => (q.id, q.answer event))).Nodup := by
    simpa [Record.keys, Function.comp_def] using hd
  rw [← Record.ofList_of_nodup hkeys]
  exact congrArg Record.ofList hrun

theorem IsOf.evaluateOne? (h : p.IsOf ks) (id : String) (event : Value) :
    p.evaluateOne? id event = (ks.find? (·.id == id)).map (·.answer event) := by
  unfold Plan.evaluateOne?
  rcases h.query?_cases id with ⟨hb, hq⟩ | ⟨b, q, hb, hq, hbind⟩
  · rw [hb, hq]
    rfl
  · rw [hb, hq]
    exact congrArg some (hbind.agrees_answer event _ (Resolution.sound_start p.table event)).1

theorem IsOf.agrees_ask (h : p.IsOf ks) (event : Value) (id : String) (asked : Question) :
    Agrees p.table event (p.ask id asked)
      (pure ((ks.find? (·.id == id)).map (·.reply event asked))) := by
  unfold Plan.ask
  rcases h.query?_cases id with ⟨hb, hq⟩ | ⟨b, q, hb, hq, hbind⟩
  · rw [hb, hq]
    exact .pure none
  · rw [hb, hq]
    exact (hbind.agrees_reply event asked).map some

theorem IsOf.ask_all (h : p.IsOf ks) (event : Value) (calls : List (String × Question)) :
    ((calls.mapM fun c => p.ask c.1 c.2).run (p.start event)).1 =
      calls.map fun c => (ks.find? (·.id == c.1)).map (·.reply event c.2) := by
  have hagree := Agrees.mapM (List.forall₂_same.mpr fun c (_ : c ∈ calls) =>
    h.agrees_ask event c.1 c.2)
  have hrun := (hagree _ (Resolution.sound_start p.table event)).1
  rw [List.idRun_mapM] at hrun
  exact hrun

/-- A plan gives every subscriber what the subscriber's query gives by itself: one answer for every
    name, in the order in which names come first, from the first query of the name; the same from a
    single query; and the same to all questions over one shared store. -/
theorem evaluate_ofQueries (qs : List Query) (event : Value) :
    Record.keys ((ofQueries qs).evaluate event) = firstOccurrences (qs.map Query.id) ∧
    (∀ id, Record.get? ((ofQueries qs).evaluate event) id =
      (qs.find? (·.id == id)).map (·.answer event)) ∧
    (∀ id, (ofQueries qs).evaluateOne? id event =
      (qs.find? (·.id == id)).map (·.answer event)) ∧
    (∀ id, (ofQueries qs).evaluateOne? id event = none ↔ id ∉ qs.map Query.id) ∧
    (∀ calls : List (String × Question),
      ((calls.mapM fun c => (ofQueries qs).ask c.1 c.2).run ((ofQueries qs).start event)).1 =
        calls.map fun c => (qs.find? (·.id == c.1)).map (·.reply event c.2)) := by
  have h := isOf_ofQueries qs
  have hone : ∀ id, (ofQueries qs).evaluateOne? id event =
      (qs.find? (·.id == id)).map (·.answer event) := fun id => by
    rw [h.evaluateOne?, find?_kept]
  refine ⟨?_, ?_, hone, ?_, ?_⟩
  · rw [h.evaluate (nodup_ids_kept qs), ← ids_kept]
    simp [Record.keys]
  · intro id
    rw [h.evaluate (nodup_ids_kept qs), Record.get?_map_pair, find?_kept]
  · intro id
    rw [hone, Option.map_eq_none_iff, List.find?_eq_none]
    simp
  · intro calls
    simp only [h.ask_all, find?_kept]

end Plan
end EventQuery
