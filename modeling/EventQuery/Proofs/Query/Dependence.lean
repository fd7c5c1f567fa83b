import EventQuery.Proofs.Plan.Equivalence
import EventQuery.Proofs.Projection.Replay

/-!
# What a query depends on

A query sees an event through its paths only. Two events may differ wherever they like: if the paths
of the condition lead to the same values on both, the query matches both or none, and if the paths
of the select list have the same matches, the same is selected of both, down to the order of fields.
The referenced paths are enough for everything, also in a plan, where the paths of other queries are
looked up on the same event (`Query.depends_on_paths`).
-/

namespace EventQuery

/-- The paths have the same matches on both events. -/
def SameOn (e e' : Value) (ps : List Path) : Prop := ∀ p ∈ ps, p.resolve e = p.resolve e'

theorem SameOn.subset {e e' : Value} {ps qs : List Path} (h : SameOn e e' qs) (hps : ps ⊆ qs) :
    SameOn e e' ps := fun p hp => h p (hps hp)

/-! ## Select lists -/

theorem foldlM_writeInto_congr {P : Type} {find find' : P → Id (List Match)} :
    ∀ (items : List (SelectItem P)) (p : Projection),
      (∀ r ∈ items.filterMap SelectItem.path?, find r = find' r) →
        items.foldlM (fun p i => SelectItem.writeInto find p i) p =
          items.foldlM (fun p i => SelectItem.writeInto find' p i) p
  | [], _, _ => rfl
  | i :: items, p, h => by
    have hfirst : i.writeInto find p = i.writeInto find' p := by
      cases i with
      | all => rfl
      | path r name =>
        have hr : find r = find' r := h r List.mem_cons_self
        cases name <;> simp only [SelectItem.writeInto, hr]
    have hrest : ∀ r ∈ items.filterMap SelectItem.path?, find r = find' r := by
      intro r hr
      obtain ⟨j, hj, hr⟩ := List.mem_filterMap.mp hr
      exact h r (List.mem_filterMap.mpr ⟨j, List.mem_cons_of_mem i hj, hr⟩)
    rw [List.foldlM_cons, List.foldlM_cons, hfirst]
    exact foldlM_writeInto_congr items _ hrest

/-! ## Queries -/

namespace Query

variable (q : Query) {e e' : Value}

/-- The paths of the condition, if there is one. -/
def conditionPaths : List Path := q.statement.condition.elim [] Expr.paths

/-- The paths of the select list. -/
def selectPaths : List Path := q.statement.select.filterMap SelectItem.path?

theorem conditionPaths_subset : q.conditionPaths ⊆ q.statement.referencedPaths := fun _ hp =>
  mem_referencedPaths.mpr (List.mem_append_left _ (List.mem_append_right _ hp))

theorem selectPaths_subset : q.selectPaths ⊆ q.statement.referencedPaths := fun _ hp =>
  mem_referencedPaths.mpr (List.mem_append_left _ (List.mem_append_left _ hp))

/-- The query matches by the values of its condition's paths. -/
theorem holds_congr (h : ∀ p ∈ q.conditionPaths,
    (p.resolve e).map Match.value = (p.resolve e').map Match.value) : q.holds e = q.holds e' := by
  unfold holds
  cases hc : q.statement.condition with
  | none => rfl
  | some c =>
    refine c.holds_of_sameValues fun p hp => ?_
    have hmem : p ∈ q.conditionPaths := by rwa [conditionPaths, hc]
    exact .of_eq (h p hmem)

/-- It selects by the matches of its select list's paths. -/
theorem project_congr (hall : q.statement.selectsAll = false) (h : SameOn e e' q.selectPaths) :
    q.project e = q.project e' := by
  have hall : q.statement.select.any SelectItem.isAll = false := hall
  have hfind : ∀ p ∈ q.selectPaths, find e p = find e' p := h
  unfold project EventQuery.select
  rw [hall, foldlM_writeInto_congr q.statement.select .empty hfind]
  rfl

theorem neededProjection_congr (hall : q.statement.selectsAll = false)
    (h : SameOn e e' q.statement.referencedPaths) :
    q.neededProjection e = q.neededProjection e' := by
  rw [neededProjection_eq hall, neededProjection_eq hall, gather_find, gather_find,
    List.flatMap_congr h]

theorem answer_congr (hall : q.statement.selectsAll = false)
    (h : SameOn e e' q.statement.referencedPaths) : q.answer e = q.answer e' := by
  have hholds : q.holds e = q.holds e' :=
    q.holds_congr fun p hp => congrArg (List.map Match.value) (h p (q.conditionPaths_subset hp))
  rw [answer, answer, hholds, q.project_congr hall (h.subset q.selectPaths_subset)]

end Query

/-! ## Plans -/

namespace Plan

/-- A plan has the answer of its query under the name of the query. -/
theorem get?_evaluate {qs : List Query} {q : Query} (hq : qs.find? (·.id == q.id) = some q)
    (event : Value) :
    Record.get? ((ofQueries qs).evaluate event) q.id = some (q.answer event) := by
  rw [(isOf_ofQueries qs).evaluate (nodup_ids_kept qs), Record.get?_map_pair, find?_kept, hq]
  rfl

theorem evaluateOne?_of_find? {qs : List Query} {q : Query}
    (hq : qs.find? (·.id == q.id) = some q) (event : Value) :
    (ofQueries qs).evaluateOne? q.id event = some (q.answer event) := by
  rw [(isOf_ofQueries qs).evaluateOne?, find?_kept, hq]
  rfl

end Plan

/-- A query depends on its paths only. Whether it matches is decided by the values that the paths of
    its condition lead to, and what it selects by the matches of its select list. If all its paths
    have the same matches on two events, it needs the same part of both, and every plan that it is
    in gives it the same answer to both, whatever else the plan looks up. -/
theorem Query.depends_on_paths (q : Query) (e e' : Value) :
    ((∀ p ∈ q.conditionPaths,
        (p.resolve e).map Match.value = (p.resolve e').map Match.value) →
      q.holds e = q.holds e') ∧
    (q.statement.selectsAll = false → SameOn e e' q.selectPaths → q.project e = q.project e') ∧
    (q.statement.selectsAll = false → SameOn e e' q.statement.referencedPaths →
      q.neededProjection e = q.neededProjection e' ∧
      ∀ qs : List Query, qs.find? (·.id == q.id) = some q → ∃ answer,
        Record.get? ((Plan.ofQueries qs).evaluate e) q.id = some answer ∧
        Record.get? ((Plan.ofQueries qs).evaluate e') q.id = some answer ∧
        (Plan.ofQueries qs).evaluateOne? q.id e = some answer ∧
        (Plan.ofQueries qs).evaluateOne? q.id e' = some answer) := by
  refine ⟨q.holds_congr, q.project_congr, ?_⟩
  intro hall h
  refine ⟨q.neededProjection_congr hall h, ?_⟩
  intro qs hq
  have hanswer := q.answer_congr hall h
  refine ⟨q.answer e, Plan.get?_evaluate hq e, ?_, Plan.evaluateOne?_of_find? hq e, ?_⟩
  · rw [hanswer]
    exact Plan.get?_evaluate hq e'
  · rw [hanswer]
    exact Plan.evaluateOne?_of_find? hq e'

end EventQuery
