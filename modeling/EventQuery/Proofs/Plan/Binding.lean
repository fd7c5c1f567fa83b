import EventQuery.Plan
import EventQuery.Proofs.Path.Numbering
import Mathlib.Data.List.Forall2

/-!
# Binding queries to a table

A bound query holds numbers where its query holds paths. Nothing is lost by that: reading every
number back in the table gives the clauses of the query again (`BoundQuery.Binds`). This holds for
the table right after binding and, since tables only grow, for the table of the finished plan
(`binds_bind`, `Plan.isOf_ofQueries`).
-/

namespace EventQuery

open PathTable

/-! ## Conditions and select lists -/

namespace Expr

theorem interns_traverse (e : Expr Path) : Interns e.paths (e.traverse number) := by
  induction e with
  | literal v | bool b | pattern p => exact interns_pure _
  | path p => exact (interns_number p).bind fun q => interns_pure (path q)
  | compare l op r ihl ihr | and l r ihl ihr | or l r ihl ihr =>
    refine ihl.bind fun l' => ?_
    rw [← List.append_nil r.paths]
    exact ihr.bind fun r' => interns_pure _
  | not e ih =>
    rw [show (not e).paths = e.paths ++ [] from (List.append_nil _).symm]
    exact ih.bind fun e' => interns_pure (not e')

/-- Read back in any later table, a bound condition is the condition itself. -/
theorem mapPaths_traverse (e : Expr Path) {t T : PathTable}
    (h : ((e.traverse number).run t).2.Extends T) :
    ((e.traverse number).run t).1.mapPaths T.get? = e.mapPaths some := by
  induction e generalizing t with
  | literal v | bool b | pattern p => rfl
  | path p => exact congrArg path (h _ _ (get?_intern t p))
  | compare l op r ihl ihr =>
    have hr := ihr h
    have hl := ihl ((r.interns_traverse.extends _).trans h)
    exact congrArg₂ (compare · op ·) hl hr
  | and l r ihl ihr =>
    exact congrArg₂ and (ihl ((r.interns_traverse.extends _).trans h)) (ihr h)
  | or l r ihl ihr =>
    exact congrArg₂ or (ihl ((r.interns_traverse.extends _).trans h)) (ihr h)
  | not e ih => exact congrArg not (ih h)

end Expr

namespace SelectItem

theorem interns_traverse (i : SelectItem Path) :
    Interns i.path?.toList (i.traverse number) := by
  cases i with
  | all => exact interns_pure _
  | path p name => exact (interns_number p).bind fun q => interns_pure (path q name)

theorem mapPath_traverse (i : SelectItem Path) {t T : PathTable}
    (h : ((i.traverse number).run t).2.Extends T) :
    ((i.traverse number).run t).1.mapPath T.get? = i.mapPath some := by
  cases i with
  | all => rfl
  | path p name => exact congrArg (path · name) (h _ _ (get?_intern t p))

end SelectItem

/-- A list bound entry by entry is read back entry by entry. -/
theorem map_run_mapM {α β γ : Type} {f : α → StateM PathTable β} {paths : α → List Path}
    {back : PathTable → β → γ} {want : α → γ} (hi : ∀ a, Interns (paths a) (f a))
    (hb : ∀ a t T, ((f a).run t).2.Extends T → back T ((f a).run t).1 = want a) :
    ∀ (as : List α) {t T : PathTable}, ((as.mapM f).run t).2.Extends T →
      ((as.mapM f).run t).1.map (back T) = as.map want
  | [], _, _, _ => rfl
  | a :: as, t, T, h => by
    rw [List.mapM_cons] at h ⊢
    have hrest := map_run_mapM hi hb as h
    have hfirst := hb a t T (((Interns.mapM hi as).extends _).trans h)
    exact congrArg₂ List.cons hfirst hrest

/-! ## Queries -/

namespace BoundQuery

/-- The bound query says what the query says, once its numbers are read in the table. -/
structure Binds (T : PathTable) (b : BoundQuery) (q : Query) : Prop where
  id : b.id = q.id
  select : b.select.map (SelectItem.mapPath T.get?) =
    q.statement.select.map (SelectItem.mapPath some)
  condition : b.condition.map (Expr.mapPaths T.get?) =
    q.statement.condition.map (Expr.mapPaths some)
  referenced : b.referenced.map T.get? = q.statement.referencedPaths.map some
  sample : b.sample = q.statement.sample

theorem Binds.condition_cases {T : PathTable} {b : BoundQuery} {q : Query} (h : b.Binds T q) :
    (b.condition = none ∧ q.statement.condition = none) ∨
    ∃ e' e, b.condition = some e' ∧ q.statement.condition = some e ∧
      e'.mapPaths T.get? = e.mapPaths some := by
  have hc := h.condition
  cases hb : b.condition with
  | none =>
    rw [hb, Option.map_none, eq_comm, Option.map_eq_none_iff] at hc
    exact Or.inl ⟨rfl, hc⟩
  | some e' =>
    rw [hb, Option.map_some, eq_comm, Option.map_eq_some_iff] at hc
    obtain ⟨e, hq, he⟩ := hc
    exact Or.inr ⟨e', e, rfl, hq, he.symm⟩

/-- The paths of a query in the order in which binding comes to them. -/
def visited (q : Query) : List Path :=
  q.statement.select.flatMap (·.path?.toList) ++
    (q.statement.condition.elim [] Expr.paths ++ q.statement.referencedPaths)

theorem interns_condition (c : Option (Expr Path)) :
    Interns (c.elim [] Expr.paths) (c.mapM (Expr.traverse number)) := by
  cases c with
  | none => exact interns_pure none
  | some e =>
    rw [show (some e).elim [] Expr.paths = e.paths ++ [] from (List.append_nil _).symm]
    exact e.interns_traverse.bind fun e' => interns_pure (some e')

theorem interns_referenced (ps : List Path) : Interns ps (ps.mapM number) := by
  have h := Interns.mapM interns_number ps
  rwa [List.flatMap_singleton'] at h

theorem interns_bind (q : Query) : Interns (visited q) (bind q) := by
  refine (Interns.mapM SelectItem.interns_traverse _).bind fun select => ?_
  refine (interns_condition _).bind fun condition => ?_
  have h := (interns_referenced q.statement.referencedPaths).bind fun referenced =>
    interns_pure
      ({ id := q.id, select, condition, referenced, sample := q.statement.sample } : BoundQuery)
  rwa [List.append_nil] at h

theorem map_condition {c : Option (Expr Path)} {t T : PathTable}
    (h : ((c.mapM (Expr.traverse number)).run t).2.Extends T) :
    ((c.mapM (Expr.traverse number)).run t).1.map (Expr.mapPaths T.get?) =
      c.map (Expr.mapPaths some) := by
  cases c with
  | none => rfl
  | some e => exact congrArg some (e.mapPaths_traverse h)

/-- Binding loses nothing, whatever is put into the table afterwards. -/
theorem binds_bind (q : Query) {t T : PathTable} (h : ((bind q).run t).2.Extends T) :
    Binds T ((bind q).run t).1 q := by
  -- The three clauses are bound one after the other; each is read back in a table that has grown
  -- by the clauses after it.
  have hcond := (interns_referenced q.statement.referencedPaths).extends
  have hsel := (interns_condition q.statement.condition).extends
  refine ⟨rfl, ?_, ?_, ?_, rfl⟩
  · exact map_run_mapM SelectItem.interns_traverse (fun i _ _ => i.mapPath_traverse) _
      ((hsel _).trans ((hcond _).trans h))
  · exact map_condition ((hcond _).trans h)
  · exact map_run_mapM interns_number (fun p t T h => h _ _ (get?_intern t p)) _ h

theorem ids_of_binds {T : PathTable} : ∀ {bs : List BoundQuery} {qs : List Query},
    List.Forall₂ (Binds T) bs qs → bs.map BoundQuery.id = qs.map Query.id
  | [], [], .nil => rfl
  | _ :: _, _ :: _, .cons h hs => congrArg₂ List.cons h.id (ids_of_binds hs)

end BoundQuery

/-! ## Plans

A plan is described by the queries that count in it: they are bound in their order, and the table
holds the paths that they visit and no others. -/

namespace Plan

/-- The queries that count, with one more, unless there is one of its name. -/
def keep (ks : List Query) (q : Query) : List Query :=
  if ks.any (·.id == q.id) then ks else ks ++ [q]

/-- The queries that count in a plan, in their order: of those with one name the first. -/
def kept (qs : List Query) : List Query := qs.foldl keep []

theorem ids_keep (ks : List Query) (q : Query) :
    (keep ks q).map Query.id = addNew (ks.map Query.id) q.id := by
  have hany : ks.any (·.id == q.id) = true ↔ q.id ∈ ks.map Query.id := by
    simp [List.any_eq_true, List.mem_map]
  unfold keep addNew
  by_cases h : q.id ∈ ks.map Query.id
  · rw [if_pos h, if_pos (hany.mpr h)]
  · rw [if_neg h, if_neg fun h' => h (hany.mp h'), List.map_append]
    rfl

theorem find?_keep (ks : List Query) (q : Query) (id : String) :
    (keep ks q).find? (·.id == id) = (ks.find? (·.id == id)).or ([q].find? (·.id == id)) := by
  unfold keep
  split
  · next h =>
    -- The query that is there already is found first, also under the name of the new one.
    by_cases hq : q.id = id
    · obtain ⟨k, hk, hkid⟩ := List.any_eq_true.mp h
      have hfound : (ks.find? (·.id == id)).isSome := by
        rw [List.find?_isSome]
        exact ⟨k, hk, by rw [← hq]; exact hkid⟩
      obtain ⟨k', hk'⟩ := Option.isSome_iff_exists.mp hfound
      rw [hk', Option.some_or]
    · rw [show [q].find? (·.id == id) = none by simp [hq], Option.or_none]
  · rw [List.find?_append]

theorem ids_foldl_keep (qs ks : List Query) :
    (qs.foldl keep ks).map Query.id = (qs.map Query.id).foldl addNew (ks.map Query.id) := by
  induction qs generalizing ks with
  | nil => rfl
  | cons q qs ih => rw [List.foldl_cons, ih, ids_keep, List.map_cons, List.foldl_cons]

theorem find?_foldl_keep (qs ks : List Query) (id : String) :
    (qs.foldl keep ks).find? (·.id == id) =
      (ks.find? (·.id == id)).or (qs.find? (·.id == id)) := by
  induction qs generalizing ks with
  | nil => rw [List.foldl_nil, List.find?_nil, Option.or_none]
  | cons q qs ih =>
    rw [List.foldl_cons, ih, find?_keep, Option.or_assoc, ← List.find?_append,
      List.singleton_append]

/-- The names that count are all names, each where it comes first. -/
theorem ids_kept (qs : List Query) :
    (kept qs).map Query.id = firstOccurrences (qs.map Query.id) := ids_foldl_keep qs []

theorem nodup_ids_kept (qs : List Query) : ((kept qs).map Query.id).Nodup := by
  rw [ids_kept]
  exact nodup_firstOccurrences _

/-- Under every name the first query counts. -/
theorem find?_kept (qs : List Query) (id : String) :
    (kept qs).find? (·.id == id) = qs.find? (·.id == id) := find?_foldl_keep qs [] id

/-- A plan of the given queries, in their order. Later tables that extend its own serve its bound
    queries as well. -/
structure IsOf (p : Plan) (ks : List Query) : Prop where
  binds : ∀ T, p.table.Extends T → List.Forall₂ (BoundQuery.Binds T) p.queries ks
  paths : p.table.paths = firstOccurrences (ks.flatMap BoundQuery.visited)

theorem IsOf.ids {p : Plan} {ks : List Query} (h : p.IsOf ks) :
    p.queries.map BoundQuery.id = ks.map Query.id :=
  BoundQuery.ids_of_binds (h.binds p.table (.refl _))

theorem IsOf.isSome_query? {p : Plan} {ks : List Query} (h : p.IsOf ks) (id : String) :
    (p.query? id).isSome = ks.any (·.id == id) := by
  have hids := congrArg (List.any · (· == id)) h.ids
  simp only [List.any_map] at hids
  rw [query?, List.isSome_find?]
  exact hids

/-- One more query leaves the plan one of the queries that count. -/
theorem IsOf.add {p : Plan} {ks : List Query} (h : p.IsOf ks) (q : Query) :
    (p.add q).IsOf (keep ks q) := by
  unfold Plan.add keep
  rw [h.isSome_query? q.id]
  split
  · exact h
  · have hi := BoundQuery.interns_bind q p.table
    refine ⟨?_, ?_⟩
    · intro T hT
      refine List.rel_append (h.binds T (hi.1.trans hT)) ?_
      exact .cons (BoundQuery.binds_bind q hT) .nil
    · rw [List.flatMap_append, firstOccurrences, List.foldl_append]
      rw [show ([q].flatMap BoundQuery.visited) = BoundQuery.visited q by simp]
      rw [← firstOccurrences, ← h.paths]
      exact hi.2

theorem isOf_foldl_add (qs : List Query) {p : Plan} {ks : List Query} (h : p.IsOf ks) :
    (qs.foldl Plan.add p).IsOf (qs.foldl keep ks) := by
  induction qs generalizing p ks with
  | nil => exact h
  | cons q qs ih => exact ih (h.add q)

/-- The plan of some queries is that of the queries that count among them. -/
theorem isOf_ofQueries (qs : List Query) : (ofQueries qs).IsOf (kept qs) :=
  isOf_foldl_add qs ⟨fun _ _ => .nil, rfl⟩

end Plan
end EventQuery
