import EventQuery.Proofs.Plan.Sharing
import EventQuery.Proofs.Projection.Order

/-!
# Projections as documents

What a projection promises to its reader: everything the paths lead to on the event is there, under
the keys that lead to it; nothing else is there; and at a match and below it the document is the
event (`IsProjection`). The order in which paths are given, and whether they are repeated, shows in
the order of fields only.

This is first said of `gather`, which all projections without names go through, and then of the part
of an event that a query depends on and of the part that all queries of a plan depend on
(`isProjection_gather`, `projections_of_event`).
-/

namespace EventQuery

open Projection
open Value (Reordered)

/-- The document holds of the event what the paths lead to, and nothing else. -/
structure IsProjection (document event : Value) (ps : List Path) : Prop where
  /-- The keys of a match lead to its value in the document. -/
  complete : ∀ p ∈ ps, ∀ m ∈ p.resolve event, document.follow? m.path = some m.value
  /-- A chain of field names in the document lies on the way to a match, or below one. -/
  sound : ∀ chain, chain ≠ [] → (document.reach? chain).isSome →
    ∃ p ∈ ps, ∃ m ∈ p.resolve event, chain <+: m.names ∨ m.names <+: chain
  /-- At a match and below it the document holds what the event holds. -/
  exact_below : ∀ p ∈ ps, ∀ m ∈ p.resolve event, ∀ ks,
    document.follow? (m.path ++ ks) = event.follow? (m.path ++ ks)

theorem IsProjection.congr {document event : Value} {ps ps' : List Path}
    (h : IsProjection document event ps) (hps : ∀ p, p ∈ ps ↔ p ∈ ps') :
    IsProjection document event ps' where
  complete p hp := h.complete p ((hps p).mpr hp)
  sound chain hne hsome := by
    obtain ⟨p, hp, hm⟩ := h.sound chain hne hsome
    exact ⟨p, (hps p).mp hp, hm⟩
  exact_below p hp := h.exact_below p ((hps p).mpr hp)

/-! ## Gathering paths -/

/-- The matches that some paths lead to are written one after the other. -/
theorem gather_find (event : Value) (ps : List Path) :
    (gather (Query.find event) ps).run =
      (ofMatches (ps.flatMap (·.resolve event))).toValue := by
  rw [ofMatches, List.foldl_flatMap]
  exact congrArg toValue (List.idRun_foldlM (l := ps))

theorem within_of_mem_flatMap {event : Value} (h : event.Storable) {ps : List Path} {m : Match}
    (hm : m ∈ ps.flatMap (·.resolve event)) : m.Within event := by
  obtain ⟨p, -, hm⟩ := List.mem_flatMap.mp hm
  exact Path.within_of_mem_resolve h hm

/-- What is gathered is a piece of the event along the keys of the matches. -/
theorem pieceOf_ofMatches {K : Key → Prop} {event : Value} (h : event.Storable) {ps : List Path}
    (hK : ∀ p ∈ ps, ∀ m ∈ p.resolve event, ∀ k ∈ m.path, K k) :
    PieceOf K (ofMatches (ps.flatMap (·.resolve event))) event := by
  refine PieceOf.foldl_insert _ (fun m hm => ⟨within_of_mem_flatMap h hm, ?_⟩) (.empty event)
  obtain ⟨p, hp, hm⟩ := List.mem_flatMap.mp hm
  exact hK p hp m hm

theorem storable_gather {event : Value} (h : event.Storable) (ps : List Path) :
    (gather (Query.find event) ps).run.Storable := by
  rw [gather_find]
  exact (pieceOf_ofMatches (K := fun _ => True) h fun _ _ _ _ _ _ => trivial).storable h

theorem isProjection_gather {event : Value} (h : event.Storable) (ps : List Path) :
    IsProjection (gather (Query.find event) ps).run event ps := by
  have hpiece : PieceOf (fun _ => True) (ofMatches (ps.flatMap (·.resolve event))) event :=
    pieceOf_ofMatches h fun _ _ _ _ _ _ => trivial
  have hcomplete : ∀ p ∈ ps, ∀ m ∈ p.resolve event,
      (gather (Query.find event) ps).run.follow? m.path = some m.value := fun p hp m hm => by
    rw [gather_find]
    exact hpiece.follow?_toValue (covers_foldl_insert (List.mem_flatMap_of_mem hp hm) .empty)
      (Path.within_of_mem_resolve h hm)
  refine ⟨hcomplete, ?_, ?_⟩
  · intro chain hne hsome
    rw [gather_find] at hsome
    rcases reach?_foldl_insert _ hsome with hempty | ⟨m, hm, hpre⟩
    · exact absurd (reach?_empty hempty) hne
    · obtain ⟨p, hp, hm⟩ := List.mem_flatMap.mp hm
      exact ⟨p, hp, m, hm, hpre⟩
  · intro p hp m hm ks
    rw [Value.follow?_append, Value.follow?_append, hcomplete p hp m hm]
    rw [Value.follow?_of_at? (Path.within_of_mem_resolve h hm)]

/-- The order of paths, and how often they are given, shows in the order of fields only. -/
theorem reordered_gather {event : Value} (h : event.Storable) {ps ps' : List Path}
    (hps : ∀ p, p ∈ ps ↔ p ∈ ps') :
    Reordered (gather (Query.find event) ps).run (gather (Query.find event) ps').run := by
  rw [gather_find, gather_find]
  have hc : Consistent (ps.flatMap (·.resolve event)) :=
    consistent_of_within fun m hm => within_of_mem_flatMap h hm
  refine (alike_foldl_insert_of_mem_iff hc (fun m => ?_) .empty).toValue
  simp only [List.mem_flatMap, hps]

/-! ## Queries and plans -/

theorem BoundQuery.Binds.selectsAll {T : PathTable} {b : BoundQuery} {q : Query}
    (h : b.Binds T q) : b.selectsAll = q.statement.selectsAll := by
  have hany := congrArg (List.any · SelectItem.isAll) h.select
  simp only [List.any_map, SelectItem.isAll_comp_mapPath] at hany
  exact hany

theorem BoundQuery.any_selectsAll {T : PathTable} : ∀ {bs : List BoundQuery} {ks : List Query},
    List.Forall₂ (Binds T) bs ks → bs.any selectsAll = ks.any (·.statement.selectsAll)
  | [], [], .nil => rfl
  | _ :: _, _ :: _, .cons h hs => by
    rw [List.any_cons, List.any_cons, h.selectsAll, any_selectsAll hs]

namespace Plan

/-- All paths that some queries read. -/
def referencedPaths (ks : List Query) : List Path := ks.flatMap (·.statement.referencedPaths)

theorem mem_visited {q : Query} {p : Path} :
    p ∈ BoundQuery.visited q ↔ p ∈ q.statement.referencedPaths := by
  have hselect : q.statement.select.flatMap (·.path?.toList) =
      q.statement.select.filterMap SelectItem.path? := (List.filterMap_eq_flatMap_toList ..).symm
  rw [BoundQuery.visited, hselect, Statement.referencedPaths, mem_firstOccurrences,
    Statement.paths]
  simp only [List.mem_append, mem_firstOccurrences]
  tauto

/-- A plan of queries that do not select everything gathers all their paths. -/
theorem IsOf.supersetProjection {p : Plan} {ks : List Query} (h : p.IsOf ks) (event : Value) :
    p.supersetProjection event =
      if ks.any (·.statement.selectsAll) then event
      else (gather (Query.find event) p.table.paths).run := by
  have hrun := (Agrees.gather Agrees.find p.table.ids _ (Resolution.sound_start p.table event)).1
  unfold Plan.supersetProjection
  rw [BoundQuery.any_selectsAll (h.binds p.table (.refl _))]
  refine if_congr Iff.rfl rfl (hrun.trans ?_)
  have hgather : gather (Resolution.ofPath? event ∘ p.table.get?) p.table.ids =
      gather (Resolution.ofPath? event ∘ some) p.table.paths := by
    rw [← gather_map, PathTable.map_get?_ids, gather_map]
  exact congrArg Id.run hgather

theorem IsOf.mem_paths {p : Plan} {ks : List Query} (h : p.IsOf ks) (path : Path) :
    path ∈ p.table.paths ↔ path ∈ referencedPaths ks := by
  rw [h.paths, mem_firstOccurrences, referencedPaths, List.mem_flatMap, List.mem_flatMap]
  simp only [mem_visited]

/-- Unless some query selects everything, the plan's part of an event is what the paths of its
    queries lead to. -/
theorem IsOf.isProjection {p : Plan} {ks : List Query} (h : p.IsOf ks) {event : Value}
    (he : event.Storable) (hall : ∀ q ∈ ks, q.statement.selectsAll = false) :
    IsProjection (p.supersetProjection event) event (referencedPaths ks) := by
  have hany : ks.any (·.statement.selectsAll) = false := by
    simpa [List.any_eq_false] using hall
  rw [h.supersetProjection, hany]
  exact (isProjection_gather he p.table.paths).congr h.mem_paths

/-- Plans of the same queries in another order have parts that differ in the order of fields. -/
theorem IsOf.reordered {p p' : Plan} {ks ks' : List Query} (h : p.IsOf ks) (h' : p'.IsOf ks')
    (hperm : ks.Perm ks') {event : Value} (he : event.Storable) :
    Reordered (p.supersetProjection event) (p'.supersetProjection event) := by
  rw [h.supersetProjection, h'.supersetProjection, hperm.any_eq]
  split
  · exact .same event
  · refine reordered_gather he fun path => ?_
    rw [h.mem_paths, h'.mem_paths, referencedPaths, referencedPaths]
    exact (hperm.flatMap_right _).mem_iff

end Plan

theorem Query.neededProjection_eq {q : Query} (h : q.statement.selectsAll = false)
    (event : Value) :
    q.neededProjection event = (gather (find event) q.statement.referencedPaths).run := by
  unfold neededProjection
  rw [h]
  rfl

/-- Every projection of an event without names is a projection of its paths, whose order and
    repetitions show in the order of fields only: that of any list of paths, that of the paths a
    query reads, and that of the paths all queries of a plan read. -/
theorem projections_of_event (event : Value) (h : event.Storable) :
    (∀ ps, IsProjection (gather (Query.find event) ps).run event ps) ∧
    (∀ ps ps', (∀ p, p ∈ ps ↔ p ∈ ps') →
      Reordered (gather (Query.find event) ps).run (gather (Query.find event) ps').run) ∧
    (∀ q : Query, q.statement.selectsAll = false →
      IsProjection (q.neededProjection event) event q.statement.referencedPaths) ∧
    (∀ q q' : Query, q.statement.selectsAll = false → q'.statement.selectsAll = false →
      (∀ p, p ∈ q.statement.referencedPaths ↔ p ∈ q'.statement.referencedPaths) →
      Reordered (q.neededProjection event) (q'.neededProjection event)) ∧
    (∀ qs, (∀ q ∈ Plan.kept qs, q.statement.selectsAll = false) →
      IsProjection ((Plan.ofQueries qs).supersetProjection event) event
        (Plan.referencedPaths (Plan.kept qs))) ∧
    (∀ qs qs', (Plan.kept qs).Perm (Plan.kept qs') →
      Reordered ((Plan.ofQueries qs).supersetProjection event)
        ((Plan.ofQueries qs').supersetProjection event)) := by
  refine ⟨isProjection_gather h, ?_, ?_, ?_, ?_, ?_⟩
  · intro ps ps' hps
    exact reordered_gather h hps
  · intro q hq
    rw [Query.neededProjection_eq hq]
    exact isProjection_gather h _
  · intro q q' hq hq' hps
    rw [Query.neededProjection_eq hq, Query.neededProjection_eq hq']
    exact reordered_gather h hps
  · intro qs hall
    exact (Plan.isOf_ofQueries qs).isProjection h hall
  · intro qs qs' hperm
    exact (Plan.isOf_ofQueries qs).reordered (Plan.isOf_ofQueries qs') hperm h

/-- An event with a list in it, and an object. -/
def nestedEvent : Value :=
  .object [("log", .list [.bool true, .object [("x", .null)]]), ("a", .object [("b", .null)])]

theorem storable_nestedEvent : nestedEvent.Storable := by
  have hx : (Value.object [("x", .null)]).Storable :=
    .object (by decide) (by simp [Value.Storable.null])
  have hlog : (Value.list [.bool true, .object [("x", .null)]]).Storable :=
    .list (by decide) (by simp [hx, Value.Storable.bool])
  have ha : (Value.object [("b", .null)]).Storable :=
    .object (by decide) (by simp [Value.Storable.null])
  exact .object (by decide) (by simp [hlog, ha])

/-- Paths that overlap: a value and a part of it, and one item under two positions. -/
def overlappingPaths : List Path :=
  [[.key "log", .index 1, .key "x"], [.key "log", .index (-1)], [.key "a", .key "b"], [.key "a"]]

/-- Here the list becomes an object with one item under both its positions, and the whole value
    takes the place of its part. -/
def overlappingDocument : Value :=
  .object [("log", .object [("1", .object [("x", .null)]), ("-1", .object [("x", .null)])]),
    ("a", .object [("b", .null)])]

theorem projection_of_nestedEvent :
    nestedEvent.Storable ∧
    (gather (Query.find nestedEvent) overlappingPaths).run = overlappingDocument ∧
    IsProjection overlappingDocument nestedEvent overlappingPaths :=
  ⟨storable_nestedEvent, rfl,
    (projections_of_event nestedEvent storable_nestedEvent).1 overlappingPaths⟩

end EventQuery
