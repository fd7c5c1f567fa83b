import EventQuery.Proofs.Plan.Binding
import Mathlib.Data.List.Induction
import Mathlib.Data.List.Nodup

/-!
# The table of a plan

Binding goes through a query three times, through its select list, its condition and the list of
paths it reads, and every time it puts paths into a table that later queries share. Two things have
to come of it. The numbers of a bound query stand for the paths of that query and no other, in every
clause; and the table is the union of what the queries read, with nothing else in it.

The second holds because the third pass comes to all paths in the order of the first two, so these
make no difference to the table (`foldl_addNew_visited`). A query whose name was taken is not bound
at all, so a path that only such a query reads is not in the table (`Plan.unites_ofQueries`).
-/

namespace EventQuery

section

variable {α : Type} [DecidableEq α]

/-- Adding the distinct members of a list is adding the list. -/
theorem foldl_addNew_firstOccurrences (xs seen : List α) :
    (firstOccurrences xs).foldl addNew seen = xs.foldl addNew seen := by
  induction xs using List.reverseRecOn with
  | nil => rfl
  | append_singleton xs x ih =>
    rw [firstOccurrences, List.foldl_append, List.foldl_append, ← ih]
    simp only [List.foldl_cons, List.foldl_nil]
    rw [← firstOccurrences]
    by_cases hx : x ∈ firstOccurrences xs
    · have hseen : x ∈ (firstOccurrences xs).foldl addNew seen :=
        (mem_foldl_addNew _ seen).mpr (Or.inr hx)
      rw [addNew, if_pos hx, addNew, if_pos hseen]
    · rw [addNew, if_neg hx, List.foldl_append]
      rfl

end

namespace BoundQuery

/-- To the table it makes no difference that select list and condition are visited first. -/
theorem foldl_addNew_visited (q : Query) (seen : List Path) :
    (visited q).foldl addNew seen = q.statement.referencedPaths.foldl addNew seen := by
  have hselect : q.statement.select.flatMap (·.path?.toList) =
      q.statement.select.filterMap SelectItem.path? := (List.filterMap_eq_flatMap_toList ..).symm
  rw [visited, hselect, ← List.append_assoc]
  rw [Statement.referencedPaths, Statement.paths]
  rw [← foldl_addNew_firstOccurrences (_ ++ firstOccurrences _), firstOccurrences_append_self]

theorem foldl_addNew_flatMap_visited (ks : List Query) (seen : List Path) :
    (ks.flatMap visited).foldl addNew seen =
      (ks.flatMap fun q => q.statement.referencedPaths).foldl addNew seen := by
  induction ks generalizing seen with
  | nil => rfl
  | cons q ks ih =>
    simp only [List.flatMap_cons, List.foldl_append, foldl_addNew_visited, ih]

/-! ## The numbers of a bound query -/

/-- Every number in a bound query, clause by clause. -/
def numbers (b : BoundQuery) : List PathId :=
  b.select.filterMap SelectItem.path? ++ b.condition.elim [] Expr.paths ++ b.referenced

end BoundQuery

theorem SelectItem.path?_mapPath {P Q : Type} (f : P → Q) (i : SelectItem P) :
    (i.mapPath f).path? = i.path?.map f := by
  cases i <;> rfl

theorem SelectItem.filterMap_path?_map {P Q : Type} (f : P → Q) (is : List (SelectItem P)) :
    (is.map (mapPath f)).filterMap path? = (is.filterMap path?).map f := by
  rw [List.filterMap_map, List.map_filterMap]
  exact congrArg (List.filterMap · is) (funext (path?_mapPath f))

theorem Expr.paths_mapPaths {P Q : Type} (f : P → Q) (e : Expr P) :
    (e.mapPaths f).paths = e.paths.map f := by
  induction e with
  | literal v | bool b | pattern p | path p => rfl
  | compare l op r ihl ihr | and l r ihl ihr | or l r ihl ihr =>
    simp only [mapPaths, paths, List.map_append, ihl, ihr]
  | not e ih => exact ih

theorem Expr.paths_map_mapPaths {P Q : Type} (f : P → Q) (c : Option (Expr P)) :
    (c.map (mapPaths f)).elim [] paths = (c.elim [] paths).map f := by
  cases c with
  | none => rfl
  | some e => exact e.paths_mapPaths f

namespace BoundQuery

/-- Read in the table, the numbers of a bound query are the paths of the query. -/
theorem Binds.map_numbers {T : PathTable} {b : BoundQuery} {q : Query} (h : b.Binds T q) :
    b.numbers.map T.get? =
      (q.statement.select.filterMap SelectItem.path? ++
        q.statement.condition.elim [] Expr.paths ++ q.statement.referencedPaths).map some := by
  simp only [numbers, List.map_append, ← SelectItem.filterMap_path?_map,
    ← Expr.paths_map_mapPaths, h.select, h.condition, h.referenced]

theorem Binds.lt_size {T : PathTable} {b : BoundQuery} {q : Query} (h : b.Binds T q) {id : PathId}
    (hid : id ∈ b.numbers) : id.index < T.size := by
  have hmem : T.get? id ∈ b.numbers.map T.get? := List.mem_map_of_mem hid
  rw [h.map_numbers] at hmem
  obtain ⟨p, -, hp⟩ := List.mem_map.mp hmem
  exact (List.getElem?_eq_some_iff.mp hp.symm).1

end BoundQuery

/-! ## The queries that count -/

namespace Query

variable {ks : List Query}

theorem find?_of_mem (hd : (ks.map Query.id).Nodup) {k : Query} (hk : k ∈ ks) :
    ks.find? (·.id == k.id) = some k := by
  cases hfind : ks.find? (·.id == k.id) with
  | none =>
    have hne := List.find?_eq_none.mp hfind k hk
    simp at hne
  | some k' =>
    have hid : k'.id = k.id := by simpa using List.find?_some hfind
    exact congrArg some
      (List.inj_on_of_nodup_map hd (List.mem_of_find?_eq_some hfind) hk hid)

/-- Queries with distinct names are found under their names, in their order. -/
theorem filterMap_find?_ids (hd : (ks.map Query.id).Nodup) :
    (ks.map Query.id).filterMap (fun id => ks.find? (·.id == id)) = ks := by
  rw [List.filterMap_map]
  calc ks.filterMap ((fun id => ks.find? (·.id == id)) ∘ Query.id)
      = ks.filterMap some := List.filterMap_congr fun k hk => find?_of_mem hd hk
    _ = ks := List.filterMap_some

end Query

namespace Plan

/-- The first query of each name, in the order in which the names come. -/
def firstOfEachName (qs : List Query) : List Query :=
  (firstOccurrences (qs.map Query.id)).filterMap fun id => qs.find? (·.id == id)

theorem kept_eq (qs : List Query) : kept qs = firstOfEachName qs := by
  have hd := nodup_ids_kept qs
  rw [← Query.filterMap_find?_ids hd, ids_kept]
  simp only [find?_kept]
  rfl

/-- The plan binds the queries, in their order, without loss, and its table is the union of the
    paths that they read. -/
structure Unites (p : Plan) (ks : List Query) : Prop where
  /-- Read in the table, each bound query is its query: select list, condition and referenced
      paths. -/
  binds : List.Forall₂ (BoundQuery.Binds p.table) p.queries ks
  /-- All numbers are those of paths in the table. -/
  lt_size : ∀ b ∈ p.queries, ∀ id ∈ b.numbers, id.index < p.table.size
  /-- The table has the paths of the queries, each where it comes first, -/
  paths : p.table.paths = firstOccurrences (ks.flatMap fun q => q.statement.referencedPaths)
  /-- so none of them twice, -/
  distinct : p.table.paths.Nodup
  /-- and none that no query reads. -/
  read : ∀ path, path ∈ p.table.paths ↔ ∃ q ∈ ks, path ∈ q.statement.referencedPaths

theorem lt_size_of_binds {T : PathTable} : ∀ {bs : List BoundQuery} {ks : List Query},
    List.Forall₂ (BoundQuery.Binds T) bs ks → ∀ b ∈ bs, ∀ id ∈ b.numbers, id.index < T.size
  | [], [], .nil, _, h => by cases h
  | b :: bs, k :: ks, .cons hb hbs, b', h => by
    intro id hid
    rcases List.mem_cons.mp h with rfl | h
    · exact hb.lt_size hid
    · exact lt_size_of_binds hbs b' h id hid

theorem IsOf.unites {p : Plan} {ks : List Query} (h : p.IsOf ks) : p.Unites ks := by
  have hbinds := h.binds p.table (.refl _)
  have hpaths : p.table.paths =
      firstOccurrences (ks.flatMap fun q => q.statement.referencedPaths) :=
    h.paths.trans (BoundQuery.foldl_addNew_flatMap_visited ks [])
  refine ⟨hbinds, lt_size_of_binds hbinds, hpaths, ?_, ?_⟩
  · rw [hpaths]
    exact nodup_firstOccurrences _
  · intro path
    rw [hpaths, mem_firstOccurrences, List.mem_flatMap]

/-- The plan of some queries unites the first query of each name. -/
theorem unites_ofQueries (qs : List Query) : (ofQueries qs).Unites (firstOfEachName qs) := by
  rw [← kept_eq]
  exact (isOf_ofQueries qs).unites

end Plan
end EventQuery
