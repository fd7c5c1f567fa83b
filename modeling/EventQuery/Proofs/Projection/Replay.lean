import EventQuery.Proofs.Path.Places
import EventQuery.Proofs.Projection.Documents
import EventQuery.Proofs.Query.MatchOrder

/-!
# Replaying queries on a projection

The part of an event that a plan depends on is sent on in place of the event, and the queries are
evaluated on it again. That is sound as long as their paths take fields only (`Path.FieldsOnly`):
an item of a list stands in the projection as a field, and a position or a wildcard does not find it
there again.

With fields only, a path has the same matches on both (`Path.perm_resolve`). None is lost, since the
keys of a match lead to its value in the projection. None is new, since whatever is in the
projection, for this path or for those of other queries, is rebuilt from the fields of the event, so
a path that can be taken there can be taken in the event. Their order is that of the fields, which
conditions do not see.
-/

namespace EventQuery

open Projection
open Value (Reordered)

/-- The path takes fields only on the event: it has no position, and no wildcard of it meets a
    list. -/
structure Path.FieldsOnly (p : Path) (event : Value) : Prop where
  index_notMem : ∀ i, Segment.index i ∉ p
  wildcard_notList : ∀ before after : Path, p = before ++ .wildcard :: after →
    ∀ m ∈ before.resolve event, m.value.toList? = none

def Key.IsField (k : Key) : Prop := ∃ name, k = .field name

/-! ## Segments on objects -/

namespace Segment

/-- The segment takes the fields of this name. -/
def Takes : Segment → String → Prop
  | key name, other => name = other
  | index _, _ => False
  | wildcard, _ => True
  | stem start, other => start.toList.isPrefixOf other.toList

theorem takes_iff {s : Segment} {name : String} : s.Takes name ↔ s.Accepts (.field name) := by
  cases s with
  | key other =>
    constructor
    · rintro rfl
      exact .key other
    · rintro ⟨⟩
      rfl
  | index i =>
    constructor
    · exact False.elim
    · rintro ⟨⟩
  | wildcard => exact ⟨fun _ => .field name, fun _ => trivial⟩
  | stem start =>
    rw [Takes, List.isPrefixOf_iff_prefix]
    constructor
    · exact .stem
    · rintro ⟨⟩
      assumption

/-- On an object a segment leads to the fields whose names it takes. -/
theorem mem_children_object {fields : List (String × Value)} (hd : (Record.keys fields).Nodup)
    {s : Segment} {k : Key} {u : Value} :
    (k, u) ∈ s.children (.object fields) ↔
      ∃ name, k = .field name ∧ s.Takes name ∧ Record.get? fields name = some u := by
  rw [mem_children_object_iff s hd]
  simp only [takes_iff, Record.get?_eq_some_iff hd, and_left_comm]

theorem mem_children_of_takes {s : Segment} {v u : Value} {name : String} (hv : v.Storable)
    (h : s.Takes name) (hu : v.part? (.field name) = some u) : (.field name, u) ∈ s.children v := by
  rcases Value.part?_cases hu with ⟨fields, other, rfl, hk, hget⟩ | ⟨_, _, _, _, hk, _⟩
  · cases hk
    cases hv with
    | object distinct inner => exact (mem_children_object distinct).mpr ⟨name, rfl, h, hget⟩
  · cases hk

end Segment

namespace Path

namespace FieldsOnly

variable {s : Segment} {p : Path} {v u : Value} {k : Key}

/-- The first segment of such a path leads to fields whose names it takes. -/
theorem takes (h : FieldsOnly (s :: p) v) (hv : v.Storable) (hu : (k, u) ∈ s.children v) :
    ∃ name, k = .field name ∧ s.Takes name := by
  have hobject : ∃ fields, v = .object fields := by
    unfold Segment.children at hu
    split at hu
    · next fields => exact ⟨fields, rfl⟩
    · next i _ => exact absurd List.mem_cons_self (h.index_notMem i)
    · next items =>
      have hlist := h.wildcard_notList [] p rfl ⟨[], .list items⟩ List.mem_cons_self
      cases hlist
    · next fields => exact ⟨fields, rfl⟩
    · next fields => exact ⟨fields, rfl⟩
    · cases hu
  obtain ⟨fields, rfl⟩ := hobject
  cases hv with
  | object distinct inner =>
    obtain ⟨name, hk, htakes, -⟩ := (Segment.mem_children_object distinct).mp hu
    exact ⟨name, hk, htakes⟩

/-- The rest of such a path takes fields only where the first segment leads to. -/
theorem tail (h : FieldsOnly (s :: p) v) (hu : (k, u) ∈ s.children v) : p.FieldsOnly u where
  index_notMem i hi := h.index_notMem i (List.mem_cons_of_mem s hi)
  wildcard_notList before after heq m hm :=
    h.wildcard_notList (s :: before) after (congrArg (s :: ·) heq) (m.under [k])
      (mem_resolve_cons.mpr ⟨k, u, hu, m, hm, rfl⟩)

theorem isField : ∀ {p : Path} {v : Value} {m : Match}, p.FieldsOnly v → v.Storable →
    m ∈ p.resolve v → ∀ k ∈ m.path, k.IsField
  | [], v, m, _, _, hm, k, hk => by
    cases List.mem_singleton.mp hm
    cases hk
  | s :: p, v, m, h, hv, hm, k, hk => by
    obtain ⟨l, u, hu, m', hm', rfl⟩ := mem_resolve_cons.mp hm
    rcases List.mem_cons.mp hk with rfl | hk
    · obtain ⟨name, hname, -⟩ := h.takes hv hu
      exact ⟨name, hname⟩
    · exact (h.tail hu).isField (hv.part (Segment.part?_of_mem_children hv hu)) hm' k hk

theorem cons (hindex : ∀ i, Segment.index i ∉ s :: p)
    (hlist : s = .wildcard → v.toList? = none)
    (hrest : ∀ k u, (k, u) ∈ s.children v → p.FieldsOnly u) : FieldsOnly (s :: p) v where
  index_notMem := hindex
  wildcard_notList before after heq m hm := by
    cases before with
    | nil =>
      cases List.mem_singleton.mp hm
      exact hlist (List.cons.inj heq).1
    | cons s' before =>
      obtain ⟨rfl, hp⟩ := List.cons.inj heq
      obtain ⟨k, u, hu, m', hm', rfl⟩ := mem_resolve_cons.mp hm
      exact (hrest k u hu).wildcard_notList before after hp m' hm'

/-- A path that goes by names takes fields only on every event. -/
theorem of_names {p : Path} {v : Value} (h : ∀ s ∈ p, s ≠ .wildcard ∧ ∀ i, s ≠ .index i) :
    p.FieldsOnly v where
  index_notMem i hi := (h _ hi).2 i rfl
  wildcard_notList before after heq := by
    have hmem : Segment.wildcard ∈ p := heq ▸ List.mem_append_right before List.mem_cons_self
    exact absurd rfl (h _ hmem).1

end FieldsOnly

/-! ## The same matches -/

/-- No match is lost in a document in which its keys lead to its value. -/
theorem mem_resolve_of_follow? : ∀ {p : Path} {v document : Value} {m : Match},
    p.FieldsOnly v → v.Storable → document.Storable → m ∈ p.resolve v →
      document.follow? m.path = some m.value → m ∈ p.resolve document
  | [], v, document, m, _, _, _, hm, hf => by
    cases List.mem_singleton.mp hm
    cases hf
    exact List.mem_singleton_self _
  | s :: p, v, document, m, h, hv, hdoc, hm, hf => by
    obtain ⟨k, u, hu, m', hm', rfl⟩ := mem_resolve_cons.mp hm
    obtain ⟨name, rfl, htakes⟩ := h.takes hv hu
    obtain ⟨d, hd, hf⟩ := Option.bind_eq_some_iff.mp
      ((Value.follow?_cons document (.field name) m'.path).symm.trans hf)
    rw [Value.read?_field] at hd
    have hrest := mem_resolve_of_follow? (h.tail hu)
      (hv.part (Segment.part?_of_mem_children hv hu)) (hdoc.part hd) hm' hf
    exact mem_resolve_cons.mpr
      ⟨_, d, Segment.mem_children_of_takes hdoc htakes hd, m', hrest, rfl⟩

/-- No match is new in what is rebuilt from fields: its keys are those of a match in the event. -/
theorem exists_mem_resolve_of_pieceOf : ∀ {p : Path} {v : Value} {piece : Projection} {m : Match},
    PieceOf Key.IsField piece v → v.Storable → m ∈ p.resolve piece.toValue →
      ∃ m' ∈ p.resolve v, m'.path = m.path
  | [], v, piece, m, _, _, hm => by
    cases List.mem_singleton.mp hm
    exact ⟨⟨[], v⟩, List.mem_singleton_self _, rfl⟩
  | _ :: _, _, .whole _, m, .whole v, _, hm => ⟨m, hm, rfl⟩
  | s :: p, v, .branch fields, m, .branch distinct keys inner, hv, hm => by
    obtain ⟨k, w, hw, m', hm', rfl⟩ := mem_resolve_cons.mp hm
    have hdistinct : (Record.keys (toFields fields)).Nodup := by rwa [keys_toFields]
    obtain ⟨name, rfl, htakes, hget⟩ := (Segment.mem_children_object hdistinct).mp hw
    rw [get?_toFields] at hget
    obtain ⟨q, hq, rfl⟩ := Option.map_eq_some_iff.mp hget
    -- The field was made for a field of the event, which the segment takes as well.
    obtain ⟨_, u, ⟨other, rfl⟩, rfl, hu⟩ :=
      keys name (Record.mem_keys_of_mem (Record.mem_of_get? hq))
    obtain ⟨m'', hm'', hpath⟩ := exists_mem_resolve_of_pieceOf (inner _ q u hq hu) (hv.part hu) hm'
    refine ⟨m''.under [.field other], mem_resolve_cons.mpr
      ⟨_, u, Segment.mem_children_of_takes hv htakes hu, m'', hm'', rfl⟩, ?_⟩
    exact congrArg ([Key.field other] ++ ·) hpath

/-- Paths that take fields only have the same matches on the event and on what is gathered of it. -/
theorem perm_resolve {event : Value} (h : event.Storable) {ps : List Path}
    (hps : ∀ p ∈ ps, p.FieldsOnly event) {p : Path} (hp : p ∈ ps) :
    (p.resolve (gather (Query.find event) ps).run).Perm (p.resolve event) := by
  have hcomplete := (isProjection_gather h ps).complete
  have hstorable := storable_gather h ps
  rw [gather_find] at hcomplete hstorable ⊢
  have hpiece : PieceOf Key.IsField (ofMatches (ps.flatMap (·.resolve event))) event :=
    pieceOf_ofMatches h fun p hp m hm => (hps p hp).isField h hm
  refine (List.perm_ext_iff_of_nodup (nodup_resolve p hstorable) (nodup_resolve p h)).mpr ?_
  intro m
  constructor
  · -- The keys are those of a match in the event, and they lead to one value in the document.
    intro hm
    obtain ⟨m', hm', hpath⟩ := exists_mem_resolve_of_pieceOf hpiece h hm
    have hfollow := Value.follow?_of_at? (within_of_mem_resolve hstorable hm)
    rw [← hpath, hcomplete p hp m' hm'] at hfollow
    have hsame : m' = m := by
      obtain ⟨path, value⟩ := m
      obtain ⟨path', value'⟩ := m'
      cases hpath
      cases hfollow
      rfl
    exact hsame ▸ hm'
  · intro hm
    exact mem_resolve_of_follow? (hps p hp) h hstorable hm (hcomplete p hp m hm)

end Path

/-! ## Queries -/

namespace Query

theorem mem_referencedPaths {q : Query} {p : Path} :
    p ∈ q.statement.referencedPaths ↔ p ∈ q.statement.paths := mem_firstOccurrences

/-- A query that does not select everything says of a document what it says of the event if its
    paths have the same matches on both. -/
theorem replay_of_perm {q : Query} (hall : q.statement.selectsAll = false) {document event : Value}
    (hdoc : document.Storable)
    (h : ∀ p ∈ q.statement.referencedPaths, (p.resolve document).Perm (p.resolve event)) :
    q.holds document = q.holds event ∧ Reordered (q.project document) (q.project event) := by
  have hsame : SameMatches (find document) (find event) q.statement.paths := by
    intro p hp
    exact h p (mem_referencedPaths.mpr hp)
  constructor
  · unfold holds
    cases hc : q.statement.condition with
    | none => rfl
    | some e =>
      refine e.holds_of_sameMatches fun p hp => hsame p ?_
      rw [Statement.paths, hc]
      exact List.mem_append_left _ (List.mem_append_right _ hp)
  · refine select_of_sameMatches (fun p hp => hsame p ?_) (fun p => ?_) hall _ _
    · exact List.mem_append_left _ (List.mem_append_left _ hp)
    · exact consistent_of_within fun m hm => Path.within_of_mem_resolve hdoc hm

end Query

/-! ## Plans -/

namespace Plan

theorem IsOf.replay {p : Plan} {ks : List Query} (h : p.IsOf ks) {event : Value}
    (he : event.Storable) (hfields : ∀ path ∈ referencedPaths ks, path.FieldsOnly event) {q : Query}
    (hq : q ∈ ks) :
    q.holds (p.supersetProjection event) = q.holds event ∧
      Reordered (q.project (p.supersetProjection event)) (q.project event) := by
  rw [h.supersetProjection]
  cases hany : ks.any (·.statement.selectsAll) with
  | true =>
    -- Where everything is selected the document is the event.
    exact ⟨rfl, .same _⟩
  | false =>
    have hall : q.statement.selectsAll = false := by
      simpa using List.any_eq_false.mp hany q hq
    have htable : ∀ path ∈ p.table.paths, path.FieldsOnly event := by
      intro path hpath
      exact hfields path ((h.mem_paths path).mp hpath)
    refine Query.replay_of_perm hall (storable_gather he _) ?_
    intro path hpath
    exact Path.perm_resolve he htable
      ((h.mem_paths path).mpr (List.mem_flatMap_of_mem hq hpath))

/-- With a single query the part a plan depends on is the part the query depends on. -/
theorem supersetProjection_singleton (q : Query) (event : Value) :
    (ofQueries [q]).supersetProjection event = q.neededProjection event := by
  have h := isOf_ofQueries [q]
  have hpaths : (ofQueries [q]).table.paths = q.statement.referencedPaths := by
    rw [h.paths, show kept [q] = [q] from rfl, List.flatMap_singleton, BoundQuery.visited,
      ← List.append_assoc]
    rw [Statement.referencedPaths, Statement.paths, List.filterMap_eq_flatMap_toList]
    exact firstOccurrences_append_self _ _
  rw [h.supersetProjection, hpaths, show kept [q] = [q] from rfl, List.any_cons, List.any_nil,
    Bool.or_false]
  rfl

end Plan

/-- Where the paths of the queries take fields only, every query of a plan says of the part of the
    event that the plan depends on what it says of the event, up to the order of fields. With a
    single query that part is the part the query depends on. -/
theorem replay_on_projections (event : Value) (h : event.Storable) :
    (∀ qs, (∀ q ∈ Plan.kept qs, ∀ p ∈ q.statement.referencedPaths, p.FieldsOnly event) →
      ∀ q ∈ Plan.kept qs,
        q.holds ((Plan.ofQueries qs).supersetProjection event) = q.holds event ∧
        Reordered (q.project ((Plan.ofQueries qs).supersetProjection event)) (q.project event)) ∧
    (∀ q : Query, (Plan.ofQueries [q]).supersetProjection event = q.neededProjection event ∧
      ((∀ p ∈ q.statement.referencedPaths, p.FieldsOnly event) →
        q.holds (q.neededProjection event) = q.holds event ∧
        Reordered (q.project (q.neededProjection event)) (q.project event))) := by
  have hplan : ∀ qs, (∀ q ∈ Plan.kept qs, ∀ p ∈ q.statement.referencedPaths, p.FieldsOnly event) →
      ∀ q ∈ Plan.kept qs,
        q.holds ((Plan.ofQueries qs).supersetProjection event) = q.holds event ∧
        Reordered (q.project ((Plan.ofQueries qs).supersetProjection event)) (q.project event) := by
    intro qs hfields q hq
    refine (Plan.isOf_ofQueries qs).replay h ?_ hq
    intro p hp
    obtain ⟨q', hq', hp⟩ := List.mem_flatMap.mp hp
    exact hfields q' hq' p hp
  refine ⟨hplan, fun q => ⟨Plan.supersetProjection_singleton q event, fun hfields => ?_⟩⟩
  rw [← Plan.supersetProjection_singleton q event]
  exact hplan [q] (fun q' hq' => by rwa [List.mem_singleton.mp hq']) q (List.mem_singleton_self q)

/-- An event with errors under names of their own. -/
def failedEvent : Value :=
  .object [("errors", .object [("first", .object [("code", .bool true)]), ("next", .null)]),
    ("version", .string "1")]

/-- A wildcard in the select list, and a comparison with a field that is absent. -/
def codesOfErrors : Query where
  id := "codes"
  text := "select e['errors'][*]['code'] as codes from events where not (e[^'ver'] == absent)"
  statement := {
    select := [.path [.key "errors", .wildcard, .key "code"] (some "codes")]
    stream := "events"
    window := none
    condition := some (.not (.compare (.path [.stem "ver"]) .eq (.path [.key "absent"])))
    groupBy := []
    sample := none }

/-- A part of what the other query reads, and a group. -/
def firstErrors : Query where
  id := "first"
  text := "select e['errors']['first'] from events group by version"
  statement := {
    select := [.path [.key "errors", .key "first"] none]
    stream := "events"
    window := none
    condition := none
    groupBy := [[.key "version"]]
    sample := none }

theorem storable_failedEvent : failedEvent.Storable := by
  have hfirst : (Value.object [("code", .bool true)]).Storable :=
    .object (by decide) (by simp [Value.Storable.bool])
  have herrors : (Value.object
      [("first", .object [("code", .bool true)]), ("next", .null)]).Storable :=
    .object (by decide) (by simp [hfirst, Value.Storable.null])
  exact .object (by decide) (by simp [herrors, Value.Storable.string])

theorem fieldsOnly_failedEvent : ∀ q ∈ [codesOfErrors, firstErrors],
    ∀ p ∈ q.statement.referencedPaths, p.FieldsOnly failedEvent := by
  have hcodes : Path.FieldsOnly [.key "errors", .wildcard, .key "code"] failedEvent := by
    refine .cons (by simp) (by simp) ?_
    intro k u hu
    cases List.mem_singleton.mp hu
    exact .cons (by simp) (fun _ => rfl) fun k u _ => .of_names (by simp)
  simp only [List.forall_mem_cons]
  rw [show codesOfErrors.statement.referencedPaths =
    [[.key "errors", .wildcard, .key "code"], [.stem "ver"], [.key "absent"]] from rfl]
  rw [show firstErrors.statement.referencedPaths =
    [[.key "errors", .key "first"], [.key "version"]] from rfl]
  simp only [List.forall_mem_cons, hcodes, true_and]
  refine ⟨⟨.of_names (by simp), .of_names (by simp), nofun⟩, ⟨.of_names (by simp),
    .of_names (by simp), nofun⟩, nofun⟩

theorem replay_on_failedEvent :
    failedEvent.Storable ∧
    (∀ q ∈ Plan.kept [codesOfErrors, firstErrors], ∀ p ∈ q.statement.referencedPaths,
      p.FieldsOnly failedEvent) ∧
    ∀ q ∈ Plan.kept [codesOfErrors, firstErrors],
      q.holds ((Plan.ofQueries [codesOfErrors, firstErrors]).supersetProjection failedEvent) =
        q.holds failedEvent ∧
      Reordered
        (q.project ((Plan.ofQueries [codesOfErrors, firstErrors]).supersetProjection failedEvent))
        (q.project failedEvent) :=
  ⟨storable_failedEvent, fieldsOnly_failedEvent,
    (replay_on_projections failedEvent storable_failedEvent).1 [codesOfErrors, firstErrors]
      fieldsOnly_failedEvent⟩

end EventQuery
