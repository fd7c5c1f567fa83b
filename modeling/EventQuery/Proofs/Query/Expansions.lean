import EventQuery.Proofs.Path.Matches
import EventQuery.Proofs.Query.Conditions
import EventQuery.Query

/-!
# Expansions

A path with wildcards or stems stands for the plain paths that it expands to on an event, one for
each match: the keys of the match, read as segments (`Path.expansions`). Resolving an expansion
finds that match again and nothing else (`Path.resolve_expansion`).

Comparisons are existential over expansions (`Expr.holdsOn_expansions`): a comparison holds of a
path if it holds of one of its expansions, on either side and whatever stands on the other. So
nothing holds of a path without expansions, not even that it is different from something.
-/

namespace EventQuery

/-- The segment that leads behind the key and nowhere else. -/
def Key.segment : Key → Segment
  | field name => .key name
  | index i => .index i

/-- The plain path to a match. -/
def Match.expansion (m : Match) : Path := m.path.map Key.segment

/-- The plain paths that the path stands for on an event. -/
def Path.expansions (p : Path) (event : Value) : List Path :=
  (p.resolve event).map Match.expansion

/-- The condition holds on an event. -/
def Expr.HoldsOn (event : Value) (e : Expr Path) : Prop := (e.holds (Query.find event)).run = true

instance (event : Value) (e : Expr Path) : Decidable (e.HoldsOn event) :=
  inferInstanceAs (Decidable (_ = true))

/-! ## Plain paths -/

namespace Path

theorem children_segment (k : Key) (v : Value) :
    k.segment.children v = ((v.part? k).map fun u => (k, u)).toList := by
  cases k with
  | field name =>
    cases v with
    | object fields =>
      simp only [Key.segment, Segment.children, Value.part?]
      cases Record.get? fields name <;> rfl
    | null | bool _ | number _ | string _ | list _ => rfl
  | index i =>
    cases v with
    | list items =>
      simp only [Key.segment, Segment.children, Value.part?]
      cases (Segment.position? i items.length).bind (items[·]?) <;> rfl
    | null | bool _ | number _ | string _ | object _ => rfl

/-- A plain path leads to what its keys lead to. -/
theorem resolve_segments (ks : List Key) (v : Value) :
    resolve (ks.map Key.segment) v = ((v.at? ks).map (Match.mk ks)).toList := by
  induction ks generalizing v with
  | nil => rfl
  | cons k ks ih =>
    rw [List.map_cons, resolve_cons, children_segment, Value.at?_cons]
    cases v.part? k with
    | none => rfl
    | some u =>
      simp only [Option.map_some, Option.toList_some, List.flatMap_singleton, Option.bind_some, ih]
      cases u.at? ks <;> rfl

/-- An expansion finds the match it was made from, and nothing else. -/
theorem resolve_expansion {p : Path} {event : Value} (h : event.Storable) {m : Match}
    (hm : m ∈ p.resolve event) : m.expansion.resolve event = [m] := by
  have hat : event.at? m.path = some m.value := within_of_mem_resolve h hm
  rw [Match.expansion, resolve_segments, hat]
  rfl

/-- What some match of a path satisfies, the match of some expansion satisfies. -/
theorem any_resolve_iff {event : Value} (h : event.Storable) (p : Path) (f : Value → Bool) :
    ((p.resolve event).map Match.value).any f = true ↔
      ∃ p' ∈ p.expansions event, ((p'.resolve event).map Match.value).any f = true := by
  rw [List.any_map, List.any_eq_true, expansions]
  constructor
  · rintro ⟨m, hm, hf⟩
    refine ⟨m.expansion, List.mem_map_of_mem hm, ?_⟩
    rw [resolve_expansion h hm]
    simpa using hf
  · rintro ⟨p', hp', hf⟩
    obtain ⟨m, hm, rfl⟩ := List.mem_map.mp hp'
    rw [resolve_expansion h hm] at hf
    exact ⟨m, hm, by simpa using hf⟩

end Path

/-! ## Comparisons -/

namespace Expr

theorem holdsOn_compare_iff (event : Value) (l : Expr Path) (op : Comparison) (r : Expr Path) :
    HoldsOn event (compare l op r) ↔
      ((l.values (Query.find event) (l.holds (Query.find event))).run.any
        (asks op r (r.values (Query.find event) (r.holds (Query.find event))).run)) = true := by
  rw [HoldsOn, holds, run_compareValues]

/-- A comparison with a path on the left is one with some expansion of it. -/
theorem holdsOn_compare_left {event : Value} (h : event.Storable) (p : Path) (op : Comparison)
    (r : Expr Path) : HoldsOn event (compare (path p) op r) ↔
      ∃ p' ∈ p.expansions event, HoldsOn event (compare (path p') op r) := by
  simp only [holdsOn_compare_iff]
  exact p.any_resolve_iff h _

/-- A comparison with a path on the right is one with some expansion of it. -/
theorem holdsOn_compare_right {event : Value} (h : event.Storable) (l : Expr Path)
    (op : Comparison) (q : Path) : HoldsOn event (compare l op (path q)) ↔
      ∃ q' ∈ q.expansions event, HoldsOn event (compare l op (path q')) := by
  have hasks : ∀ (q : Path) bs a, asks op (path q) bs a = bs.any (op.holds a) := fun q bs a => by
    cases op <;> rfl
  simp only [holdsOn_compare_iff, List.any_eq_true (p := asks _ _ _), hasks]
  constructor
  · rintro ⟨a, ha, hq⟩
    obtain ⟨q', hq', hholds⟩ := (q.any_resolve_iff h (op.holds a)).mp hq
    exact ⟨q', hq', a, ha, hholds⟩
  · rintro ⟨q', hq', a, ha, hholds⟩
    exact ⟨a, ha, (q.any_resolve_iff h (op.holds a)).mpr ⟨q', hq', hholds⟩⟩

/-- A path by itself holds if one of its expansions leads to truth. -/
theorem holdsOn_path {event : Value} (h : event.Storable) (p : Path) :
    HoldsOn event (path p) ↔
      ∃ p' ∈ p.expansions event, ∃ ks, p'.resolve event = [⟨ks, .bool true⟩] := by
  have hany : HoldsOn event (path p) ↔
      ∃ m ∈ p.resolve event, (m.value.toBool? == some true) = true := List.any_eq_true
  rw [hany, Path.expansions]
  constructor
  · rintro ⟨⟨ks, v⟩, hm, htrue⟩
    refine ⟨_, List.mem_map_of_mem hm, ks, ?_⟩
    rw [Path.resolve_expansion h hm]
    cases v with
    | bool b =>
      cases b with
      | true => rfl
      | false => cases htrue
    | null | number _ | string _ | list _ | object _ => cases htrue
  · rintro ⟨p', hp', ks, hks⟩
    obtain ⟨m, hm, rfl⟩ := List.mem_map.mp hp'
    rw [Path.resolve_expansion h hm] at hks
    cases hks
    exact ⟨_, hm, rfl⟩

/-- Wildcards and stems are existential: an expansion of a path finds one match of it, and a
    comparison holds of paths if it holds of some of their expansions, whatever the operator. It
    does so on either side by itself, with anything on the other side. Of a path without expansions
    nothing holds, and a path by itself holds if some expansion leads to truth. -/
theorem holdsOn_expansions {event : Value} (h : event.Storable) (p q : Path) :
    (∀ m ∈ p.resolve event, m.expansion.resolve event = [m]) ∧
    (∀ op, HoldsOn event (compare (path p) op (path q)) ↔
      ∃ p' ∈ p.expansions event, ∃ q' ∈ q.expansions event,
        HoldsOn event (compare (path p') op (path q'))) ∧
    (∀ op r, HoldsOn event (compare (path p) op r) ↔
      ∃ p' ∈ p.expansions event, HoldsOn event (compare (path p') op r)) ∧
    (∀ l op, HoldsOn event (compare l op (path p)) ↔
      ∃ p' ∈ p.expansions event, HoldsOn event (compare l op (path p'))) ∧
    (p.expansions event = [] → ∀ op e,
      ¬HoldsOn event (compare (path p) op e) ∧ ¬HoldsOn event (compare e op (path p))) ∧
    (HoldsOn event (path p) ↔
      ∃ p' ∈ p.expansions event, ∃ ks, p'.resolve event = [⟨ks, .bool true⟩]) := by
  have hleft := holdsOn_compare_left h
  have hright := holdsOn_compare_right h
  refine ⟨fun m => Path.resolve_expansion h, ?_, hleft p, fun l op => hright l op p, ?_,
    holdsOn_path h p⟩
  · intro op
    rw [hleft p]
    exact exists_congr fun p' => and_congr_right fun _ => hright (path p') op q
  · intro hnone op e
    rw [hleft p op e, hright e op p, hnone]
    simp

end Expr

/-- An event with readings, and a limit that one of them exceeds. -/
def limitEvent : Value :=
  .object [("readings", .list [.int 1, .int 5]), ("limit", .int 3)]

theorem storable_limitEvent : limitEvent.Storable := by
  have hint : ∀ i, (Value.int i).Storable := fun i => .number (.int i)
  have hreadings : (Value.list [.int 1, .int 5]).Storable := .list (by decide) (by simp [hint])
  exact .object (by decide) (by simp [hreadings, hint])

theorem holdsOn_limitEvent :
    limitEvent.Storable ∧ Expr.HoldsOn limitEvent
      (.compare (.path [.key "readings", .wildcard]) .gt (.path [.stem "lim"])) := by
  refine ⟨storable_limitEvent, ?_⟩
  -- The second reading and the only name with that stem.
  rw [(Expr.holdsOn_expansions storable_limitEvent _ _).2.1]
  exact ⟨[.key "readings", .index 1], by decide, [.key "limit"], by decide, by decide +kernel⟩

end EventQuery
