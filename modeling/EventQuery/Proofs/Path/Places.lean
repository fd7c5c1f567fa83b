import EventQuery.Proofs.Path.Matches

/-!
# Places

What a path should lead to can be said without resolving it. Every part of a value has a place in
it, counted from the start, and one key or two that lead there (`Value.Place`); a segment accepts
some keys and not others (`Segment.Accepts`). A path then stands for all chains of keys that lead
somewhere and are accepted segment by segment.

Resolving a path finds exactly these chains, each once and with the value it leads to, and it finds
them in the order in which their ends stand in the document (`Path.answers_resolve`). A path can be
cut anywhere: the matches of the whole are those of the second part on the values of the first.
-/

namespace EventQuery

/-- Behind the key, in the `n`-th place of the value, lies a part of it. A position of a list counts
    from its start or, if it is negative, from its end. -/
inductive Value.Place : Value → Key → Nat → Value → Prop
  | field {fields : List (String × Value)} {name : String} {n : Nat} {u : Value}
      (at_ : fields[n]? = some (name, u)) : Place (.object fields) (.field name) n u
  | item {items : List Value} {i : Int64} {n : Nat} {u : Value} (position : i.toInt = n)
      (at_ : items[n]? = some u) : Place (.list items) (.index i) n u
  | itemFromEnd {items : List Value} {i : Int64} {n : Nat} {u : Value} (negative : i.toInt < 0)
      (position : i.toInt + items.length = n) (at_ : items[n]? = some u) :
      Place (.list items) (.index i) n u

/-- The keys lead from the first value to the second. -/
inductive Value.LeadsTo : Value → List Key → Value → Prop
  | here (v : Value) : LeadsTo v [] v
  | inside {v u w : Value} {k : Key} {n : Nat} {ks : List Key} (place : v.Place k n u)
      (rest : LeadsTo u ks w) : LeadsTo v (k :: ks) w

/-- One chain of keys comes before another in the document: where they part, its place is the
    earlier one. -/
inductive Value.Before : Value → List Key → List Key → Prop
  | here {v u w : Value} {k l : Key} {m n : Nat} (first : v.Place k m u) (second : v.Place l n w)
      (lt : m < n) (ks ls : List Key) : Before v (k :: ks) (l :: ls)
  | inside {v u : Value} {k : Key} {n : Nat} {ks ls : List Key} (place : v.Place k n u)
      (rest : Before u ks ls) : Before v (k :: ks) (k :: ls)

/-- The keys that a segment accepts. -/
inductive Segment.Accepts : Segment → Key → Prop
  | key (name : String) : Accepts (.key name) (.field name)
  | index (i : Int64) : Accepts (.index i) (.index i)
  | item {i : Int64} (fromStart : 0 ≤ i.toInt) : Accepts .wildcard (.index i)
  | field (name : String) : Accepts .wildcard (.field name)
  | stem {start name : String} (starts : start.toList <+: name.toList) :
      Accepts (.stem start) (.field name)

/-- A list of matches is the full answer to a path on an event. -/
structure Path.Answers (p : Path) (event : Value) (found : List Match) : Prop where
  /-- It has the chains that lead somewhere and are accepted segment by segment, each with the value
      that it leads to, and no others. -/
  mem_iff : ∀ ks v, ⟨ks, v⟩ ∈ found ↔ List.Forall₂ Segment.Accepts p ks ∧ event.LeadsTo ks v
  /-- No chain is there twice. -/
  distinct : (found.map Match.path).Nodup
  /-- The chains are in document order. -/
  ordered : (found.map Match.path).Pairwise event.Before

/-! ## Places of a storable value -/

namespace Value

theorem place_object {fields : List (String × Value)} {k : Key} {n : Nat} {u : Value} :
    (object fields).Place k n u ↔ ∃ name, k = .field name ∧ fields[n]? = some (name, u) := by
  constructor
  · intro h
    cases h with
    | field at_ => exact ⟨_, rfl, at_⟩
  · rintro ⟨name, rfl, h⟩
    exact .field h

/-- A field has a place exactly if it is in the object. -/
theorem exists_place_object {fields : List (String × Value)} {k : Key} {u : Value} :
    (∃ n, (object fields).Place k n u) ↔ ∃ name, k = .field name ∧ (name, u) ∈ fields := by
  simp only [place_object, List.mem_iff_getElem?]
  constructor
  · rintro ⟨n, name, hk, hn⟩
    exact ⟨name, hk, n, hn⟩
  · rintro ⟨name, hk, n, hn⟩
    exact ⟨n, name, hk, hn⟩

/-- A position has the place that it means. -/
theorem place_index {items : List Value} (hl : items.length ≤ Int64.maxValue.toInt) {i : Int64}
    {n : Nat} {u : Value} : (list items).Place (.index i) n u ↔
      Segment.position? i items.length = some n ∧ items[n]? = some u := by
  constructor
  · intro h
    cases h with
    | item position at_ =>
      obtain ⟨hn, -⟩ := List.getElem?_eq_some_iff.mp at_
      refine ⟨?_, at_⟩
      rw [Segment.position?, if_neg (by omega)]
      simp only [position]
      rw [if_pos (by omega), if_pos (by omega)]
      rfl
    | itemFromEnd negative position at_ =>
      obtain ⟨hn, -⟩ := List.getElem?_eq_some_iff.mp at_
      refine ⟨?_, at_⟩
      rw [Segment.position?, if_neg (by omega)]
      simp only [Int.not_le.mpr negative, if_false]
      rw [if_pos (by omega)]
      exact congrArg some (by omega)
  · rintro ⟨hn, hu⟩
    rw [Segment.position?, if_neg (by omega)] at hn
    by_cases hi : 0 ≤ i.toInt
    · simp only [hi, if_true] at hn
      split at hn
      · exact .item (by have := Option.some.inj hn; omega) hu
      · cases hn
    · simp only [hi, if_false] at hn
      split at hn
      · exact .itemFromEnd (by omega) (by have := Option.some.inj hn; omega) hu
      · cases hn

end Value

/-! ## One segment -/

namespace Segment

theorem mem_children_key {name : String} {fields : List (String × Value)}
    (hd : (Record.keys fields).Nodup) {k : Key} {u : Value} :
    (k, u) ∈ children (.key name) (.object fields) ↔ k = .field name ∧ (name, u) ∈ fields := by
  rw [← Record.get?_eq_some_iff hd]
  simp only [children]
  cases Record.get? fields name <;> simp [eq_comm]

theorem mem_children_index {i : Int64} {items : List Value} {k : Key} {u : Value} :
    (k, u) ∈ children (.index i) (.list items) ↔
      k = .index i ∧ ∃ n, position? i items.length = some n ∧ items[n]? = some u := by
  rw [← Option.bind_eq_some_iff]
  simp only [children]
  cases (position? i items.length).bind (items[·]?) <;> simp [eq_comm]

theorem mem_children_items {items : List Value} {k : Key} {u : Value} :
    (k, u) ∈ children .wildcard (.list items) ↔
      ∃ n, k = .index (Int64.ofNat n) ∧ items[n]? = some u := by
  simp only [children, List.mem_map, Prod.mk.injEq, Prod.exists, List.mem_zipIdx_iff_getElem?]
  constructor
  · rintro ⟨v, n, hn, hk, rfl⟩
    exact ⟨n, hk.symm, hn⟩
  · rintro ⟨n, hk, hn⟩
    exact ⟨u, n, hn, hk.symm, rfl⟩

theorem mem_children_fields {fields : List (String × Value)} {k : Key} {u : Value} :
    (k, u) ∈ children .wildcard (.object fields) ↔
      ∃ name, k = .field name ∧ (name, u) ∈ fields := by
  simp only [children, List.mem_map, Prod.mk.injEq, Prod.exists]
  constructor
  · rintro ⟨name, v, hmem, hk, rfl⟩
    exact ⟨name, hk.symm, hmem⟩
  · rintro ⟨name, hk, hmem⟩
    exact ⟨name, u, hmem, hk.symm, rfl⟩

theorem mem_children_stem {start : String} {fields : List (String × Value)} {k : Key} {u : Value} :
    (k, u) ∈ children (.stem start) (.object fields) ↔
      ∃ name, k = .field name ∧ start.toList <+: name.toList ∧ (name, u) ∈ fields := by
  simp only [children, List.mem_map, List.mem_filter, Prod.mk.injEq, Prod.exists,
    List.isPrefixOf_iff_prefix]
  constructor
  · rintro ⟨name, v, ⟨hmem, hstarts⟩, hk, rfl⟩
    exact ⟨name, hk.symm, hstarts, hmem⟩
  · rintro ⟨name, hk, hstarts, hmem⟩
    exact ⟨name, u, ⟨hmem, hstarts⟩, hk.symm, rfl⟩

theorem mem_children_object_iff (s : Segment) {fields : List (String × Value)}
    (hd : (Record.keys fields).Nodup) {k : Key} {u : Value} :
    (k, u) ∈ s.children (.object fields) ↔ ∃ name, s.Accepts (.field name) ∧ k = .field name ∧
      (name, u) ∈ fields := by
  cases s with
  | key name =>
    rw [mem_children_key hd]
    constructor
    · rintro ⟨rfl, hmem⟩
      exact ⟨name, .key name, rfl, hmem⟩
    · rintro ⟨name', haccepts, rfl, hmem⟩
      cases haccepts
      exact ⟨rfl, hmem⟩
  | index i =>
    constructor
    · intro h
      cases h
    · rintro ⟨name, haccepts, -⟩
      cases haccepts
  | wildcard =>
    rw [mem_children_fields]
    constructor
    · rintro ⟨name, hk, hmem⟩
      exact ⟨name, .field name, hk, hmem⟩
    · rintro ⟨name, -, hk, hmem⟩
      exact ⟨name, hk, hmem⟩
  | stem start =>
    rw [mem_children_stem]
    constructor
    · rintro ⟨name, hk, hstarts, hmem⟩
      exact ⟨name, .stem hstarts, hk, hmem⟩
    · rintro ⟨name, haccepts, hk, hmem⟩
      cases haccepts with
      | stem hstarts => exact ⟨name, hk, hstarts, hmem⟩

theorem mem_children_list_iff (s : Segment) {items : List Value}
    (hl : items.length ≤ Int64.maxValue.toInt) {k : Key} {u : Value} :
    (k, u) ∈ s.children (.list items) ↔ ∃ i, s.Accepts (.index i) ∧ k = .index i ∧
      ∃ n, position? i items.length = some n ∧ items[n]? = some u := by
  cases s with
  | key name | stem start =>
    constructor
    · intro h
      cases h
    · rintro ⟨i, haccepts, -⟩
      cases haccepts
  | index i =>
    rw [mem_children_index]
    constructor
    · rintro ⟨rfl, hn⟩
      exact ⟨i, .index i, rfl, hn⟩
    · rintro ⟨j, haccepts, rfl, hn⟩
      cases haccepts
      exact ⟨rfl, hn⟩
  | wildcard =>
    rw [mem_children_items]
    constructor
    · rintro ⟨n, rfl, hu⟩
      obtain ⟨hlt, -⟩ := List.getElem?_eq_some_iff.mp hu
      have hi := toInt_ofNat_of_lt hlt hl
      exact ⟨_, .item (by omega), rfl, n, position?_ofNat hlt hl, hu⟩
    · rintro ⟨i, haccepts, rfl, n, hn, hu⟩
      cases haccepts with
      | item hi =>
        -- Counted from the start, a position is its place.
        obtain ⟨hlt, -⟩ := List.getElem?_eq_some_iff.mp hu
        refine ⟨n, congrArg Key.index (Int64.toInt_inj.mp ?_), hu⟩
        rw [toInt_ofNat_of_lt hlt hl]
        cases (Value.place_index hl).mpr ⟨hn, hu⟩ with
        | item position => exact position
        | itemFromEnd negative => omega

/-- A segment leads to the parts behind the keys that it accepts. -/
theorem mem_children_iff (s : Segment) {v : Value} (hv : v.Storable) {k : Key} {u : Value} :
    (k, u) ∈ s.children v ↔ s.Accepts k ∧ ∃ n, v.Place k n u := by
  cases hv with
  | null | bool | number | string =>
    constructor
    · intro h
      cases s <;> cases h
    · rintro ⟨-, n, hplace⟩
      cases hplace
  | object distinct inner =>
    rw [mem_children_object_iff s distinct, Value.exists_place_object]
    constructor
    · rintro ⟨name, haccepts, rfl, hmem⟩
      exact ⟨haccepts, name, rfl, hmem⟩
    · rintro ⟨haccepts, name, rfl, hmem⟩
      exact ⟨name, haccepts, rfl, hmem⟩
  | list size inner =>
    rw [mem_children_list_iff s size]
    constructor
    · rintro ⟨i, haccepts, rfl, hn⟩
      exact ⟨haccepts, hn.imp fun n => (Value.place_index size).mpr⟩
    · rintro ⟨haccepts, n, hplace⟩
      have hi : ∃ i, k = .index i := by cases hplace <;> exact ⟨_, rfl⟩
      obtain ⟨i, rfl⟩ := hi
      exact ⟨i, haccepts, rfl, n, (Value.place_index size).mp hplace⟩

/-- One child comes before another in the value. -/
def Earlier (v : Value) (c d : Key × Value) : Prop :=
  ∃ m n, v.Place c.1 m c.2 ∧ v.Place d.1 n d.2 ∧ m < n

theorem pairwise_earlier_fields (fields : List (String × Value)) :
    fields.Pairwise fun a b => Earlier (.object fields) (.field a.1, a.2) (.field b.1, b.2) := by
  rw [List.pairwise_iff_getElem]
  intro m n hm hn hlt
  exact ⟨m, n, .field (List.getElem?_eq_getElem hm), .field (List.getElem?_eq_getElem hn), hlt⟩

/-- A segment leads to the parts of a value from the first on. -/
theorem pairwise_children (s : Segment) {v : Value} (hv : v.Storable) :
    (s.children v).Pairwise (Earlier v) := by
  unfold children
  split
  · split
    · exact List.pairwise_singleton _ _
    · exact .nil
  · split
    · exact List.pairwise_singleton _ _
    · exact .nil
  · next items =>
    cases hv with
    | list size inner =>
      rw [List.pairwise_map, List.pairwise_iff_getElem]
      intro m n hm hn hlt
      rw [List.length_zipIdx] at hm hn
      simp only [List.getElem_zipIdx, Nat.zero_add]
      exact ⟨m, n, .item (toInt_ofNat_of_lt hm size) (List.getElem?_eq_getElem hm),
        .item (toInt_ofNat_of_lt hn size) (List.getElem?_eq_getElem hn), hlt⟩
  · next fields =>
    rw [List.pairwise_map]
    exact pairwise_earlier_fields fields
  · next start fields =>
    rw [List.pairwise_map]
    exact (pairwise_earlier_fields fields).sublist List.filter_sublist
  · exact .nil

end Segment

/-! ## Whole paths -/

namespace Path

/-- The matches of a path that is cut in two: those of the second part on the values of the first,
    each under the keys that lead to it. -/
theorem resolve_append (p q : Path) (v : Value) :
    resolve (p ++ q) v =
      (p.resolve v).flatMap fun m => (q.resolve m.value).map (Match.under m.path) := by
  rw [resolve, List.foldl_append]
  exact splits q (p.resolve v)

theorem mem_resolve_iff : ∀ (p : Path) {v : Value}, v.Storable → ∀ (ks : List Key) (u : Value),
    ⟨ks, u⟩ ∈ p.resolve v ↔ List.Forall₂ Segment.Accepts p ks ∧ v.LeadsTo ks u
  | [], v, _, ks, u => by
    rw [resolve, List.foldl_nil, List.mem_singleton, Match.mk.injEq]
    constructor
    · rintro ⟨rfl, rfl⟩
      exact ⟨.nil, .here u⟩
    · rintro ⟨haccepts, hleads⟩
      cases haccepts
      cases hleads
      exact ⟨rfl, rfl⟩
  | s :: p, v, hv, ks, u => by
    rw [mem_resolve_cons]
    constructor
    · rintro ⟨k, w, hw, ⟨ls, u'⟩, hmem, heq⟩
      obtain ⟨rfl, rfl⟩ := Match.mk.inj heq
      obtain ⟨haccepts, n, hplace⟩ := (s.mem_children_iff hv).mp hw
      have hstorable := hv.part (Segment.part?_of_mem_children hv hw)
      obtain ⟨hrest, hleads⟩ := (mem_resolve_iff p hstorable ls u).mp hmem
      exact ⟨.cons haccepts hrest, .inside hplace hleads⟩
    · rintro ⟨haccepts, hleads⟩
      cases haccepts with
      | @cons _ k _ ls hk hrest =>
        cases hleads with
        | @inside _ w _ _ n _ hplace hleads =>
          have hw := (s.mem_children_iff hv).mpr ⟨hk, n, hplace⟩
          have hstorable := hv.part (Segment.part?_of_mem_children hv hw)
          exact ⟨k, w, hw, ⟨ls, u⟩, (mem_resolve_iff p hstorable ls u).mpr ⟨hrest, hleads⟩, rfl⟩

/-- No two matches of a path have the same keys, since what keys lead to is one value. -/
theorem nodup_paths_resolve (p : Path) {v : Value} (hv : v.Storable) :
    ((p.resolve v).map Match.path).Nodup := by
  refine (nodup_resolve p hv).map_on ?_
  intro m hm m' hm' hpath
  have hnames : m.names = m'.names := congrArg (List.map Key.fieldName) hpath
  exact (within_of_mem_resolve hv hm).eq_of_names (within_of_mem_resolve hv hm') hnames

theorem pairwise_resolve : ∀ (p : Path) {v : Value}, v.Storable →
    (p.resolve v).Pairwise fun m m' => v.Before m.path m'.path
  | [], _, _ => List.pairwise_singleton _ _
  | s :: p, v, hv => by
    rw [resolve_cons, List.pairwise_flatMap]
    constructor
    · rintro ⟨k, u⟩ hu
      obtain ⟨-, n, hplace⟩ := (s.mem_children_iff hv).mp hu
      have hstorable := hv.part (Segment.part?_of_mem_children hv hu)
      rw [List.pairwise_map]
      exact (pairwise_resolve p hstorable).imp fun h => .inside hplace h
    · refine (s.pairwise_children hv).imp ?_
      rintro ⟨k, u⟩ ⟨l, w⟩ ⟨m, n, hk, hl, hlt⟩ a ha b hb
      obtain ⟨a', -, rfl⟩ := List.mem_map.mp ha
      obtain ⟨b', -, rfl⟩ := List.mem_map.mp hb
      exact .here hk hl hlt _ _

/-- Resolving a path finds what it stands for: the chains of keys that lead somewhere and are
    accepted segment by segment, once each, with their values and in document order. And it does not
    matter where the path is cut. -/
theorem answers_resolve (p : Path) (event : Value) (h : event.Storable) :
    p.Answers event (p.resolve event) ∧
    (∀ m ∈ p.resolve event, m.path.length = p.length) ∧
    ∀ q r, p = q ++ r → p.resolve event =
      (q.resolve event).flatMap fun m => (r.resolve m.value).map (Match.under m.path) := by
  have hmem := mem_resolve_iff p h
  refine ⟨⟨hmem, ?_, ?_⟩, ?_, ?_⟩
  · exact nodup_paths_resolve p h
  · exact List.pairwise_map.mpr (pairwise_resolve p h)
  · intro m hm
    exact ((hmem m.path m.value).mp hm).1.length_eq.symm
  · rintro q r rfl
    exact resolve_append q r event

/-- An event with two lists of readings, the last of them an object. -/
def readingsEvent : Value :=
  .object [("low", .list [.null, .object [("b", .bool true), ("a", .bool false)]]),
    ("high", .list [.null])]

theorem storable_readingsEvent : readingsEvent.Storable := by
  have hlast : (Value.object [("b", .bool true), ("a", .bool false)]).Storable :=
    .object (by decide) (by simp [Value.Storable.bool])
  have hlow : (Value.list [.null, .object [("b", .bool true), ("a", .bool false)]]).Storable :=
    .list (by decide) (by simp [hlast, Value.Storable.null])
  have hhigh : (Value.list [.null]).Storable := .list (by decide) (by simp [Value.Storable.null])
  exact .object (by decide) (by simp [hlow, hhigh])

theorem answers_of_readingsEvent :
    readingsEvent.Storable ∧
    Answers [.stem "l", .index (-1), .wildcard] readingsEvent
      [⟨[.field "low", .index (-1), .field "b"], .bool true⟩,
        ⟨[.field "low", .index (-1), .field "a"], .bool false⟩] ∧
    Answers [.wildcard, .index Int64.minValue] readingsEvent [] :=
  ⟨storable_readingsEvent, (answers_resolve _ readingsEvent storable_readingsEvent).1,
    (answers_resolve _ readingsEvent storable_readingsEvent).1⟩

end Path
end EventQuery
