import EventQuery.Proofs.Value.Navigation

/-!
# Matches

A path is resolved by a fold over its segments with all matches so far in hand. Read from the other
end, the matches of a path are those of its rest on the parts that its first segment leads to
(`Path.resolve_cons`), and proofs about paths are inductions on that equation.

On a storable event a match is exactly what its keys lead to (`Path.within_of_mem_resolve`), and no
two matches of a path are the same (`Path.nodup_resolve`).
-/

namespace EventQuery

/-- The match as it is seen from further out. -/
def Match.under (ks : List Key) (m : Match) : Match := ⟨ks ++ m.path, m.value⟩

/-- The match is what its keys lead to in the event. -/
def Match.Within (event : Value) (m : Match) : Prop := event.at? m.path = some m.value

theorem Match.under_comp (ks ls : List Key) :
    Match.under ks ∘ Match.under ls = Match.under (ks ++ ls) := by
  funext m
  simp [under]

/-! ## One segment after the other -/

namespace Path

/-- What the matches in hand become by the rest of the path, one at a time. -/
def Splits (p : Path) : Prop := ∀ found : List Match,
  p.foldl (fun found s => s.step found) found =
    found.flatMap fun m => (p.resolve m.value).map (Match.under m.path)

theorem Splits.resolve_cons {p : Path} (h : p.Splits) (s : Segment) (v : Value) :
    resolve (s :: p) v =
      (s.children v).flatMap fun (k, u) => (p.resolve u).map (Match.under [k]) := by
  rw [resolve, List.foldl_cons, h]
  simp [Segment.step, Match.child, List.flatMap_map]

theorem splits : ∀ p : Path, p.Splits
  | [], found => by simp [resolve, Match.under]
  | s :: p, found => by
    rw [List.foldl_cons, splits p]
    simp only [(splits p).resolve_cons, Segment.step, Match.child, List.flatMap_assoc,
      List.flatMap_map, List.map_flatMap, List.map_map, Match.under_comp]

/-- The first segment leads to some parts, and the rest of the path is resolved on each. -/
theorem resolve_cons (s : Segment) (p : Path) (v : Value) :
    resolve (s :: p) v =
      (s.children v).flatMap fun (k, u) => (p.resolve u).map (Match.under [k]) :=
  (splits p).resolve_cons s v

theorem mem_resolve_cons {s : Segment} {p : Path} {v : Value} {m : Match} :
    m ∈ resolve (s :: p) v ↔
      ∃ k u, (k, u) ∈ s.children v ∧ ∃ m' ∈ p.resolve u, m = m'.under [k] := by
  rw [resolve_cons, List.mem_flatMap]
  constructor
  · rintro ⟨⟨k, u⟩, hmem, hm⟩
    obtain ⟨m', hm', rfl⟩ := List.mem_map.mp hm
    exact ⟨k, u, hmem, m', hm', rfl⟩
  · rintro ⟨k, u, hmem, m', hm', rfl⟩
    exact ⟨(k, u), hmem, List.mem_map_of_mem hm'⟩

end Path

/-! ## Positions -/

namespace Segment

theorem toInt_ofNat_of_lt {n length : Nat} (h : n < length) (hl : length ≤ Int64.maxValue.toInt) :
    (Int64.ofNat n).toInt = n := by
  have hmax : Int64.maxValue.toInt = 2 ^ 63 - 1 := by decide
  exact Int64.toInt_ofNat_of_lt (by omega)

/-- The position of an item of a list means that item. -/
theorem position?_ofNat {n length : Nat} (h : n < length) (hl : length ≤ Int64.maxValue.toInt) :
    position? (Int64.ofNat n) length = some n := by
  rw [position?, if_neg (by omega)]
  simp only [toInt_ofNat_of_lt h hl]
  rw [if_pos (by omega), if_pos (by omega)]
  rfl

/-! ## Parts -/

/-- The children of a storable value are parts of it, each behind its key. -/
theorem part?_of_mem_children {s : Segment} {v u : Value} {k : Key} (hv : v.Storable)
    (h : (k, u) ∈ s.children v) : v.part? k = some u := by
  unfold children at h
  split at h
  · next name fields =>
    split at h
    · next w hw =>
      cases List.mem_singleton.mp h
      exact hw
    · cases h
  · next i items =>
    split at h
    · next w hw =>
      cases List.mem_singleton.mp h
      exact hw
    · cases h
  · next items =>
    obtain ⟨⟨w, n⟩, hmem, heq⟩ := List.mem_map.mp h
    cases heq
    have hw := List.mem_zipIdx_iff_getElem?.mp hmem
    obtain ⟨hlt, -⟩ := List.getElem?_eq_some_iff.mp hw
    cases hv with
    | list size inner =>
      rw [Value.part?, position?_ofNat hlt size]
      exact hw
  · next fields =>
    obtain ⟨⟨name, w⟩, hmem, heq⟩ := List.mem_map.mp h
    cases heq
    cases hv with
    | object distinct inner => exact (Record.get?_eq_some_iff distinct).mpr hmem
  · next start fields =>
    obtain ⟨⟨name, w⟩, hmem, heq⟩ := List.mem_map.mp h
    cases heq
    cases hv with
    | object distinct inner =>
      exact (Record.get?_eq_some_iff distinct).mpr (List.mem_filter.mp hmem).1
  · cases h

theorem nodup_fields {fields : List (String × Value)} (h : (Record.keys fields).Nodup) :
    (fields.map fun field => Key.field field.1).Nodup := by
  rw [show (fun field : String × Value => Key.field field.1) = Key.field ∘ Prod.fst from rfl,
    ← List.map_map]
  exact h.map fun _ _ => Key.field.inj

/-- A segment leads to no part of a storable value twice. -/
theorem nodup_keys_children (s : Segment) {v : Value} (hv : v.Storable) :
    ((s.children v).map Prod.fst).Nodup := by
  unfold children
  split
  · split <;> simp
  · split <;> simp
  · next items =>
    cases hv with
    | list size inner =>
      rw [List.map_map]
      rw [show (Prod.fst ∘ fun x : Value × Nat => (Key.index (Int64.ofNat x.2), x.1)) =
        (fun n => Key.index (Int64.ofNat n)) ∘ Prod.snd from rfl]
      rw [← List.map_map, List.zipIdx_map_snd, List.nodup_map_iff_inj_on List.nodup_range']
      intro a ha b hb heq
      have hat := toInt_ofNat_of_lt (List.mem_range'_1.mp ha).2 (by omega)
      have hbt := toInt_ofNat_of_lt (List.mem_range'_1.mp hb).2 (by omega)
      rw [Key.index.inj heq] at hat
      omega
  · next fields =>
    cases hv with
    | object distinct inner =>
      rw [List.map_map]
      exact nodup_fields distinct
  · next start fields =>
    cases hv with
    | object distinct inner =>
      rw [List.map_map]
      exact (nodup_fields distinct).sublist (List.filter_sublist.map _)
  · exact List.nodup_nil

end Segment

/-! ## Matches -/

namespace Path

/-- A match of a path is what its keys lead to. -/
theorem within_of_mem_resolve : ∀ {p : Path} {v : Value} {m : Match}, v.Storable →
    m ∈ p.resolve v → m.Within v
  | [], v, m, _, h => by
    cases List.mem_singleton.mp h
    rfl
  | s :: p, v, m, hv, h => by
    obtain ⟨k, u, hu, m', hm', rfl⟩ := mem_resolve_cons.mp h
    have hpart := Segment.part?_of_mem_children hv hu
    show v.at? (k :: m'.path) = some m'.value
    rw [Value.at?_cons, hpart]
    exact within_of_mem_resolve (hv.part hpart) hm'

/-- No two matches of a path are the same. -/
theorem nodup_resolve : ∀ (p : Path) {v : Value}, v.Storable → (p.resolve v).Nodup
  | [], _, _ => List.nodup_singleton _
  | s :: p, v, hv => by
    rw [resolve_cons, List.nodup_flatMap]
    refine ⟨?_, ?_⟩
    · rintro ⟨k, u⟩ hu
      have hstorable := hv.part (Segment.part?_of_mem_children hv hu)
      exact (nodup_resolve p hstorable).map fun m m' heq => by
        obtain ⟨hpath, hvalue⟩ := Match.mk.inj heq
        cases m
        cases m'
        simp_all
    · -- Matches below different keys differ in their first key.
      have hkeys := List.pairwise_map.mp (Segment.nodup_keys_children s hv)
      refine hkeys.imp fun {c d} hne m hm hm' => hne ?_
      obtain ⟨m₁, -, rfl⟩ := List.mem_map.mp hm
      obtain ⟨m₂, -, heq⟩ := List.mem_map.mp hm'
      exact (List.cons.inj (Match.mk.inj heq).1).1.symm

end Path

/-- On one event matches of the same names are the same. -/
theorem Match.Within.eq_of_names {event : Value} {m m' : Match} (h : m.Within event)
    (h' : m'.Within event) (hnames : m.names = m'.names) : m = m' := by
  obtain ⟨ks, v⟩ := m
  obtain ⟨ls, w⟩ := m'
  obtain rfl := Value.keys_of_fieldNames h h' hnames
  have hvw : some v = some w := h.symm.trans h'
  rw [Option.some.inj hvw]

end EventQuery
