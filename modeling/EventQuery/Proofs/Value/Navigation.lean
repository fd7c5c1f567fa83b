import EventQuery.Path.Resolve
import Mathlib

/-!
# Following keys

The keys of a match lead from the event to its value, and they are meant to lead there in a
projection as well, where a list may have become an object with its items under the names of their
positions. So keys are followed in two ways. On the event a key has to be of the kind of the value
around it (`Value.part?`, `Value.at?`); in a document an object is asked for the name of the key,
whatever its kind (`Value.read?`, `Value.follow?`).

What makes projections possible is that within one value a name belongs to one key
(`key_of_fieldName`): an object has fields only, a list has positions only, and two positions that
are written alike are the same.
-/

namespace EventQuery
namespace Value

/-- The part of a value behind a key of its own kind: a field of an object, an item of a list. -/
def part? : Value → Key → Option Value
  | object fields, .field name => Record.get? fields name
  | list items, .index i => (Segment.position? i items.length).bind (items[·]?)
  | _, _ => none

/-- The part of a value behind a key, where an object has it under the name of the key. -/
def read? : Value → Key → Option Value
  | object fields, k => Record.get? fields k.fieldName
  | list items, .index i => (Segment.position? i items.length).bind (items[·]?)
  | _, _ => none

/-- The value at the end of some keys, each of the kind of the value around it. -/
def at? (v : Value) (ks : List Key) : Option Value := ks.foldlM part? v

/-- The value at the end of some keys in a document. -/
def follow? (v : Value) (ks : List Key) : Option Value := ks.foldlM read? v

/-- The value at the end of a chain of field names. -/
def reach? (v : Value) (names : List String) : Option Value := names.foldlM get? v

theorem at?_cons (v : Value) (k : Key) (ks : List Key) :
    v.at? (k :: ks) = (v.part? k).bind (·.at? ks) := List.foldlM_cons

theorem follow?_cons (v : Value) (k : Key) (ks : List Key) :
    v.follow? (k :: ks) = (v.read? k).bind (·.follow? ks) := List.foldlM_cons

theorem reach?_cons (v : Value) (name : String) (names : List String) :
    v.reach? (name :: names) = (v.get? name).bind (·.reach? names) := List.foldlM_cons

theorem at?_append (v : Value) (ks ls : List Key) :
    v.at? (ks ++ ls) = (v.at? ks).bind (·.at? ls) := List.foldlM_append

theorem follow?_append (v : Value) (ks ls : List Key) :
    v.follow? (ks ++ ls) = (v.follow? ks).bind (·.follow? ls) := List.foldlM_append

/-! ## Keys and names -/

/-- In an object, reading a key is reading the field of its name. -/
theorem read?_object (fields : List (String × Value)) (k : Key) :
    (object fields).read? k = Record.get? fields k.fieldName := by
  cases k <;> rfl

/-- A field is read as it is taken. -/
theorem read?_field (v : Value) (name : String) :
    v.read? (.field name) = v.part? (.field name) := by
  cases v <;> rfl

/-- A value that has a part is an object or a list. -/
theorem part?_cases {v u : Value} {k : Key} (h : v.part? k = some u) :
    (∃ fields name, v = object fields ∧ k = .field name ∧ Record.get? fields name = some u) ∨
    (∃ items i n, v = list items ∧ k = .index i ∧
      Segment.position? i items.length = some n ∧ items[n]? = some u) := by
  unfold part? at h
  split at h
  · next fields name => exact Or.inl ⟨fields, name, rfl, rfl, h⟩
  · next items i =>
    obtain ⟨n, hn, hu⟩ := Option.bind_eq_some_iff.mp h
    exact Or.inr ⟨items, i, n, rfl, rfl, hn, hu⟩
  · cases h

/-- A part of the value is found in a document that is the value. -/
theorem read?_of_part? {v u : Value} {k : Key} (h : v.part? k = some u) : v.read? k = some u := by
  rcases part?_cases h with ⟨fields, name, rfl, rfl, -⟩ | ⟨items, i, _, rfl, rfl, -⟩
  · exact h
  · exact h

theorem follow?_of_at? : ∀ {ks : List Key} {v u : Value}, v.at? ks = some u → v.follow? ks = some u
  | [], _, _, h => h
  | k :: ks, v, u, h => by
    rw [at?_cons] at h
    obtain ⟨w, hw, hu⟩ := Option.bind_eq_some_iff.mp h
    rw [follow?_cons, read?_of_part? hw]
    exact follow?_of_at? hu

theorem index_of_fieldName {i j : Int64} (h : (Key.index i).fieldName = (Key.index j).fieldName) :
    i = j := Int64.toInt_inj.mp (Int.repr_injective h)

/-- Within one value a name belongs to one key. -/
theorem key_of_fieldName {v u w : Value} {k l : Key} (hk : v.part? k = some u)
    (hl : v.part? l = some w) (h : k.fieldName = l.fieldName) : k = l := by
  rcases part?_cases hk with ⟨fields, name, rfl, rfl, -⟩ | ⟨items, i, _, rfl, rfl, -⟩
  · rcases part?_cases hl with ⟨_, name', _, rfl, -⟩ | ⟨_, _, _, hv, -⟩
    · exact congrArg Key.field h
    · cases hv
  · rcases part?_cases hl with ⟨_, _, hv, -⟩ | ⟨_, j, _, _, rfl, -⟩
    · cases hv
    · exact congrArg Key.index (index_of_fieldName h)

/-- Within one value a chain of names belongs to one chain of keys. -/
theorem keys_of_fieldNames : ∀ {ks ls : List Key} {v u w : Value}, v.at? ks = some u →
    v.at? ls = some w → ks.map Key.fieldName = ls.map Key.fieldName → ks = ls
  | [], [], _, _, _, _, _, _ => rfl
  | k :: ks, l :: ls, v, u, w, hu, hw, h => by
    obtain ⟨hname, hnames⟩ := List.cons.inj h
    rw [at?_cons] at hu hw
    obtain ⟨u', hk, hu⟩ := Option.bind_eq_some_iff.mp hu
    obtain ⟨w', hl, hw⟩ := Option.bind_eq_some_iff.mp hw
    -- The first keys are one, so both chains go on from the same part.
    obtain rfl := key_of_fieldName hk hl hname
    rw [hk] at hl
    cases hl
    rw [keys_of_fieldNames hu hw hnames]

/-- What lies at the end of keys whose first has the name of a part lies in that part. -/
theorem at?_of_fieldName {k : Key} {ks : List Key} {names : List String} {v u w : Value}
    (hu : v.part? k = some u) (hw : v.at? ks = some w)
    (h : ks.map Key.fieldName = k.fieldName :: names) :
    ∃ ls, ls.map Key.fieldName = names ∧ u.at? ls = some w := by
  obtain ⟨l, ls, rfl, hname, hnames⟩ := List.map_eq_cons_iff.mp h
  rw [at?_cons] at hw
  obtain ⟨u', hu', hw⟩ := Option.bind_eq_some_iff.mp hw
  obtain rfl := key_of_fieldName hu hu' hname.symm
  rw [hu] at hu'
  cases hu'
  exact ⟨ls, hnames, hw⟩

/-! ## Storable values -/

/-- What lies inside a storable value is storable. -/
theorem Storable.part {v u : Value} {k : Key} (hv : v.Storable) (h : v.part? k = some u) :
    u.Storable := by
  rcases part?_cases h with ⟨fields, name, rfl, -, hu⟩ | ⟨items, i, n, rfl, -, -, hu⟩
  · cases hv with
    | object distinct inner => exact inner _ (Record.mem_of_get? hu)
  · cases hv with
    | list size inner => exact inner u (List.mem_of_getElem? hu)

end Value
end EventQuery
