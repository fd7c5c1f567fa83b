import EventQuery.Proofs.Json.ReadBack
import EventQuery.Value.Document

/-!
# Values and documents, there and back

A value is known from its document if every number in it has one (`Value.ofJson_toJson`): integers
come back as integers and doubles as doubles, bit for bit, and what is in a list or an object keeps
its order. Integers without a sign and with one are different numerals in a document, but not in a
value.

What has no doubles in it is known even from its text, as long as the text is not nested deeper than
a reader goes (`Value.read_render`).
-/

namespace EventQuery

namespace Number

/-- An integer, or a double that is neither infinite nor a NaN. -/
def isFinite : Number → Bool
  | int _ => true
  | float x => x.isFinite

/-- A number with a place in documents is known from its document. -/
theorem ofJson_toJson {n : Number} (h : n.isFinite = true) : Value.ofJson n.toJson = .number n := by
  cases n with
  | int i =>
    rw [toJson]
    split
    · next hsign =>
      have hmax := Int64.toInt_le i
      have hsize : i.toInt.toNat < UInt64.size :=
        Nat.lt_of_le_of_lt (Int.toNat_le_toNat hmax) (by decide)
      have hnat : (UInt64.ofNat i.toInt.toNat).toNat = i.toInt.toNat :=
        UInt64.toNat_ofNat_of_lt' hsize
      rw [Value.ofJson, ofNumeral, hnat, if_pos (by omega), Int.toNat_of_nonneg hsign,
        Int64.ofInt_toInt]
    · rfl
  | float x =>
    rw [isFinite] at h
    rw [toJson, if_pos h]
    rfl

/-- An integer is a numeral that readers take back. -/
theorem readable_toJson {n : Number} (h : n.isFloat = false) (depth : Nat) :
    Json.Readable depth n.toJson := by
  cases n with
  | int i =>
    rw [toJson]
    split
    · exact .natural _
    · next hsign => exact .negative (Int.not_le.mp hsign)
  | float x => cases h

end Number

namespace Value

/-- Every number in the value is of a certain kind. -/
inductive EveryNumber (p : Number → Prop) : Value → Prop
  | null : EveryNumber p null
  | bool (b : Bool) : EveryNumber p (bool b)
  | number {n : Number} (holds : p n) : EveryNumber p (number n)
  | string (s : String) : EveryNumber p (string s)
  | list {items : List Value} (inner : ∀ v ∈ items, EveryNumber p v) : EveryNumber p (list items)
  | object {fields : List (String × Value)} (inner : ∀ field ∈ fields, EveryNumber p field.2) :
      EveryNumber p (object fields)

namespace EveryNumber

variable {p : Number → Prop}

theorem items {items : List Value} :
    EveryNumber p (Value.list items) → ∀ v ∈ items, EveryNumber p v
  | list inner => inner

theorem fields {fields : List (String × Value)} :
    EveryNumber p (Value.object fields) → ∀ field ∈ fields, EveryNumber p field.2
  | object inner => inner

/-- Where there are no doubles none is infinite. -/
theorem finite {v : Value} (h : v.EveryNumber (·.isFloat = false)) :
    v.EveryNumber (·.isFinite = true) := by
  induction h with
  | null => exact .null
  | bool b => exact .bool b
  | @number n holds =>
    cases n with
    | int i => exact .number rfl
    | float x => cases holds
  | string s => exact .string s
  | list inner ih => exact .list ih
  | object inner ih => exact .object ih

end EveryNumber

mutual

/-- How many lists and objects of the value stand one inside the other. -/
def depth : Value → Nat
  | null | bool _ | number _ | string _ => 0
  | list items => depthOfItems items + 1
  | object fields => depthOfFields fields + 1

def depthOfItems : List Value → Nat
  | [] => 0
  | v :: rest => max (depth v) (depthOfItems rest)

def depthOfFields : List (String × Value) → Nat
  | [] => 0
  | (_, v) :: rest => max (depth v) (depthOfFields rest)

end

theorem depth_le_of_mem : ∀ {items : List Value} {v : Value}, v ∈ items →
    v.depth ≤ depthOfItems items
  | w :: rest, v, h => by
    rw [depthOfItems]
    rcases List.mem_cons.mp h with rfl | hrest
    · exact Nat.le_max_left ..
    · exact Nat.le_trans (depth_le_of_mem hrest) (Nat.le_max_right ..)

theorem depth_le_of_mem_fields : ∀ {fields : List (String × Value)} {field : String × Value},
    field ∈ fields → field.2.depth ≤ depthOfFields fields
  | (name, w) :: rest, field, h => by
    rw [depthOfFields]
    rcases List.mem_cons.mp h with rfl | hrest
    · exact Nat.le_max_left ..
    · exact Nat.le_trans (depth_le_of_mem_fields hrest) (Nat.le_max_right ..)

/-! ## The parts of a document -/

theorem toItems_eq_map (items : List Value) : toItems items = items.map toJson := by
  induction items with
  | nil => rfl
  | cons v rest ih => rw [toItems, ih, List.map_cons]

theorem toFields_eq_map (fields : List (String × Value)) :
    toFields fields = fields.map fun field => (field.1, field.2.toJson) := by
  induction fields with
  | nil => rfl
  | cons field rest ih => rw [toFields, ih, List.map_cons]

theorem keys_toFields (fields : List (String × Value)) :
    Record.keys (toFields fields) = Record.keys fields := by
  rw [toFields_eq_map, Record.keys, List.map_map]
  rfl

theorem ofItems_toItems {items : List Value} (h : ∀ v ∈ items, ofJson v.toJson = v) :
    ofItems (toItems items) = items := by
  induction items with
  | nil => rfl
  | cons v rest ih =>
    obtain ⟨hv, hrest⟩ := List.forall_mem_cons.mp h
    rw [toItems, ofItems, hv, ih hrest]

theorem ofFields_toFields {fields : List (String × Value)}
    (h : ∀ field ∈ fields, ofJson field.2.toJson = field.2) :
    ofFields (toFields fields) = fields := by
  induction fields with
  | nil => rfl
  | cons field rest ih =>
    obtain ⟨hv, hrest⟩ := List.forall_mem_cons.mp h
    rw [toFields, ofFields, hv, ih hrest]

/-! ## There and back -/

/-- A value whose numbers are finite is known from its document. -/
theorem ofJson_toJson {v : Value} (h : v.EveryNumber (·.isFinite = true)) :
    ofJson v.toJson = v := by
  induction h with
  | null | bool b | string s => rfl
  | number holds => exact Number.ofJson_toJson holds
  | list inner ih => rw [toJson, ofJson, ofItems_toItems ih]
  | object inner ih => rw [toJson, ofJson, ofFields_toFields ih]

/-- The document of a value without doubles is taken back by a reader with room for it. -/
theorem readable_toJson {v : Value} (hv : v.Storable) (hn : v.EveryNumber (·.isFloat = false))
    {room : Nat} (hroom : v.depth ≤ room) : Json.Readable room v.toJson := by
  induction hv generalizing room with
  | null => exact .null
  | bool b => exact .bool b
  | number n =>
    cases hn with
    | number holds => exact Number.readable_toJson holds room
  | string s => exact .string s
  | @list items size inner ih =>
    cases room with
    | zero => exact absurd hroom (Nat.not_succ_le_zero _)
    | succ room =>
      refine .array fun j hj => ?_
      rw [toItems_eq_map] at hj
      obtain ⟨v, hv, rfl⟩ := List.mem_map.mp hj
      have hdepth := Nat.le_trans (depth_le_of_mem hv) (Nat.le_of_succ_le_succ hroom)
      exact ih v hv (hn.items v hv) hdepth
  | @object fields distinct inner ih =>
    cases room with
    | zero => exact absurd hroom (Nat.not_succ_le_zero _)
    | succ room =>
      refine .object (keys_toFields fields ▸ distinct) fun named hnamed => ?_
      rw [toFields_eq_map] at hnamed
      obtain ⟨field, hfield, rfl⟩ := List.mem_map.mp hnamed
      have hdepth := Nat.le_trans (depth_le_of_mem_fields hfield) (Nat.le_of_succ_le_succ hroom)
      exact ih field hfield (hn.fields field hfield) hdepth

/-- Documents lose nothing of a value. One whose doubles are all finite is known from its document,
    the form of every number and the order of every container included. One without doubles is
    known from its text, if at most 127 of its containers stand one inside the other: the text is
    read without a fault, and as that value. -/
theorem kept_by_documents (v : Value) :
    (v.EveryNumber (·.isFinite = true) → ofJson v.toJson = v) ∧
    (v.Storable → v.EveryNumber (·.isFloat = false) → v.depth ≤ 127 →
      Value.read v.render = .ok v) := by
  refine ⟨ofJson_toJson, fun hv hn hdepth => ?_⟩
  have hread := Json.read_render (readable_toJson hv hn hdepth)
  rw [Value.read, render, hread, Except.map, ofJson_toJson hn.finite]

/-- Doubles without a fraction, below zero by their sign only, and above every integer. -/
def wholeDoubles : Value :=
  .object [
    ("double", .list [.float (Binary64.ofInt 450), .float (Binary64.zero true),
      .float (Binary64.ofInt 1000000000000000000000000000000)]),
    ("integer", .int 450)]

/-- The widest integers, and characters of every kind that a text has to escape or may leave. -/
def awkwardTexts : Value :=
  .object [
    ("\"\\/\x00\x08\x0c\x1f\x7f", .list [.object [], .list [], .int Int64.minValue]),
    ("", .string "line\nend\té😀"),
    ("Z", .int Int64.maxValue)]

/-- A value inside so many lists. -/
def nested (v : Value) : Nat → Value
  | 0 => v
  | n + 1 => .list [nested v n]

theorem nested_induction {P : Value → Prop} {v : Value} (h : P v)
    (step : ∀ w, P w → P (.list [w])) : ∀ n, P (v.nested n)
  | 0 => h
  | n + 1 => step _ (nested_induction h step n)

theorem storable_awkwardTexts : awkwardTexts.Storable := by
  have hlist : (Value.list [.object [], .list [], .int Int64.minValue]).Storable := by
    refine .list (by decide) ?_
    simp only [List.forall_mem_cons]
    exact ⟨.object List.nodup_nil nofun, .list (by decide) nofun, .number _, nofun⟩
  refine .object (by decide) ?_
  simp only [List.forall_mem_cons]
  exact ⟨hlist, .string _, .number _, nofun⟩

theorem integers_awkwardTexts : awkwardTexts.EveryNumber (·.isFloat = false) := by
  have hlist : (Value.list [.object [], .list [], .int Int64.minValue]).EveryNumber
      (·.isFloat = false) := by
    refine .list ?_
    simp only [List.forall_mem_cons]
    exact ⟨.object nofun, .list nofun, .number rfl, nofun⟩
  refine .object ?_
  simp only [List.forall_mem_cons]
  exact ⟨hlist, .string _, .number rfl, nofun⟩

theorem kept_by_documents_awkwardTexts :
    wholeDoubles.EveryNumber (·.isFinite = true) ∧ ofJson wholeDoubles.toJson = wholeDoubles ∧
    (awkwardTexts.nested 124).Storable ∧
    (awkwardTexts.nested 124).EveryNumber (·.isFloat = false) ∧
    (awkwardTexts.nested 124).depth = 127 ∧
    Value.read (awkwardTexts.nested 124).render = .ok (awkwardTexts.nested 124) := by
  have hfinite : wholeDoubles.EveryNumber (·.isFinite = true) := by
    refine .object ?_
    simp only [List.forall_mem_cons]
    refine ⟨.list ?_, .number rfl, nofun⟩
    simp only [List.forall_mem_cons]
    exact ⟨.number (by decide +kernel), .number (by decide +kernel), .number (by decide +kernel),
      nofun⟩
  have hone : (1 : Int) ≤ Int64.maxValue.toInt := by decide
  have hstorable : (awkwardTexts.nested 124).Storable :=
    nested_induction storable_awkwardTexts
      (fun w hw => .list hone (List.forall_mem_singleton.mpr hw)) 124
  have hintegers : (awkwardTexts.nested 124).EveryNumber (·.isFloat = false) :=
    nested_induction integers_awkwardTexts
      (fun w hw => .list (List.forall_mem_singleton.mpr hw)) 124
  have hdepth : (awkwardTexts.nested 124).depth = 127 := by decide +kernel
  exact ⟨hfinite, (kept_by_documents wholeDoubles).1 hfinite, hstorable, hintegers, hdepth,
    (kept_by_documents (awkwardTexts.nested 124)).2 hstorable hintegers (Nat.le_of_eq hdepth)⟩

end Value
end EventQuery
