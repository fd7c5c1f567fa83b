import EventQuery.Proofs.Value.Documents

/-!
# The two ways of writing a value

A value is written either through its document or directly, and the text is the same
(`Value.serializeText_eq`). The ways share how a string and a finite double are spelled and nothing
else. A document tells natural numbers from negative ones where a value has integers; it has no
place for an infinity or a NaN, which the direct way has to notice by itself; and the one writes the
first part of a container apart from the others, while the other carries along whether a comma is
due. So both go along the value side by side, container by container.

The fields of an object come in their order (`Json.Writer.text_object`). That also holds where the
document is put together one field after the other, as a record is (`Value.collect`): the names of
an object are distinct, so every field goes to the end.
-/

namespace EventQuery

/-! ## Containers -/

namespace Json.Writer

/-- Parts with a comma between each two of them. -/
def listed (parts : List (List Char)) : List Char := [','].intercalate parts

/-- Behind the first part each one has a comma in front. -/
theorem listed_cons (part : List Char) (rest : List (List Char)) :
    listed (part :: rest) = part ++ rest.flatMap (',' :: ·) := by
  induction rest generalizing part with
  | nil => simp [listed]
  | cons next rest ih =>
    rw [listed, List.intercalate_cons_cons, ← listed, ih, List.flatMap_cons]
    simp

/-- A field, with its value written already. -/
def fieldText (name : String) (value : List Char) : List Char := stringText name ++ ':' :: value

theorem fieldsText_eq (fields : List (String × Json)) :
    fieldsText fields =
      (fields.map fun field => fieldText field.1 (text field.2)).flatMap (',' :: ·) := by
  induction fields with
  | nil => rfl
  | cons field rest ih =>
    rw [fieldsText, ih, List.map_cons, List.flatMap_cons, fieldText]
    simp

/-- The text of an object has its fields in their order. -/
theorem text_object (fields : List (String × Json)) :
    text (.object fields) =
      '\x7b' :: listed (fields.map fun field => fieldText field.1 (text field.2)) ++ ['\x7d'] := by
  cases fields with
  | nil => rw [text]; rfl
  | cons field rest =>
    rw [text, fieldsText_eq, List.map_cons, listed_cons, fieldText]
    simp

end Json.Writer

open Json.Writer (text itemsText fieldsText numeralText intText floatText)

/-! ## One text -/

/-- A number written directly is written as its document. A natural number has another numeral than
    a negative one, but no other digits. -/
theorem Number.serializeText_eq (n : Number) : n.serializeText = text n.toJson := by
  cases n with
  | int i =>
    rw [serializeText, toJson, text]
    split
    · next hsign =>
      have hmax := Int64.toInt_le i
      have hsize : i.toInt.toNat < UInt64.size :=
        Nat.lt_of_le_of_lt (Int.toNat_le_toNat hmax) (by decide)
      have habs : i.toInt.natAbs = i.toInt.toNat := by omega
      rw [numeralText, UInt64.toNat_ofNat_of_lt' hsize, intText, if_neg (Int.not_lt.mpr hsign),
        habs]
    · rfl
  | float x =>
    rw [serializeText, toJson]
    split
    · next hfinite => rw [text, numeralText, if_pos hfinite]
    · rw [text]

namespace Value

mutual

/-- A value written directly is written as its document. -/
theorem serializeText_eq : ∀ v : Value, v.serializeText = text v.toJson
  | null => by rw [serializeText, toJson, text]
  | bool b => by rw [serializeText, toJson, text]
  | number n => by rw [serializeText, toJson, n.serializeText_eq]
  | string s => by rw [serializeText, toJson, text]
  | list [] => by rw [serializeText, toJson, toItems, text]; rfl
  | list (v :: rest) => by
    rw [serializeText, serializeItems, toJson, toItems, text, serializeText_eq v,
      serializeItems_eq rest]
    rfl
  | object [] => by rw [serializeText, toJson, toFields, text]; rfl
  | object ((name, v) :: rest) => by
    rw [serializeText, serializeFields, toJson, toFields, text, serializeText_eq v,
      serializeFields_eq rest]
    simp

theorem serializeItems_eq : ∀ items : List Value,
    serializeItems false items = itemsText (toItems items)
  | [] => rfl
  | v :: rest => by
    rw [serializeItems, toItems, itemsText, serializeText_eq v, serializeItems_eq rest]

theorem serializeFields_eq : ∀ fields : List (String × Value),
    serializeFields false fields = fieldsText (toFields fields)
  | [] => rfl
  | field :: rest => by
    obtain ⟨name, v⟩ := field
    rw [serializeFields, toFields, fieldsText, serializeText_eq v, serializeFields_eq rest]

end

/-! ## Documents put together field by field -/

mutual

/-- The document of a value, where the fields of an object are written into a new record one after
    the other. -/
def collect : Value → Json
  | null => .null
  | bool b => .bool b
  | number n => n.toJson
  | string s => .string s
  | list items => .array (collectItems items)
  | object fields => .object (Record.ofList (collectFields fields))

def collectItems : List Value → List Json
  | [] => []
  | v :: rest => collect v :: collectItems rest

def collectFields : List (String × Value) → List (String × Json)
  | [] => []
  | (name, v) :: rest => (name, collect v) :: collectFields rest

end

theorem collectItems_eq {items : List Value} (h : ∀ v ∈ items, v.collect = v.toJson) :
    collectItems items = toItems items := by
  induction items with
  | nil => rfl
  | cons v rest ih =>
    obtain ⟨hv, hrest⟩ := List.forall_mem_cons.mp h
    rw [collectItems, toItems, hv, ih hrest]

theorem collectFields_eq {fields : List (String × Value)}
    (h : ∀ field ∈ fields, field.2.collect = field.2.toJson) :
    collectFields fields = toFields fields := by
  induction fields with
  | nil => rfl
  | cons field rest ih =>
    obtain ⟨hv, hrest⟩ := List.forall_mem_cons.mp h
    rw [collectFields, toFields, hv, ih hrest]

/-- Names that are distinct do not overwrite each other, so nothing is moved or lost. -/
theorem collect_eq_toJson {v : Value} (h : v.Storable) : v.collect = v.toJson := by
  induction h with
  | null | bool b | number n | string s => rfl
  | list _ _ ih => rw [collect, toJson, collectItems_eq ih]
  | @object fields distinct _ ih =>
    rw [collect, toJson, collectFields_eq ih,
      Record.ofList_of_nodup (keys_toFields fields ▸ distinct)]

/-! ## The two ways -/

theorem render_object (fields : List (String × Value)) :
    (object fields).render.toList =
      '\x7b' :: Json.Writer.listed (fields.map fun field =>
        Json.Writer.fieldText field.1 field.2.render.toList) ++ ['\x7d'] := by
  rw [render, Json.render, String.toList_ofList, toJson, Json.Writer.text_object, toFields_eq_map,
    List.map_map]
  simp only [Function.comp_def, render, Json.render, String.toList_ofList]

/-- Both ways of writing a value give one text, whatever its numbers, strings and names are and
    however deep it is nested. In it the fields of an object have their order, each with its value
    written the same way. For a value as memory can hold it that is also the text of the document
    that is put together field by field. -/
theorem writings_agree (v : Value) :
    v.serialize = v.render ∧
    (∀ fields, v = object fields → v.serialize.toList =
      '\x7b' :: Json.Writer.listed (fields.map fun field =>
        Json.Writer.fieldText field.1 field.2.serialize.toList) ++ ['\x7d']) ∧
    (v.Storable → v.serialize = v.collect.render) := by
  have hsame (w : Value) : w.serialize = w.render := by
    rw [serialize, serializeText_eq, render, Json.render]
  refine ⟨hsame v, ?_, fun hv => by rw [collect_eq_toJson hv, hsame, render]⟩
  rintro fields rfl
  simp only [hsame]
  exact render_object fields

/-- Numbers without a place in documents or with a sign only, the widest integers, a name that is
    escaped, and fields out of the order of the alphabet. -/
def awkwardFields : List (String × Value) :=
  [("z", .list [.float (Binary64.infinity true), .float Binary64.nan,
      .float (Binary64.zero true), .int Int64.minValue, .int Int64.maxValue]),
    ("\"\n", .object [("b", .list []), ("a", .object [])]),
    ("a", .null)]

theorem storable_awkwardFields : (object awkwardFields).Storable := by
  have hnumbers : (Value.list [.float (Binary64.infinity true), .float Binary64.nan,
      .float (Binary64.zero true), .int Int64.minValue, .int Int64.maxValue]).Storable := by
    refine .list (by decide) ?_
    simp only [List.forall_mem_cons]
    exact ⟨.number _, .number _, .number _, .number _, .number _, nofun⟩
  have hcontainers : (Value.object [("b", .list []), ("a", .object [])]).Storable := by
    refine .object (by decide) ?_
    simp only [List.forall_mem_cons]
    exact ⟨.list (by decide) nofun, .object List.nodup_nil nofun, nofun⟩
  refine .object (by decide) ?_
  simp only [awkwardFields, List.forall_mem_cons]
  exact ⟨hnumbers, hcontainers, .null, nofun⟩

theorem writings_agree_awkwardFields :
    (object awkwardFields).serialize = (object awkwardFields).render ∧
    (object awkwardFields).render =
      "\x7b\"z\":[null,null,-0.0,-9223372036854775808,9223372036854775807]," ++
        "\"\\\"\\n\":\x7b\"b\":[],\"a\":\x7b\x7d\x7d,\"a\":null\x7d" ∧
    (object awkwardFields).serialize.toList =
      '\x7b' :: Json.Writer.listed (awkwardFields.map fun field =>
        Json.Writer.fieldText field.1 field.2.serialize.toList) ++ ['\x7d'] ∧
    (object awkwardFields).Storable ∧
    (object awkwardFields).serialize = (object awkwardFields).collect.render := by
  obtain ⟨hsame, hfields, hcollect⟩ := writings_agree (object awkwardFields)
  exact ⟨hsame, by decide +kernel, hfields awkwardFields rfl, storable_awkwardFields,
    hcollect storable_awkwardFields⟩

end Value
end EventQuery
