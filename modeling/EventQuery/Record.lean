/-!
# Records

The fields of an object: pairs of a name and a value in the order of insertion, each name once.
Writing a field that is there already replaces its value and keeps its position
(`keys_insert`, `get?_insert`), a new one goes to the end (`insert_of_notMem`). A field that is
taken out leaves the others in their order (`keys_erase`).
-/

namespace EventQuery.Record

variable {α : Type}

/-- The value of a field. -/
def get? : List (String × α) → String → Option α
  | [], _ => none
  | (k, v) :: rest, name => if k = name then some v else get? rest name

/-- The fields with one written: in its old place if it was there, at the end if not. -/
def insert : List (String × α) → String → α → List (String × α)
  | [], name, value => [(name, value)]
  | (k, v) :: rest, name, value =>
    if k = name then (k, value) :: rest else (k, v) :: insert rest name value

/-- The fields without one; the others keep their order. -/
def erase : List (String × α) → String → List (String × α)
  | [], _ => []
  | (k, v) :: rest, name => if k = name then rest else (k, v) :: erase rest name

/-- Some fields written one after the other. -/
def ofList (fields : List (String × α)) : List (String × α) :=
  fields.foldl (fun r field => insert r field.1 field.2) []

def keys (fields : List (String × α)) : List String := fields.map (·.1)

@[simp] theorem get?_nil (name : String) : get? ([] : List (String × α)) name = none := rfl

theorem get?_cons (k : String) (v : α) (rest : List (String × α)) (name : String) :
    get? ((k, v) :: rest) name = if k = name then some v else get? rest name := rfl

/-- Reading after writing: the new value at its name, the old ones elsewhere. -/
theorem get?_insert (fields : List (String × α)) (name : String) (value : α) (other : String) :
    get? (insert fields name value) other =
      if name = other then some value else get? fields other := by
  induction fields with
  | nil => simp [insert, get?]
  | cons field rest ih =>
    obtain ⟨k, v⟩ := field
    by_cases h : k = name
    · subst h; simp [insert, get?]; split <;> rfl
    · by_cases h' : k = other
      · subst h'; simp [insert, get?, h]; intro e; exact absurd e.symm h
      · simp [insert, get?, h, h', ih]

/-- A written name is new at the end, or was there. -/
theorem keys_insert (fields : List (String × α)) (name : String) (value : α) :
    keys (insert fields name value) =
      if name ∈ keys fields then keys fields else keys fields ++ [name] := by
  induction fields with
  | nil => simp [insert, keys]
  | cons field rest ih =>
    obtain ⟨k, v⟩ := field
    by_cases h : k = name
    · subst h; simp [insert, keys]
    · have h' : ¬ name = k := fun e => h e.symm
      simp only [keys] at ih
      by_cases hm : name ∈ List.map (·.1) rest <;>
        simp_all [insert, keys]

/-- Writing keeps the names distinct. -/
theorem nodup_keys_insert {fields : List (String × α)} (h : (keys fields).Nodup) (name : String)
    (value : α) : (keys (insert fields name value)).Nodup := by
  rw [keys_insert]
  split
  · exact h
  · next hn =>
    rw [List.nodup_append]
    exact ⟨h, by simp, by
      intro a ha b hb
      simp only [List.mem_singleton] at hb
      subst hb
      exact fun e => hn (e ▸ ha)⟩

/-! ## Fields and names -/

/-- A name without a value is none of the names. -/
theorem get?_eq_none {fields : List (String × α)} {name : String} :
    get? fields name = none ↔ name ∉ keys fields := by
  induction fields with
  | nil => simp [keys]
  | cons field rest ih =>
    obtain ⟨k, v⟩ := field
    rw [get?_cons]
    by_cases h : k = name
    · subst h; simp [keys]
    · have h' : ¬name = k := fun e => h e.symm
      rw [if_neg h, ih]
      simp [keys, h']

theorem isSome_get? {fields : List (String × α)} {name : String} :
    (get? fields name).isSome ↔ name ∈ keys fields := by
  rw [← Option.ne_none_iff_isSome, Ne, get?_eq_none, Decidable.not_not]

theorem mem_of_get? {fields : List (String × α)} {name : String} {v : α}
    (h : get? fields name = some v) : (name, v) ∈ fields := by
  induction fields with
  | nil => cases h
  | cons field rest ih =>
    obtain ⟨k, w⟩ := field
    rw [get?_cons] at h
    split at h
    · next hk =>
      cases h
      simp [hk]
    · exact List.mem_cons_of_mem _ (ih h)

theorem mem_keys_of_mem {fields : List (String × α)} {name : String} {v : α}
    (h : (name, v) ∈ fields) : name ∈ keys fields := List.mem_map.mpr ⟨_, h, rfl⟩

/-- Where names are distinct a field is found under its name. -/
theorem get?_eq_some_iff {fields : List (String × α)} (hd : (keys fields).Nodup) {name : String}
    {v : α} : get? fields name = some v ↔ (name, v) ∈ fields := by
  refine ⟨mem_of_get?, fun h => ?_⟩
  induction fields with
  | nil => cases h
  | cons field rest ih =>
    obtain ⟨k, w⟩ := field
    have hd : k ∉ keys rest ∧ (keys rest).Nodup := List.nodup_cons.mp hd
    rw [get?_cons]
    rcases List.mem_cons.mp h with heq | hrest
    · cases heq
      exact if_pos rfl
    · have hk : k ≠ name := fun e => hd.1 (e ▸ mem_keys_of_mem hrest)
      rw [if_neg hk]
      exact ih hd.2 hrest

theorem keys_append (as bs : List (String × α)) : keys (as ++ bs) = keys as ++ keys bs :=
  List.map_append

/-- Reading a record that was made of a list: the first entry of the name counts. -/
theorem get?_map_pair {β : Type} (key : β → String) (value : β → α) (bs : List β) (name : String) :
    get? (bs.map fun b => (key b, value b)) name = (bs.find? (key · == name)).map value := by
  induction bs with
  | nil => rfl
  | cons b bs ih =>
    rw [List.map_cons, get?_cons, List.find?_cons, ih]
    by_cases h : key b = name
    · simp [h]
    · rw [if_neg h, show (key b == name) = false by simpa using h]

/-! ## Whole records -/

/-- A new field goes to the end. -/
theorem insert_of_notMem {fields : List (String × α)} {name : String} (h : name ∉ keys fields)
    (v : α) : insert fields name v = fields ++ [(name, v)] := by
  induction fields with
  | nil => rfl
  | cons field rest ih =>
    obtain ⟨k, w⟩ := field
    have h : name ≠ k ∧ name ∉ keys rest := by
      simpa [keys] using h
    rw [insert, if_neg (Ne.symm h.1), ih h.2, List.cons_append]

/-- Writing new fields one after the other puts them at the end as they are. -/
theorem foldl_insert_of_nodup : ∀ (fields before : List (String × α)),
    (keys (before ++ fields)).Nodup →
      fields.foldl (fun r field => insert r field.1 field.2) before = before ++ fields
  | [], before, _ => (List.append_nil before).symm
  | (name, v) :: rest, before, hd => by
    have hnew : name ∉ keys before := by
      intro hmem
      rw [keys_append, List.nodup_append] at hd
      exact hd.2.2 name hmem name List.mem_cons_self rfl
    rw [List.foldl_cons, insert_of_notMem hnew]
    rw [foldl_insert_of_nodup rest (before ++ [(name, v)]) (by simpa using hd)]
    simp

/-- Fields with distinct names are a record as they are. -/
theorem ofList_of_nodup {fields : List (String × α)} (hd : (keys fields).Nodup) :
    ofList fields = fields := foldl_insert_of_nodup fields [] hd

/-- Taking a field out leaves the other names in their order. -/
theorem keys_erase (fields : List (String × α)) (name : String) :
    keys (erase fields name) = (keys fields).erase name := by
  induction fields with
  | nil => rfl
  | cons field rest ih =>
    obtain ⟨k, v⟩ := field
    rw [erase, show keys ((k, v) :: rest) = k :: keys rest from rfl, List.erase_cons]
    by_cases h : k = name
    · simp [h]
    · simp only [h, beq_iff_eq, if_false]
      exact congrArg (k :: ·) ih

/-- Records with the same names in the same order are the same if they have the same values. -/
theorem ext_get? : ∀ {as bs : List (String × α)}, keys as = keys bs → (keys as).Nodup →
    (∀ name, get? as name = get? bs name) → as = bs
  | [], [], _, _, _ => rfl
  | (name, a) :: as, (name', b) :: bs, hkeys, hd, h => by
    obtain ⟨rfl, hrest⟩ : name = name' ∧ keys as = keys bs := List.cons.inj hkeys
    have hd : name ∉ keys as ∧ (keys as).Nodup := List.nodup_cons.mp hd
    have hfirst := h name
    rw [get?_cons, get?_cons, if_pos rfl, if_pos rfl, Option.some.injEq] at hfirst
    have hlater : ∀ other, get? as other = get? bs other := by
      intro other
      by_cases ho : name = other
      · subst ho
        rw [get?_eq_none.mpr hd.1, get?_eq_none.mpr (hrest ▸ hd.1)]
      · have hother := h other
        rwa [get?_cons, get?_cons, if_neg ho, if_neg ho] at hother
    rw [hfirst, ext_get? hrest hd.2 hlater]

/-! ## Records with the same names -/

/-- Writing a field twice leaves what was written last. -/
theorem insert_insert (fields : List (String × α)) (name : String) (v w : α) :
    insert (insert fields name v) name w = insert fields name w := by
  induction fields with
  | nil => simp [insert]
  | cons field rest ih =>
    obtain ⟨k, u⟩ := field
    by_cases h : k = name
    · simp [insert, h]
    · simp only [insert, if_neg h, ih]

/-- A field of one record is a field of any other with the same names. -/
theorem exists_get?_of_perm {β : Type} {as : List (String × α)} {bs : List (String × β)}
    (h : (keys as).Perm (keys bs)) {name : String} {a : α} (ha : get? as name = some a) :
    ∃ b, get? bs name = some b := by
  have hmem : name ∈ keys bs := h.mem_iff.mp (mem_keys_of_mem (mem_of_get? ha))
  exact Option.isSome_iff_exists.mp (isSome_get?.mpr hmem)

theorem keys_insert_perm {as bs : List (String × α)} (h : (keys as).Perm (keys bs))
    (name : String) (a b : α) : (keys (insert as name a)).Perm (keys (insert bs name b)) := by
  rw [keys_insert, keys_insert]
  by_cases hn : name ∈ keys as
  · rw [if_pos hn, if_pos (h.mem_iff.mp hn)]
    exact h
  · rw [if_neg hn, if_neg fun hb => hn (h.mem_iff.mpr hb)]
    exact h.append_right [name]

/-- Whichever of two fields is written first, the names are the same. -/
theorem keys_insert_comm (fields : List (String × α)) (name other : String) (a b c d : α) :
    (keys (insert (insert fields name a) other b)).Perm
      (keys (insert (insert fields other c) name d)) := by
  by_cases hno : name = other
  · subst hno
    rw [insert_insert, insert_insert, keys_insert, keys_insert]
  · have hon : ¬other = name := fun e => hno e.symm
    by_cases hn : name ∈ keys fields <;> by_cases ho : other ∈ keys fields <;>
      simp only [keys_insert, hn, ho, hno, hon, if_true, if_false, List.mem_append,
        List.mem_singleton, or_self, or_false, List.Perm.refl]
    rw [List.append_assoc, List.append_assoc]
    exact (List.Perm.swap other name []).append_left _

/-- Whichever of two fields is written first, their values are read. -/
theorem get?_insert_comm (fields : List (String × α)) {name other : String} (h : name ≠ other)
    (a b : α) (next : String) :
    get? (insert (insert fields name a) other b) next =
      get? (insert (insert fields other b) name a) next := by
  simp only [get?_insert]
  by_cases hn : name = next
  · subst hn
    rw [if_neg (Ne.symm h), if_pos rfl, if_pos rfl]
  · simp only [if_neg hn]

end EventQuery.Record
