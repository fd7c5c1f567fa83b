import EventQuery.Proofs.Projection.Fanout
import EventQuery.Proofs.Query.Results

/-!
# What is kept of a selection

An entry of a select list puts its matches where they are in the event, or under a name of its own.
These names and the fields of the event are in one space, and no query is refused because two
entries meet there. So not all that is selected is kept: `select a, b as a` has one field for two
values (`not_keepsAll`).

The field goes to the entry that comes last. An entry with a name has it unless a later entry
without a name takes the whole field of the event that is called so, and an entry without a name has
all its matches unless they are in a field that an entry with a name has (`keepsUnlessTaken`).
-/

namespace EventQuery

open Projection

/-- There is a value to be written for matches exactly if there are some. -/
theorem exists_gathered? {found : List Match} :
    (∃ v, gathered? found = some v) ↔ found ≠ [] := by
  match found with
  | [] | [_] | _ :: _ :: _ => simp [gathered?]

namespace SelectItem

/-- The name that the entry is given. -/
def name? {P : Type} : SelectItem P → Option String
  | all => none
  | path _ name => name

/-- What the entry does to a projection of the event. -/
def operations (event : Value) : SelectItem Path → List Operation
  | all => []
  | path p none => (p.resolve event).map .insert
  | path p (some name) => [.insertAliased name (p.resolve event)]

/-- The writes that this comes to. -/
def writes (event : Value) (i : SelectItem Path) : List Write :=
  (i.operations event).flatMap Operation.writes

variable {event : Value} {p : Path}

theorem mem_writes_plain {w : Write} :
    w ∈ writes event (.path p none) ↔ ∃ m ∈ p.resolve event, w = ⟨m.names, m.value⟩ := by
  simp [writes, operations, Operation.writes, eq_comm]

/-- With a name there is one write, or none. -/
theorem writes_named (name : String) : writes event (.path p (some name)) =
    ((gathered? (p.resolve event)).map (Write.mk [name])).toList := by
  rw [writes, operations, List.flatMap_singleton, Operation.writes_insertAliased]

theorem mem_writes_named {name : String} {w : Write} :
    w ∈ writes event (.path p (some name)) ↔
      ∃ v, gathered? (p.resolve event) = some v ∧ w = ⟨[name], v⟩ := by
  rw [writes_named, Option.mem_toList, Option.map_eq_some_iff]
  simp only [eq_comm]

theorem run_writeInto (q : Projection) (i : SelectItem Path) :
    (i.writeInto (Query.find event) q).run = (i.operations event).foldl Operation.apply q := by
  match i with
  | .all | .path _ (some _) => rfl
  | .path p none =>
    rw [operations, List.foldl_map]
    rfl

end SelectItem

/-- The entries without a name take the whole field of the event that has the name. -/
def Retaken (event : Value) (name : String) (items : List (SelectItem Path)) : Prop :=
  ∃ p, .path p none ∈ items ∧ ∃ m ∈ p.resolve event, m.names = [name]

/-- Entries without a name write at the names of their matches, and one with a name writes under it
    if it has a match. -/
theorem written_flatMap_writes {event : Value} {items : List (SelectItem Path)}
    {names : List String} :
    Written (items.flatMap (·.writes event)) names ↔
      (∃ p, .path p none ∈ items ∧ ∃ m ∈ p.resolve event, m.names = names) ∨
      ∃ p name, .path p (some name) ∈ items ∧ p.resolve event ≠ [] ∧ names = [name] := by
  constructor
  · rintro ⟨w, hw, rfl⟩
    obtain ⟨item, hitem, hw⟩ := List.mem_flatMap.mp hw
    match item with
    | .path p none =>
      obtain ⟨m, hm, rfl⟩ := SelectItem.mem_writes_plain.mp hw
      exact Or.inl ⟨p, hitem, m, hm, rfl⟩
    | .path p (some name) =>
      obtain ⟨v, hv, rfl⟩ := SelectItem.mem_writes_named.mp hw
      exact Or.inr ⟨p, name, hitem, exists_gathered?.mp ⟨v, hv⟩, rfl⟩
  · rintro (⟨p, hp, m, hm, rfl⟩ | ⟨p, name, hp, hfound, rfl⟩)
    · exact ⟨_, List.mem_flatMap.mpr ⟨_, hp, SelectItem.mem_writes_plain.mpr ⟨m, hm, rfl⟩⟩, rfl⟩
    · obtain ⟨v, hv⟩ := exists_gathered?.mpr hfound
      exact ⟨_, List.mem_flatMap.mpr ⟨_, hp, SelectItem.mem_writes_named.mpr ⟨v, hv, rfl⟩⟩, rfl⟩

/-! ## Queries -/

namespace Query

/-- The names that a query gives in its select list. -/
def givenNames (q : Query) : List String := q.statement.select.filterMap SelectItem.name?

/-- Everything that the query selects of an event is written, entry by entry. -/
def writes (q : Query) (event : Value) : List Write :=
  q.statement.select.flatMap (·.writes event)

theorem run_foldlM_writeInto (event : Value) : ∀ (items : List (SelectItem Path)) (p : Projection),
    (items.foldlM (fun p i => SelectItem.writeInto (find event) p i) p).run =
      (items.flatMap (·.operations event)).foldl Operation.apply p
  | [], _ => rfl
  | i :: items, p => by
    rw [List.foldlM_cons, List.flatMap_cons, List.foldl_append, ← SelectItem.run_writeInto]
    exact run_foldlM_writeInto event items _

/-- What is selected of an event is what the writes of all entries come to. -/
theorem project_eq_settle {q : Query} (hall : q.statement.selectsAll = false) (event : Value) :
    q.project event = (settle (q.writes event)).toValue := by
  have hall : q.statement.select.any SelectItem.isAll = false := hall
  have hflat : q.writes event =
      (q.statement.select.flatMap (·.operations event)).flatMap Operation.writes :=
    List.flatMap_assoc.symm
  unfold project EventQuery.select
  rw [hall, hflat, ← build_eq_settle]
  exact congrArg toValue (run_foldlM_writeInto event q.statement.select .empty)

end Query

/-! ## The entry that has a field -/

/-- The last write at some names belongs to an entry with no write there after it. -/
theorem exists_of_last?_flatMap {α : Type} {f : α → List Write} {names : List String} {v : Value} :
    ∀ {items : List α}, last? (items.flatMap f) names = some v →
      ∃ before i after, items = before ++ i :: after ∧ ⟨names, v⟩ ∈ f i ∧
        ¬Written (after.flatMap f) names
  | [], h => by cases h
  | i :: items, h => by
    rw [List.flatMap_cons, last?_append] at h
    cases hlater : last? (items.flatMap f) names with
    | some u =>
      rw [hlater, Option.some_or] at h
      obtain ⟨before, j, after, rfl, hj, hnone⟩ := exists_of_last?_flatMap (hlater.trans h)
      exact ⟨i :: before, j, after, rfl, hj, hnone⟩
    | none =>
      rw [hlater, Option.none_or] at h
      obtain ⟨before, after, hwrites, -⟩ := last?_eq_some_iff.mp h
      refine ⟨[], i, items, rfl, ?_, last?_eq_none_iff.mp hlater⟩
      simp [hwrites]

/-! ## Writes of parts of the event -/

/-- All writes are of what the value has at some keys. -/
def Parts (ws : List Write) (v : Value) : Prop :=
  ∀ w ∈ ws, ∃ ks, ks.map Key.fieldName = w.names ∧ v.at? ks = some w.value

/-- Where only parts of a value are written, the keys of each lead to it. -/
theorem follow?_settle {ws : List Write} {v u : Value} (h : Parts ws v) {ks : List Key}
    (hw : ⟨ks.map Key.fieldName, u⟩ ∈ ws) (hu : v.at? ks = some u) :
    (settle ws).toValue.follow? ks = some u := by
  have hpiece : PieceOf (fun _ => True) (settle ws) v := by
    refine PieceOf.foldl_write ws (fun w hw => ?_) (.empty v)
    obtain ⟨ls, hnames, hvalue⟩ := h w hw
    exact ⟨ls, hnames, fun _ _ => trivial, hvalue⟩
  have hcovers : (settle ws).Covers (ks.map Key.fieldName) := covers_foldl_write hw .empty
  exact hpiece.follow?_toValue hcovers hu

/-- Unless the root is written, a field has what the writes inside it come to. -/
theorem get?_settle {ws : List Write} (hroot : ¬Written ws []) (name : String) :
    (settle ws).toValue.get? name =
      if inside ws name = [] then none else some (settle (inside ws name)).toValue := by
  obtain ⟨fields, hbranch, -, hget⟩ := settle_eq_branch hroot
  rw [hbranch, get?_toValue_branch, hget]
  split <;> rfl

theorem read?_settle {ws : List Write} (hroot : ¬Written ws []) (k : Key) :
    (settle ws).toValue.read? k = (settle ws).toValue.get? k.fieldName := by
  obtain ⟨fields, hbranch, -⟩ := settle_eq_branch hroot
  rw [hbranch]
  exact Value.read?_object _ k

/-- A field that is written whole has what is written there last. -/
theorem get?_settle_of_last? {ws : List Write} (hroot : ¬Written ws []) {name : String} {v : Value}
    (h : last? ws [name] = some v) : (settle ws).toValue.get? name = some v := by
  rw [last?_cons] at h
  have hinside : inside ws name ≠ [] := by
    intro hnil
    rw [hnil] at h
    cases h
  rw [get?_settle hroot, if_neg hinside, settle_eq_whole h]
  rfl

/-- The keys of a part of the event lead to it if nothing but parts of the event is to be found in
    the field where they start: be it that the event's own field was put there last, or that no
    field was put there. -/
theorem follow?_settle_of_field {ws : List Write} {event u v : Value} {k : Key} {ks : List Key}
    (hroot : ¬Written ws []) (hw : ⟨(k :: ks).map Key.fieldName, v⟩ ∈ ws)
    (hu : event.part? k = some u) (hv : u.at? ks = some v)
    (hlast : ∀ x, last? ws [k.fieldName] = some x → x = u)
    (hinside : ¬Written ws [k.fieldName] → Parts (inside ws k.fieldName) u) :
    (settle ws).toValue.follow? (k :: ks) = some v := by
  rw [Value.follow?_cons, read?_settle hroot]
  cases hwhole : last? ws [k.fieldName] with
  | some x =>
    obtain rfl := hlast x hwhole
    rw [get?_settle_of_last? hroot hwhole]
    exact Value.follow?_of_at? hv
  | none =>
    have hmem : ⟨ks.map Key.fieldName, v⟩ ∈ inside ws k.fieldName := mem_inside.mpr hw
    rw [get?_settle hroot, if_neg (List.ne_nil_of_mem hmem)]
    exact follow?_settle (hinside (last?_eq_none_iff.mp hwhole)) hmem hv

/-! ## Queries that were read -/

/-- Nothing that a query selects of an event is lost. -/
structure Query.KeepsAll (q : Query) (event : Value) : Prop where
  /-- An entry with a name that has a match has a field of this name with its value, -/
  named : ∀ p name, .path p (some name) ∈ q.statement.select → p.resolve event ≠ [] →
    ∃ v, gathered? (p.resolve event) = some v ∧ (q.project event).get? name = some v
  /-- and the keys of a match of an entry without a name lead to its value. -/
  plain : ∀ p, .path p none ∈ q.statement.select → ∀ m ∈ p.resolve event,
    (q.project event).follow? m.path = some m.value

/-- What a query selects of an event is lost only where entries with and without a name have one
    field, and then it is the last of them that has it. -/
structure Query.KeepsUnlessTaken (q : Query) (event : Value) : Prop where
  /-- An entry with a name that has a match has a field of this name with its value, unless a later
      entry takes the whole field of the event that is called so. -/
  named : ∀ before p name after, q.statement.select = before ++ .path p (some name) :: after →
    p.resolve event ≠ [] → ¬Retaken event name after →
    ∃ v, gathered? (p.resolve event) = some v ∧ (q.project event).get? name = some v
  /-- The keys of a match of an entry without a name lead to its value, unless the field in which
      they start is that of an entry with a name, and no later entry takes it whole. -/
  plain : ∀ p, .path p none ∈ q.statement.select → ∀ m ∈ p.resolve event,
    (∀ before r name after, q.statement.select = before ++ .path r (some name) :: after →
      r.resolve event ≠ [] → m.names.head? = some name → Retaken event name after) →
    (q.project event).follow? m.path = some m.value

section

variable {limits : QueryLimits} {id text : String} {q : Query} {event : Value}

/-- No entry of a query that was read takes the event as a whole. -/
theorem Query.not_written_nil (hread : Query.read limits id text = .ok q) (h : event.Storable) :
    ¬Written (q.writes event) [] := by
  rw [Query.writes, written_flatMap_writes]
  rintro (⟨p, hp, m, hm, hnil⟩ | ⟨p, name, hp, -, hnil⟩)
  · have hlen := length_of_mem_resolve h hm
    rw [List.map_eq_nil_iff.mp hnil] at hlen
    exact Query.path_ne_nil_of_read hread hp (List.length_eq_zero_iff.mp hlen.symm)
  · cases hnil

theorem Query.named_of_read (hread : Query.read limits id text = .ok q)
    (hnames : q.givenNames.Nodup) (hall : q.statement.selectsAll = false) (h : event.Storable)
    {before after : List (SelectItem Path)} {p : Path} {name : String}
    (hselect : q.statement.select = before ++ .path p (some name) :: after)
    (hfound : p.resolve event ≠ []) (hfree : ¬Retaken event name after) :
    ∃ v, gathered? (p.resolve event) = some v ∧ (q.project event).get? name = some v := by
  obtain ⟨v, hv⟩ := exists_gathered?.mpr hfound
  have hlater : ¬Written (after.flatMap (·.writes event)) [name] := by
    rw [written_flatMap_writes]
    rintro (hretaken | ⟨r, name', hr, -, heq⟩)
    · exact hfree hretaken
    · -- The name is given once.
      cases heq
      rw [Query.givenNames, hselect, List.filterMap_append] at hnames
      have hnotMem := (List.nodup_cons.mp (List.nodup_append.mp hnames).2.1).1
      exact hnotMem (List.mem_filterMap.mpr ⟨_, hr, rfl⟩)
  have hlast : last? (q.writes event) [name] = some v := by
    rw [Query.writes, hselect, List.flatMap_append, List.flatMap_cons, last?_append, last?_append,
      last?_eq_none_iff.mpr hlater, SelectItem.writes_named, hv]
    simp [last?]
  refine ⟨v, hv, ?_⟩
  rw [Query.project_eq_settle hall]
  exact get?_settle_of_last? (Query.not_written_nil hread h) hlast

/-- What was last written whole at a field is the event's own, unless an entry with a name has it. -/
theorem Query.eq_part_of_last? (h : event.Storable) {k : Key} {u x : Value}
    (hu : event.part? k = some u) (hx : last? (q.writes event) [k.fieldName] = some x)
    (hfree : ∀ before r name after, q.statement.select = before ++ .path r (some name) :: after →
      r.resolve event ≠ [] → k.fieldName = name → Retaken event name after) : x = u := by
  obtain ⟨before, item, after, hselect, hmem, hlater⟩ := exists_of_last?_flatMap hx
  match item with
  | .path r none =>
    obtain ⟨m, hm, heq⟩ := SelectItem.mem_writes_plain.mp hmem
    obtain ⟨hnames, rfl⟩ := Write.mk.inj heq
    obtain ⟨ls, hls, hx⟩ :=
      Value.at?_of_fieldName hu (Path.within_of_mem_resolve h hm) hnames.symm
    cases List.map_eq_nil_iff.mp hls
    exact (Option.some.inj hx).symm
  | .path r (some name) =>
    -- An entry after this one would have written the field again.
    obtain ⟨y, hy, heq⟩ := SelectItem.mem_writes_named.mp hmem
    have hname : k.fieldName = name := List.singleton_inj.mp (Write.mk.inj heq).1
    have hretaken := hfree before r name after hselect (exists_gathered?.mp ⟨y, hy⟩) hname
    rw [hname] at hlater
    exact absurd (written_flatMap_writes.mpr (Or.inl hretaken)) hlater

/-- In a field that no entry writes whole there are only parts of the event's own. -/
theorem Query.parts_inside (h : event.Storable) {k : Key} {u : Value}
    (hu : event.part? k = some u) (hnone : ¬Written (q.writes event) [k.fieldName]) :
    Parts (inside (q.writes event) k.fieldName) u := by
  intro w hw
  obtain ⟨item, hitem, hmem⟩ := List.mem_flatMap.mp (mem_inside.mp hw)
  match item with
  | .path r none =>
    obtain ⟨m, hm, heq⟩ := SelectItem.mem_writes_plain.mp hmem
    obtain ⟨hnames, hvalue⟩ := Write.mk.inj heq
    rw [hvalue]
    exact Value.at?_of_fieldName hu (Path.within_of_mem_resolve h hm) hnames.symm
  | .path r (some name) =>
    -- Under a name that was given something whole is written.
    obtain ⟨y, -, heq⟩ := SelectItem.mem_writes_named.mp hmem
    obtain ⟨-, hnil⟩ := List.cons.inj (Write.mk.inj heq).1
    have hwritten := mem_inside.mp hw
    rw [hnil] at hwritten
    exact absurd ⟨_, hwritten, rfl⟩ hnone

theorem Query.plain_of_read (hread : Query.read limits id text = .ok q)
    (hall : q.statement.selectsAll = false) (h : event.Storable) {p : Path}
    (hp : .path p none ∈ q.statement.select) {m : Match} (hm : m ∈ p.resolve event)
    (hfree : ∀ before r name after, q.statement.select = before ++ .path r (some name) :: after →
      r.resolve event ≠ [] → m.names.head? = some name → Retaken event name after) :
    (q.project event).follow? m.path = some m.value := by
  have hroot := Query.not_written_nil hread h
  have hw : ⟨m.names, m.value⟩ ∈ q.writes event :=
    List.mem_flatMap.mpr ⟨_, hp, SelectItem.mem_writes_plain.mpr ⟨m, hm, rfl⟩⟩
  have hwithin := Path.within_of_mem_resolve h hm
  obtain ⟨ks, v⟩ := m
  cases ks with
  | nil => exact absurd ⟨_, hw, rfl⟩ hroot
  | cons k ks =>
    rw [Match.Within, Value.at?_cons] at hwithin
    obtain ⟨u, hu, hv⟩ := Option.bind_eq_some_iff.mp hwithin
    rw [Query.project_eq_settle hall]
    refine follow?_settle_of_field hroot hw hu hv (fun x hx => ?_) (Query.parts_inside h hu)
    refine Query.eq_part_of_last? h hu hx fun before r name after hselect hfound hname => ?_
    exact hfree before r name after hselect hfound (congrArg some hname)

/-- What a query that was read, and that gives no name twice, selects of an event is there, unless
    it is in a field that an entry without a name and one with a name both have; then the last of
    these entries has it. -/
theorem Query.keepsUnlessTaken (hread : Query.read limits id text = .ok q)
    (hnames : q.givenNames.Nodup) (hall : q.statement.selectsAll = false) (h : event.Storable) :
    q.KeepsUnlessTaken event where
  named _ _ _ _ := named_of_read hread hnames hall h
  plain _ hp _ hm hfree := plain_of_read hread hall h hp hm hfree

end

/-- Two fields are selected by two entries each. -/
def meetingQuery : Query where
  id := "q"
  text := "select a, b as a, c as b, b from s"
  statement := {
    select := [.path [.key "a"] none, .path [.key "b"] (some "a"), .path [.key "c"] (some "b"),
      .path [.key "b"] none]
    stream := "s"
    window := none
    condition := none
    groupBy := []
    sample := none }

def meetingEvent : Value :=
  .object [("a", .string "first"), ("b", .string "second"), ("c", .string "third")]

set_option maxRecDepth 20000 in
theorem read_meetingQuery :
    Query.read ⟨0x100000, 64⟩ "q" meetingQuery.text = .ok meetingQuery := by
  refine Query.read_eq_ok.mpr ⟨meetingQuery.statement, ?_, rfl⟩
  cbv

theorem storable_meetingEvent : meetingEvent.Storable :=
  .object (by decide) (by simp [Value.Storable.string])

/-- One field goes to the entry with a name and one to the entry without, as each comes last. -/
theorem Query.keepsUnlessTaken_meetingQuery :
    Query.read ⟨0x100000, 64⟩ "q" meetingQuery.text = .ok meetingQuery ∧
    meetingQuery.givenNames.Nodup ∧ meetingQuery.statement.selectsAll = false ∧
    meetingEvent.Storable ∧ meetingQuery.KeepsUnlessTaken meetingEvent ∧
    meetingQuery.project meetingEvent =
      .object [("a", .string "second"), ("b", .string "second")] :=
  ⟨read_meetingQuery, by decide, rfl, storable_meetingEvent,
    Query.keepsUnlessTaken read_meetingQuery (by decide) rfl storable_meetingEvent, rfl⟩

/-- Distinct names are not enough for all that is selected to be kept. -/
theorem Query.not_keepsAll :
    ¬∀ (limits : QueryLimits) (id text : String) (q : Query) (event : Value),
      Query.read limits id text = .ok q → q.givenNames.Nodup → q.statement.selectsAll = false →
        event.Storable → q.KeepsAll event := by
  intro h
  have hkeeps := h _ _ _ _ _ read_meetingQuery (by decide) rfl storable_meetingEvent
  have hplain := hkeeps.plain [.key "a"] List.mem_cons_self
    ⟨[.field "a"], .string "first"⟩ List.mem_cons_self
  -- The first entry selects one value, and its field has another.
  have hfirst : (meetingQuery.project meetingEvent).follow? [.field "a"] =
      some (.string "second") := rfl
  rw [hfirst] at hplain
  simp at hplain

end EventQuery
