import EventQuery.Proofs.Projection.Order
import EventQuery.Query.Statement

/-!
# What a projection comes to

A projection is put together by writes, and a write may replace what earlier ones have built or be
dropped because of them. What comes out can be said without going through them in order. Every
operation on a projection is a write of one value at a list of names, or none
(`Operation.writes`), and of all the writes together a few questions decide what stands at some
names (`Settled`).

* Was something written at these names, and nothing at names above them, be it earlier or later?
  Then the value that was written there last stands there, whole.
* Was nothing written at these names or above them, but something inside? Then an object stands
  there, and its fields come in the order of the first writes that went through them.
* Otherwise nothing stands there.

The proof takes one name off at a time: unless the root is written, what a projection has under a
name is what the writes below this name come to by themselves (`settle_eq_branch`).
-/

namespace EventQuery
namespace Projection

/-! ## Operations and writes -/

/-- A value to be written at a list of names. -/
structure Write where
  names : List String
  value : Value

/-- What can be done to a projection under construction. -/
inductive Operation where
  /-- A match is written at the names of its keys. -/
  | insert (m : Match)
  /-- The matches of a renamed path are written under their name. -/
  | insertAliased (name : String) (found : List Match)

namespace Operation

/-- The projection after the operation. -/
def apply (p : Projection) : Operation → Projection
  | insert m => p.insert m
  | insertAliased name found => p.insertAliased name found

/-- What is written: of no matches nothing, of a single one its value, and of several the projection
    that they make by themselves without the keys that they share. -/
def writes : Operation → List Write
  | insert m => [⟨m.names, m.value⟩]
  | insertAliased _ [] => []
  | insertAliased name [single] => [⟨[name], single.value⟩]
  | insertAliased name several =>
    let shared := sharedDepth several
    [⟨[name], (ofMatches (several.map fun m => ⟨m.path.drop shared, m.value⟩)).toValue⟩]

/-- Matches under a name are written there as the value that stands for them, if there is one. -/
theorem writes_insertAliased (name : String) (found : List Match) :
    (insertAliased name found).writes = ((gathered? found).map (Write.mk [name])).toList := by
  match found with
  | [] | [_] | _ :: _ :: _ => rfl

end Operation

/-- The projection that some operations build. -/
def build (ops : List Operation) : Projection := ops.foldl Operation.apply .empty

/-- The projection with a write carried out. -/
def put (p : Projection) (w : Write) : Projection := p.write w.names w.value

/-- The projection that some writes build. -/
def settle (ws : List Write) : Projection := ws.foldl put .empty

theorem apply_eq_foldl_put (p : Projection) (op : Operation) :
    op.apply p = op.writes.foldl put p := by
  match op with
  | .insert m => rfl
  | .insertAliased name [] => rfl
  | .insertAliased name [single] => rfl
  | .insertAliased name (first :: second :: rest) => rfl

theorem build_eq_settle (ops : List Operation) :
    build ops = settle (ops.flatMap Operation.writes) := by
  rw [build, settle, List.foldl_flatMap]
  exact congrArg (fun f => ops.foldl f .empty) (funext₂ apply_eq_foldl_put)

/-! ## Questions about writes -/

/-- Something is written at these names. -/
def Written (ws : List Write) (names : List String) : Prop := ∃ w ∈ ws, w.names = names

/-- Nothing is written above these names. -/
def Open (ws : List Write) (names : List String) : Prop :=
  ∀ above, above <+: names → above ≠ names → ¬Written ws above

/-- Some write comes to these names, or they are the root. -/
def Reached (ws : List Write) (names : List String) : Prop :=
  names = [] ∨ ∃ w ∈ ws, names <+: w.names

/-- The value that is written last at some names. -/
def last? : List Write → List String → Option Value
  | [], _ => none
  | w :: ws, names => (last? ws names).or (if w.names = names then some w.value else none)

/-- The name after some others, in a longer list that starts with these. -/
def nextAfter? (names longer : List String) : Option String :=
  if names <+: longer then longer[names.length]? else none

/-- The names that writes go on with after the given ones, in the order of the first write that does
    so. -/
def passing (ws : List Write) (names : List String) : List String :=
  firstOccurrences (ws.filterMap fun w => nextAfter? names w.names)

/-- What a projection under construction has at the end of some names. -/
def node? : Projection → List String → Option Projection
  | p, [] => some p
  | .whole _, _ :: _ => none
  | .branch fields, name :: names => (Record.get? fields name).bind (·.node? names)

/-- The projection is what the writes come to. -/
structure Settled (ws : List Write) (p : Projection) : Prop where
  /-- A whole value stands where something was written and nothing above it, before or after; it is
      what was written there last. -/
  whole : ∀ names v, p.node? names = some (.whole v) ↔ last? ws names = some v ∧ Open ws names
  /-- An object stands on the way to something written, unless there or above it something was
      written. -/
  branch : ∀ names, (∃ fields, p.node? names = some (.branch fields)) ↔
    Reached ws names ∧ Open ws names ∧ ¬Written ws names
  /-- Its fields come in the order of the first writes that went through them. -/
  order : ∀ names fields, p.node? names = some (.branch fields) →
    Record.keys fields = passing ws names

theorem last?_append (ws ws' : List Write) (names : List String) :
    last? (ws ++ ws') names = (last? ws' names).or (last? ws names) := by
  induction ws with
  | nil => simp [last?]
  | cons w ws ih => rw [List.cons_append, last?, ih, last?, Option.or_assoc]

theorem last?_eq_none_iff {ws : List Write} {names : List String} :
    last? ws names = none ↔ ¬Written ws names := by
  induction ws with
  | nil => simp [last?, Written]
  | cons w ws ih =>
    rw [last?, Option.or_eq_none_iff, ih, Written, Written, List.exists_mem_cons_iff]
    by_cases h : w.names = names
    · simp [h]
    · simp [h]

theorem isSome_last?_iff {ws : List Write} {names : List String} :
    (∃ v, last? ws names = some v) ↔ Written ws names := by
  rw [← Option.ne_none_iff_exists', Ne, last?_eq_none_iff, Classical.not_not]

/-- The last value written at some names is that of a write with no other at these names after
    it. -/
theorem last?_eq_some_iff {ws : List Write} {names : List String} {v : Value} :
    last? ws names = some v ↔
      ∃ before after, ws = before ++ ⟨names, v⟩ :: after ∧ ¬Written after names := by
  constructor
  · intro h
    induction ws with
    | nil => cases h
    | cons w ws ih =>
      cases hlater : last? ws names with
      | some u =>
        rw [last?, hlater] at h
        obtain ⟨before, after, rfl, hnone⟩ := ih (hlater.trans h)
        exact ⟨w :: before, after, rfl, hnone⟩
      | none =>
        rw [last?, hlater, Option.none_or] at h
        split at h
        · next hw =>
          cases h
          subst hw
          exact ⟨[], ws, rfl, last?_eq_none_iff.mp hlater⟩
        · cases h
  · rintro ⟨before, after, rfl, hnone⟩
    rw [last?_append, last?, last?_eq_none_iff.mpr hnone]
    simp

/-! ## Inside a name -/

/-- The write as it is seen from inside a name, if it goes there. -/
def Write.inside? (name : String) (w : Write) : Option Write :=
  match w.names with
  | [] => none
  | first :: rest => if first = name then some ⟨rest, w.value⟩ else none

/-- The writes that go inside a name. -/
def inside (ws : List Write) (name : String) : List Write := ws.filterMap (Write.inside? name)

/-- The writes that go inside some names, one after the other. -/
def under : List Write → List String → List Write
  | ws, [] => ws
  | ws, name :: names => under (inside ws name) names

theorem mem_inside {ws : List Write} {name : String} {w : Write} :
    w ∈ inside ws name ↔ ⟨name :: w.names, w.value⟩ ∈ ws := by
  rw [inside, List.mem_filterMap]
  constructor
  · rintro ⟨⟨names, v⟩, hw, h⟩
    cases names with
    | nil => cases h
    | cons first rest =>
      simp only [Write.inside?] at h
      split at h
      · next hfirst =>
        cases h
        rwa [hfirst] at hw
      · cases h
  · intro hw
    exact ⟨_, hw, if_pos rfl⟩

theorem written_cons {ws : List Write} {name : String} {names : List String} :
    Written ws (name :: names) ↔ Written (inside ws name) names := by
  constructor
  · rintro ⟨⟨chain, v⟩, hw, rfl⟩
    exact ⟨⟨names, v⟩, mem_inside.mpr hw, rfl⟩
  · rintro ⟨w, hw, rfl⟩
    exact ⟨_, mem_inside.mp hw, rfl⟩

theorem last?_cons (ws : List Write) (name : String) (names : List String) :
    last? ws (name :: names) = last? (inside ws name) names := by
  induction ws with
  | nil => rfl
  | cons w ws ih =>
    obtain ⟨chain, v⟩ := w
    cases chain with
    | nil =>
      have hinside : inside (⟨[], v⟩ :: ws) name = inside ws name := rfl
      simp [last?, hinside, ih]
    | cons first rest =>
      by_cases h : first = name
      · simp [last?, inside, Write.inside?, ih, h]
      · simp [last?, inside, Write.inside?, ih, h]

theorem open_nil (ws : List Write) : Open ws [] := by
  intro above habove hne
  exact absurd (List.prefix_nil.mp habove) hne

theorem open_cons {ws : List Write} {name : String} {names : List String} :
    Open ws (name :: names) ↔ ¬Written ws [] ∧ Open (inside ws name) names := by
  constructor
  · intro h
    refine ⟨h [] List.nil_prefix (by simp), ?_⟩
    intro above habove hne hw
    refine h (name :: above) (List.cons_prefix_cons.mpr ⟨rfl, habove⟩) ?_ (written_cons.mpr hw)
    simpa using hne
  · rintro ⟨hroot, h⟩ above habove hne hw
    cases above with
    | nil => exact hroot hw
    | cons first above =>
      obtain ⟨rfl, hpre⟩ := List.cons_prefix_cons.mp habove
      exact h above hpre (by simpa using hne) (written_cons.mp hw)

theorem reached_cons {ws : List Write} {name : String} {names : List String} :
    Reached ws (name :: names) ↔ inside ws name ≠ [] ∧ Reached (inside ws name) names := by
  constructor
  · rintro (h | ⟨⟨chain, v⟩, hw, hpre⟩)
    · cases h
    · cases chain with
      | nil => cases List.prefix_nil.mp hpre
      | cons first rest =>
        obtain ⟨rfl, hrest⟩ := List.cons_prefix_cons.mp hpre
        have hmem : (⟨rest, v⟩ : Write) ∈ inside ws name := mem_inside.mpr hw
        exact ⟨List.ne_nil_of_mem hmem, Or.inr ⟨_, hmem, hrest⟩⟩
  · rintro ⟨hne, h⟩
    rcases h with rfl | ⟨w, hw, hpre⟩
    · obtain ⟨w, hw⟩ := List.exists_mem_of_ne_nil _ hne
      exact Or.inr ⟨_, mem_inside.mp hw, List.cons_prefix_cons.mpr ⟨rfl, List.nil_prefix⟩⟩
    · exact Or.inr ⟨_, mem_inside.mp hw, List.cons_prefix_cons.mpr ⟨rfl, hpre⟩⟩

theorem nextAfter?_nil (longer : List String) : nextAfter? [] longer = longer.head? := by
  rw [nextAfter?, if_pos List.nil_prefix, List.head?_eq_getElem?]
  rfl

theorem bind_inside?_nextAfter? (name : String) (names : List String) (w : Write) :
    (w.inside? name).bind (fun u => nextAfter? names u.names) =
      nextAfter? (name :: names) w.names := by
  obtain ⟨chain, v⟩ := w
  cases chain with
  | nil => simp [Write.inside?, nextAfter?]
  | cons first rest =>
    by_cases h : first = name
    · simp [Write.inside?, nextAfter?, h]
    · simp [Write.inside?, nextAfter?, h, Ne.symm h]

theorem passing_cons (ws : List Write) (name : String) (names : List String) :
    passing ws (name :: names) = passing (inside ws name) names := by
  rw [passing, passing, inside, List.filterMap_filterMap]
  simp only [bind_inside?_nextAfter?]

/-- What is written below some names is written at longer ones. -/
theorem last?_under : ∀ (names : List String) (ws : List Write),
    last? (under ws names) [] = last? ws names
  | [], _ => rfl
  | name :: names, ws => by rw [under, last?_under names, last?_cons]

theorem written_under {names : List String} {ws : List Write} :
    Written (under ws names) [] ↔ Written ws names := by
  rw [← isSome_last?_iff, last?_under, isSome_last?_iff]

theorem passing_under : ∀ (names : List String) (ws : List Write),
    passing (under ws names) [] = passing ws names
  | [], _ => rfl
  | name :: names, ws => by rw [under, passing_under names, passing_cons]

/-! ## The root -/

theorem foldl_put_whole (v : Value) {ws : List Write} (h : ¬Written ws []) :
    ws.foldl put (.whole v) = .whole v := by
  induction ws with
  | nil => rfl
  | cons w ws ih =>
    obtain ⟨chain, u⟩ := w
    cases chain with
    | nil => exact absurd ⟨_, List.mem_cons_self, rfl⟩ h
    | cons first rest => exact ih fun ⟨w, hw, hnames⟩ => h ⟨w, List.mem_cons_of_mem _ hw, hnames⟩

/-- What is written last at the root is all there is. -/
theorem settle_eq_whole {ws : List Write} {v : Value} (h : last? ws [] = some v) :
    settle ws = .whole v := by
  obtain ⟨before, after, rfl, hnone⟩ := last?_eq_some_iff.mp h
  rw [settle, List.foldl_append, List.foldl_cons, put, write_nil]
  exact foldl_put_whole v hnone

/-- Writing into a branch is writing under each name what goes below it. -/
theorem foldl_put_branch {ws : List Write} (h : ¬Written ws []) :
    ∀ fields : List (String × Projection), ∃ fields',
      ws.foldl put (.branch fields) = .branch fields' ∧
      Record.keys fields' =
        (ws.filterMap fun w => w.names.head?).foldl addNew (Record.keys fields) ∧
      ∀ name, Record.get? fields' name =
        if inside ws name = [] then Record.get? fields name
        else some ((inside ws name).foldl put ((Record.get? fields name).getD .empty)) := by
  induction ws with
  | nil => exact fun fields => ⟨fields, rfl, rfl, fun name => (if_pos rfl).symm⟩
  | cons w ws ih =>
    intro fields
    obtain ⟨chain, v⟩ := w
    cases chain with
    | nil => exact absurd ⟨_, List.mem_cons_self, rfl⟩ h
    | cons first rest =>
      have hrest : ¬Written ws [] := fun ⟨w, hw, hnames⟩ =>
        h ⟨w, List.mem_cons_of_mem _ hw, hnames⟩
      obtain ⟨fields', hfold, hkeys, hget⟩ := ih hrest
        (Record.insert fields first (((Record.get? fields first).getD .empty).write rest v))
      refine ⟨fields', ?_, ?_, ?_⟩
      · rw [List.foldl_cons, put, write_branch, hfold]
      · rw [hkeys, Record.keys_insert]
        rfl
      · intro name
        rw [hget, Record.get?_insert]
        by_cases hname : first = name
        · -- The write goes below this name, in front of those that follow it.
          subst hname
          have hinside : inside (⟨first :: rest, v⟩ :: ws) first =
              ⟨rest, v⟩ :: inside ws first := by
            simp [inside, Write.inside?]
          rw [hinside, if_pos rfl, if_neg (List.cons_ne_nil _ _), List.foldl_cons]
          split
          · next hnone =>
            rw [hnone]
            rfl
          · rfl
        · have hinside : inside (⟨first :: rest, v⟩ :: ws) name = inside ws name := by
            simp [inside, Write.inside?, hname]
          rw [hinside, if_neg hname]

/-- Unless the root is written, an object comes out, and under each name stands what the writes
    below it come to. -/
theorem settle_eq_branch {ws : List Write} (h : ¬Written ws []) : ∃ fields,
    settle ws = .branch fields ∧ Record.keys fields = passing ws [] ∧
    ∀ name, Record.get? fields name =
      if inside ws name = [] then none else some (settle (inside ws name)) := by
  obtain ⟨fields, hfold, hkeys, hget⟩ := foldl_put_branch h []
  refine ⟨fields, hfold, ?_, hget⟩
  rw [hkeys, passing]
  simp only [nextAfter?_nil]
  rfl

theorem settle_eq_whole_iff {ws : List Write} {v : Value} :
    settle ws = .whole v ↔ last? ws [] = some v := by
  refine ⟨fun h => ?_, settle_eq_whole⟩
  cases hlast : last? ws [] with
  | some u =>
    rw [settle_eq_whole hlast] at h
    cases h
    rfl
  | none =>
    obtain ⟨fields, hbranch, -⟩ := settle_eq_branch (last?_eq_none_iff.mp hlast)
    rw [hbranch] at h
    cases h

theorem exists_settle_eq_branch_iff {ws : List Write} :
    (∃ fields, settle ws = .branch fields) ↔ ¬Written ws [] := by
  constructor
  · rintro ⟨fields, hbranch⟩ hw
    obtain ⟨v, hv⟩ := isSome_last?_iff.mpr hw
    rw [settle_eq_whole hv] at hbranch
    cases hbranch
  · intro h
    obtain ⟨fields, hbranch, -⟩ := settle_eq_branch h
    exact ⟨fields, hbranch⟩

/-! ## Every place -/

/-- At the end of some names stands what the writes below them come to, if they are reached and
    nothing is written above them. -/
theorem node?_settle {p : Projection} : ∀ {names : List String} {ws : List Write},
    (settle ws).node? names = some p ↔
      Reached ws names ∧ Open ws names ∧ settle (under ws names) = p
  | [], ws => by
    rw [node?, Option.some.injEq]
    exact ⟨fun h => ⟨Or.inl rfl, open_nil ws, h⟩, fun h => h.2.2⟩
  | name :: names, ws => by
    rw [reached_cons, open_cons, under]
    by_cases hroot : Written ws []
    · obtain ⟨v, hv⟩ := isSome_last?_iff.mpr hroot
      rw [settle_eq_whole hv]
      exact ⟨fun h => (by cases h), fun h => absurd hroot h.2.1.1⟩
    · obtain ⟨fields, hbranch, -, hget⟩ := settle_eq_branch hroot
      rw [hbranch, node?, hget]
      by_cases hinside : inside ws name = []
      · rw [if_pos hinside]
        exact ⟨fun h => (by cases h), fun h => absurd hinside h.1.1⟩
      · rw [if_neg hinside, Option.bind_some, node?_settle]
        constructor
        · rintro ⟨hreached, hopen, hp⟩
          exact ⟨⟨hinside, hreached⟩, ⟨hroot, hopen⟩, hp⟩
        · rintro ⟨⟨-, hreached⟩, ⟨-, hopen⟩, hp⟩
          exact ⟨hreached, hopen, hp⟩

theorem Written.reached {ws : List Write} {names : List String} (h : Written ws names) :
    Reached ws names := by
  obtain ⟨w, hw, rfl⟩ := h
  exact Or.inr ⟨w, hw, List.prefix_rfl⟩

theorem settled_settle (ws : List Write) : Settled ws (settle ws) where
  whole names v := by
    rw [node?_settle, settle_eq_whole_iff, last?_under]
    constructor
    · rintro ⟨-, hopen, hlast⟩
      exact ⟨hlast, hopen⟩
    · rintro ⟨hlast, hopen⟩
      exact ⟨(isSome_last?_iff.mp ⟨v, hlast⟩).reached, hopen, hlast⟩
  branch names := by
    simp only [node?_settle, exists_and_left, exists_settle_eq_branch_iff, written_under]
  order names fields h := by
    obtain ⟨-, -, hbranch⟩ := node?_settle.mp h
    have hroot := exists_settle_eq_branch_iff.mp ⟨fields, hbranch⟩
    obtain ⟨fields', hbranch', hkeys, -⟩ := settle_eq_branch hroot
    rw [hbranch] at hbranch'
    cases hbranch'
    rw [hkeys, passing_under]

/-! ## Nothing is left open -/

/-- What the writes below a name come to is what stands under the name. -/
theorem Settled.field {ws : List Write} {fields : List (String × Projection)}
    (h : Settled ws (.branch fields)) {name : String} {p : Projection}
    (hp : Record.get? fields name = some p) : Settled (inside ws name) p := by
  obtain ⟨-, -, hroot⟩ := (h.branch []).mp ⟨fields, rfl⟩
  have hnode : ∀ names, p.node? names = (Projection.branch fields).node? (name :: names) := by
    intro names
    rw [node?, hp, Option.bind_some]
  have hinside : inside ws name ≠ [] := by
    -- The name is there because some write goes on with it.
    have hname : name ∈ passing ws [] := by
      rw [← h.order [] fields rfl]
      exact Record.mem_keys_of_mem (Record.mem_of_get? hp)
    rw [passing, mem_firstOccurrences, List.mem_filterMap] at hname
    obtain ⟨⟨chain, v⟩, hw, hnext⟩ := hname
    rw [nextAfter?_nil] at hnext
    obtain ⟨rest, rfl⟩ := List.head?_eq_some_iff.mp hnext
    exact List.ne_nil_of_mem (a := ⟨rest, v⟩) (mem_inside.mpr hw)
  refine ⟨?_, ?_, ?_⟩
  · intro names v
    rw [hnode, h.whole, last?_cons, open_cons]
    exact and_congr_right fun _ => and_iff_right hroot
  · intro names
    simp only [hnode]
    rw [h.branch, reached_cons, open_cons, written_cons]
    simp only [hroot, hinside, ne_eq, not_false_eq_true, true_and]
  · intro names fields' hfields
    rw [hnode] at hfields
    rw [h.order _ _ hfields, passing_cons]

/-- There is one projection that the writes come to. -/
theorem Settled.eq_settle : ∀ {ws : List Write} {p : Projection}, Settled ws p → p = settle ws
  | ws, .whole v, h => (settle_eq_whole ((h.whole [] v).mp rfl).1).symm
  | ws, .branch fields, h => by
    obtain ⟨-, -, hroot⟩ := (h.branch []).mp ⟨fields, rfl⟩
    obtain ⟨fields', hbranch, hkeys', hget'⟩ := settle_eq_branch hroot
    have hkeys : Record.keys fields = passing ws [] := h.order [] fields rfl
    have hget : ∀ name, Record.get? fields name = Record.get? fields' name := by
      intro name
      cases hp : Record.get? fields name with
      | none =>
        rw [Record.get?_eq_none, hkeys, ← hkeys', ← Record.get?_eq_none] at hp
        exact hp.symm
      | some p =>
        have hlt := sizeOf_field hp
        have hsome : (Record.get? fields' name).isSome := by
          rw [Record.isSome_get?, hkeys', ← hkeys]
          exact Record.mem_keys_of_mem (Record.mem_of_get? hp)
        rw [hget'] at hsome ⊢
        split at hsome
        · cases hsome
        · next hinside => rw [if_neg hinside, (h.field hp).eq_settle]
    have hnodup : (Record.keys fields).Nodup := by
      rw [hkeys]
      exact nodup_firstOccurrences _
    rw [hbranch, Record.ext_get? (hkeys.trans hkeys'.symm) hnodup hget]
termination_by _ p => sizeOf p
decreasing_by exact hlt

/-- A document has at the end of some names the value of what stands there. -/
theorem reach?_toValue : ∀ {names : List String} {p q : Projection}, p.node? names = some q →
    p.toValue.reach? names = some q.toValue
  | [], p, q, h => by
    cases h
    rfl
  | name :: names, .whole v, q, h => by cases h
  | name :: names, .branch fields, q, h => by
    obtain ⟨p, hp, hq⟩ := Option.bind_eq_some_iff.mp h
    rw [Value.reach?_cons, get?_toValue_branch, hp]
    exact reach?_toValue hq

/-- Whatever is done to a projection, it comes to what the writes come to all together, and there is
    one projection only that they come to. If the root was written, that is the last value written
    there, and what is written under a name is dropped from then on. If not, it is an object, and
    its document has at every place the value of what stands there. -/
theorem settled_build (ops : List Operation) :
    Settled (ops.flatMap Operation.writes) (build ops) ∧
    (∀ p, Settled (ops.flatMap Operation.writes) p → p = build ops) ∧
    (∀ v, last? (ops.flatMap Operation.writes) [] = some v → (build ops).toValue = v) ∧
    (∀ v, build ops = .whole v → ∀ name found,
      build (ops ++ [.insertAliased name found]) = .whole v) ∧
    (¬Written (ops.flatMap Operation.writes) [] → ∃ fields, (build ops).toValue = .object fields ∧
      Record.keys fields = passing (ops.flatMap Operation.writes) []) ∧
    (∀ names p, (build ops).node? names = some p →
      (build ops).toValue.reach? names = some p.toValue) := by
  have hsettled : Settled (ops.flatMap Operation.writes) (build ops) := by
    rw [build_eq_settle]
    exact settled_settle _
  refine ⟨hsettled, ?_, ?_, ?_, ?_, fun names p => reach?_toValue⟩
  · intro p hp
    rw [build_eq_settle]
    exact hp.eq_settle
  · intro v hv
    rw [build_eq_settle, settle_eq_whole hv]
    rfl
  · intro v hv name found
    have hnone : ¬Written (Operation.insertAliased name found).writes [] := by
      rintro ⟨w, hw, hnames⟩
      rw [Operation.writes_insertAliased, Option.mem_toList] at hw
      obtain ⟨u, -, rfl⟩ := Option.map_eq_some_iff.mp hw
      cases hnames
    rw [build, List.foldl_append, ← build, hv, List.foldl_cons, List.foldl_nil,
      apply_eq_foldl_put]
    exact foldl_put_whole v hnone
  · intro hroot
    obtain ⟨fields, hbranch⟩ := (hsettled.branch []).mpr ⟨Or.inl rfl, open_nil _, hroot⟩
    have hbuild : build ops = .branch fields := Option.some.inj hbranch
    refine ⟨toFields fields, congrArg toValue hbuild, ?_⟩
    rw [keys_toFields]
    exact hsettled.order [] fields hbranch

/-- Writes that meet at a field, in it and above it. -/
def meetingOperations : List Operation :=
  [.insert ⟨[.field "a", .index 1], .bool true⟩, .insert ⟨[.field "b"], .null⟩,
    .insertAliased "a" [⟨[.field "c"], .bool false⟩],
    .insert ⟨[.field "a", .field "1"], .null⟩]

/-- A rebuilt branch gives way to a whole value, in its place, and nothing is written into that. -/
theorem settled_build_meetingOperations :
    Settled (meetingOperations.flatMap Operation.writes) (build meetingOperations) ∧
    (build meetingOperations).toValue = .object [("a", .bool false), ("b", .null)] :=
  ⟨(settled_build meetingOperations).1, rfl⟩

end Projection
end EventQuery
