import EventQuery.Registry
import Mathlib.Data.List.Forall2

/-!
# The history of a registry

A registry remembers nothing but the subscriptions that are live. Beside every run of calls we keep
the list of what was registered and not taken back, name and text (`History`). The registry is then
determined by that list: its plan is the one of the queries that the entries are read as, and it is
the registry that a fresh one becomes when the entries are registered in their order, with the same
table and the same numbers in it (`standing_ofCalls`). So no trace is left of a query that was taken
back, or refused.

The invariant of a run is `History.Current`. Every call comes to one of the outcomes listed by
`register_cases` and `deregister_cases`, and each of these keeps the invariant (`Current.step`).
-/

namespace EventQuery

/-! ## What a call comes to -/

namespace Registry

/-- There is room for another query. -/
def HasRoom (settings : Settings) (size : Nat) : Prop :=
  ∀ limit, settings.maxQueries = some limit → size < limit.toNat

theorem full?_cases (r : Registry) :
    (∃ limit, r.full? = some limit ∧ r.settings.maxQueries = some limit ∧ limit.toNat ≤ r.size) ∨
    (r.full? = none ∧ HasRoom r.settings r.size) := by
  unfold full? HasRoom
  cases hmax : r.settings.maxQueries with
  | none => exact Or.inr ⟨rfl, fun limit h => by cases h⟩
  | some limit =>
    by_cases hle : limit.toNat ≤ r.size
    · exact Or.inl ⟨limit, by simp [Option.filter, hle], rfl, hle⟩
    · refine Or.inr ⟨by simp [Option.filter, hle], ?_⟩
      intro limit' h
      cases h
      exact Nat.lt_of_not_le hle

/-- A registration is refused for one of three reasons, the first that applies, or the query goes to
    the end. -/
theorem register_cases (r : Registry) (id text : String) :
    (∃ e, Query.read r.settings.queryLimits id text = .error e ∧
      r.register id text = .error (.rejected id e)) ∨
    ∃ q, Query.read r.settings.queryLimits id text = .ok q ∧
      ((id ∈ r.ids ∧ r.register id text = .error (.alreadyRegistered id)) ∨
      (id ∉ r.ids ∧ ((∃ limit, r.settings.maxQueries = some limit ∧ limit.toNat ≤ r.size ∧
          r.register id text = .error (.full limit)) ∨
        (HasRoom r.settings r.size ∧
          r.register id text = .ok (r.withQueries (r.queries ++ [(id, q)])))))) := by
  unfold register
  cases hread : Query.read r.settings.queryLimits id text with
  | error e => exact Or.inl ⟨e, rfl, rfl⟩
  | ok q =>
    refine Or.inr ⟨q, rfl, ?_⟩
    by_cases hid : id ∈ r.ids
    · have hsome : (r.query? id).isSome = true := Record.isSome_get?.mpr hid
      exact Or.inl ⟨hid, by simp only [hsome, if_true]⟩
    · have hnone : (r.query? id).isSome = false := by
        rw [query?, Record.get?_eq_none.mpr hid]
        rfl
      refine Or.inr ⟨hid, ?_⟩
      rcases full?_cases r with ⟨limit, hfull, hmax, hle⟩ | ⟨hfull, hroom⟩
      · exact Or.inl ⟨limit, hmax, hle, by simp [hnone, hfull]⟩
      · exact Or.inr ⟨hroom, by simp [hnone, hfull, Record.insert_of_notMem hid]⟩

theorem deregister_cases (r : Registry) (id : String) :
    (id ∉ r.ids ∧ r.deregister id = .error (.notRegistered id)) ∨
    ∃ q, r.query? id = some q ∧
      r.deregister id = .ok (q, r.withQueries (Record.erase r.queries id)) := by
  unfold deregister
  cases hq : r.query? id with
  | none => exact Or.inl ⟨Record.get?_eq_none.mp hq, rfl⟩
  | some q => exact Or.inr ⟨q, rfl, rfl⟩

/-! ## Runs -/

/-- A call that changes a registry, unless it is refused. -/
inductive Call where
  | register (id text : String)
  | deregister (id : String)
deriving Repr

/-- The registry after a call. -/
def call (r : Registry) : Call → Except Error Registry
  | .register id text => r.register id text
  | .deregister id => (r.deregister id).map (·.2)

end Registry

open Registry

/-- A registry, and what was registered and not taken back, name and text, oldest first. -/
structure History where
  registry : Registry
  entries : List (String × String)

namespace History

/-- The entries after a call that was not refused. -/
def record (entries : List (String × String)) : Call → List (String × String)
  | .register id text => entries ++ [(id, text)]
  | .deregister id => Record.erase entries id

/-- One call more. -/
def step (h : History) (c : Call) : History :=
  match h.registry.call c with
  | .error _ => h
  | .ok r => ⟨r, record h.entries c⟩

/-- Some calls, one after the other, on a new registry. -/
def ofCalls (settings : Settings) (cs : List Call) : History :=
  cs.foldl step ⟨.ofSettings settings, []⟩

/-- The query was read from the text of the entry, under its name. -/
def Reads (limits : QueryLimits) (entry : String × String) (field : String × Query) : Prop :=
  field.1 = entry.1 ∧ Query.read limits entry.1 entry.2 = .ok field.2

/-- The registry holds the queries of the entries, and their plan. -/
structure Current (settings : Settings) (h : History) : Prop where
  settings_eq : h.registry.settings = settings
  reads : List.Forall₂ (Reads settings.queryLimits) h.entries h.registry.queries
  plan_eq : h.registry.plan = Plan.ofQueries (h.registry.queries.map (·.2))
  distinct : (Record.keys h.entries).Nodup
  within : ∀ limit, settings.maxQueries = some limit → h.entries.length ≤ limit.toNat

/-! ### Entries and their queries -/

section Reads

variable {limits : QueryLimits} {entries : List (String × String)} {fields : List (String × Query)}

theorem keys_of_reads (h : List.Forall₂ (Reads limits) entries fields) :
    Record.keys fields = Record.keys entries := by
  induction h with
  | nil => rfl
  | cons hread _ ih => exact congrArg₂ List.cons hread.1 ih

theorem erase_of_reads (h : List.Forall₂ (Reads limits) entries fields) (id : String) :
    List.Forall₂ (Reads limits) (Record.erase entries id) (Record.erase fields id) := by
  induction h with
  | nil => exact .nil
  | @cons entry field _ _ hread hrest ih =>
    rw [Record.erase, Record.erase, hread.1]
    split
    · exact hrest
    · exact .cons ⟨rfl, hread.2⟩ ih

/-- Under the name of an entry stands the query that its text is. -/
theorem get?_of_reads (h : List.Forall₂ (Reads limits) entries fields) {id text : String}
    (he : Record.get? entries id = some text) :
    ∃ q, Query.read limits id text = .ok q ∧ Record.get? fields id = some q := by
  induction h with
  | nil => cases he
  | @cons entry field _ _ hread hrest ih =>
    obtain ⟨hname, hq⟩ := hread
    rw [Record.get?_cons] at he ⊢
    rw [hname]
    split at he
    · next hid =>
      cases he
      exact ⟨field.2, hid ▸ hq, if_pos hid⟩
    · next hid =>
      rw [if_neg hid]
      exact ih he

end Reads

/-! ### The invariant -/

namespace Current

variable {settings : Settings} {h : History}

theorem ids_eq (hc : h.Current settings) : h.registry.ids = Record.keys h.entries :=
  keys_of_reads hc.reads

theorem size_eq (hc : h.Current settings) : h.registry.size = h.entries.length :=
  hc.reads.length_eq.symm

theorem ofSettings (settings : Settings) : Current settings ⟨.ofSettings settings, []⟩ :=
  ⟨rfl, .nil, rfl, List.nodup_nil, fun _ _ => Nat.zero_le _⟩

theorem register (hc : h.Current settings) {id text : String} {q : Query}
    (hread : Query.read settings.queryLimits id text = .ok q) (hid : id ∉ h.registry.ids)
    (hroom : HasRoom settings h.registry.size) :
    Current settings
      ⟨h.registry.withQueries (h.registry.queries ++ [(id, q)]), h.entries ++ [(id, text)]⟩ := by
  refine ⟨hc.settings_eq, ?_, rfl, ?_, ?_⟩
  · exact List.rel_append hc.reads (.cons ⟨rfl, hread⟩ .nil)
  · rw [hc.ids_eq] at hid
    rw [Record.keys_append, List.nodup_append]
    refine ⟨hc.distinct, by simp [Record.keys], ?_⟩
    intro a ha b hb
    obtain rfl : b = id := List.mem_singleton.mp hb
    exact fun e => hid (e ▸ ha)
  · intro limit hmax
    have hlt := hroom limit hmax
    rw [hc.size_eq] at hlt
    rw [List.length_append]
    exact hlt

theorem deregister (hc : h.Current settings) (id : String) :
    Current settings
      ⟨h.registry.withQueries (Record.erase h.registry.queries id), Record.erase h.entries id⟩ := by
  refine ⟨hc.settings_eq, erase_of_reads hc.reads id, rfl, ?_, ?_⟩
  · rw [Record.keys_erase]
    exact hc.distinct.erase id
  · intro limit hmax
    have hlen : (Record.erase h.entries id).length = ((Record.keys h.entries).erase id).length := by
      rw [← Record.keys_erase, Record.keys, List.length_map]
    have hle : ((Record.keys h.entries).erase id).length ≤ (Record.keys h.entries).length :=
      List.length_erase_le
    rw [hlen]
    refine Nat.le_trans hle ?_
    rw [Record.keys, List.length_map]
    exact hc.within limit hmax

/-- Every call keeps the invariant. -/
theorem step (hc : h.Current settings) (c : Call) : (h.step c).Current settings := by
  unfold History.step
  cases c with
  | register id text =>
    rw [call]
    rcases register_cases h.registry id text with
      ⟨e, -, he⟩ | ⟨q, hread, ⟨-, he⟩ | ⟨hid, ⟨limit, -, -, he⟩ | ⟨hroom, he⟩⟩⟩
    · rw [he]
      exact hc
    · rw [he]
      exact hc
    · rw [he]
      exact hc
    · rw [he]
      rw [hc.settings_eq] at hread hroom
      exact hc.register hread hid hroom
  | deregister id =>
    rw [call]
    rcases deregister_cases h.registry id with ⟨-, he⟩ | ⟨q, -, he⟩
    · rw [he]
      exact hc
    · rw [he]
      exact hc.deregister id

end Current

theorem current_foldl_step {settings : Settings} (cs : List Call) {h : History}
    (hc : h.Current settings) : (cs.foldl step h).Current settings := by
  induction cs generalizing h with
  | nil => exact hc
  | cons c cs ih => exact ih (hc.step c)

theorem current_ofCalls (settings : Settings) (cs : List Call) :
    (ofCalls settings cs).Current settings := current_foldl_step cs (.ofSettings settings)

/-! ### Registering the entries again -/

/-- The entries registered on a registry, in their order. -/
def replay (r : Registry) (entries : List (String × String)) : Except Registry.Error Registry :=
  entries.foldlM (fun r entry => r.register entry.1 entry.2) r

/-- Entries that can be read, with new names and room for them all, are registered without a
    refusal. -/
theorem replay_withQueries {settings : Settings} {r : Registry} (hs : r.settings = settings) :
    ∀ {entries : List (String × String)} {before fields : List (String × Query)},
      List.Forall₂ (Reads settings.queryLimits) entries fields →
      (Record.keys (before ++ fields)).Nodup →
      (∀ limit, settings.maxQueries = some limit → (before ++ fields).length ≤ limit.toNat) →
      replay (r.withQueries before) entries = .ok (r.withQueries (before ++ fields))
  | [], before, [], .nil, _, _ => by
    rw [List.append_nil]
    rfl
  | (id, text) :: entries, before, (name, q) :: fields, .cons hread hrest, hd, hw => by
    obtain ⟨hname, hq⟩ := hread
    obtain rfl : name = id := hname
    have hnew : name ∉ (r.withQueries before).ids := by
      intro hmem
      rw [Record.keys_append, List.nodup_append] at hd
      exact hd.2.2 name hmem name List.mem_cons_self rfl
    have hroom : HasRoom settings before.length := by
      intro limit hmax
      have hle := hw limit hmax
      rw [List.length_append, List.length_cons] at hle
      omega
    have hreg : (r.withQueries before).register name text =
        .ok (r.withQueries (before ++ [(name, q)])) := by
      rcases register_cases (r.withQueries before) name text with
        ⟨e, he, -⟩ | ⟨q', hq', ⟨hid, -⟩ | ⟨-, ⟨limit, hmax, hle, -⟩ | ⟨-, hok⟩⟩⟩
      · rw [show (r.withQueries before).settings = settings from hs, hq] at he
        cases he
      · exact absurd hid hnew
      · rw [show (r.withQueries before).settings = settings from hs] at hmax
        exact absurd hle (Nat.not_le_of_lt (hroom limit hmax))
      · rw [show (r.withQueries before).settings = settings from hs, hq] at hq'
        cases hq'
        exact hok
    -- The entry has gone to the end, and the others follow.
    have happ : before ++ (name, q) :: fields = before ++ [(name, q)] ++ fields := by simp
    rw [happ] at hd hw ⊢
    rw [replay, List.foldlM_cons, hreg]
    exact replay_withQueries hs hrest hd hw

/-- What a registry stands for: the entries of its history, and nothing else. -/
structure Standing (settings : Settings) (h : History) : Prop where
  /-- Names are distinct, and there are no more of them than the settings allow. -/
  distinct : (Record.keys h.entries).Nodup
  within : ∀ limit, settings.maxQueries = some limit → h.entries.length ≤ limit.toNat
  /-- The subscriptions are those of the entries, in their order. -/
  ids : h.registry.ids = Record.keys h.entries
  /-- Under each name stands what was read from the text of its entry, under other names nothing. -/
  query : ∀ id text, (id, text) ∈ h.entries → ∃ statement,
    Statement.read settings.queryLimits text = .ok statement ∧
      h.registry.query? id = some ⟨id, text, statement⟩
  noQuery : ∀ id, id ∉ Record.keys h.entries → h.registry.query? id = none
  /-- The queries are read from the entries, in their order, and the plan is made of them alone. -/
  reads : List.Forall₂ (Reads settings.queryLimits) h.entries h.registry.queries
  plan : h.registry.plan = Plan.ofQueries (h.registry.queries.map (·.2))
  /-- A fresh registry becomes the same registry, with the same plan, when the entries are
      registered in their order. -/
  replayed : replay (.ofSettings settings) h.entries = .ok h.registry
  /-- A registration is refused if its text cannot be read, -/
  rejected : ∀ id text e, h.registry.register id text = .error (.rejected id e) ↔
    Statement.read settings.queryLimits text = .error e
  /-- if it can, because the name is taken, -/
  alreadyRegistered : ∀ id text statement,
    Statement.read settings.queryLimits text = .ok statement →
      (h.registry.register id text = .error (.alreadyRegistered id) ↔
        id ∈ Record.keys h.entries)
  /-- if it is not, because the registry is full, -/
  full : ∀ id text statement, Statement.read settings.queryLimits text = .ok statement →
    id ∉ Record.keys h.entries → ∀ limit, (h.registry.register id text = .error (.full limit) ↔
      settings.maxQueries = some limit ∧ limit.toNat ≤ h.entries.length)
  /-- and for no other reason. -/
  registered : ∀ id text statement, Statement.read settings.queryLimits text = .ok statement →
    id ∉ Record.keys h.entries → HasRoom settings h.entries.length →
      ∃ r, h.registry.register id text = .ok r
  /-- Taking a subscription back is refused exactly if there is none of the name. -/
  notRegistered : ∀ id, (∃ e, h.registry.deregister id = .error e) ↔ id ∉ Record.keys h.entries
  /-- A refused call changes nothing. -/
  refused : ∀ c e, h.registry.call c = .error e → h.step c = h

namespace Current

variable {settings : Settings} {h : History}

theorem replayed (hc : h.Current settings) :
    replay (.ofSettings settings) h.entries = .ok h.registry := by
  have hkeys : (Record.keys ([] ++ h.registry.queries)).Nodup := by
    rw [List.nil_append, keys_of_reads hc.reads]
    exact hc.distinct
  have hlen : ∀ limit, settings.maxQueries = some limit →
      ([] ++ h.registry.queries).length ≤ limit.toNat := fun limit hmax => by
    rw [List.nil_append, ← hc.reads.length_eq]
    exact hc.within limit hmax
  have hall := replay_withQueries (r := Registry.ofSettings settings) rfl hc.reads hkeys hlen
  have hend : (Registry.ofSettings settings).withQueries h.registry.queries = h.registry := by
    have hs := hc.settings_eq
    have hp := hc.plan_eq
    cases hr : h.registry with
    | mk s qs p =>
      rw [hr] at hs hp
      simp only at hs hp
      rw [hs, hp]
      rfl
  rw [← hend]
  exact hall

theorem query?_eq (hc : h.Current settings) {id text : String} (he : (id, text) ∈ h.entries) :
    ∃ statement, Statement.read settings.queryLimits text = .ok statement ∧
      h.registry.query? id = some ⟨id, text, statement⟩ := by
  have hget := (Record.get?_eq_some_iff hc.distinct).mpr he
  obtain ⟨q, hread, hq⟩ := get?_of_reads hc.reads hget
  obtain ⟨statement, hs, rfl⟩ := Query.read_eq_ok.mp hread
  exact ⟨statement, hs, hq⟩

/-- A registration is refused for the first reason that applies, told from the entries. -/
theorem register_cases (hc : h.Current settings) (id text : String) :
    (∃ e, Statement.read settings.queryLimits text = .error e ∧
      h.registry.register id text = .error (.rejected id e)) ∨
    ∃ statement, Statement.read settings.queryLimits text = .ok statement ∧
      ((id ∈ Record.keys h.entries ∧
        h.registry.register id text = .error (.alreadyRegistered id)) ∨
      (id ∉ Record.keys h.entries ∧
        ((∃ limit, settings.maxQueries = some limit ∧ limit.toNat ≤ h.entries.length ∧
          h.registry.register id text = .error (.full limit)) ∨
        (HasRoom settings h.entries.length ∧ ∃ r, h.registry.register id text = .ok r)))) := by
  rw [← hc.ids_eq, ← hc.size_eq, ← hc.settings_eq]
  rcases Registry.register_cases h.registry id text with
    ⟨e, hread, he⟩ | ⟨q, hread, ⟨hid, he⟩ | ⟨hid, ⟨limit, hmax, hle, he⟩ | ⟨hroom, he⟩⟩⟩
  · exact Or.inl ⟨e, Query.read_eq_error.mp hread, he⟩
  all_goals obtain ⟨statement, hs, -⟩ := Query.read_eq_ok.mp hread
  · exact Or.inr ⟨statement, hs, Or.inl ⟨hid, he⟩⟩
  · exact Or.inr ⟨statement, hs, Or.inr ⟨hid, Or.inl ⟨limit, hmax, hle, he⟩⟩⟩
  · exact Or.inr ⟨statement, hs, Or.inr ⟨hid, Or.inr ⟨hroom, _, he⟩⟩⟩

theorem rejected_iff (hc : h.Current settings) (id text : String) (e : SyntaxError) :
    h.registry.register id text = .error (.rejected id e) ↔
      Statement.read settings.queryLimits text = .error e := by
  rcases hc.register_cases id text with
    ⟨e', hread, he⟩ | ⟨s, hread, ⟨-, he⟩ | ⟨-, ⟨limit, -, -, he⟩ | ⟨-, r, he⟩⟩⟩ <;>
    simp [hread, he]

theorem alreadyRegistered_iff (hc : h.Current settings) {id text : String} {s : Statement}
    (hs : Statement.read settings.queryLimits text = .ok s) :
    h.registry.register id text = .error (.alreadyRegistered id) ↔
      id ∈ Record.keys h.entries := by
  rcases hc.register_cases id text with
    ⟨e, hread, -⟩ | ⟨-, -, ⟨hid, he⟩ | ⟨hid, ⟨limit, -, -, he⟩ | ⟨-, r, he⟩⟩⟩
  · rw [hs] at hread
    cases hread
  all_goals simp [hid, he]

theorem full_iff (hc : h.Current settings) {id text : String} {s : Statement}
    (hs : Statement.read settings.queryLimits text = .ok s) (hid : id ∉ Record.keys h.entries)
    (limit : UInt64) : h.registry.register id text = .error (.full limit) ↔
      settings.maxQueries = some limit ∧ limit.toNat ≤ h.entries.length := by
  rcases hc.register_cases id text with
    ⟨e, hread, -⟩ | ⟨-, -, ⟨hid', -⟩ | ⟨-, ⟨limit', hmax, hle, he⟩ | ⟨hroom, r, he⟩⟩⟩
  · rw [hs] at hread
    cases hread
  · exact absurd hid' hid
  · rw [he, hmax]
    simp only [Except.error.injEq, Error.full.injEq, Option.some.injEq]
    exact ⟨fun h => ⟨h, h ▸ hle⟩, fun h => h.1⟩
  · rw [he]
    constructor
    · intro hfull
      cases hfull
    · rintro ⟨hmax, hle⟩
      exact absurd hle (Nat.not_le_of_lt (hroom limit hmax))

theorem registered (hc : h.Current settings) {id text : String} {s : Statement}
    (hs : Statement.read settings.queryLimits text = .ok s) (hid : id ∉ Record.keys h.entries)
    (hroom : HasRoom settings h.entries.length) : ∃ r, h.registry.register id text = .ok r := by
  rcases hc.register_cases id text with
    ⟨e, hread, -⟩ | ⟨-, -, ⟨hid', -⟩ | ⟨-, ⟨limit, hmax, hle, -⟩ | ⟨-, hok⟩⟩⟩
  · rw [hs] at hread
    cases hread
  · exact absurd hid' hid
  · exact absurd hle (Nat.not_le_of_lt (hroom limit hmax))
  · exact hok

theorem notRegistered_iff (hc : h.Current settings) (id : String) :
    (∃ e, h.registry.deregister id = .error e) ↔ id ∉ Record.keys h.entries := by
  rw [← hc.ids_eq]
  rcases deregister_cases h.registry id with ⟨hid, he⟩ | ⟨q, hq, he⟩
  · exact ⟨fun _ => hid, fun _ => ⟨_, he⟩⟩
  · have hid : id ∈ h.registry.ids := Record.mem_keys_of_mem (Record.mem_of_get? hq)
    rw [he]
    constructor
    · rintro ⟨e, hok⟩
      cases hok
    · exact fun hn => absurd hid hn

end Current

/-- Whatever was called on a registry, it stands for the entries that were registered and not taken
    back: it is the registry that a fresh one becomes by registering them in their order. -/
theorem standing_ofCalls (settings : Settings) (cs : List Call) :
    (ofCalls settings cs).Standing settings := by
  have hc := current_ofCalls settings cs
  exact {
    distinct := hc.distinct
    within := hc.within
    ids := hc.ids_eq
    query := fun _ _ => hc.query?_eq
    noQuery := fun id hid => Record.get?_eq_none.mpr (by rw [keys_of_reads hc.reads]; exact hid)
    reads := hc.reads
    plan := hc.plan_eq
    replayed := hc.replayed
    rejected := hc.rejected_iff
    alreadyRegistered := fun _ _ _ => hc.alreadyRegistered_iff
    full := fun _ _ _ => hc.full_iff
    registered := fun _ _ _ => hc.registered
    notRegistered := hc.notRegistered_iff
    refused := fun c e he => by unfold step; rw [he] }

end History
end EventQuery
