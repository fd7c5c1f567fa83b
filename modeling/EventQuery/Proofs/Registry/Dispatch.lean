import EventQuery.Proofs.Plan.Equivalence
import EventQuery.Proofs.Registry.History
import EventQuery.Proofs.Sampling.Buckets

/-!
# What is delivered

Dispatching an event puts two lists side by side, the queries of the plan with their sample clauses
and the answers of the plan under their names, and relies on each query standing next to its own
answer. That they do is no accident of one list: names in a registry are distinct, so the plan binds
every query and keeps their order, and no answer takes the place of another.

With the pairing settled, a delivery is what the query selects of the event, and it is made exactly
if the event matches and the clause of the same query lets it through (`dispatch_ofCalls`). Where a
clause has no factor, that of the settings stands for it.
-/

namespace EventQuery

/-! ## Filtering with draws -/

/-- Where the draws do not change any decision, filtering with draws is filtering. -/
theorem run_filterMapM {α β γ σ : Type} {f : α → StateM σ (Option β)} {g : γ → Option β} :
    ∀ {as : List α} {cs : List γ}, List.Forall₂ (fun a c => ∀ s, ((f a).run s).1 = g c) as cs →
      ∀ s, ((as.filterMapM f).run s).1 = cs.filterMap g
  | [], [], .nil, _ => rfl
  | a :: as, c :: cs, .cons hfirst hrest, s => by
    have hrun : ∀ next : Option β → StateM σ (List β),
        ((f a >>= next).run s).1 = ((next ((f a).run s).1).run ((f a).run s).2).1 :=
      fun next => rfl
    rw [List.filterMapM_cons, List.filterMap_cons, ← hfirst s, hrun]
    cases ((f a).run s).1 with
    | none => exact run_filterMapM hrest _
    | some b => exact congrArg (b :: ·) (run_filterMapM hrest _)

/-- Taking what passes, and something for each of it. -/
theorem filterMap_guard {α β : Type} (p : α → Bool) (f : α → β) (as : List α) :
    as.filterMap (fun a => (Option.guard p a).map f) = (as.filter p).map f := by
  rw [← List.filterMap_eq_filter, List.map_filterMap]

namespace Plan

theorem foldl_keep_of_nodup : ∀ (qs ks : List Query), ((ks ++ qs).map Query.id).Nodup →
    qs.foldl keep ks = ks ++ qs
  | [], ks, _ => (List.append_nil ks).symm
  | q :: qs, ks, hd => by
    have hnew : ¬ks.any (·.id == q.id) = true := by
      intro hany
      obtain ⟨k, hk, hid⟩ := List.any_eq_true.mp hany
      rw [List.map_append, List.nodup_append] at hd
      exact hd.2.2 k.id (List.mem_map_of_mem hk) q.id List.mem_cons_self (by simpa using hid)
    have hrest : ((ks ++ [q] ++ qs).map Query.id).Nodup := by rwa [List.append_assoc]
    rw [List.foldl_cons, keep, if_neg hnew, foldl_keep_of_nodup qs (ks ++ [q]) hrest]
    rw [List.append_assoc, List.singleton_append]

/-- Queries with distinct names all count. -/
theorem kept_of_nodup {qs : List Query} (hd : (qs.map Query.id).Nodup) : kept qs = qs :=
  foldl_keep_of_nodup qs [] hd

end Plan

/-! ## Queries and their answers -/

namespace Registry

/-- What dispatching makes of a bound query and an answer that stands next to it. -/
def deliver (s : Sampler) (event : Value) :
    BoundQuery × String × Answer → StateM Draws (Option (String × Value))
  | (_, _, .missed) => return none
  | (q, id, .matched v) => do
    if ← s.admits q.sample event then return some (id, v) else return none

theorem run_dispatch (r : Registry) (event : Value) (d : Draws) :
    ((r.dispatch event).run d).1 = Record.ofList
      (((r.plan.queries.zip (r.evaluate event)).filterMapM
        (deliver (.ofFactor r.settings.sampleFactor) event)).run d).1 := by
  refine congrArg (fun f : BoundQuery × String × Answer → StateM Draws (Option (String × Value)) =>
    Record.ofList ((List.filterMapM f _).run d).1) (funext fun x => ?_)
  rcases x with ⟨q, id, _ | v⟩ <;> rfl

/-- The event is delivered to the query: it matches, and the clause of the query lets it through,
    with these draws at hand. -/
def delivers (s : Sampler) (event : Value) (d : Draws) (q : Query) : Bool :=
  q.holds event && ((s.admits q.statement.sample event).run d).1

variable {s : Sampler} {event : Value} {T : PathTable}

theorem run_deliver_matched (b : BoundQuery) (id : String) (v : Value) (d : Draws) :
    ((deliver s event (b, id, .matched v)).run d).1 =
      if ((s.admits b.sample event).run d).1 then some (id, v) else none := by
  simp only [deliver, StateT.run_bind]
  rcases (s.admits b.sample event).run d with ⟨_ | _, d'⟩ <;> rfl

/-- Next to its own answer a bound query delivers what the query delivers by itself. -/
theorem run_deliver {b : BoundQuery} {q : Query} (hb : b.Binds T q)
    (hsettled : ∀ c ∈ q.statement.sample, s.Settled c) (d d' : Draws) :
    ((deliver s event (b, q.id, q.answer event)).run d).1 =
      (Option.guard (delivers s event d') q).map fun q => (q.id, q.project event) := by
  rw [Query.answer]
  by_cases hholds : q.holds event = true
  · rw [if_pos hholds, run_deliver_matched, hb.sample, Sampler.run_admits_eq hsettled event d d']
    simp only [Option.guard, delivers, hholds, Bool.true_and]
    split <;> rfl
  · rw [if_neg hholds]
    simp only [Option.guard, delivers, hholds, Bool.false_and, Bool.false_eq_true, if_false]
    rfl

theorem forall₂_deliver (event : Value) (d' : Draws) : ∀ {bs : List BoundQuery} {qs : List Query},
    List.Forall₂ (BoundQuery.Binds T) bs qs →
    (∀ q ∈ qs, ∀ c ∈ q.statement.sample, s.Settled c) →
      List.Forall₂
        (fun x q => ∀ d, ((deliver s event x).run d).1 =
          (Option.guard (delivers s event d') q).map fun q => (q.id, q.project event))
        (bs.zip (qs.map fun q => (q.id, q.answer event))) qs
  | [], [], .nil, _ => .nil
  | _ :: _, q :: _, .cons hb hbs, hsettled =>
    .cons (fun d => run_deliver hb (hsettled q List.mem_cons_self) d d')
      (forall₂_deliver event d' hbs fun q' hq' => hsettled q' (List.mem_cons_of_mem q hq'))

end Registry

/-! ## Reachable registries -/

namespace History

open Registry

/-- The queries that a registry holds are under their own names. -/
theorem id_of_reads {limits : QueryLimits} {entries : List (String × String)}
    {fields : List (String × Query)} (h : List.Forall₂ (Reads limits) entries fields) :
    ∀ field ∈ fields, field.2.id = field.1 := by
  induction h with
  | nil => intro field hmem; cases hmem
  | cons hread _ ih =>
    obtain ⟨hname, hq⟩ := hread
    obtain ⟨statement, -, heq⟩ := Query.read_eq_ok.mp hq
    intro field hmem
    rcases List.mem_cons.mp hmem with rfl | hmem
    · rw [heq, hname]
    · exact ih field hmem

theorem Current.dispatch {settings : Settings} {h : History} (hc : h.Current settings)
    (event : Value) (hsettled : ∀ field ∈ h.registry.queries, ∀ c ∈ field.2.statement.sample,
      (Sampler.ofFactor settings.sampleFactor).Settled c) (d d' : Draws) :
    ((h.registry.dispatch event).run d).1 =
      (h.registry.queries.filter fun field =>
        delivers (.ofFactor settings.sampleFactor) event d' field.2).map
          fun field => (field.1, field.2.project event) := by
  have hnames := id_of_reads hc.reads
  have hids : (h.registry.queries.map (·.2)).map Query.id = Record.keys h.registry.queries := by
    rw [List.map_map]
    exact List.map_congr_left hnames
  have hd : ((h.registry.queries.map (·.2)).map Query.id).Nodup := by
    rw [hids, keys_of_reads hc.reads]
    exact hc.distinct
  have hof := Plan.isOf_ofQueries (h.registry.queries.map (·.2))
  rw [Plan.kept_of_nodup hd, ← hc.plan_eq] at hof
  have hrun := run_filterMapM (forall₂_deliver event d'
    (hof.binds _ (.refl _)) (List.forall_mem_map.mpr hsettled)) d
  rw [run_dispatch, Registry.evaluate, hof.evaluate hd, hc.settings_eq, hrun, filterMap_guard]
  -- The names of what is delivered are some of those of the queries, so they are distinct as well.
  have hkeys : (Record.keys (((h.registry.queries.map (·.2)).filter
      (delivers (.ofFactor settings.sampleFactor) event d')).map
        fun q => (q.id, q.project event))).Nodup := by
    rw [Record.keys, List.map_map]
    exact hd.sublist (List.filter_sublist.map _)
  rw [Record.ofList_of_nodup hkeys, List.filter_map, List.map_map]
  refine List.map_congr_left fun field hmem => ?_
  exact Prod.ext (hnames field (List.mem_filter.mp hmem).1) rfl

/-- An event is delivered, in the order of registration, to the queries that it matches and whose
    clauses let it through, and to each what the query selects of it. A clause has as many buckets
    as its factor says, or else the one of the settings, and at least one. -/
theorem dispatch_ofCalls (settings : Settings) (cs : List Call) (event : Value)
    (hsettled : ∀ field ∈ (ofCalls settings cs).registry.queries,
      ∀ c ∈ field.2.statement.sample, (Sampler.ofFactor settings.sampleFactor).Settled c) :
    List.Forall₂ (Reads settings.queryLimits) (ofCalls settings cs).entries
      (ofCalls settings cs).registry.queries ∧
    (Record.keys (ofCalls settings cs).entries).Nodup ∧
    (∀ c : SampleClause, ((Sampler.ofFactor settings.sampleFactor).buckets c).toNat =
      max (c.factor.getD settings.sampleFactor).toNat 1) ∧
    ∀ d d', (((ofCalls settings cs).registry.dispatch event).run d).1 =
      ((ofCalls settings cs).registry.queries.filter fun field =>
        field.2.holds event && (((Sampler.ofFactor settings.sampleFactor).admits
          field.2.statement.sample event).run d').1).map
          fun field => (field.1, field.2.project event) := by
  have hc := current_ofCalls settings cs
  exact ⟨hc.reads, hc.distinct, Sampler.toNat_buckets_ofFactor settings.sampleFactor,
    hc.dispatch event hsettled⟩

/-- Calls that leave five subscriptions: one gets every event and one gets none, whatever is drawn,
    of two others only one matches, and the last one goes by a key and has no factor of its own. -/
def sampledCalls : List Call :=
  [.register "all" "select * sample \x7b\"strategy\":\"RANDOM\",\"threshold\":1,\"factor\":1\x7d",
    .register "gone" "select a",
    .register "none" "select * sample \x7b\"strategy\":\"RANDOM\",\"threshold\":0\x7d",
    .register "hot" "select a where a",
    .deregister "gone",
    .register "cold" "select a where b",
    .register "keyed" ("select * sample " ++
      "\x7b\"strategy\":\"STICKY\",\"threshold\":1,\"keys\":[\"a\"]\x7d")]

/-- Settings by which a clause without a factor has two buckets. -/
def halves : Settings := { sampleFactor := 2 }

theorem settled_sampledCalls : ∀ settings ∈ [{}, halves],
    ∀ field ∈ (ofCalls settings sampledCalls).registry.queries,
      ∀ c ∈ field.2.statement.sample, (Sampler.ofFactor settings.sampleFactor).Settled c := by
  decide +kernel

/-- Of two buckets the key of the event goes to the first one, which is let through, and of as many
    as there are by default to another. -/
theorem delivered_of_sampledCalls :
    (∀ settings ∈ [{}, halves], ∀ field ∈ (ofCalls settings sampledCalls).registry.queries,
      ∀ c ∈ field.2.statement.sample, (Sampler.ofFactor settings.sampleFactor).Settled c) ∧
    (∀ d, Record.keys (((ofCalls {} sampledCalls).registry.dispatch
      (.object [("a", .bool true)])).run d).1 = ["all", "hot"]) ∧
    ∀ d, Record.keys (((ofCalls halves sampledCalls).registry.dispatch
      (.object [("a", .bool true)])).run d).1 = ["all", "hot", "keyed"] := by
  obtain ⟨-, -, -, hdefault⟩ := dispatch_ofCalls {} sampledCalls (.object [("a", .bool true)])
    (settled_sampledCalls _ (by decide))
  obtain ⟨-, -, -, hhalves⟩ := dispatch_ofCalls halves sampledCalls (.object [("a", .bool true)])
    (settled_sampledCalls _ (by decide))
  refine ⟨settled_sampledCalls, fun d => ?_, fun d => ?_⟩
  · rw [hdefault d ⟨fun _ => 0, 0⟩]
    decide +kernel
  · rw [hhalves d ⟨fun _ => 0, 0⟩]
    decide +kernel

end History
end EventQuery
