import EventQuery.Proofs.Path.Places
import EventQuery.Proofs.Projection.Outcome
import EventQuery.Proofs.Query.MatchOrder
import EventQuery.Query

/-!
# Renamed paths with many matches

Under a name, many matches are rebuilt below the keys that all of them share. Nothing gets lost in
that (`Rebuilds`): what is left of the keys of a match leads to its value, there are as many whole
values as matches, and nothing else is there but the objects on the way to them. It holds of the
matches of one path on one event because they have the same number of keys, so that none lies above
another, and because in one value a name belongs to one key, so that no two fall together.

How many keys are shared is found by going along the positions of all matches at once. That never
looks at a position that some match does not have, and never drops more keys than a match has,
whatever the matches are (`insertAliasedByPosition?_eq_some`).
-/

namespace EventQuery

/-- The match without its first keys. -/
def Match.beyond (n : Nat) (m : Match) : Match := ⟨m.path.drop n, m.value⟩

theorem Match.names_beyond (n : Nat) (m : Match) : (m.beyond n).names = m.names.drop n :=
  List.map_drop

namespace Projection

/-! ## The positions that are looked at -/

/-- All of some matches have the same key at a position as the first; none if a match that is looked
    at does not have the position. No match is looked at after one with another key. -/
def agreeAt? (first : Match) (i : Nat) : List Match → Option Bool
  | [] => some true
  | m :: rest => do
    let key ← m.path[i]?
    let wanted ← first.path[i]?
    if key = wanted then agreeAt? first i rest else some false

/-- The number of positions up to the first where the matches do not agree. -/
def countAgreeing? (first : Match) (rest : List Match) : List Nat → Option Nat
  | [] => some 0
  | i :: later => do
    let agree ← agreeAt? first i rest
    if agree then return (← countAgreeing? first rest later) + 1 else return 0

/-- The number of keys that all matches share, at least one being left to each, found by position;
    none if a position is looked at that is not there. -/
def sharedDepthByPosition? : List Match → Option Nat
  | [] => some 0
  | first :: rest =>
    let limit := rest.foldl (fun n m => min n m.path.length) first.path.length - 1
    countAgreeing? first rest (List.range limit)

/-- The match without its first keys; none if it does not have so many. -/
def beyond? (n : Nat) (m : Match) : Option Match :=
  if n ≤ m.path.length then some (m.beyond n) else none

/-- The projection with the matches of a renamed path written under their name; none if a position
    is looked at that is not there, or more keys are dropped than there are. -/
def insertAliasedByPosition? (p : Projection) (name : String) : List Match → Option Projection
  | [] => some p
  | [single] => some (p.write [name] single.value)
  | several => do
    let shared ← sharedDepthByPosition? several
    let cut ← several.mapM (beyond? shared)
    return p.write [name] (ofMatches cut).toValue

/-- Every match has a key at the position, and it is that of the first. -/
def AgreeAt (first : Match) (rest : List Match) (i : Nat) : Prop :=
  ∀ m ∈ rest, m.path[i]? = first.path[i]?

theorem agreeAt?_eq_some {first : Match} {rest : List Match} {i : Nat}
    (hlen : ∀ m ∈ first :: rest, i < m.path.length) :
    ∃ agree, agreeAt? first i rest = some agree ∧ (agree = true ↔ AgreeAt first rest i) := by
  induction rest with
  | nil => exact ⟨true, rfl, by simp [AgreeAt]⟩
  | cons m rest ih =>
    have hfirst := hlen first List.mem_cons_self
    have hm := hlen m (List.mem_cons_of_mem _ List.mem_cons_self)
    have hrest : ∀ m' ∈ first :: rest, i < m'.path.length := by
      intro m' hm'
      rcases List.mem_cons.mp hm' with rfl | hm'
      · exact hfirst
      · exact hlen m' (List.mem_cons_of_mem _ (List.mem_cons_of_mem _ hm'))
    obtain ⟨agree, hagree, hiff⟩ := ih hrest
    rw [agreeAt?, List.getElem?_eq_getElem hm, List.getElem?_eq_getElem hfirst]
    by_cases hkey : m.path[i] = first.path[i]
    · refine ⟨agree, by simp [hkey, hagree], ?_⟩
      simp [hiff, AgreeAt, hkey, List.getElem?_eq_getElem hm, List.getElem?_eq_getElem hfirst]
    · refine ⟨false, by simp [hkey], ?_⟩
      simp [AgreeAt, hkey, List.getElem?_eq_getElem hm, List.getElem?_eq_getElem hfirst]

/-- The count goes on exactly as long as all matches agree. -/
theorem countAgreeing?_eq_some {first : Match} {rest : List Match} : ∀ (n start : Nat),
    (∀ m ∈ first :: rest, start + n ≤ m.path.length) →
      ∃ count, countAgreeing? first rest (List.range' start n) = some count ∧
        ∀ d, d ≤ count ↔ d ≤ n ∧ ∀ i < d, AgreeAt first rest (start + i)
  | 0, start, _ => by
    refine ⟨0, rfl, fun d => ?_⟩
    constructor
    · intro hd
      exact ⟨hd, fun i hi => absurd hi (by omega)⟩
    · exact fun h => h.1
  | n + 1, start, hlen => by
    obtain ⟨agree, hagree, hiff⟩ := agreeAt?_eq_some fun m hm => by
      have := hlen m hm
      show start < m.path.length
      omega
    obtain ⟨count, hcount, hrest⟩ := countAgreeing?_eq_some n (start + 1) fun m hm => by
      have := hlen m hm
      omega
    rw [List.range'_succ, countAgreeing?, hagree]
    cases agree with
    | false =>
      refine ⟨0, rfl, fun d => ?_⟩
      have hnot : ¬AgreeAt first rest start := fun h => by simpa using hiff.mpr h
      constructor
      · intro hd
        exact ⟨by omega, fun i hi => absurd hi (by omega)⟩
      · rintro ⟨-, hall⟩
        by_contra hd
        exact hnot (hall 0 (by omega))
    | true =>
      refine ⟨count + 1, by simp [hcount], fun d => ?_⟩
      have hstart : AgreeAt first rest start := hiff.mp rfl
      cases d with
      | zero => simp
      | succ d =>
        rw [Nat.succ_le_succ_iff, hrest, Nat.succ_le_succ_iff]
        refine and_congr_right fun _ => ?_
        constructor
        · intro hall i hi
          cases i with
          | zero => exact hstart
          | succ i =>
            have := hall i (by omega)
            rwa [show start + 1 + i = start + (i + 1) by omega] at this
        · intro hall i hi
          have := hall (i + 1) (by omega)
          rwa [show start + (i + 1) = start + 1 + i by omega] at this

theorem take_eq_take_iff {as bs : List Key} {d : Nat} :
    as.take d = bs.take d ↔ ∀ i < d, as[i]? = bs[i]? := by
  constructor
  · intro h i hi
    have := congrArg (·[i]?) h
    simpa [List.getElem?_take_of_lt hi] using this
  · intro h
    refine List.ext_getElem? fun i => ?_
    rw [List.getElem?_take, List.getElem?_take]
    split
    · next hi => exact h i hi
    · rfl

/-- Going along the positions never leaves a match, and finds the number of shared keys. -/
theorem sharedDepthByPosition?_eq_some (found : List Match) :
    sharedDepthByPosition? found = some (sharedDepth found) := by
  cases found with
  | nil => rfl
  | cons first rest =>
    have hlimit : ∀ d, d ≤ rest.foldl (fun n m => min n m.path.length) first.path.length ↔
        ∀ m ∈ first :: rest, d ≤ m.path.length := by
      intro d
      rw [le_foldl_min_iff, List.forall_mem_cons]
    have hin : ∀ m ∈ first :: rest,
        0 + (rest.foldl (fun n m => min n m.path.length) first.path.length - 1) ≤
          m.path.length := by
      intro m hm
      have := (hlimit _).mp le_rfl m hm
      omega
    obtain ⟨count, hcount, hiff⟩ := countAgreeing?_eq_some _ 0 hin
    rw [sharedDepthByPosition?, List.range_eq_range', hcount]
    refine congrArg some (eq_of_forall_le_iff fun d => ?_)
    have hleft : d ≤ rest.foldl (fun n m => min n m.path.length) first.path.length - 1 ↔
        ∀ m ∈ first :: rest, d ≤ m.path.length - 1 := by
      cases d with
      | zero => simp
      | succ d =>
        have hone : ∀ n, d + 1 ≤ n - 1 ↔ d + 2 ≤ n := fun n => by omega
        simp only [hone, hlimit]
    have hagree : (∀ i < d, AgreeAt first rest (0 + i)) ↔
        ∀ m ∈ first :: rest, m.path.take d = first.path.take d := by
      simp only [take_eq_take_iff, Nat.zero_add, AgreeAt, List.forall_mem_cons, implies_true,
        true_and]
      exact ⟨fun h m hm i hi => h i hi m hm, fun h i hi m hm => h m hm i hi⟩
    rw [hiff, le_sharedDepth_iff (List.cons_ne_nil _ _), hleft, hagree]
    refine and_congr_right fun _ => ⟨fun h m hm m' hm' => ?_, fun h m hm => ?_⟩
    · rw [h m hm, h m' hm']
    · exact h m hm first List.mem_cons_self

/-! ## Keys that all share -/

theorem sharedDepth_le {found : List Match} {m : Match} (hm : m ∈ found) :
    sharedDepth found ≤ m.path.length := by
  have hle := ((le_sharedDepth_iff (List.ne_nil_of_mem hm) _).mp le_rfl).1 m hm
  omega

theorem mapM_beyond? {n : Nat} : ∀ {found : List Match}, (∀ m ∈ found, n ≤ m.path.length) →
    found.mapM (beyond? n) = some (found.map (Match.beyond n))
  | [], _ => rfl
  | m :: found, h => by
    obtain ⟨hm, hrest⟩ := List.forall_mem_cons.mp h
    rw [List.mapM_cons, beyond?, if_pos hm, mapM_beyond? hrest]
    rfl

/-- Writing matches under a name never goes beyond their keys. -/
theorem insertAliasedByPosition?_eq_some (p : Projection) (name : String) (found : List Match) :
    insertAliasedByPosition? p name found = some (p.insertAliased name found) := by
  match found with
  | [] | [single] => rfl
  | first :: second :: rest =>
    have hle : ∀ m ∈ first :: second :: rest,
        sharedDepth (first :: second :: rest) ≤ m.path.length := fun m => sharedDepth_le
    rw [insertAliasedByPosition?, sharedDepthByPosition?_eq_some, Option.bind_eq_bind,
      Option.bind_some, mapM_beyond? hle]
    · rfl
    · simp
    · simp

/-! ## Writes that do not meet -/

section

variable {ws : List Write} {n : Nat} {p : Projection}

/-- Of writes with as many names none is above another. -/
theorem open_of_lengths (h : ∀ w ∈ ws, w.names.length = n) {names : List String}
    (hn : names.length ≤ n) : Open ws names := by
  rintro above hpre hne ⟨w, hw, rfl⟩
  exact hne (hpre.eq_of_length_le (by rw [h w hw]; exact hn))

/-- Where nothing is written twice, what is written is written last. -/
theorem last?_of_distinct (h : (ws.map Write.names).Nodup) {names : List String} {v : Value} :
    last? ws names = some v ↔ ⟨names, v⟩ ∈ ws := by
  rw [last?_eq_some_iff]
  constructor
  · rintro ⟨before, after, rfl, -⟩
    simp
  · intro hmem
    obtain ⟨before, after, rfl⟩ := List.append_of_mem hmem
    refine ⟨before, after, rfl, ?_⟩
    rintro ⟨w, hw, hnames⟩
    rw [List.map_append, List.map_cons] at h
    have hafter := (List.nodup_cons.mp (List.nodup_append.mp h).2.1).1
    exact hafter (List.mem_map.mpr ⟨w, hw, hnames⟩)

/-- Each of them leaves its value whole. -/
theorem Settled.whole_of_lengths (h : Settled ws p) (hlen : ∀ w ∈ ws, w.names.length = n)
    (hd : (ws.map Write.names).Nodup) (names : List String) (v : Value) :
    p.node? names = some (.whole v) ↔ ⟨names, v⟩ ∈ ws := by
  rw [h.whole, last?_of_distinct hd]
  refine and_iff_left_of_imp fun hmem => ?_
  exact open_of_lengths hlen (hlen _ hmem).le

/-- Objects stand on the way to them. -/
theorem Settled.branch_of_lengths (h : Settled ws p) (hlen : ∀ w ∈ ws, w.names.length = n)
    (hne : ws ≠ []) (names : List String) :
    (∃ fields, p.node? names = some (.branch fields)) ↔
      ∃ w ∈ ws, names <+: w.names ∧ names ≠ w.names := by
  rw [h.branch]
  constructor
  · rintro ⟨hreached, -, hnot⟩
    rcases hreached with rfl | ⟨w, hw, hpre⟩
    · obtain ⟨w, hw⟩ := List.exists_mem_of_ne_nil _ hne
      exact ⟨w, hw, List.nil_prefix, fun e => hnot ⟨w, hw, e.symm⟩⟩
    · exact ⟨w, hw, hpre, fun e => hnot ⟨w, hw, e.symm⟩⟩
  · rintro ⟨w, hw, hpre, hneq⟩
    refine ⟨Or.inr ⟨w, hw, hpre⟩, open_of_lengths hlen ((hlen w hw) ▸ hpre.length_le), ?_⟩
    rintro ⟨w', hw', rfl⟩
    exact hneq (hpre.eq_of_length ((hlen w' hw').trans (hlen w hw).symm))

end

/-! ## The matches of one path -/

/-- The projection is rebuilt from some matches below the keys that all of them share. -/
structure Rebuilds (found : List Match) (shared : Nat) (tree : Projection) : Prop where
  /-- The matches start with the same keys, and each has one more. -/
  shares : ∀ m ∈ found, shared < m.path.length ∧
    ∀ m' ∈ found, m.path.take shared = m'.path.take shared
  /-- They have no longer start of this kind. -/
  longest : ∀ n, (∀ m ∈ found, n < m.path.length ∧
    ∀ m' ∈ found, m.path.take n = m'.path.take n) → n ≤ shared
  /-- What is left of the keys of a match leads to its value, -/
  follow : ∀ m ∈ found, tree.toValue.follow? (m.path.drop shared) = some m.value
  /-- which stands there whole, and no other value does anywhere. -/
  whole : ∀ names v, tree.node? names = some (.whole v) ↔
    ∃ m ∈ found, m.names.drop shared = names ∧ m.value = v
  /-- All else are objects on the way to a match. -/
  branch : ∀ names, (∃ fields, tree.node? names = some (.branch fields)) ↔
    ∃ m ∈ found, names <+: m.names.drop shared ∧ names ≠ m.names.drop shared
  /-- No two matches fall together, -/
  distinct : (found.map fun m => m.names.drop shared).Nodup
  /-- so there are as many whole values as matches. -/
  count : {names | ∃ v, tree.node? names = some (.whole v)}.ncard = found.length

/-- What matches come to without their first keys is what is written at the names of the others. -/
theorem ofMatches_beyond (n : Nat) (found : List Match) :
    ofMatches (found.map (Match.beyond n)) =
      settle (found.map fun m => ⟨m.names.drop n, m.value⟩) := by
  rw [ofMatches, settle, List.foldl_map, List.foldl_map]
  refine congrArg (fun f => found.foldl f Projection.empty) (funext₂ fun p m => ?_)
  rw [insert, put, Match.names_beyond]
  rfl

section

variable {event : Value} {found : List Match}

/-- On one event what is left of the keys of a match leads to its value in what is rebuilt. -/
theorem follow?_ofMatches_beyond (hwithin : ∀ m ∈ found, m.Within event) {m : Match}
    (hm : m ∈ found) :
    (ofMatches (found.map (Match.beyond (sharedDepth found)))).toValue.follow?
      (m.path.drop (sharedDepth found)) = some m.value := by
  have hshares := ((le_sharedDepth_iff (List.ne_nil_of_mem hm) _).mp le_rfl).2
  -- The shared keys lead to one part of the event, and the matches lie within that.
  have hpart : ∀ m' ∈ found, (event.at? (m.path.take (sharedDepth found))).bind
      (·.at? (m'.path.drop (sharedDepth found))) = some m'.value := by
    intro m' hm'
    rw [hshares m hm m' hm', ← Value.at?_append, List.take_append_drop]
    exact hwithin m' hm'
  obtain ⟨u, hu, -⟩ := Option.bind_eq_some_iff.mp (hpart m hm)
  have hbeyond : ∀ m' ∈ found.map (Match.beyond (sharedDepth found)),
      m'.Within u ∧ ∀ k ∈ m'.path, (fun _ => True) k := by
    intro m' hm'
    obtain ⟨m'', hm'', rfl⟩ := List.mem_map.mp hm'
    have hat := hpart m'' hm''
    rw [hu, Option.bind_some] at hat
    exact ⟨hat, fun _ _ => trivial⟩
  have hpiece := PieceOf.foldl_insert _ hbeyond (.empty u)
  have hmem := List.mem_map_of_mem (f := Match.beyond (sharedDepth found)) hm
  exact hpiece.follow?_toValue (covers_foldl_insert hmem .empty) (hbeyond _ hmem).1

/-- Different matches on one event are different in the keys that they do not share. -/
theorem nodup_names_beyond (hwithin : ∀ m ∈ found, m.Within event)
    (hd : found.Nodup) : (found.map fun m => m.names.drop (sharedDepth found)).Nodup := by
  refine hd.map_on fun m hm m' hm' hdrop => ?_
  have hshares := ((le_sharedDepth_iff (List.ne_nil_of_mem hm) _).mp le_rfl).2 m hm m' hm'
  have htake : m.names.take (sharedDepth found) = m'.names.take (sharedDepth found) := by
    rw [Match.names, Match.names, ← List.map_take, ← List.map_take, hshares]
  refine (hwithin m hm).eq_of_names (hwithin m' hm') ?_
  rw [← List.take_append_drop (sharedDepth found) m.names, htake, hdrop, List.take_append_drop]

/-- Matches on one event with as many keys are rebuilt without loss. -/
theorem rebuilds_ofMatches {n : Nat} (hpos : 0 < n) (hlen : ∀ m ∈ found, m.path.length = n)
    (hwithin : ∀ m ∈ found, m.Within event) (hd : found.Nodup) (hne : found ≠ []) :
    Rebuilds found (sharedDepth found)
      (ofMatches (found.map (Match.beyond (sharedDepth found)))) := by
  have hdistinct := nodup_names_beyond hwithin hd
  have hshares := (le_sharedDepth_iff hne _).mp le_rfl
  have hlt : sharedDepth found < n := by
    obtain ⟨m, hm⟩ := List.exists_mem_of_ne_nil _ hne
    have hle := hshares.1 m hm
    rw [hlen m hm] at hle
    omega
  have hsettled := settled_settle (found.map fun m => ⟨m.names.drop (sharedDepth found), m.value⟩)
  rw [← ofMatches_beyond] at hsettled
  have hlengths : ∀ w ∈ found.map fun m =>
      (⟨m.names.drop (sharedDepth found), m.value⟩ : Write),
        w.names.length = n - sharedDepth found := by
    intro w hw
    obtain ⟨m, hm, rfl⟩ := List.mem_map.mp hw
    rw [List.length_drop, Match.names, List.length_map, hlen m hm]
  have hwhole : ∀ names v,
      (ofMatches (found.map (Match.beyond (sharedDepth found)))).node? names = some (.whole v) ↔
        ∃ m ∈ found, m.names.drop (sharedDepth found) = names ∧ m.value = v := by
    intro names v
    rw [hsettled.whole_of_lengths hlengths (by rwa [List.map_map]), List.mem_map]
    simp only [Write.mk.injEq]
  refine ⟨?_, ?_, fun m => follow?_ofMatches_beyond hwithin, hwhole, ?_, hdistinct, ?_⟩
  · intro m hm
    exact ⟨(hlen m hm).symm ▸ hlt, hshares.2 m hm⟩
  · intro d h
    exact (le_sharedDepth_iff hne d).mpr
      ⟨fun m hm => Nat.le_sub_one_of_lt (h m hm).1, fun m hm => (h m hm).2⟩
  · intro names
    rw [hsettled.branch_of_lengths hlengths (by simpa using hne)]
    simp only [List.mem_map, exists_exists_and_eq_and]
  · have hset : {names | ∃ v, (ofMatches (found.map
        (Match.beyond (sharedDepth found)))).node? names = some (.whole v)} =
        ↑(found.map fun m => m.names.drop (sharedDepth found)).toFinset := by
      ext names
      simp [hwhole]
    rw [hset, Set.ncard_coe_finset, List.toFinset_card_of_nodup hdistinct, List.length_map]

end

theorem gathered?_of_two {found : List Match} (h : 2 ≤ found.length) :
    gathered? found =
      some (ofMatches (found.map (Match.beyond (sharedDepth found)))).toValue := by
  match found, h with
  | _ :: _ :: _, _ => rfl

/-- A renamed path alone is selected as an object with its value under the name. -/
theorem select_renamed {p : Path} {event v : Value} (name : String)
    (h : gathered? (p.resolve event) = some v) :
    (select (Query.find event) [.path p (some name)] event).run = .object [(name, v)] := by
  show (Projection.empty.insertAliased name (p.resolve event)).toValue = _
  rw [insertAliased, h]
  rfl

theorem length_of_mem_resolve {p : Path} {event : Value} (h : event.Storable) {m : Match}
    (hm : m ∈ p.resolve event) : m.path.length = p.length :=
  ((p.mem_resolve_iff h m.path m.value).mp hm).1.length_eq.symm

/-- A path with many matches is selected under a name as an object that is rebuilt from them without
    loss, below the keys that they share. And whatever matches are written under a name, no position
    is looked at that is not there, and no more keys are dropped than there are. -/
theorem rebuilds_renamed :
    (∀ (p : Path) (name : String) (event : Value), event.Storable →
      2 ≤ (p.resolve event).length → ∃ fields,
        (select (Query.find event) [.path p (some name)] event).run =
          .object [(name, (Projection.branch fields).toValue)] ∧
        Rebuilds (p.resolve event) (sharedDepth (p.resolve event)) (.branch fields)) ∧
    ∀ (projection : Projection) (name : String) (found : List Match),
      insertAliasedByPosition? projection name found =
        some (projection.insertAliased name found) := by
  refine ⟨?_, insertAliasedByPosition?_eq_some⟩
  intro p name event h htwo
  have hpos : 0 < p.length := by
    cases p with
    | nil => exact absurd htwo (by simp [Path.resolve])
    | cons s p => exact Nat.succ_pos _
  have hne : p.resolve event ≠ [] := List.length_pos_iff.mp (by omega)
  have hrebuilds := rebuilds_ofMatches hpos (fun m => length_of_mem_resolve h)
    (fun m => Path.within_of_mem_resolve h) (p.nodup_resolve h) hne
  obtain ⟨m, hm⟩ := List.exists_mem_of_ne_nil _ hne
  have hleft : m.names.drop (sharedDepth (p.resolve event)) ≠ [] := by
    have hlt := (hrebuilds.shares m hm).1
    rw [Ne, List.drop_eq_nil_iff, Match.names, List.length_map]
    omega
  -- Something is left of the keys, so an object stands at the root.
  obtain ⟨fields, hroot⟩ := (hrebuilds.branch []).mpr ⟨m, hm, List.nil_prefix, hleft.symm⟩
  have hbranch := Option.some.inj hroot
  refine ⟨fields, ?_, hbranch ▸ hrebuilds⟩
  rw [← hbranch]
  exact select_renamed name (gathered?_of_two htwo)

/-- The fields of the last of some readings. -/
def lastReading : Path := [.key "low", .index (-1), .wildcard]

theorem rebuilds_lastReading :
    Path.readingsEvent.Storable ∧ 2 ≤ (lastReading.resolve Path.readingsEvent).length ∧
    (∃ fields,
      (select (Query.find Path.readingsEvent) [.path lastReading (some "last")]
        Path.readingsEvent).run = .object [("last", (Projection.branch fields).toValue)] ∧
      Rebuilds (lastReading.resolve Path.readingsEvent)
        (sharedDepth (lastReading.resolve Path.readingsEvent)) (.branch fields)) ∧
    (select (Query.find Path.readingsEvent) [.path lastReading (some "last")]
      Path.readingsEvent).run =
        .object [("last", .object [("b", .bool true), ("a", .bool false)])] :=
  ⟨Path.storable_readingsEvent, by decide,
    rebuilds_renamed.1 lastReading "last" _ Path.storable_readingsEvent (by decide), rfl⟩

end Projection
end EventQuery
