import EventQuery.Proofs.Plan.Table
import EventQuery.Proofs.Query.Dependence

/-!
# What is looked up, and nothing else

Which paths a question to a query demands can be told from the query and the event alone
(`Query.demands`): the paths of the whole select list for what is selected, and for the condition
those that are left when `and`, `or` and comparisons stop as soon as they can. The queries of a plan
share what they find, and exactly what is demanded is walked. After any questions, in whatever order
and however often, the store has the matches of the paths that some question demanded, and of no
others (`Plan.after_walks_demanded`).

The proof goes along the computation with two facts about every step: it has the value that it has
without a store (`Agrees`), which says how conditions branch, and it adds the given paths to those
that have been walked (`Walks`).
-/

namespace EventQuery

open Resolution (ofPath?)

/-! ## Demands -/

/-- The paths that are looked up to tell whether a condition holds. The right side of a connective
    is left out if the left one decides, and that of a comparison if there is no value on the left,
    or a pattern to be matched. -/
def Expr.demands {P : Type} (look : P → Id (List Match)) : Expr P → List P
  | literal _ | bool _ | pattern _ => []
  | path p => [p]
  | compare left op right =>
    left.demands look ++
      if (left.values look (left.holds look)).run.isEmpty ∨ op = .matching then []
      else right.demands look
  | and left right => left.demands look ++ if (left.holds look).run then right.demands look else []
  | or left right => left.demands look ++ if (left.holds look).run then [] else right.demands look
  | not inner => inner.demands look

/-- The paths that a question to a query demands on an event. -/
def Query.demands (q : Query) (event : Value) : Question → List Path
  | .holds => q.statement.condition.elim [] (·.demands (find event))
  | .project => if q.statement.selectsAll then [] else q.selectPaths

/-- The paths that some questions demand, each of the first query with its name. -/
def demanded (qs : List Query) (event : Value) (calls : List (String × Question)) : List Path :=
  calls.flatMap fun c => (qs.find? (·.id == c.1)).elim [] (·.demands event c.2)

namespace Expr

variable {P Q : Type}

theorem demands_subset (look : P → Id (List Match)) (e : Expr P) : e.demands look ⊆ e.paths := by
  induction e with
  | literal v | bool b | pattern p | path p => exact List.Subset.refl _
  | compare l op r ihl ihr | or l r ihl ihr =>
    refine List.append_subset.mpr ⟨List.subset_append_of_subset_left _ ihl, ?_⟩
    split
    · exact List.nil_subset _
    · exact List.subset_append_of_subset_right _ ihr
  | and l r ihl ihr =>
    refine List.append_subset.mpr ⟨List.subset_append_of_subset_left _ ihl, ?_⟩
    split
    · exact List.subset_append_of_subset_right _ ihr
    · exact List.nil_subset _
  | not e ih => exact ih

/-- Demands do not depend on how paths are referred to. -/
theorem demands_mapPaths (look : Q → Id (List Match)) (f : P → Q) (e : Expr P) :
    (e.mapPaths f).demands look = (e.demands (look ∘ f)).map f := by
  induction e with
  | literal v | bool b | pattern p | path p => rfl
  | compare l op r ihl ihr =>
    simp only [mapPaths, demands, ihl, ihr, values_mapPaths, holds_mapPaths, List.map_append,
      apply_ite (List.map f), List.map_nil]
  | and l r ihl ihr | or l r ihl ihr =>
    simp only [mapPaths, demands, ihl, ihr, holds_mapPaths, List.map_append,
      apply_ite (List.map f), List.map_nil]
  | not e ih => exact ih

end Expr

theorem Query.demands_subset (q : Query) (event : Value) (asked : Question) :
    q.demands event asked ⊆ q.statement.referencedPaths := by
  cases asked with
  | holds =>
    refine List.Subset.trans ?_ q.conditionPaths_subset
    unfold demands conditionPaths
    cases q.statement.condition with
    | none => exact List.Subset.refl _
    | some e => exact e.demands_subset _
  | project =>
    rw [demands]
    split
    · exact List.nil_subset _
    · exact q.selectPaths_subset

/-! ## Walks -/

/-- The matches of the path are known. -/
def Resolution.Walked (r : Resolution) (p : Path) : Prop :=
  ∃ id found, r.table.get? id = some p ∧ r.known[PathId.index id]? = some (some found)

/-- Storing something at a number walks the path behind it, and no other. -/
theorem Resolution.Sound.walked_store {T : PathTable} {event : Value} {r : Resolution}
    (h : r.Sound T event) (id : PathId) (found : List Match) (p : Path) :
    Walked { r with known := r.known.set id.index (some found) } p ↔
      r.Walked p ∨ some p = T.get? id := by
  constructor
  · rintro ⟨id', found', hp, hk⟩
    rw [List.getElem?_set] at hk
    split at hk
    · next heq =>
      right
      rw [← hp, h.table, show id = id' from congrArg PathId.mk heq]
    · exact Or.inl ⟨id', found', hp, hk⟩
  · rintro (⟨id', found', hp, hk⟩ | hp)
    · by_cases heq : id.index = id'.index
      · obtain ⟨hlt, -⟩ := List.getElem?_eq_some_iff.mp hk
        refine ⟨id', found, hp, ?_⟩
        rw [List.getElem?_set, if_pos heq, if_pos (heq ▸ hlt)]
      · refine ⟨id', found', hp, ?_⟩
        rw [List.getElem?_set, if_neg heq]
        exact hk
    · have hlt : id.index < r.known.length := by
        rw [h.size]
        exact (List.getElem?_eq_some_iff.mp hp.symm).1
      refine ⟨id, found, by rw [h.table, ← hp], ?_⟩
      rw [List.getElem?_set, if_pos rfl, if_pos hlt]

/-- On every sound store the paths that are known afterwards are those known before and the given
    ones. -/
def Walks (T : PathTable) (event : Value) {α : Type} (x : StateM Resolution α)
    (ps : List (Option Path)) : Prop :=
  ∀ r, r.Sound T event → ∀ p, (x.run r).2.Walked p ↔ r.Walked p ∨ some p ∈ ps

namespace Walks

variable {T : PathTable} {event : Value} {α β : Type} {ps qs : List (Option Path)}

theorem pure (a : α) : Walks T event (pure a) [] := fun _ _ _ => by
  rw [or_iff_left List.not_mem_nil]
  rfl

/-- What comes next is only about the value that there is. -/
theorem bind {x : StateM Resolution α} {y : Id α} {f : α → StateM Resolution β}
    (hx : Agrees T event x y) (h : Walks T event x ps) (h' : Walks T event (f y.run) qs) :
    Walks T event (x >>= f) (ps ++ qs) := by
  intro r hr p
  obtain ⟨hval, hs⟩ := hx r hr
  have hnext := h' (x.run r).2 hs p
  rw [← hval, h r hr p] at hnext
  rw [List.mem_append, ← or_assoc]
  exact hnext

/-- Making something of the result walks nothing more. -/
theorem map {x : StateM Resolution α} (h : Walks T event x ps) (f : α → β) :
    Walks T event (x >>= fun a => Pure.pure (f a)) ps := h

theorem mapM {γ : Type} {f : γ → StateM Resolution β} {g : γ → Id β}
    {ps : γ → List (Option Path)} (hx : ∀ c, Agrees T event (f c) (g c))
    (h : ∀ c, Walks T event (f c) (ps c)) :
    ∀ cs : List γ, Walks T event (cs.mapM f) (cs.flatMap ps)
  | [] => pure []
  | c :: cs => by
    rw [List.mapM_cons, List.flatMap_cons]
    exact bind (hx c) (h c) ((mapM hx h cs).map _)

theorem foldlM {f : β → α → StateM Resolution β} {g : β → α → Id β}
    {ps : α → List (Option Path)} (hx : ∀ b a, Agrees T event (f b a) (g b a))
    (h : ∀ b a, Walks T event (f b a) (ps a)) :
    ∀ (as : List α) (b : β), Walks T event (as.foldlM f b) (as.flatMap ps)
  | [], b => pure b
  | a :: as, b => by
    rw [List.foldlM_cons, List.flatMap_cons]
    exact bind (hx b a) (h b a) (foldlM hx h as _)

/-- Looking a number up walks the path behind it, and no other. -/
theorem find (id : PathId) : Walks T event (Resolution.find id) [T.get? id] := by
  intro r hr p
  rw [List.mem_singleton]
  simp only [Resolution.find, StateT.run]
  split
  · next found hfound =>
    -- The matches are there, so the path was walked before.
    refine (or_iff_left_of_imp fun hp => ?_).symm
    exact ⟨id, found, by rw [hr.table, ← hp], hfound⟩
  · exact hr.walked_store id _ p

/-! ## Conditions and select lists -/

variable {P : Type} {find : P → StateM Resolution (List Match)} {look : P → Id (List Match)}
  {g : P → Option Path}

/-- An operand demands what it demands as a condition. -/
theorem values (h : ∀ p, Walks T event (find p) [g p]) {x : StateM Resolution Bool} {e : Expr P}
    (hx : Walks T event x ((e.demands look).map g)) :
    Walks T event (e.values find x) ((e.demands look).map g) := by
  cases e with
  | literal v => exact pure [v]
  | pattern p => exact pure _
  | path p => exact (h p).map _
  | bool _ | compare _ _ _ | and _ _ | or _ _ | not _ => exact hx.map _

theorem compareValues {left right : StateM Resolution (List Value)} {left' : Id (List Value)}
    (hx : Agrees T event left left') (hl : Walks T event left ps) (hr : Walks T event right qs)
    (op : Comparison) (e : Expr P) :
    Walks T event (Expr.compareValues left op e right)
      (ps ++ if left'.run.isEmpty ∨ op = .matching then [] else qs) := by
  refine bind hx hl ?_
  by_cases hempty : left'.run.isEmpty
  · rw [if_pos hempty, if_pos (Or.inl hempty)]
    exact pure false
  · rw [if_neg hempty]
    cases op with
    | matching =>
      rw [if_pos (Or.inr rfl)]
      cases e <;> exact pure _
    | eq | ne | lt | le | gt | ge =>
      rw [if_neg (by simp [hempty])]
      exact hr.map _

/-- A condition walks what it demands. -/
theorem holds (hf : ∀ p, Agrees T event (find p) (look p))
    (h : ∀ p, Walks T event (find p) [g p]) (e : Expr P) :
    Walks T event (e.holds find) ((e.demands look).map g) := by
  induction e with
  | literal v | bool b | pattern p => exact pure _
  | path p => exact (h p).map _
  | compare l op r ihl ihr =>
    rw [Expr.demands, List.map_append, apply_ite (List.map g), List.map_nil]
    exact compareValues (.values hf (.holds hf l) l) (values h ihl) (values h ihr) op r
  | and l r ihl ihr =>
    rw [Expr.demands, List.map_append, apply_ite (List.map g), List.map_nil]
    refine bind (.holds hf l) ihl ?_
    split
    · exact ihr
    · exact pure false
  | or l r ihl ihr =>
    rw [Expr.demands, List.map_append, apply_ite (List.map g), List.map_nil]
    refine bind (.holds hf l) ihl ?_
    split
    · exact pure true
    · exact ihr
  | not e ih => exact ih.map _

theorem writeInto (h : ∀ p, Walks T event (find p) [g p]) (p : Projection) (i : SelectItem P) :
    Walks T event (i.writeInto find p) (i.path?.toList.map g) := by
  match i with
  | .all => exact pure p
  | .path q none => exact (h q).map _
  | .path q (some name) => exact (h q).map _

/-- A select list walks all its paths, unless the whole event is selected. -/
theorem select (hf : ∀ p, Agrees T event (find p) (look p))
    (h : ∀ p, Walks T event (find p) [g p]) (items : List (SelectItem P)) (v : Value) :
    Walks T event (EventQuery.select find items v)
      (if items.any SelectItem.isAll then [] else (items.filterMap SelectItem.path?).map g) := by
  unfold EventQuery.select
  split
  · exact pure v
  · have hitems := foldlM (fun p i => Agrees.writeInto hf p i) (fun p i => writeInto h p i) items
      Projection.empty
    rw [List.filterMap_eq_flatMap_toList, List.map_flatMap]
    exact hitems.map _

end Walks

/-! ## Bound queries -/

namespace BoundQuery

variable {T : PathTable} {b : BoundQuery} {q : Query}

/-- A question to a bound query walks what the question to its query demands. -/
theorem Binds.walks_reply (h : b.Binds T q) (event : Value) (asked : Question) :
    Walks T event (b.reply asked) ((q.demands event asked).map some) := by
  cases asked with
  | holds =>
    refine Walks.map ?_ Reply.truth
    unfold BoundQuery.holds Query.demands
    rcases h.condition_cases with ⟨hb, hq⟩ | ⟨e', e, hb, hq, he⟩
    · rw [hb, hq]
      exact .pure true
    · rw [hb, hq]
      have hdemands : (e'.demands (ofPath? event ∘ T.get?)).map T.get? =
          (e.demands (Query.find event)).map some := by
        rw [← Expr.demands_mapPaths, he, Expr.demands_mapPaths]
        rfl
      show Walks T event (e'.holds Resolution.find) ((e.demands (Query.find event)).map some)
      rw [← hdemands]
      exact .holds Agrees.find .find e'
  | project =>
    refine Walks.map ?_ Reply.document
    have hall : b.select.any SelectItem.isAll = q.statement.selectsAll := h.selectsAll
    have hpaths : (b.select.filterMap SelectItem.path?).map T.get? = q.selectPaths.map some := by
      rw [← SelectItem.filterMap_path?_map, h.select, SelectItem.filterMap_path?_map]
      rfl
    have hfind : ∀ id, Walks T event (Resolution.find id) [T.get? id] := Walks.find
    have hselect := Walks.select Agrees.find hfind b.select event
    rw [hall, hpaths] at hselect
    intro r hr
    have hrun : b.project.run r = (EventQuery.select Resolution.find b.select event).run r := by
      rw [← hr.event]
      rfl
    rw [hrun, Query.demands, apply_ite (List.map some), List.map_nil]
    exact hselect r hr

end BoundQuery

/-! ## The whole store -/

theorem length_firstOccurrences_le {α : Type} [DecidableEq α] {xs ys : List α} (h : xs ⊆ ys) :
    (firstOccurrences xs).length ≤ ys.length :=
  (List.subperm_of_subset (nodup_firstOccurrences xs)
    fun _ hx => h (mem_firstOccurrences.mp hx)).length_le

namespace Resolution

variable {T : PathTable} {event : Value} {r : Resolution} {ds : List Path}

theorem not_walked_start (p : Path) : ¬(start T event).Walked p := by
  rintro ⟨id, found, -, h⟩
  rw [start, List.getElem?_replicate] at h
  split at h <;> cases h

/-- By the paths that were walked everything in a sound store is given. -/
theorem Sound.known_eq (h : r.Sound T event) (hds : ∀ p, r.Walked p ↔ p ∈ ds) :
    r.known = T.paths.map fun p => if p ∈ ds then some (p.resolve event) else none := by
  refine List.ext_getElem (h.size.trans (List.length_map _).symm) fun i hi hi' => ?_
  have hlt : i < T.paths.length := by rwa [List.length_map] at hi'
  have hp : T.get? ⟨i⟩ = some T.paths[i] := List.getElem?_eq_getElem hlt
  have hcell : r.known[i]? = some r.known[i] := List.getElem?_eq_getElem hi
  rw [List.getElem_map]
  cases hk : r.known[i] with
  | some found =>
    rw [hk] at hcell
    have hfound := (h.known ⟨i⟩ found hcell).trans (h.resolve_eq ⟨i⟩)
    rw [hp] at hfound
    rw [if_pos ((hds _).mp ⟨⟨i⟩, found, by rw [h.table, hp], hcell⟩), hfound]
    rfl
  | none =>
    rw [if_neg]
    intro hmem
    obtain ⟨id, found, hid, hfound⟩ := (hds _).mpr hmem
    -- The path has one number only.
    rw [h.table, ← PathTable.idOf?_eq_some, PathTable.idOf?_eq_some.mpr hp] at hid
    cases hid
    rw [hcell, hk] at hfound
    cases hfound

/-- So the walked paths are counted by the numbers of the table. -/
theorem Sound.walked_eq (h : r.Sound T event) (hds : ∀ p, r.Walked p ↔ p ∈ ds)
    (hd : T.paths.Nodup) (hsub : ds ⊆ T.paths) : r.walked = (firstOccurrences ds).length := by
  have hperm : (T.paths.filter fun p => p ∈ ds).Perm (firstOccurrences ds) := by
    refine (List.perm_ext_iff_of_nodup (hd.filter _) (nodup_firstOccurrences ds)).mpr fun p => ?_
    rw [List.mem_filter, mem_firstOccurrences, decide_eq_true_iff]
    exact and_iff_right_of_imp fun hp => hsub hp
  rw [walked, h.known_eq hds, List.countP_map, ← hperm.length_eq, ← List.countP_eq_length_filter]
  refine List.countP_congr fun p _ => ?_
  rw [Function.comp_apply]
  split <;> simp [*]

end Resolution

/-! ## Questions to a plan -/

namespace Plan

variable {p : Plan} {ks : List Query}

/-- What is known of an event after some questions to the queries of the plan. -/
def after (p : Plan) (event : Value) (calls : List (String × Question)) : Resolution :=
  ((calls.mapM fun c => p.ask c.1 c.2).run (p.start event)).2

theorem IsOf.walks_ask (h : p.IsOf ks) (event : Value) (c : String × Question) :
    Walks p.table event (p.ask c.1 c.2) ((demanded ks event [c]).map some) := by
  rw [demanded, List.flatMap_singleton]
  unfold Plan.ask
  rcases h.query?_cases c.1 with ⟨hb, hq⟩ | ⟨b, q, hb, hq, hbind⟩
  · rw [hb, hq]
    exact .pure none
  · rw [hb, hq]
    exact (hbind.walks_reply event c.2).map some

theorem IsOf.sound_after (h : p.IsOf ks) (event : Value) (calls : List (String × Question)) :
    (p.after event calls).Sound p.table event := by
  have hagree := Agrees.mapM (List.forall₂_same.mpr fun c (_ : c ∈ calls) =>
    h.agrees_ask event c.1 c.2)
  exact (hagree _ (Resolution.sound_start p.table event)).2

theorem IsOf.walked_after (h : p.IsOf ks) (event : Value) (calls : List (String × Question))
    (path : Path) : (p.after event calls).Walked path ↔ path ∈ demanded ks event calls := by
  have hwalks := Walks.mapM (fun c => h.agrees_ask event c.1 c.2) (h.walks_ask event) calls _
    (Resolution.sound_start p.table event) path
  rw [or_iff_right (Resolution.not_walked_start path), ← List.map_flatMap] at hwalks
  refine hwalks.trans ?_
  rw [List.mem_map_of_injective (Option.some_injective _)]
  simp only [demanded, List.flatMap_singleton]

/-- Stores of one event are the same if the same paths are demanded. -/
theorem IsOf.after_congr (h : p.IsOf ks) {event : Value} {calls others : List (String × Question)}
    (hsame : ∀ path, path ∈ demanded ks event others ↔ path ∈ demanded ks event calls) :
    p.after event others = p.after event calls := by
  have hs := h.sound_after event others
  have hs' := h.sound_after event calls
  have hknown : (p.after event others).known = (p.after event calls).known := by
    have hwalked := fun path => (h.walked_after event others path).trans (hsame path)
    rw [hs.known_eq hwalked, hs'.known_eq (h.walked_after event calls)]
  have htable := hs.table.trans hs'.table.symm
  have hevent := hs.event.trans hs'.event.symm
  revert htable hevent hknown
  cases p.after event others
  cases p.after event calls
  rintro rfl rfl rfl
  rfl

theorem demanded_subset (ks : List Query) (event : Value) (calls : List (String × Question)) :
    demanded ks event calls ⊆ ks.flatMap fun q => q.statement.referencedPaths := by
  intro path hpath
  obtain ⟨c, -, hpath⟩ := List.mem_flatMap.mp hpath
  cases hfind : ks.find? (·.id == c.1) with
  | none => rw [hfind] at hpath; cases hpath
  | some q =>
    rw [hfind] at hpath
    exact List.mem_flatMap.mpr
      ⟨q, List.mem_of_find?_eq_some hfind, q.demands_subset event c.2 hpath⟩

theorem IsOf.demanded_subset_paths (h : p.IsOf ks) (event : Value)
    (calls : List (String × Question)) : demanded ks event calls ⊆ p.table.paths := by
  rw [h.unites.paths]
  exact fun path hpath => mem_firstOccurrences.mpr (demanded_subset ks event calls hpath)

theorem demanded_kept (qs : List Query) (event : Value) (calls : List (String × Question)) :
    demanded (kept qs) event calls = demanded qs event calls := by
  simp only [demanded, find?_kept]

/-- After some questions to the plan of some queries, what they demand has been walked, and nothing
    else. -/
structure WalksDemanded (p : Plan) (qs : List Query) (event : Value)
    (calls : List (String × Question)) : Prop where
  /-- The walked paths are those that some question demands. -/
  walked : ∀ path, (p.after event calls).Walked path ↔ path ∈ demanded qs event calls
  /-- The store has their matches on the event, and nothing at the other paths. -/
  known : (p.after event calls).known = p.table.paths.map fun path =>
    if path ∈ demanded qs event calls then some (path.resolve event) else none
  /-- Each is counted once, -/
  count : (p.after event calls).walked = (firstOccurrences (demanded qs event calls)).length
  /-- so there are no more of them than the table has paths. -/
  bounded : (p.after event calls).walked ≤ p.table.size
  /-- With more questions the count does not go down. -/
  grows : ∀ more, (p.after event calls).walked ≤ (p.after event (calls ++ more)).walked
  /-- A question that is repeated changes nothing, -/
  repeated : ∀ c ∈ calls, p.after event (calls ++ [c]) = p.after event calls
  /-- and neither does the order of the questions. -/
  unordered : ∀ others, (∀ c, c ∈ others ↔ c ∈ calls) → p.after event others = p.after event calls
  /-- All that a question to a bound query demands is among the paths that it refers to. -/
  referenced : ∀ c b, p.query? c.1 = some b → ∀ path ∈ demanded qs event [c],
    ∃ id ∈ b.referenced, p.table.get? id = some path

theorem IsOf.exists_mem_referenced (h : p.IsOf ks) {event : Value} {c : String × Question}
    {b : BoundQuery} (hb : p.query? c.1 = some b) {path : Path}
    (hpath : path ∈ demanded ks event [c]) : ∃ id ∈ b.referenced, p.table.get? id = some path := by
  rw [demanded, List.flatMap_singleton] at hpath
  rcases h.query?_cases c.1 with ⟨hb', -⟩ | ⟨b', q, hb', hq, hbind⟩
  · rw [hb] at hb'
    cases hb'
  · rw [hb] at hb'
    cases hb'
    rw [hq] at hpath
    have hmem : some path ∈ b.referenced.map p.table.get? := by
      rw [hbind.referenced]
      exact List.mem_map_of_mem (q.demands_subset event c.2 hpath)
    exact List.mem_map.mp hmem

theorem IsOf.walksDemanded (h : p.IsOf ks) (event : Value) (calls : List (String × Question)) :
    p.WalksDemanded ks event calls := by
  have hcount : ∀ calls, (p.after event calls).walked =
      (firstOccurrences (demanded ks event calls)).length := fun calls =>
    (h.sound_after event calls).walked_eq (h.walked_after event calls) h.unites.distinct
      (h.demanded_subset_paths event calls)
  have hunordered : ∀ others, (∀ c, c ∈ others ↔ c ∈ calls) →
      p.after event others = p.after event calls := by
    intro others hothers
    refine h.after_congr fun path => ?_
    simp only [demanded, List.mem_flatMap, hothers]
  refine ⟨h.walked_after event calls, ?_, hcount calls, ?_, ?_, ?_, hunordered, ?_⟩
  · exact (h.sound_after event calls).known_eq (h.walked_after event calls)
  · rw [hcount]
    exact length_firstOccurrences_le (h.demanded_subset_paths event calls)
  · intro more
    rw [hcount, hcount]
    refine length_firstOccurrences_le fun path hpath => mem_firstOccurrences.mpr ?_
    rw [demanded, List.flatMap_append]
    exact List.mem_append_left _ hpath
  · intro c hc
    refine hunordered _ fun c' => ?_
    rw [List.mem_append, List.mem_singleton]
    exact or_iff_left_of_imp fun heq => heq ▸ hc
  · exact fun c b hb path => h.exists_mem_referenced hb

/-- Whatever is asked of the queries of a plan about an event, in whatever order and however often,
    the paths that are walked are exactly those that the questions demand. -/
theorem after_walks_demanded (qs : List Query) (event : Value)
    (calls : List (String × Question)) : (ofQueries qs).WalksDemanded qs event calls := by
  have h := (isOf_ofQueries qs).walksDemanded event calls
  have hdemanded := demanded_kept qs event
  exact {
    walked := by simpa only [hdemanded] using h.walked
    known := by simpa only [hdemanded] using h.known
    count := by simpa only [hdemanded] using h.count
    bounded := h.bounded
    grows := h.grows
    repeated := h.repeated
    unordered := h.unordered
    referenced := by simpa only [hdemanded] using h.referenced }

/-- A condition that is decided by its first path. -/
def decidedQuery : Query where
  id := "decided"
  text := "select version from s where absent == version and errors"
  statement := {
    select := [.path [.key "version"] none]
    stream := "s"
    window := none
    condition := some (.and (.compare (.path [.key "absent"]) .eq (.path [.key "version"]))
      (.path [.key "errors"]))
    groupBy := []
    sample := none }

/-- Nothing is found at the first path, so no other is looked up, however often that is asked. -/
theorem after_walks_demanded_of_decidedQuery :
    (ofQueries [decidedQuery]).WalksDemanded [decidedQuery] failedEvent
      [("decided", .holds), ("decided", .holds)] ∧
    ((ofQueries [decidedQuery]).after failedEvent
      [("decided", .holds), ("decided", .holds)]).known = [none, some [], none] :=
  ⟨after_walks_demanded [decidedQuery] failedEvent _, rfl⟩

end Plan
end EventQuery
