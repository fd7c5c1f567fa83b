import EventQuery.Proofs.Plan.Binding

/-!
# Shared resolutions

The queries of a plan are evaluated over one store of matches, filled as they go. The evaluator does
not know: it is written for any way of looking paths up, and this file shows that looking up in the
store comes to the same as searching the event every time.

The store is *sound* as long as whatever it holds of a path is what the path leads to on the event
(`Resolution.Sound`); it need not be complete, and nothing is said of what has been looked up so
far. A computation *agrees* with one that has no store if it gives the same result on every sound
store and leaves a sound one (`Agrees`). Agreement goes through every construct of conditions and
select lists, so the order in which queries are asked, and how often, does not matter.
-/

namespace EventQuery

/-! ## Renaming references

The evaluator looks at references to paths only through the function that looks them up. -/

section Renaming

variable {m : Type → Type} [Monad m] {P Q : Type}

namespace Expr

theorem values_mapPaths (find : Q → m (List Match)) (f : P → Q) (truth : m Bool) (e : Expr P) :
    (e.mapPaths f).values find truth = e.values (find ∘ f) truth := by
  cases e <;> rfl

theorem compareValues_mapPaths (left : m (List Value)) (op : Comparison) (f : P → Q)
    (right : Expr P) (rightValues : m (List Value)) :
    compareValues left op (right.mapPaths f) rightValues =
      compareValues left op right rightValues := by
  cases op <;> cases right <;> rfl

theorem holds_mapPaths (find : Q → m (List Match)) (f : P → Q) (e : Expr P) :
    (e.mapPaths f).holds find = e.holds (find ∘ f) := by
  induction e with
  | literal v | bool b | pattern p | path p => rfl
  | compare l op r ihl ihr =>
    simp only [mapPaths, holds, ihl, ihr, values_mapPaths, compareValues_mapPaths]
  | and l r ihl ihr | or l r ihl ihr => simp only [mapPaths, holds, ihl, ihr]
  | not e ih => simp only [mapPaths, holds, ih]

end Expr

theorem writeInto_mapPath (find : Q → m (List Match)) (f : P → Q) (p : Projection)
    (i : SelectItem P) : (i.mapPath f).writeInto find p = i.writeInto (find ∘ f) p := by
  match i with
  | .all | .path _ none | .path _ (some _) => rfl

theorem select_mapPath (find : Q → m (List Match)) (f : P → Q) (items : List (SelectItem P))
    (event : Value) :
    select find (items.map (SelectItem.mapPath f)) event = select (find ∘ f) items event := by
  have hall : (items.map (SelectItem.mapPath f)).any SelectItem.isAll =
      items.any SelectItem.isAll := by
    rw [List.any_map, SelectItem.isAll_comp_mapPath]
  simp only [select, hall, List.foldlM_map, writeInto_mapPath]

theorem gather_map (find : Q → m (List Match)) (f : P → Q) (ps : List P) :
    gather find (ps.map f) = gather (find ∘ f) ps := by
  simp only [gather, List.foldlM_map, Function.comp]

end Renaming

/-! ## Agreement -/

namespace Resolution

/-- What is known of the paths of the table on the event is right. -/
structure Sound (T : PathTable) (event : Value) (r : Resolution) : Prop where
  table : r.table = T
  event : r.event = event
  size : r.known.length = T.size
  known : ∀ id found, r.known[PathId.index id]? = some (some found) → found = r.resolve id

theorem sound_start (T : PathTable) (event : Value) : (start T event).Sound T event := by
  refine ⟨rfl, rfl, List.length_replicate, ?_⟩
  intro id found h
  rw [start, List.getElem?_replicate] at h
  split at h
  · cases h
  · cases h

/-- The matches of a path that a table may have. -/
def ofPath? (event : Value) (p : Option Path) : Id (List Match) :=
  match p with
  | some p => p.resolve event
  | none => []

theorem Sound.resolve_eq {T : PathTable} {event : Value} {r : Resolution} (h : r.Sound T event)
    (id : PathId) : r.resolve id = (ofPath? event (T.get? id)).run := by
  rw [resolve, h.table, h.event]
  rfl

/-- Storing the matches of a path keeps the store sound. -/
theorem Sound.store {T : PathTable} {event : Value} {r : Resolution} (h : r.Sound T event)
    (id : PathId) :
    Sound T event { r with known := r.known.set id.index (some (r.resolve id)) } := by
  refine ⟨h.table, h.event, by rw [List.length_set, h.size], ?_⟩
  intro id' found hf
  show found = r.resolve id'
  rw [List.getElem?_set] at hf
  split at hf
  · next heq =>
    have hid : id = id' := congrArg PathId.mk heq
    split at hf
    · simpa [hid] using hf.symm
    · cases hf
  · exact h.known id' found hf

end Resolution

/-- On every sound store the computation gives what the other gives without one, and the store
    stays sound. -/
def Agrees (T : PathTable) (event : Value) {α : Type} (x : StateM Resolution α) (y : Id α) : Prop :=
  ∀ r, r.Sound T event → (x.run r).1 = y.run ∧ ((x.run r).2).Sound T event

namespace Agrees

open Resolution

variable {T : PathTable} {event : Value} {α β : Type}

theorem pure (a : α) : Agrees T event (pure a) (pure a) := fun _ h => ⟨rfl, h⟩

theorem bind {x : StateM Resolution α} {y : Id α} {f : α → StateM Resolution β} {g : α → Id β}
    (h : Agrees T event x y) (h' : ∀ a, Agrees T event (f a) (g a)) :
    Agrees T event (x >>= f) (y >>= g) := by
  intro r hr
  obtain ⟨hval, hs⟩ := h r hr
  have hnext := h' y.run (x.run r).2 hs
  rw [← hval] at hnext
  refine ⟨?_, hnext.2⟩
  rw [← show (g (x.run r).1).run = (y >>= g).run from congrArg (fun a => (g a).run) hval]
  exact hnext.1

/-- What is made of the result agrees as well. -/
theorem map {x : StateM Resolution α} {y : Id α} (h : Agrees T event x y) (f : α → β) :
    Agrees T event (x >>= fun a => Pure.pure (f a)) (Pure.pure (f y.run)) := fun r hr =>
  ⟨congrArg f (h r hr).1, (h r hr).2⟩

theorem ite {x x' : StateM Resolution α} {y y' : Id α} (c : Prop) [Decidable c]
    (h : Agrees T event x y) (h' : Agrees T event x' y') :
    Agrees T event (if c then x else x') (if c then y else y') := by
  split
  · exact h
  · exact h'

theorem mapM {γ : Type} {f : α → StateM Resolution β} {g : γ → Id β} :
    ∀ {as : List α} {cs : List γ}, List.Forall₂ (fun a c => Agrees T event (f a) (g c)) as cs →
      Agrees T event (as.mapM f) (cs.mapM g)
  | [], [], .nil => pure []
  | a :: as, c :: cs, .cons h hs => by
    rw [List.mapM_cons, List.mapM_cons]
    exact h.bind fun b => (mapM hs).bind fun bs => pure (b :: bs)

theorem foldlM {f : β → α → StateM Resolution β} {g : β → α → Id β}
    (h : ∀ b a, Agrees T event (f b a) (g b a)) :
    ∀ (as : List α) (b : β), Agrees T event (as.foldlM f b) (as.foldlM g b)
  | [], b => pure b
  | a :: as, b => by
    rw [List.foldlM_cons, List.foldlM_cons]
    exact (h b a).bind fun b' => foldlM h as b'

/-- Looking a number up comes to searching the event for the path behind it. -/
theorem find (id : PathId) :
    Agrees T event (Resolution.find id) (ofPath? event (T.get? id)) := by
  intro r hr
  rw [← show r.resolve id = _ from hr.resolve_eq id]
  simp only [Resolution.find, StateT.run]
  split
  · next found hfound => exact ⟨hr.known id found hfound, hr⟩
  · exact ⟨rfl, hr.store id⟩

/-! ## Conditions and select lists -/

variable {P : Type} {find : P → StateM Resolution (List Match)} {look : P → Id (List Match)}

theorem values (hf : ∀ p, Agrees T event (find p) (look p)) {x : StateM Resolution Bool}
    {y : Id Bool} (h : Agrees T event x y) (e : Expr P) :
    Agrees T event (e.values find x) (e.values look y) := by
  cases e with
  | literal v => exact pure [v]
  | pattern p => exact pure _
  | path p => exact (hf p).bind fun found => pure _
  | bool _ | compare _ _ _ | and _ _ | or _ _ | not _ => exact h.bind fun b => pure _

theorem compareValues {left right : StateM Resolution (List Value)} {left' right' : Id (List Value)}
    (hl : Agrees T event left left') (hr : Agrees T event right right') (op : Comparison)
    (e : Expr P) :
    Agrees T event (Expr.compareValues left op e right)
      (Expr.compareValues left' op e right') := by
  refine hl.bind fun as => ite _ (pure false) ?_
  cases op with
  | matching => cases e <;> exact pure _
  | eq | ne | lt | le | gt | ge => exact hr.bind fun bs => pure _

theorem holds (hf : ∀ p, Agrees T event (find p) (look p)) (e : Expr P) :
    Agrees T event (e.holds find) (e.holds look) := by
  induction e with
  | literal v | bool b | pattern p => exact pure _
  | path p => exact (hf p).bind fun found => pure _
  | compare l op r ihl ihr => exact compareValues (values hf ihl l) (values hf ihr r) op r
  | and l r ihl ihr => exact ihl.bind fun b => ite _ ihr (pure false)
  | or l r ihl ihr => exact ihl.bind fun b => ite _ (pure true) ihr
  | not e ih => exact ih.bind fun b => pure _

theorem writeInto (hf : ∀ p, Agrees T event (find p) (look p)) (p : Projection)
    (i : SelectItem P) : Agrees T event (i.writeInto find p) (i.writeInto look p) := by
  match i with
  | .all => exact pure p
  | .path q none => exact (hf q).bind fun found => pure _
  | .path q (some name) => exact (hf q).bind fun found => pure _

theorem select (hf : ∀ p, Agrees T event (find p) (look p)) (items : List (SelectItem P))
    (v : Value) :
    Agrees T event (EventQuery.select find items v) (EventQuery.select look items v) := by
  refine ite _ (pure v) ?_
  exact (foldlM (fun p i => writeInto hf p i) items _).bind fun p => pure p.toValue

theorem gather (hf : ∀ p, Agrees T event (find p) (look p)) (ps : List P) :
    Agrees T event (EventQuery.gather find ps) (EventQuery.gather look ps) := by
  refine (foldlM (fun p q => ?_) ps _).bind fun p => pure p.toValue
  exact (hf q).bind fun found => pure _

end Agrees

/-! ## Bound queries

What a bound query says over the store is what its query says of the event. -/

namespace BoundQuery

open Resolution

variable {T : PathTable} {b : BoundQuery} {q : Query}

theorem Binds.agrees_holds (h : b.Binds T q) (event : Value) :
    Agrees T event b.holds (q.holds event) := by
  unfold BoundQuery.holds Query.holds
  rcases h.condition_cases with ⟨hb, hq⟩ | ⟨e', e, hb, hq, he⟩
  · rw [hb, hq]
    exact .pure true
  · rw [hb, hq]
    have heq : e'.holds (ofPath? event ∘ T.get?) = e.holds (Query.find event) := by
      rw [← Expr.holds_mapPaths, he, Expr.holds_mapPaths]
      rfl
    show Agrees T event (e'.holds Resolution.find) (e.holds (Query.find event))
    rw [← heq]
    exact Agrees.holds Agrees.find e'

theorem Binds.agrees_project (h : b.Binds T q) (event : Value) :
    Agrees T event b.project (q.project event) := by
  have heq : EventQuery.select (ofPath? event ∘ T.get?) b.select event =
      EventQuery.select (Query.find event) q.statement.select event := by
    rw [← select_mapPath, h.select, select_mapPath]
    rfl
  intro r hr
  have hrun : b.project.run r = (EventQuery.select Resolution.find b.select event).run r := by
    rw [← hr.event]
    rfl
  rw [hrun, show q.project event = _ from congrArg Id.run heq.symm]
  exact Agrees.select Agrees.find b.select event r hr

end BoundQuery
end EventQuery
