import EventQuery.Proofs.Projection.Order
import EventQuery.Proofs.Query.Conditions

/-!
# The order of matches

A condition asks whether some match satisfies it, so it does not see in which order the matches of a
path come (`Expr.holds_of_sameMatches`). A select list writes them in their order, which shows in
the order of fields and nowhere else, as long as they do not contradict each other
(`select_of_sameMatches`). Names in a select list take more: what stands under a name is rebuilt
below the keys that all matches share, and how many these are has to be read off the matches as a
set (`le_sharedDepth_iff`).
-/

namespace EventQuery

open Projection
open Value (Reordered)

variable {P : Type}

/-- Both look-ups give the same matches for some references, in one order or another. -/
def SameMatches (find find' : P → Id (List Match)) (ps : List P) : Prop :=
  ∀ p ∈ ps, (find p).run.Perm (find' p).run

/-- A condition does not see in which order matches come. -/
theorem Expr.holds_of_sameMatches {find find' : P → Id (List Match)} (e : Expr P)
    (h : SameMatches find find' e.paths) : (e.holds find).run = (e.holds find').run :=
  e.holds_of_sameValues fun p hp => (h p hp).map Match.value

/-! ## Shared keys -/

namespace Projection

theorem le_sharedLength_iff : ∀ {as bs : List Key} {d : Nat}, d ≤ as.length → d ≤ bs.length →
    (d ≤ sharedLength as bs ↔ as.take d = bs.take d)
  | _, _, 0, _, _ => by simp
  | a :: as, b :: bs, d + 1, ha, hb => by
    rw [sharedLength, List.take_succ_cons, List.take_succ_cons, List.cons.injEq]
    split
    · next h =>
      rw [Nat.succ_le_succ_iff, le_sharedLength_iff (Nat.le_of_succ_le_succ ha)
        (Nat.le_of_succ_le_succ hb)]
      simp [h]
    · next h => simp [h]

theorem le_foldl_min_iff {α : Type} (f : α → Nat) (xs : List α) (n d : Nat) :
    d ≤ xs.foldl (fun n x => min n (f x)) n ↔ d ≤ n ∧ ∀ x ∈ xs, d ≤ f x := by
  induction xs generalizing n with
  | nil => simp
  | cons x xs ih =>
    rw [List.foldl_cons, ih, Nat.le_min, List.forall_mem_cons, and_assoc]

/-- So many keys are shared if every match has one more and all agree in them. -/
theorem le_sharedDepth_iff {found : List Match} (hne : found ≠ []) (d : Nat) :
    d ≤ sharedDepth found ↔
      (∀ m ∈ found, d ≤ m.path.length - 1) ∧
        ∀ m ∈ found, ∀ m' ∈ found, m.path.take d = m'.path.take d := by
  cases found with
  | nil => exact absurd rfl hne
  | cons first rest =>
    have hlimit : d ≤ rest.foldl (fun n m => min n m.path.length) first.path.length - 1 ↔
        ∀ m ∈ first :: rest, d ≤ m.path.length - 1 := by
      cases d with
      | zero => simp
      | succ d =>
        have hone : ∀ n, d + 1 ≤ n - 1 ↔ d + 2 ≤ n := fun n => by omega
        simp only [hone, le_foldl_min_iff, List.forall_mem_cons]
    rw [sharedDepth, le_foldl_min_iff, hlimit]
    refine and_congr_right fun hlen => ?_
    have hshared : ∀ m ∈ rest, d ≤ sharedLength first.path m.path ↔
        first.path.take d = m.path.take d := fun m hm => by
      have hfirst := hlen first List.mem_cons_self
      have hother := hlen m (List.mem_cons_of_mem _ hm)
      exact le_sharedLength_iff (by omega) (by omega)
    -- Agreeing with the first match is agreeing with one another.
    constructor
    · intro h
      have hall : ∀ m ∈ first :: rest, first.path.take d = m.path.take d := fun m hm => by
        rcases List.mem_cons.mp hm with rfl | hm
        · rfl
        · exact (hshared m hm).mp (h m hm)
      exact fun m hm m' hm' => (hall m hm).symm.trans (hall m' hm')
    · intro h m hm
      exact (hshared m hm).mpr (h first List.mem_cons_self m (List.mem_cons_of_mem _ hm))

theorem sharedDepth_of_perm {found found' : List Match} (h : found.Perm found') :
    sharedDepth found = sharedDepth found' := by
  by_cases hne : found = []
  · subst hne
    rw [h.nil_eq]
  · have hne' : found' ≠ [] := fun e => hne (e ▸ h).eq_nil
    refine eq_of_forall_le_iff fun d => ?_
    rw [le_sharedDepth_iff hne, le_sharedDepth_iff hne']
    simp only [h.mem_iff]

/-- Without the keys that all share, consistent matches are consistent still. -/
theorem Consistent.drop_shared {found : List Match} (h : Consistent found) :
    Consistent (found.map fun m => ⟨m.path.drop (sharedDepth found), m.value⟩) := by
  intro m₁ h₁ m₂ h₂ hnames
  obtain ⟨m, hm, rfl⟩ := List.mem_map.mp h₁
  obtain ⟨m', hm', rfl⟩ := List.mem_map.mp h₂
  have hshared := ((le_sharedDepth_iff (List.ne_nil_of_mem hm) _).mp le_rfl).2 m hm m' hm'
  refine h m hm m' hm' ?_
  rw [Match.names, Match.names, ← List.take_append_drop (sharedDepth found) m.path,
    ← List.take_append_drop (sharedDepth found) m'.path, List.map_append, List.map_append, hshared]
  exact congrArg _ hnames

/-- What stands for consistent matches does not depend on their order but for that of fields. -/
theorem gathered?_of_perm {found found' : List Match} (hperm : found.Perm found')
    (hc : Consistent found) :
    (gathered? found = none ∧ gathered? found' = none) ∨
    ∃ v w, gathered? found = some v ∧ gathered? found' = some w ∧ Reordered v w := by
  match found, found', hperm with
  | [], found', hperm =>
    rw [← hperm.nil_eq]
    exact Or.inl ⟨rfl, rfl⟩
  | [m], found', hperm =>
    rw [← List.singleton_perm.mp hperm]
    exact Or.inr ⟨m.value, m.value, rfl, rfl, .same _⟩
  | m :: next :: rest, found', hperm =>
    match found', hperm.length_eq with
    | m' :: next' :: rest', _ =>
      -- The same number of keys is dropped on both sides, and what is left is written.
      refine Or.inr ⟨_, _, rfl, rfl, ?_⟩
      have hdropped := hc.drop_shared
      rw [sharedDepth_of_perm hperm] at hdropped ⊢
      exact (alike_foldl_insert_of_perm (hperm.map _) hdropped (.refl .empty)).toValue

end Projection

/-! ## Select lists -/

theorem writeInto_of_sameMatches {find find' : P → Id (List Match)} (i : SelectItem P)
    (h : SameMatches find find' i.path?.toList) (hc : ∀ p, Consistent (find p).run)
    {p q : Projection} (hpq : Alike p q) :
    Alike (i.writeInto find p).run (i.writeInto find' q).run := by
  match i with
  | .all => exact hpq
  | .path r none =>
    exact alike_foldl_insert_of_perm (h r List.mem_cons_self) (hc r) hpq
  | .path r (some name) =>
    show Alike (p.insertAliased name (find r).run) (q.insertAliased name (find' r).run)
    unfold insertAliased
    rcases gathered?_of_perm (h r List.mem_cons_self) (hc r) with ⟨hn, hn'⟩ | ⟨v, w, hv, hw, hvw⟩
    · rw [hn, hn']
      exact hpq
    · rw [hv, hw]
      exact hpq.write [name] hvw

theorem foldlM_writeInto_of_sameMatches {find find' : P → Id (List Match)}
    (hc : ∀ p, Consistent (find p).run) : ∀ (items : List (SelectItem P)) {p q : Projection},
      SameMatches find find' (items.filterMap SelectItem.path?) → Alike p q →
        Alike (items.foldlM (fun p i => SelectItem.writeInto find p i) p).run
          (items.foldlM (fun p i => SelectItem.writeInto find' p i) q).run
  | [], _, _, _, hpq => hpq
  | i :: items, p, q, h, hpq => by
    have hfirst : SameMatches find find' i.path?.toList := fun r hr =>
      h r (List.mem_filterMap.mpr ⟨i, List.mem_cons_self, Option.mem_toList.mp hr⟩)
    have hrest : SameMatches find find' (items.filterMap SelectItem.path?) := fun r hr => by
      obtain ⟨j, hj, hr⟩ := List.mem_filterMap.mp hr
      exact h r (List.mem_filterMap.mpr ⟨j, List.mem_cons_of_mem i hj, hr⟩)
    exact foldlM_writeInto_of_sameMatches hc items hrest (writeInto_of_sameMatches i hfirst hc hpq)

/-- The order of matches shows in what is selected in the order of fields only. -/
theorem select_of_sameMatches {find find' : P → Id (List Match)} {items : List (SelectItem P)}
    (h : SameMatches find find' (items.filterMap SelectItem.path?))
    (hc : ∀ p, Consistent (find p).run) (hall : items.any SelectItem.isAll = false)
    (event event' : Value) :
    Reordered (select find items event).run (select find' items event').run := by
  unfold select
  rw [hall]
  exact (foldlM_writeInto_of_sameMatches hc items h (.refl .empty)).toValue

end EventQuery
