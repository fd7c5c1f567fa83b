import EventQuery.Proofs.Projection.Writing
import EventQuery.Proofs.Value.Reordered

/-!
# The order of writes

Two projections under construction are *alike* if nothing but the order of fields tells them
apart, branches being branches and whole values whole in both (`Alike`). That is more than to say
so of their values: a later write goes into a branch and is dropped at a whole value, so only
projections that are alike stay alike under it (`Alike.write`).

Two writes may change places as long as they do not contradict each other, that is, write two values
under the same names (`write_comm`). On one event matches never do, and so the matches may come in
any order and any number of times (`alike_foldl_insert_of_mem_iff`).
-/

namespace EventQuery
namespace Projection

open Value (Reordered)

/-- Nothing but the order of fields tells the two projections apart. -/
inductive Alike : Projection → Projection → Prop
  | whole {v w : Value} (h : Reordered v w) : Alike (.whole v) (.whole w)
  | branch {as bs : List (String × Projection)} (names : (Record.keys as).Perm (Record.keys bs))
      (inner : ∀ name p q, Record.get? as name = some p → Record.get? bs name = some q →
        Alike p q) : Alike (.branch as) (.branch bs)

theorem sizeOf_field {fields : List (String × Projection)} {name : String} {p : Projection}
    (h : Record.get? fields name = some p) : sizeOf p < sizeOf (branch fields) := by
  have hlt := List.sizeOf_lt_of_mem (Record.mem_of_get? h)
  simp only [Prod.mk.sizeOf_spec, branch.sizeOf_spec] at hlt ⊢
  omega

namespace Alike

theorem refl : ∀ p : Projection, Alike p p
  | .whole v => .whole (.same v)
  | .branch fields => .branch (.refl _) fun name p q hp hq => by
    have hlt := sizeOf_field hp
    rw [hp] at hq
    cases hq
    exact refl p
termination_by p => sizeOf p
decreasing_by exact hlt

theorem symm {p q : Projection} (h : Alike p q) : Alike q p := by
  induction h with
  | whole h => exact .whole h.symm
  | branch names inner ih =>
    exact .branch names.symm fun name p q hp hq => ih name q p hq hp

theorem trans {p q r : Projection} (h : Alike p q) (h' : Alike q r) : Alike p r := by
  induction h generalizing r with
  | whole h =>
    cases h' with
    | whole h' => exact .whole (h.trans h')
  | branch names inner ih =>
    cases h' with
    | branch names' inner' =>
      refine .branch (names.trans names') ?_
      intro name p r hp hr
      obtain ⟨q, hq⟩ := Record.exists_get?_of_perm names hp
      exact ih name p q hp hq (inner' name q r hq hr)

/-- Alike projections have values that differ in the order of fields only. -/
theorem toValue {p q : Projection} (h : Alike p q) : Reordered p.toValue q.toValue := by
  induction h with
  | whole h => exact h
  | @branch as bs names inner ih =>
    refine .object (by rwa [keys_toFields, keys_toFields]) ?_
    intro name v w hv hw
    rw [get?_toFields] at hv hw
    obtain ⟨p, hp, rfl⟩ := Option.map_eq_some_iff.mp hv
    obtain ⟨q, hq, rfl⟩ := Option.map_eq_some_iff.mp hw
    exact ih name p q hp hq

/-- What alike branches have under a name is alike, also where they have nothing. -/
theorem field {as bs : List (String × Projection)} (h : Alike (.branch as) (.branch bs))
    (name : String) :
    Alike ((Record.get? as name).getD .empty) ((Record.get? bs name).getD .empty) := by
  cases h with
  | branch names inner =>
    cases ha : Record.get? as name with
    | some p =>
      obtain ⟨q, hb⟩ := Record.exists_get?_of_perm names ha
      rw [hb]
      exact inner name p q ha hb
    | none =>
      have hb : Record.get? bs name = none :=
        Record.get?_eq_none.mpr fun h => Record.get?_eq_none.mp ha (names.mem_iff.mpr h)
      rw [hb]
      exact refl _

/-- Alike branches with what is alike put under one name are alike. -/
theorem insert_field {as bs : List (String × Projection)} (h : Alike (.branch as) (.branch bs))
    (name : String) {p q : Projection} (hpq : Alike p q) :
    Alike (.branch (Record.insert as name p)) (.branch (Record.insert bs name q)) := by
  cases h with
  | branch names inner =>
    refine .branch (Record.keys_insert_perm names name p q) ?_
    intro other x y hx hy
    rw [Record.get?_insert] at hx hy
    by_cases heq : name = other
    · rw [if_pos heq] at hx hy
      cases hx
      cases hy
      exact hpq
    · rw [if_neg heq] at hx hy
      exact inner other x y hx hy

/-- Values that are told apart by the order of fields only may be written for one another. -/
theorem write : ∀ (names : List String) {p q : Projection} {v w : Value}, Alike p q →
    Reordered v w → Alike (p.write names v) (q.write names w)
  | [], p, q, v, w, _, hv => by
    rw [write_nil, write_nil]
    exact .whole hv
  | _ :: _, .whole _, .whole _, _, _, .whole h, _ => .whole h
  | name :: names, .branch as, .branch bs, v, w, h, hv => by
    rw [write_branch, write_branch]
    exact h.insert_field name (write names (h.field name) hv)

theorem foldl_insert : ∀ (found : List Match) {p q : Projection}, Alike p q →
    Alike (found.foldl insert p) (found.foldl insert q)
  | [], _, _, h => h
  | m :: found, _, _, h => foldl_insert found (h.write m.names (.same m.value))

end Alike

/-! ## Two writes -/

/-- Writing twice under the same names leaves what was written last. -/
theorem write_write : ∀ (names : List String) (p : Projection) (v : Value),
    (p.write names v).write names v = p.write names v
  | [], p, v => by rw [write_nil, write_nil]
  | _ :: _, .whole _, _ => rfl
  | name :: names, .branch fields, v => by
    rw [write_branch, write_branch, Record.get?_insert, if_pos rfl, Record.insert_insert]
    rw [Option.getD_some, write_write names]

/-- Two writes that do not contradict each other may change places. -/
theorem write_comm : ∀ (names others : List String) (p : Projection) {v w : Value},
    (names = others → v = w) →
      Alike ((p.write names v).write others w) ((p.write others w).write names v)
  | [], [], p, v, w, h => by
    rw [h rfl]
    exact .refl _
  | [], _ :: _, p, v, w, _ => by
    rw [write_nil, write_nil]
    exact .refl _
  | _ :: _, [], p, v, w, _ => by
    rw [write_nil, write_nil]
    exact .refl _
  | _ :: _, _ :: _, .whole u, _, _, _ => .refl (.whole u)
  | name :: names, other :: others, .branch fields, v, w, h => by
    simp only [write_branch, Record.get?_insert]
    by_cases heq : name = other
    · -- Under one name the two writes change places further in.
      subst heq
      have hinner := write_comm names others ((Record.get? fields name).getD .empty)
        fun e => h (congrArg (name :: ·) e)
      simp only [if_true, Option.getD_some, Record.insert_insert]
      exact (Alike.refl _).insert_field name hinner
    · -- Under two names neither write sees the other.
      rw [if_neg heq, if_neg fun e => heq e.symm]
      refine .branch (Record.keys_insert_comm _ _ _ _ _ _ _) ?_
      intro next p q hp hq
      rw [Record.get?_insert_comm _ heq, hq] at hp
      cases hp
      exact .refl _

/-! ## Any number of matches -/

/-- Matches that do not contradict each other: under one chain of names there is one value. -/
def Consistent (found : List Match) : Prop :=
  ∀ m ∈ found, ∀ m' ∈ found, m.names = m'.names → m.value = m'.value

/-- Matches of one event are consistent. -/
theorem consistent_of_within {event : Value} {found : List Match}
    (h : ∀ m ∈ found, m.Within event) : Consistent found := by
  intro m hm m' hm' hnames
  exact congrArg Match.value ((h m hm).eq_of_names (h m' hm') hnames)

theorem Consistent.perm {found found' : List Match} (h : Consistent found)
    (hperm : found.Perm found') : Consistent found' := by
  intro m hm m' hm'
  exact h m (hperm.mem_iff.mpr hm) m' (hperm.mem_iff.mpr hm')

theorem Consistent.tail {m : Match} {found : List Match} (h : Consistent (m :: found)) :
    Consistent found := by
  intro m hm m' hm'
  exact h m (List.mem_cons_of_mem _ hm) m' (List.mem_cons_of_mem _ hm')

/-- Consistent matches may be written in any order. -/
theorem alike_foldl_insert_of_perm {found found' : List Match} (hperm : found.Perm found')
    (hc : Consistent found) {p q : Projection} (h : Alike p q) :
    Alike (found.foldl insert p) (found'.foldl insert q) := by
  -- Only neighbours change places, so a swap is two writes that change places, and the rest is
  -- written on what comes out alike.
  induction hperm generalizing p q with
  | nil => exact h
  | cons m hperm ih => exact ih hc.tail (h.write m.names (.same m.value))
  | swap m m' rest =>
    have hcomm := write_comm m'.names m.names p
      (hc m' List.mem_cons_self m (List.mem_cons_of_mem _ List.mem_cons_self))
    exact (hcomm.trans ((h.write _ (.same _)).write _ (.same _))).foldl_insert rest
  | trans hperm hperm' ih ih' => exact (ih hc h).trans (ih' (hc.perm hperm) (.refl q))

/-- A match that is going to be written adds nothing. -/
theorem alike_insert_of_mem {found : List Match} (hc : Consistent found) {m : Match}
    (hm : m ∈ found) (p : Projection) :
    Alike (found.foldl insert (p.insert m)) (found.foldl insert p) := by
  obtain ⟨before, after, rfl⟩ := List.append_of_mem hm
  have hperm : (before ++ m :: after).Perm (m :: (before ++ after)) := List.perm_middle
  have hfirst := alike_foldl_insert_of_perm hperm hc (.refl (p.insert m))
  have hsecond := alike_foldl_insert_of_perm hperm hc (.refl p)
  rw [List.foldl_cons, insert, insert, write_write] at hfirst
  exact hfirst.trans hsecond.symm

theorem alike_foldl_append_of_subset {found : List Match} (hc : Consistent found) :
    ∀ (extra : List Match) (p : Projection), (∀ m ∈ extra, m ∈ found) →
      Alike ((extra ++ found).foldl insert p) (found.foldl insert p)
  | [], p, _ => .refl _
  | m :: extra, p, h => by
    have hrest := alike_foldl_append_of_subset hc extra (p.insert m) fun m' hm' =>
      h m' (List.mem_cons_of_mem m hm')
    exact hrest.trans (alike_insert_of_mem hc (h m List.mem_cons_self) p)

/-- Consistent matches may be written in any order and any number of times. -/
theorem alike_foldl_insert_of_mem_iff {found found' : List Match} (hc : Consistent found)
    (h : ∀ m, m ∈ found ↔ m ∈ found') (p : Projection) :
    Alike (found.foldl insert p) (found'.foldl insert p) := by
  -- Each list is put in front of the other, where it adds nothing; then the two change places.
  have hc' : Consistent found' := by
    intro m hm m' hm'
    exact hc m ((h m).mpr hm) m' ((h m').mpr hm')
  have hmem : ∀ m ∈ found' ++ found, m ∈ found := by
    intro m hm
    exact (List.mem_append.mp hm).elim (h m).mpr id
  have hboth : Consistent (found' ++ found) := by
    intro m hm m' hm'
    exact hc m (hmem m hm) m' (hmem m' hm')
  have hleft := alike_foldl_append_of_subset hc found' p fun m => (h m).mpr
  have hright := alike_foldl_append_of_subset hc' found p fun m => (h m).mp
  have hswap := alike_foldl_insert_of_perm List.perm_append_comm hboth (.refl p)
  exact hleft.symm.trans (hswap.trans hright)

end Projection
end EventQuery
