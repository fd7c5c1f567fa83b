import EventQuery.Path.Table
import EventQuery.Query.Statement

/-!
# Numbers in a growing table

Plans hold bare numbers into a table that is still growing while later queries are bound. What
makes that sound is one relation: a table *extends* another if it has the same path behind every
number that the other has given out (`PathTable.Extends`). Putting a path in extends the table and
gives out a number behind which the path is found (`extends_intern`, `get?_intern`); everything else
about binding is carried by these two facts.
-/

namespace EventQuery
namespace PathTable

/-- Every number that the first table has given out means the same path in the second. -/
def Extends (t t' : PathTable) : Prop := ∀ id p, t.get? id = some p → t'.get? id = some p

theorem Extends.refl (t : PathTable) : t.Extends t := fun _ _ h => h

theorem Extends.trans {t t' t'' : PathTable} (h : t.Extends t') (h' : t'.Extends t'') :
    t.Extends t'' := fun id p hp => h' id p (h id p hp)

/-- A number is known to a path exactly if the path is in the table. -/
theorem mem_paths_iff {t : PathTable} {p : Path} : p ∈ t.paths ↔ ∃ id, t.idOf? p = some id := by
  rw [List.mem_iff_getElem?]
  constructor
  · rintro ⟨i, hi⟩
    exact ⟨⟨i⟩, idOf?_eq_some.mpr hi⟩
  · rintro ⟨id, hid⟩
    exact ⟨id.index, idOf?_eq_some.mp hid⟩

/-- The numbers of a table stand for its paths, in order. -/
theorem map_get?_ids (t : PathTable) : t.ids.map t.get? = t.paths.map some :=
  List.ext_getElem (by simp [ids, size]) fun i h h' => by
    simp [ids, get?, List.getElem?_eq_getElem (by simpa using h')]

/-! ## One path -/

/-- The two outcomes of putting a path in: it was there, or it is the last one now. -/
theorem intern_cases (t : PathTable) (p : Path) :
    (∃ id, t.idOf? p = some id ∧ t.intern p = (id, t)) ∨
    (p ∉ t.paths ∧ (t.intern p).1 = ⟨t.size⟩ ∧ (t.intern p).2.paths = t.paths ++ [p]) := by
  unfold intern
  split
  · next id h => exact Or.inl ⟨id, h, rfl⟩
  · next h =>
    refine Or.inr ⟨?_, rfl, rfl⟩
    intro hp
    obtain ⟨id, hid⟩ := mem_paths_iff.mp hp
    rw [h] at hid
    cases hid

/-- The paths of the table then: a path is put in once, at the end. -/
theorem paths_intern (t : PathTable) (p : Path) : (t.intern p).2.paths = addNew t.paths p := by
  unfold addNew
  rcases intern_cases t p with ⟨id, hid, he⟩ | ⟨hp, -, hpaths⟩
  · rw [he, if_pos (mem_paths_iff.mpr ⟨id, hid⟩)]
  · rw [if_neg hp, hpaths]

theorem extends_intern (t : PathTable) (p : Path) : t.Extends (t.intern p).2 := by
  intro id q hq
  obtain ⟨more, hmore⟩ : t.paths <+: (t.intern p).2.paths := by
    rw [paths_intern]
    exact prefix_foldl_addNew [p] t.paths
  obtain ⟨hlt, -⟩ := List.getElem?_eq_some_iff.mp hq
  rw [get?, ← hmore, List.getElem?_append_left hlt]
  exact hq

/-- The path is found behind the number that was given out for it. -/
theorem get?_intern (t : PathTable) (p : Path) :
    (t.intern p).2.get? (t.intern p).1 = some p := by
  rcases intern_cases t p with ⟨id, hid, he⟩ | ⟨-, hnum, hpaths⟩
  · -- The number was there, and the two directions of the table are inverse to each other.
    rw [he]
    exact idOf?_eq_some.mp hid
  · rw [hnum, get?, hpaths]
    exact List.getElem?_concat_length

/-! ## Runs that only put paths in

A step of binding gives out numbers for a list of paths, and nothing else happens to the table. -/

/-- After the run the table has got the given paths, in their order. -/
def Interns {α : Type} (ps : List Path) (run : StateM PathTable α) : Prop :=
  ∀ t, t.Extends (run.run t).2 ∧ (run.run t).2.paths = ps.foldl addNew t.paths

theorem interns_number (p : Path) : Interns [p] (number p) := fun t =>
  ⟨extends_intern t p, paths_intern t p⟩

theorem interns_pure {α : Type} (a : α) : Interns [] (pure a : StateM PathTable α) := fun t =>
  ⟨.refl t, rfl⟩

theorem Interns.extends {α : Type} {ps : List Path} {run : StateM PathTable α}
    (h : Interns ps run) (t : PathTable) : t.Extends (run.run t).2 := (h t).1

theorem Interns.bind {α β : Type} {ps qs : List Path} {run : StateM PathTable α}
    {next : α → StateM PathTable β} (h : Interns ps run) (h' : ∀ a, Interns qs (next a)) :
    Interns (ps ++ qs) (run >>= next) := by
  intro t
  obtain ⟨he, hp⟩ := h t
  obtain ⟨he', hp'⟩ := h' (run.run t).1 (run.run t).2
  refine ⟨he.trans he', ?_⟩
  rw [List.foldl_append, ← hp]
  exact hp'

theorem Interns.mapM {α β : Type} {f : α → StateM PathTable β} {paths : α → List Path}
    (h : ∀ a, Interns (paths a) (f a)) : ∀ as : List α, Interns (as.flatMap paths) (as.mapM f)
  | [] => interns_pure []
  | a :: as => by
    rw [List.mapM_cons, List.flatMap_cons]
    refine (h a).bind fun b => ?_
    rw [← List.append_nil (as.flatMap paths)]
    exact (Interns.mapM h as).bind fun bs => interns_pure (b :: bs)

end PathTable
end EventQuery
