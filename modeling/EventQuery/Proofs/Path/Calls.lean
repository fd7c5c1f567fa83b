import EventQuery.Proofs.Path.Numbering
import Mathlib.Data.Finset.Dedup
import Mathlib.Data.Finset.Card

/-!
# Tables under calls

A table is used by two calls, one that puts a path in and one that asks for the number of a path.
After any calls on a new table it numbers just the paths that were put in (`PathTable.Numbers`), and
whatever is called later no number means another path and no path gets another number
(`PathTable.numbers_after`).

A call comes to three things. A path that is known, or only asked for, leaves the table as it is; a
path that is new becomes the last one and gets the next number. So the table only ever grows
(`PathTable.extends_after`), and what two calls answer can be compared in the later of their two
tables, whose two directions are inverse to each other.
-/

namespace EventQuery
namespace PathTable

/-- A use of a table. -/
inductive Call where
  /-- The number of a path, which is put in if it is new. -/
  | intern (p : Path)
  /-- The number of a path, if it has one. -/
  | find (p : Path)
deriving DecidableEq, Repr

/-- What a call answers, and the table then. -/
def call (t : PathTable) : Call → Option PathId × PathTable
  | .intern p => (some (t.intern p).1, (t.intern p).2)
  | .find p => (t.idOf? p, t)

/-- The table after some calls. -/
def after (t : PathTable) (cs : List Call) : PathTable := cs.foldl (fun t c => (t.call c).2) t

/-- The path that the call puts in. -/
def Call.interned? : Call → Option Path
  | intern p => some p
  | find _ => none

/-- The paths that some calls have put in, each as often as they did. -/
def interned (cs : List Call) : List Path := cs.filterMap Call.interned?

theorem mem_interned {cs : List Call} {p : Path} : p ∈ interned cs ↔ .intern p ∈ cs := by
  rw [interned, List.mem_filterMap]
  constructor
  · rintro ⟨c, hc, hp⟩
    cases c with
    | intern q => cases hp; exact hc
    | find q => cases hp
  · exact fun h => ⟨_, h, rfl⟩

/-! ## Growth -/

theorem extends_call (t : PathTable) (c : Call) : t.Extends (t.call c).2 := by
  cases c with
  | intern p => exact extends_intern t p
  | find p => exact .refl t

/-- A table only ever grows. -/
theorem extends_after (t : PathTable) (cs : List Call) : t.Extends (t.after cs) := by
  induction cs generalizing t with
  | nil => exact .refl t
  | cons c cs ih => exact (extends_call t c).trans (ih (t.call c).2)

/-- The paths of a table after some calls are those that it had, and those that were put in. -/
theorem paths_after (t : PathTable) (cs : List Call) :
    (t.after cs).paths = (interned cs).foldl addNew t.paths := by
  induction cs generalizing t with
  | nil => rfl
  | cons c cs ih =>
    rw [after, List.foldl_cons, ← after, ih]
    cases c with
    | intern p => rw [call, paths_intern]; rfl
    | find p => rfl

/-- On a new table these are the distinct paths in the order in which they came first. -/
theorem paths_after_empty (cs : List Call) :
    (after ∅ cs).paths = firstOccurrences (interned cs) := paths_after ∅ cs

/-- Numbers that were given out at different times are the same for one path and for no two. -/
theorem intern_after_intern (t : PathTable) (more : List Call) (p q : Path) :
    ((((t.intern p).2.after more).intern q).1 = (t.intern p).1) ↔ p = q := by
  have hp : (((t.intern p).2.after more).intern q).2.get? (t.intern p).1 = some p :=
    (extends_after _ more).trans (extends_intern _ q) _ _ (get?_intern t p)
  have hq := get?_intern ((t.intern p).2.after more) q
  constructor
  · intro h
    rw [h, hp] at hq
    exact Option.some.inj hq
  · rintro rfl
    have hfirst := idOf?_eq_some.mpr hp
    rw [idOf?_eq_some.mpr hq] at hfirst
    exact Option.some.inj hfirst

/-! ## Numbers -/

/-- The table numbers the paths that the calls have put in, from zero on in the order in which they
    came first, and will not change that. -/
structure Numbers (t : PathTable) (cs : List Call) : Prop where
  size_eq : t.size = (interned cs).toFinset.card
  /-- The numbers from zero on, one for each path. -/
  ids_eq : t.ids.map PathId.index = List.range (interned cs).toFinset.card
  /-- The paths behind them, in the order in which they came first. -/
  paths_eq : t.ids.map t.get? = (firstOccurrences (interned cs)).map some
  /-- A path that comes for the first time gets the next number. -/
  intern_new : ∀ p, .intern p ∉ cs → (t.intern p).1.index = t.size
  /-- A path that comes again is found, with nothing changed. -/
  intern_known : ∀ p, .intern p ∈ cs → t.call (.intern p) = t.call (.find p)
  found_iff : ∀ p, (∃ id, t.idOf? p = some id) ↔ .intern p ∈ cs
  get?_of_found : ∀ p id, t.idOf? p = some id → t.get? id = some p
  get?_of_interned : ∀ p, (t.intern p).2.get? (t.intern p).1 = some p
  /-- Two numbers that are given out, whatever is called between, are the same only for one path. -/
  same_iff : ∀ p q more, (((t.intern p).2.after more).intern q).1 = (t.intern p).1 ↔ p = q
  path_kept : ∀ id p more, t.get? id = some p → (t.after more).get? id = some p
  number_kept : ∀ id p more, t.idOf? p = some id → (t.after more).idOf? p = some id

/-- The distinct members of a list, counted. -/
theorem length_firstOccurrences {α : Type} [DecidableEq α] (xs : List α) :
    (firstOccurrences xs).length = xs.toFinset.card := by
  rw [← List.toFinset_card_of_nodup (nodup_firstOccurrences xs)]
  congr 1
  ext x
  simp

/-- A table is a bijection between its paths and the numbers from zero on, after any calls on a new
    table and for good. -/
theorem numbers_after (cs : List Call) : Numbers (after ∅ cs) cs := by
  have hsize : (after ∅ cs).size = (interned cs).toFinset.card := by
    rw [size, paths_after_empty, length_firstOccurrences]
  have hfound (p : Path) : (∃ id, (after ∅ cs).idOf? p = some id) ↔ .intern p ∈ cs := by
    rw [← mem_paths_iff, paths_after_empty, mem_firstOccurrences, mem_interned]
  refine ⟨hsize, ?_, ?_, ?_, ?_, hfound, fun p id => idOf?_eq_some.mp, get?_intern _,
    fun p q more => intern_after_intern _ more p q, fun id p more => extends_after _ more id p, ?_⟩
  · rw [ids, List.map_map, ← hsize]
    exact List.map_id _
  · rw [map_get?_ids, paths_after_empty]
  · intro p hp
    rcases intern_cases (after ∅ cs) p with ⟨id, hid, -⟩ | ⟨-, hnew, -⟩
    · exact absurd ((hfound p).mp ⟨id, hid⟩) hp
    · rw [hnew]
  · intro p hp
    obtain ⟨id, hid⟩ := (hfound p).mpr hp
    rcases intern_cases (after ∅ cs) p with ⟨id', hid', hsame⟩ | ⟨hnot, -⟩
    · rw [call, call, hsame, hid']
    · exact absurd (mem_paths_iff.mpr ⟨id, hid⟩) hnot
  · intro id p more h
    exact idOf?_eq_some.mpr (extends_after _ more id p (idOf?_eq_some.mp h))

end PathTable
end EventQuery
