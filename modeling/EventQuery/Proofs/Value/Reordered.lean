import EventQuery.Value

/-!
# Values up to the order of fields

A projection is put together in the order in which its paths are given, and so is the order of its
fields. Two values are *reordered* if nothing but the order of fields tells them apart, in the
objects from the outermost inwards. Lists, and everything below them, are the same in both.
-/

namespace EventQuery
namespace Value

/-- Nothing but the order of fields tells the two values apart. -/
inductive Reordered : Value → Value → Prop
  | same (v : Value) : Reordered v v
  | object {as bs : List (String × Value)} (names : (Record.keys as).Perm (Record.keys bs))
      (values : ∀ name v w, Record.get? as name = some v → Record.get? bs name = some w →
        Reordered v w) : Reordered (object as) (object bs)

namespace Reordered

theorem symm {v w : Value} (h : Reordered v w) : Reordered w v := by
  induction h with
  | same v => exact .same v
  | object names values ih =>
    exact .object names.symm fun name v w hv hw => ih name w v hw hv

theorem trans {u v w : Value} (h : Reordered u v) (h' : Reordered v w) : Reordered u w := by
  induction h generalizing w with
  | same v => exact h'
  | object names values ih =>
    cases h' with
    | same => exact .object names values
    | object names' values' =>
      refine .object (names.trans names') ?_
      intro name x z hx hz
      obtain ⟨y, hy⟩ := Record.exists_get?_of_perm names hx
      exact ih name x y hx hy (values' name y z hy hz)

end Reordered
end Value
end EventQuery
