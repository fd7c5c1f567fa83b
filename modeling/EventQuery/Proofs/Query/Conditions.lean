import EventQuery.Query.Evaluation
import Mathlib.Data.List.Basic
import Mathlib.Tactic.Common

/-!
# Conditions and values

What a condition asks of an event is a matter of the values that its paths lead to, and not of where
they were found, in which order, or how they were looked up (`Expr.holds_of_sameValues`). A
comparison in particular looks for a value on its left that satisfies it, given the values on its
right (`Expr.run_compareValues`).
-/

namespace EventQuery

variable {P : Type}

/-- Both look-ups give the same values for some references, in one order or another. -/
def SameValues (find find' : P → Id (List Match)) (ps : List P) : Prop :=
  ∀ p ∈ ps, ((find p).run.map Match.value).Perm ((find' p).run.map Match.value)

namespace Expr

/-- What a comparison asks of a value on its left, given what stands on its right and the values of
    that. -/
def asks (op : Comparison) (right : Expr P) (bs : List Value) (a : Value) : Bool :=
  match op, right with
  | .matching, pattern p => p.matchesValue a
  | op, _ => bs.any (op.holds a)

/-- A comparison holds if some value on the left is as it asks. -/
theorem run_compareValues (as : Id (List Value)) (op : Comparison) (right : Expr P)
    (bs : Id (List Value)) :
    (compareValues as op right bs).run = as.run.any (asks op right bs.run) := by
  unfold compareValues
  simp only [Id.run_bind]
  split
  · next hnone =>
    rw [List.isEmpty_iff.mp hnone]
    rfl
  · -- A pattern on the right is the one case that is not a matter of values.
    cases op with
    | matching =>
      cases right with
      | pattern p => rfl
      | literal _ | bool _ | path _ | compare _ _ _ | and _ _ | or _ _ | not _ =>
        simp [asks, Comparison.holds]
    | eq | ne | lt | le | gt | ge => rfl

variable {find find' : P → Id (List Match)}

theorem values_of_sameValues {truth truth' : Id Bool} (ht : truth.run = truth'.run) (e : Expr P)
    (h : SameValues find find' e.paths) :
    (e.values find truth).run.Perm (e.values find' truth').run := by
  cases e with
  | literal v | pattern p => exact .refl _
  | path p => exact h p List.mem_cons_self
  | bool _ | compare _ _ _ | and _ _ | or _ _ | not _ =>
    show [Value.bool truth.run].Perm [Value.bool truth'.run]
    rw [ht]

theorem asks_of_perm {bs bs' : List Value} (h : bs.Perm bs') (op : Comparison) (right : Expr P) :
    asks op right bs = asks op right bs' := by
  funext a
  unfold asks
  split
  · rfl
  · exact h.any_eq

/-- A condition sees nothing of its paths but the values they lead to. -/
theorem holds_of_sameValues (e : Expr P) (h : SameValues find find' e.paths) :
    (e.holds find).run = (e.holds find').run := by
  induction e with
  | literal v | bool b | pattern p => rfl
  | path p =>
    show (find p).run.any ((fun v => v.toBool? == some true) ∘ Match.value) =
      (find' p).run.any ((fun v => v.toBool? == some true) ∘ Match.value)
    rw [← List.any_map, ← List.any_map]
    exact (h p List.mem_cons_self).any_eq
  | compare l op r ihl ihr =>
    have hl : SameValues find find' l.paths := fun p hp => h p (List.mem_append_left _ hp)
    have hr : SameValues find find' r.paths := fun p hp => h p (List.mem_append_right _ hp)
    rw [holds, holds, run_compareValues, run_compareValues,
      asks_of_perm (values_of_sameValues (ihr hr) r hr)]
    exact (values_of_sameValues (ihl hl) l hl).any_eq
  | and l r ihl ihr =>
    have hl := ihl fun p hp => h p (List.mem_append_left _ hp)
    have hr := ihr fun p hp => h p (List.mem_append_right _ hp)
    simp only [holds, Id.run_bind, hl]
    split
    · exact hr
    · rfl
  | or l r ihl ihr =>
    have hl := ihl fun p hp => h p (List.mem_append_left _ hp)
    have hr := ihr fun p hp => h p (List.mem_append_right _ hp)
    simp only [holds, Id.run_bind, hl]
    split
    · rfl
    · exact hr
  | not e ih => exact congrArg (!·) (ih h)

end Expr
end EventQuery
