import EventQuery.Path
import EventQuery.Query.Expr
import EventQuery.Sampling.Clause

/-!
# Statements

What a query says, clause by clause.
-/

namespace EventQuery

/-- A query that has been read. -/
structure Statement where
  select : List (SelectItem Path)
  stream : String
  window : Option UInt64
  condition : Option (Expr Path)
  groupBy : List Path
  sample : Option SampleClause
deriving Repr, Inhabited

/-- A list with one more member at its end, unless it has it. -/
def addNew {α : Type} [DecidableEq α] (seen : List α) (x : α) : List α :=
  if x ∈ seen then seen else seen ++ [x]

/-- The distinct members of a list, each where it comes first. -/
def firstOccurrences {α : Type} [DecidableEq α] (xs : List α) : List α := xs.foldl addNew []

section

variable {α : Type} [DecidableEq α]

theorem mem_addNew {seen : List α} {x y : α} : y ∈ addNew seen x ↔ y ∈ seen ∨ y = x := by
  unfold addNew
  split
  · next h => exact ⟨Or.inl, fun hy => hy.elim id fun e => e ▸ h⟩
  · simp

theorem mem_foldl_addNew (xs seen : List α) {y : α} :
    y ∈ xs.foldl addNew seen ↔ y ∈ seen ∨ y ∈ xs := by
  induction xs generalizing seen with
  | nil => simp
  | cons x rest ih => rw [List.foldl_cons, ih, mem_addNew, List.mem_cons, or_assoc]

@[simp] theorem mem_firstOccurrences {xs : List α} {y : α} : y ∈ firstOccurrences xs ↔ y ∈ xs := by
  simp [firstOccurrences, mem_foldl_addNew]

theorem nodup_addNew {seen : List α} (h : seen.Nodup) (x : α) : (addNew seen x).Nodup := by
  unfold addNew
  split
  · exact h
  · next hx =>
    rw [List.nodup_append]
    refine ⟨h, by simp, fun a ha b hb => ?_⟩
    rw [List.mem_singleton] at hb
    exact fun e => hx (hb ▸ e ▸ ha)

theorem nodup_foldl_addNew (xs : List α) {seen : List α} (h : seen.Nodup) :
    (xs.foldl addNew seen).Nodup := by
  induction xs generalizing seen with
  | nil => exact h
  | cons x rest ih => exact ih (nodup_addNew h x)

theorem nodup_firstOccurrences (xs : List α) : (firstOccurrences xs).Nodup :=
  nodup_foldl_addNew xs List.nodup_nil

/-- What has been seen stays in its place. -/
theorem prefix_foldl_addNew (xs seen : List α) : seen <+: xs.foldl addNew seen := by
  induction xs generalizing seen with
  | nil => exact List.prefix_rfl
  | cons x rest ih =>
    refine List.IsPrefix.trans ?_ (ih (addNew seen x))
    unfold addNew
    split
    · exact List.prefix_rfl
    · exact List.prefix_append seen [x]

/-- What has been seen is not added again. -/
theorem foldl_addNew_of_subset : ∀ (xs seen : List α), (∀ x ∈ xs, x ∈ seen) →
    xs.foldl addNew seen = seen
  | [], _, _ => rfl
  | x :: xs, seen, h => by
    rw [List.foldl_cons, addNew, if_pos (h x List.mem_cons_self)]
    exact foldl_addNew_of_subset xs seen fun y hy => h y (List.mem_cons_of_mem x hy)

/-- What is new and distinct is added as it is. -/
theorem foldl_addNew_of_nodup : ∀ (xs seen : List α), (seen ++ xs).Nodup →
    xs.foldl addNew seen = seen ++ xs
  | [], seen, _ => (List.append_nil seen).symm
  | x :: xs, seen, h => by
    have hnew : x ∉ seen := fun hx => (List.nodup_append.mp h).2.2 x hx x List.mem_cons_self rfl
    have hrest : (seen ++ [x] ++ xs).Nodup := by rwa [List.append_assoc]
    rw [List.foldl_cons, addNew, if_neg hnew, foldl_addNew_of_nodup xs (seen ++ [x]) hrest]
    rw [List.append_assoc, List.singleton_append]

/-- Going through a list, and then through its distinct members and more of them, is going through
    all of them once. -/
theorem firstOccurrences_append_self (xs ys : List α) :
    firstOccurrences (xs ++ firstOccurrences (xs ++ ys)) = firstOccurrences (xs ++ ys) := by
  have hd := nodup_firstOccurrences (xs ++ ys)
  simp only [firstOccurrences, List.foldl_append] at hd ⊢
  obtain ⟨more, hmore⟩ := prefix_foldl_addNew ys (xs.foldl addNew [])
  rw [← hmore] at hd ⊢
  rw [List.foldl_append, foldl_addNew_of_subset _ _ fun _ h => h]
  exact foldl_addNew_of_nodup more _ hd

end

namespace Statement

/-- The whole event is selected. -/
def selectsAll (s : Statement) : Bool := s.select.any SelectItem.isAll

/-- Every path of the statement, in the order of the clauses. -/
def paths (s : Statement) : List Path :=
  s.select.filterMap SelectItem.path? ++ (s.condition.elim [] Expr.paths) ++ s.groupBy

/-- The distinct paths that the statement reads, in the order in which they come first. -/
def referencedPaths (s : Statement) : List Path := firstOccurrences s.paths

/-- The conditions are the same, or both are missing. -/
def sameCondition (s t : Statement) : Bool :=
  match s.condition, t.condition with
  | none, none => true
  | some a, some b => a.same b
  | _, _ => false

/-- The select lists are the same. -/
def sameSelect (s t : Statement) : Bool := s.select = t.select

/-- Two statements say the same. -/
def same (s t : Statement) : Bool :=
  s.sameSelect t && s.stream = t.stream && s.window = t.window && s.sameCondition t &&
    s.groupBy = t.groupBy && s.sample = t.sample

end Statement
end EventQuery
