import EventQuery.Proofs.Number.Order
import EventQuery.Proofs.Query.Derivation
import EventQuery.Proofs.Query.ReadBack
import EventQuery.Proofs.Query.Results

/-!
# Statements as they are read

Not every condition that can be built can be read. What is read has comparisons only between
literals and paths, patterns only on the right of the operator that matches, and no literal of
another kind than the grammar knows (`Expr.WellFormed`); and the other clauses of a statement keep
to the same rules of the grammar (`Statement.WellFormed`).

The evaluator has answers for conditions that are never read as well. Without these answers it is
`Expr.holdsStrictly`, which may get stuck; on well-formed conditions it does not, and it gives what
the evaluator gives (`Expr.WellFormed.holdsStrictly_eq`).
-/

namespace EventQuery

open Query

/-! ## Numbers -/

namespace Binary64

theorem isNaN_ofMagnitude (negative : Bool) {magnitude : Nat}
    (h : magnitude ≤ infiniteMagnitude) : (ofMagnitude negative magnitude).isNaN = false := by
  have hlt : magnitude < signBit := Nat.lt_of_le_of_lt h (by decide)
  rw [isNaN, magnitude_ofMagnitude negative hlt, decide_eq_false_iff_not]
  exact Nat.not_lt.mpr h

theorem isNaN_nearest (negative : Bool) (num den : Nat) :
    (nearest negative num den).isNaN = false := by
  unfold nearest
  split
  · exact isNaN_ofMagnitude negative (Nat.zero_le _)
  · exact isNaN_ofMagnitude negative (Nat.min_le_right _ _)

/-- No decimal numeral stands for a NaN. -/
theorem isNaN_ofDecimal (negative : Bool) (digits : Nat) (exponent : Int) :
    (ofDecimal negative digits exponent).isNaN = false := by
  unfold ofDecimal
  dsimp only
  split_ifs
  · exact isNaN_ofMagnitude negative (Nat.zero_le _)
  · exact isNaN_ofMagnitude negative (Nat.le_refl _)
  · exact isNaN_ofMagnitude negative (Nat.zero_le _)
  · exact isNaN_nearest _ _ _
  · exact isNaN_nearest _ _ _

end Binary64

/-! ## Conditions -/

/-- A value that a query may hold. -/
inductive Value.IsLiteral : Value → Prop
  | null : IsLiteral .null
  | number {n : Number} (hn : n.isNaN = false) : IsLiteral (.number n)
  | string (s : String) : IsLiteral (.string s)

namespace Expr

variable {P Q : Type} {Good : P → Prop}

/-- One side of a comparison, with a good reference to a path if it is one. -/
inductive IsSide (Good : P → Prop) : Expr P → Prop
  | bool (b : Bool) : IsSide Good (.bool b)
  | literal {v : Value} (hv : v.IsLiteral) : IsSide Good (.literal v)
  | path {p : P} (hp : Good p) : IsSide Good (.path p)

/-- A comparison of two sides, a match, or one side alone. -/
inductive IsComparison (Good : P → Prop) : Expr P → Prop
  | side {e : Expr P} (he : e.IsSide Good) : IsComparison Good e
  | compare {left right : Expr P} {op : Comparison} (hleft : left.IsSide Good)
    (hop : op ≠ .matching) (hright : right.IsSide Good) :
    IsComparison Good (.compare left op right)
  | matching {left : Expr P} (hleft : left.IsSide Good) (p : Pattern) :
    IsComparison Good (.compare left .matching (.pattern p))

/-- A condition of the form that the grammar gives, with good references to paths. -/
inductive WellFormed (Good : P → Prop) : Expr P → Prop
  | comparison {e : Expr P} (he : e.IsComparison Good) : WellFormed Good e
  | and {left right : Expr P} (hleft : WellFormed Good left) (hright : WellFormed Good right) :
    WellFormed Good (.and left right)
  | or {left right : Expr P} (hleft : WellFormed Good left) (hright : WellFormed Good right) :
    WellFormed Good (.or left right)
  | not {e : Expr P} (he : WellFormed Good e) : WellFormed Good (.not e)

/-- The most negations on a way from the root of a condition to a leaf. -/
def negations : Expr P → Nat
  | literal _ | bool _ | pattern _ | path _ => 0
  | compare l _ r => max l.negations r.negations
  | and l r => max l.negations r.negations
  | or l r => max l.negations r.negations
  | not e => e.negations + 1

theorem IsSide.good_of_mem {e : Expr P} (h : e.IsSide Good) : ∀ p ∈ e.paths, Good p := by
  cases h with
  | bool b => exact fun p hp => nomatch hp
  | literal hv => exact fun p hp => nomatch hp
  | path hp => exact fun p hmem => List.mem_singleton.mp hmem ▸ hp

theorem IsComparison.good_of_mem {e : Expr P} (h : e.IsComparison Good) :
    ∀ p ∈ e.paths, Good p := by
  cases h with
  | side he => exact he.good_of_mem
  | compare hleft _ hright =>
    exact fun p hp => (List.mem_append.mp hp).elim (hleft.good_of_mem p) (hright.good_of_mem p)
  | matching hleft => exact fun p hp =>
      (List.mem_append.mp hp).elim (hleft.good_of_mem p) fun hp => nomatch hp

theorem WellFormed.good_of_mem {e : Expr P} (h : e.WellFormed Good) : ∀ p ∈ e.paths, Good p := by
  induction h with
  | comparison he => exact he.good_of_mem
  | and _ _ ihleft ihright | or _ _ ihleft ihright =>
    exact fun p hp => (List.mem_append.mp hp).elim (ihleft p) (ihright p)
  | not _ ih => exact ih

theorem IsSide.negations_eq {e : Expr P} (h : e.IsSide Good) : e.negations = 0 := by
  cases h <;> rfl

theorem IsComparison.negations_eq {e : Expr P} (h : e.IsComparison Good) : e.negations = 0 := by
  cases h with
  | side he => exact he.negations_eq
  | compare hleft _ hright =>
    rw [negations, hleft.negations_eq, hright.negations_eq, Nat.max_self]
  | matching hleft p =>
    rw [negations, hleft.negations_eq]
    rfl

/-- The form of a condition does not depend on how paths are referred to. -/
theorem IsSide.mapPaths {e : Expr P} (h : e.IsSide Good) (f : P → Q) :
    (e.mapPaths f).IsSide fun _ => True := by
  cases h with
  | bool b => exact .bool b
  | literal hv => exact .literal hv
  | path hp => exact .path trivial

theorem WellFormed.mapPaths {e : Expr P} (h : e.WellFormed Good) (f : P → Q) :
    (e.mapPaths f).WellFormed fun _ => True := by
  induction h with
  | comparison he =>
    cases he with
    | side he => exact .comparison (.side (he.mapPaths f))
    | compare hleft hop hright =>
      exact .comparison (.compare (hleft.mapPaths f) hop (hright.mapPaths f))
    | matching hleft p => exact .comparison (.matching (hleft.mapPaths f) p)
  | and _ _ ihleft ihright => exact .and ihleft ihright
  | or _ _ ihleft ihright => exact .or ihleft ihright
  | not _ ih => exact .not ih

/-! ## Evaluation without answers for other conditions -/

variable {m : Type → Type} [Monad m]

/-- The values of one side of a comparison. Nothing else has any. -/
def sideValues (find : P → m (List Match)) : Expr P → OptionT m (List Value)
  | literal v => return [v]
  | bool b => return [.bool b]
  | path p => do
    let found ← find p
    return found.map Match.value
  | _ => failure

/-- A condition holds, if it has the form for which the evaluator is made. -/
def holdsStrictly (find : P → m (List Match)) : Expr P → OptionT m Bool
  | literal v => return v.toBool? == some true
  | bool b => return b
  | pattern _ => failure
  | path p => do
    let found ← find p
    return found.any fun m => m.value.toBool? == some true
  | compare left op right => do
    let as ← left.sideValues find
    if as.isEmpty then return false
    else
      match op, right with
      | .matching, pattern p => return as.any p.matchesValue
      | .matching, _ => failure
      | op, _ => do
        let bs ← right.sideValues find
        return as.any fun a => bs.any fun b => op.holds a b
  | and left right => do
    let l ← left.holdsStrictly find
    if l then right.holdsStrictly find else return false
  | or left right => do
    let l ← left.holdsStrictly find
    if l then return true else right.holdsStrictly find
  | not inner => do
    let b ← inner.holdsStrictly find
    return !b

section

variable [LawfulMonad m] {α β : Type}

/-- Where neither part gets stuck the whole does not. -/
theorem run_bind_eq_some {x : OptionT m α} {y : m α} {f : α → OptionT m β} {g : α → m β}
    (hx : x.run = some <$> y) (hf : ∀ a, (f a).run = some <$> g a) :
    (x >>= f).run = some <$> (y >>= g) := by
  rw [OptionT.run_bind, hx]
  simp [Option.elimM, hf]

theorem IsSide.sideValues_eq {find : P → m (List Match)} {e : Expr P} (h : e.IsSide Good) :
    (e.sideValues find).run = some <$> e.values find (e.holds find) := by
  cases h with
  | bool b => simp [sideValues, values, holds]
  | literal hv => simp [sideValues, values]
  | path hp => simp [sideValues, values]

theorem IsComparison.holdsStrictly_eq {find : P → m (List Match)} {e : Expr P}
    (h : e.IsComparison Good) : (e.holdsStrictly find).run = some <$> e.holds find := by
  cases h with
  | side he =>
    cases he with
    | bool b => simp [holdsStrictly, holds]
    | literal hv => simp [holdsStrictly, holds]
    | path hp => simp [holdsStrictly, holds]
  | @compare left right op hleft hop hright =>
    refine run_bind_eq_some hleft.sideValues_eq fun as => ?_
    split
    · simp
    · cases op with
      | matching => exact absurd rfl hop
      | eq | ne | lt | le | gt | ge =>
        exact run_bind_eq_some hright.sideValues_eq fun bs => by simp
  | matching hleft p =>
    refine run_bind_eq_some hleft.sideValues_eq fun as => ?_
    split <;> simp

theorem WellFormed.holdsStrictly_eq {find : P → m (List Match)} {e : Expr P}
    (h : e.WellFormed Good) : (e.holdsStrictly find).run = some <$> e.holds find := by
  induction h with
  | comparison he => exact he.holdsStrictly_eq
  | and _ _ ihleft ihright =>
    refine run_bind_eq_some ihleft fun l => ?_
    cases l
    · simp
    · exact ihright
  | or _ _ ihleft ihright =>
    refine run_bind_eq_some ihleft fun l => ?_
    cases l
    · exact ihright
    · simp
  | not _ ih => exact run_bind_eq_some ih fun b => by simp

/-- What is no side of a comparison gets it stuck. -/
example : ((Expr.compare (.not (.bool true)) .eq (.bool false) : Expr Path).holdsStrictly
    (fun _ => (return [] : Id (List Match)))).run = none := rfl

end
end Expr

/-! ## Statements -/

/-- The word is an identifier. -/
def Query.IsIdentifier (word : String) : Prop := ∃ n : Name, word = n.text

/-- A path with a segment, under its own name or an identifier. -/
inductive SelectItem.WellFormed : SelectItem Path → Prop
  | path {p : Path} {name : Option String} (hp : p ≠ []) (hname : ∀ n ∈ name, IsIdentifier n) :
    WellFormed (.path p name)

theorem SelectItem.path_ne_nil_of_mem {items : List (SelectItem Path)} {item : SelectItem Path}
    {p : Path} (h : items = [.all] ∨ items ≠ [] ∧ ∀ item ∈ items, item.WellFormed)
    (hitem : item ∈ items) (hp : item.path? = some p) : p ≠ [] := by
  obtain rfl | ⟨-, h⟩ := h
  · rw [List.mem_singleton.mp hitem] at hp
    exact nomatch hp
  · cases h item hitem with
    | path hne =>
      cases hp
      exact hne

/-- A statement of the form that the grammar gives. -/
structure Statement.WellFormed (limits : QueryLimits) (s : Statement) : Prop where
  select : s.select = [.all] ∨ s.select ≠ [] ∧ ∀ item ∈ s.select, item.WellFormed
  paths : ∀ p ∈ s.paths, p ≠ []
  stream : IsIdentifier s.stream
  condition : ∀ e ∈ s.condition, e.WellFormed (· ≠ [])
  negations : ∀ e ∈ s.condition, e.negations ≤ limits.nesting

namespace Query

/-! ### Parts of a condition -/

theorem Connective.wellFormed_join {c : Connective} {left right : Expr Path} {Good : Path → Prop}
    (hleft : left.WellFormed Good) (hright : right.WellFormed Good) :
    (c.join left right).WellFormed Good := by
  cases c with
  | and => exact .and hleft hright
  | or => exact .or hleft hright

theorem Connective.negations_join (c : Connective) (left right : Expr Path) :
    (c.join left right).negations = max left.negations right.negations := by
  cases c <;> rfl

/-- What has been read of a part before, if anything, is well-formed. -/
def Part.LeftWellFormed : Part → Prop
  | behind _ left => left.WellFormed (· ≠ [])
  | term | chain _ => True

/-- The most negations in what has been read of a part before. -/
def Part.leftNegations : Part → Nat
  | behind _ left => left.negations
  | term | chain _ => 0

theorem Connective.leftWellFormed_member (c : Connective) : c.member.LeftWellFormed := by
  cases c <;> trivial

theorem Connective.leftNegations_member (c : Connective) : c.member.leftNegations = 0 := by
  cases c <;> rfl

namespace Reader

theorem gives_number : number.Gives fun n => n.isNaN = false := by
  refine .after fun negative => .after fun whole => .after fun fraction => .after fun exponent => ?_
  refine .pure ?_
  unfold numberOf
  dsimp only
  split
  · split
    · rfl
    · exact Binary64.isNaN_ofDecimal _ _ _
  · exact Binary64.isNaN_ofDecimal _ _ _

theorem gives_operand : operand.Gives (Expr.IsSide (· ≠ [])) := by
  refine .firstOf ?_
  simp only [List.forall_mem_cons, List.not_mem_nil, false_implies, implies_true, and_true]
  exact ⟨.after fun _ => .pure (.bool true), .after fun _ => .pure (.bool false),
    .after fun _ => .pure (.literal .null), gives_number.map fun _ hn => .literal (.number hn),
    (Gives.any quotedString).map fun s _ => .literal (.string s),
    gives_path.map fun _ hp => .path hp⟩

theorem gives_pattern (patternSize : Nat) :
    (pattern patternSize).Gives fun e => ∃ p, e = .pattern p := by
  refine .of_ok fun s e rest h => ?_
  obtain ⟨source, mid, -, h⟩ := Outcome.andThen_eq_ok.mp h
  cases hcompile : Pattern.compile patternSize source with
  | error e => simp [hcompile] at h
  | ok p =>
    simp only [hcompile] at h
    cases h
    exact ⟨p, rfl⟩

theorem gives_comparison (patternSize : Nat) :
    (comparison patternSize).Gives (Expr.IsComparison (· ≠ [])) := by
  refine (gives_operand.padded.expecting _).bind fun left hleft => .after fun sign => ?_
  have hright : (committed (Reader.expecting "operand" (padded operand))).Gives
      (Expr.IsSide (· ≠ [])) := (gives_operand.padded.expecting _).committed
  cases sign with
  | none => exact .pure (.side hleft)
  | some op =>
    cases op with
    | matching =>
      refine ((gives_pattern patternSize).padded.expecting _).committed.bind fun e he => .pure ?_
      obtain ⟨p, rfl⟩ := he
      exact .matching hleft p
    | eq | ne | lt | le | gt | ge =>
      exact hright.bind fun right hright => .pure (.compare hleft nofun hright)

end Reader

open Reader

section

variable {patternSize depth : Nat} {part : Part} {s rest : List Char} {e : Expr Path}

theorem Derives.wellFormed (h : Derives patternSize part s e rest depth) :
    part.LeftWellFormed → e.WellFormed (· ≠ []) := by
  induction h with
  | comparison _ _ hread => exact fun _ => .comparison ((gives_comparison patternSize).ok hread)
  | not _ _ ih => exact fun _ => .not (ih trivial)
  | group _ _ _ _ ih => exact fun _ => ih trivial
  | chain _ _ ihfirst ihmore => exact fun _ => ihmore (ihfirst (Connective.leftWellFormed_member _))
  | done => exact fun hleft => hleft
  | more _ _ _ _ ihright ihmore =>
    exact fun hleft => ihmore (Connective.wellFormed_join hleft
      (ihright (Connective.leftWellFormed_member _)))

/-- Every negation on the way to a leaf is one that was open when the leaf was read. -/
theorem Derives.negations_le (h : Derives patternSize part s e rest depth) :
    e.negations ≤ max part.leftNegations depth := by
  induction h with
  | comparison _ _ hread =>
    exact Nat.le_trans (Nat.le_of_eq ((gives_comparison patternSize).ok hread).negations_eq)
      (Nat.zero_le _)
  | not _ _ ih | group _ _ _ _ ih =>
    simp only [Part.leftNegations, Expr.negations] at ih ⊢
    omega
  | chain _ _ ihfirst ihmore | more _ _ _ _ ihfirst ihmore =>
    rw [Connective.leftNegations_member] at ihfirst
    simp only [Part.leftNegations, Connective.negations_join] at ihmore ⊢
    omega
  | done => exact Nat.le_max_left _ _

end

/-! ### Clauses -/

namespace Reader

theorem gives_identifier : identifier.Gives IsIdentifier :=
  .of_ok fun _ _ _ h => (identifier_eq_ok h).imp fun _ => And.left

/-- The stream of a statement without the clause for it. -/
theorem isIdentifier_stream : IsIdentifier "stream" :=
  ⟨⟨'s', ['t', 'r', 'e', 'a', 'm'], by decide, List.all_eq_true.mp (by decide), by decide +kernel⟩,
    by decide +kernel⟩

theorem gives_clause {α : Type} {P : α → Prop} (word : String) {r : Reader α} (hr : r.Gives P) :
    (clause word r).Gives fun o => ∀ a ∈ o, P a :=
  .optional (.after fun _ => hr.committed)

theorem gives_selectItem_wellFormed : selectItem.Gives SelectItem.WellFormed := by
  refine gives_path.bind fun p hp => ?_
  have hname : (optional do
      padded (keyword "as"); committed (expecting "alias" (padded identifier))).Gives
      fun name => ∀ n ∈ name, IsIdentifier n :=
    .optional (.after fun _ => (gives_identifier.padded.expecting _).committed)
  exact hname.bind fun name hname => .pure (.path hp hname)

theorem gives_selectList_wellFormed : selectList.Gives fun items =>
    items = [.all] ∨ items ≠ [] ∧ ∀ item ∈ items, item.WellFormed := by
  refine .orElse (.after fun _ => .pure (.inl rfl)) ?_
  have hitem := (gives_selectItem_wellFormed.padded.expecting "field path").committed
  exact hitem.bind fun _ hfirst => (Gives.many (.after fun _ => hitem)).bind fun _ hmore =>
    .pure (.inr ⟨List.cons_ne_nil _ _, List.forall_mem_cons.mpr ⟨hfirst, hmore⟩⟩)

theorem gives_groupBy : groupBy.Gives fun ps => ∀ p ∈ ps, p ≠ [] :=
  .after fun _ => .separated _ (gives_path.padded.expecting _).committed

/-- The condition has a derivation within the limit to nesting. -/
def Derivable (limits : QueryLimits) (e : Expr Path) : Prop :=
  ∃ s rest, ∃ depth ≤ limits.nesting, Derives limits.patternSize (.chain .or) s e rest depth

theorem gives_condition (limits : QueryLimits) : (condition limits).Gives (Derivable limits) :=
  .of_ok fun s _ rest h => ⟨s, rest, derives_of_read h⟩

theorem Derivable.wellFormed {limits : QueryLimits} {e : Expr Path} (h : Derivable limits e) :
    e.WellFormed (· ≠ []) := by
  obtain ⟨_, _, _, -, hderives⟩ := h
  exact hderives.wellFormed trivial

theorem Derivable.negations_le {limits : QueryLimits} {e : Expr Path} (h : Derivable limits e) :
    e.negations ≤ limits.nesting := by
  obtain ⟨_, _, depth, hdepth, hderives⟩ := h
  have hnegations := hderives.negations_le
  rw [Part.leftNegations, Nat.zero_max] at hnegations
  exact Nat.le_trans hnegations hdepth

theorem gives_wellFormed (limits : QueryLimits) : (statement limits).Gives fun s =>
    s.WellFormed limits ∧ ∀ e ∈ s.condition, Derivable limits e := by
  refine .after fun _ => (gives_selectList_wellFormed.expecting _).committed.bind
    fun select hselect => ?_
  refine (gives_clause "from" (gives_identifier.padded.expecting _)).bind fun stream hstream => ?_
  refine .after fun window => ?_
  refine (gives_clause "where" (gives_condition limits)).bind fun c hc => ?_
  refine (gives_clause "group" gives_groupBy).bind fun groupBy hgroupBy => ?_
  refine .after fun sample => .after fun _ => .pure ?_
  have hby : ∀ p ∈ groupBy.getD [], p ≠ [] := by
    cases groupBy with
    | none => exact fun p hp => nomatch hp
    | some ps => exact hgroupBy ps rfl
  refine ⟨⟨hselect, fun p hp => ?_, ?_, fun e he => (hc e he).wellFormed,
    fun e he => (hc e he).negations_le⟩, hc⟩
  · simp only [Statement.paths, List.mem_append, List.mem_filterMap] at hp
    obtain (⟨item, hitem, hp⟩ | hp) | hp := hp
    · exact SelectItem.path_ne_nil_of_mem hselect hitem hp
    · cases c with
      | none => exact nomatch hp
      | some e => exact (hc e rfl).wellFormed.good_of_mem p hp
    · exact hby p hp
  · cases stream with
    | none => exact isIdentifier_stream
    | some word => exact hstream word rfl

end Reader
end Query

namespace Statement

/-- What is read is well-formed, and the evaluator, in whatever way paths are referred to and looked
    up, never gets to what it does with other conditions. -/
theorem wellFormed_of_read {limits : QueryLimits} {text : String} {statement : Statement}
    (h : Statement.read limits text = .ok statement) :
    statement.WellFormed limits ∧
    ∀ e ∈ statement.condition, ∀ (P : Type) (m : Type → Type) [Monad m] [LawfulMonad m]
      (refer : Path → P) (find : P → m (List Match)),
      ((e.mapPaths refer).holdsStrictly find).run = some <$> (e.mapPaths refer).holds find := by
  obtain ⟨hstatement, -⟩ := (Reader.gives_wellFormed limits).ok (read_eq_ok.mp h)
  refine ⟨hstatement, fun e he P m _ _ refer find => ?_⟩
  exact ((hstatement.condition e he).mapPaths refer).holdsStrictly_eq

/-- A statement with all kinds of conditions in its where clause, and with three negations and
    parentheses open at once. -/
theorem wellFormed_readingsStatement :
    Statement.read ⟨0x100000, 3⟩ readingsText = .ok readingsStatement ∧
    readingsStatement.WellFormed ⟨0x100000, 3⟩ ∧
    ∀ e ∈ readingsStatement.condition, ∀ event,
      ((e.mapPaths fun p => p).holdsStrictly (Query.find event)).run.run =
        some ((e.mapPaths fun p => p).holds (Query.find event)).run := by
  have hread := rendering_readingsText.read_eq
  obtain ⟨hwellFormed, hstrict⟩ := wellFormed_of_read hread
  exact ⟨hread, hwellFormed, fun e he event => hstrict e he Path Id _ (Query.find event)⟩

end Statement
end EventQuery
