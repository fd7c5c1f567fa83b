import EventQuery.Proofs.Query.WellFormed

/-!
# How high conditions are

Whoever goes through a condition calls itself for the parts of it, so it needs as many calls at a
time as the condition is high (`Walk.runWithin_eq`). A limit to nesting alone does not bound that
height: members of a chain of connectives stand side by side in the text and not in the tree
(`Statement.not_height_bounded`). The limit and the length of the longest chain together do
(`Statement.height_le_of_read`).
-/

namespace EventQuery

open Query

/-! ## Going through a condition -/

/-- What a function makes of a condition, given what it makes of the parts. -/
structure Walk (P R : Type) where
  literal : Value → R
  bool : Bool → R
  pattern : Pattern → R
  path : P → R
  compare : Expr P → Comparison → Expr P → R → R → R
  and : R → R → R
  or : R → R → R
  not : R → R

namespace Walk

variable {P Q R : Type}

def run (w : Walk P R) : Expr P → R
  | .literal v => w.literal v
  | .bool b => w.bool b
  | .pattern p => w.pattern p
  | .path p => w.path p
  | .compare l op r => w.compare l op r (w.run l) (w.run r)
  | .and l r => w.and (w.run l) (w.run r)
  | .or l r => w.or (w.run l) (w.run r)
  | .not e => w.not (w.run e)

/-- The same with so many calls at a time at most. -/
def runWithin (w : Walk P R) : Nat → Expr P → Option R
  | 0, _ => none
  | _ + 1, .literal v => some (w.literal v)
  | _ + 1, .bool b => some (w.bool b)
  | _ + 1, .pattern p => some (w.pattern p)
  | _ + 1, .path p => some (w.path p)
  | calls + 1, .compare l op r => do
    let a ← w.runWithin calls l
    let b ← w.runWithin calls r
    return w.compare l op r a b
  | calls + 1, .and l r => do
    let a ← w.runWithin calls l
    let b ← w.runWithin calls r
    return w.and a b
  | calls + 1, .or l r => do
    let a ← w.runWithin calls l
    let b ← w.runWithin calls r
    return w.or a b
  | calls + 1, .not e => do
    let a ← w.runWithin calls e
    return w.not a

/-- What is made of two parts needs one call more than the higher one of them. -/
theorem bind_within (g : R → R → R) (a b : R) (height height' calls : Nat) :
    (do
      let a ← (if height ≤ calls then some a else none)
      let b ← (if height' ≤ calls then some b else none)
      return g a b) =
    if max height height' + 1 ≤ calls + 1 then some (g a b) else none := by
  by_cases h : height ≤ calls <;> by_cases h' : height' ≤ calls <;> simp [h, h']

/-- The calls that are needed at a time are as many as the condition is high. -/
theorem runWithin_eq (w : Walk P R) (calls : Nat) (e : Expr P) :
    w.runWithin calls e = if e.height ≤ calls then some (w.run e) else none := by
  induction e generalizing calls with
  | literal | bool | pattern | path => cases calls <;> simp [runWithin, run, Expr.height]
  | compare l op r ihl ihr =>
    cases calls with
    | zero => rfl
    | succ calls =>
      simp only [runWithin, ihl, ihr]
      exact bind_within (w.compare l op r) (w.run l) (w.run r) l.height r.height calls
  | and l r ihl ihr =>
    cases calls with
    | zero => rfl
    | succ calls =>
      simp only [runWithin, ihl, ihr]
      exact bind_within w.and (w.run l) (w.run r) l.height r.height calls
  | or l r ihl ihr =>
    cases calls with
    | zero => rfl
    | succ calls =>
      simp only [runWithin, ihl, ihr]
      exact bind_within w.or (w.run l) (w.run r) l.height r.height calls
  | not e ih =>
    cases calls with
    | zero => rfl
    | succ calls =>
      simp only [runWithin, ih, run, Expr.height]
      by_cases h : e.height ≤ calls <;> simp [h]

/-- A function does for every kind of condition what a walk says. -/
structure Describes (w : Walk P R) (f : Expr P → R) : Prop where
  literal : ∀ v, f (.literal v) = w.literal v
  bool : ∀ b, f (.bool b) = w.bool b
  pattern : ∀ p, f (.pattern p) = w.pattern p
  path : ∀ p, f (.path p) = w.path p
  compare : ∀ l op r, f (.compare l op r) = w.compare l op r (f l) (f r)
  and : ∀ l r, f (.and l r) = w.and (f l) (f r)
  or : ∀ l r, f (.or l r) = w.or (f l) (f r)
  not : ∀ e, f (.not e) = w.not (f e)

theorem Describes.run_eq {w : Walk P R} {f : Expr P → R} (h : w.Describes f) (e : Expr P) :
    w.run e = f e := by
  induction e with
  | literal v => exact (h.literal v).symm
  | bool b => exact (h.bool b).symm
  | pattern p => exact (h.pattern p).symm
  | path p => exact (h.path p).symm
  | compare l op r ihl ihr => rw [run, ihl, ihr, h.compare]
  | and l r ihl ihr => rw [run, ihl, ihr, h.and]
  | or l r ihl ihr => rw [run, ihl, ihr, h.or]
  | not e ih => rw [run, ih, h.not]

/-- A function that a walk describes needs no more calls at a time than the condition is high. -/
theorem Describes.runWithin_eq {w : Walk P R} {f : Expr P → R} (h : w.Describes f) {e : Expr P}
    {calls : Nat} (hheight : e.height ≤ calls) : w.runWithin calls e = some (f e) := by
  rw [Walk.runWithin_eq, if_pos hheight, h.run_eq]

/-- Evaluating a condition. -/
def holds {m : Type → Type} [Monad m] (find : P → m (List Match)) : Walk P (m Bool) where
  literal v := return v.toBool? == some true
  bool b := return b
  pattern _ := return false
  path p := do
    let found ← find p
    return found.any fun m => m.value.toBool? == some true
  compare left op right l r :=
    Expr.compareValues (left.values find l) op right (right.values find r)
  and l r := do if ← l then r else return false
  or l r := do if ← l then return true else r
  not b := do return !(← b)

/-- Replacing the references to paths. -/
def mapPaths (f : P → Q) : Walk P (Expr Q) where
  literal := .literal
  bool := .bool
  pattern := .pattern
  path p := .path (f p)
  compare _ op _ l r := .compare l op r
  and := .and
  or := .or
  not := .not

/-- Visiting the references to paths. -/
def paths : Walk P (List P) where
  literal _ := []
  bool _ := []
  pattern _ := []
  path p := [p]
  compare _ _ _ l r := l ++ r
  and l r := l ++ r
  or l r := l ++ r
  not e := e

theorem describes_holds {m : Type → Type} [Monad m] (find : P → m (List Match)) :
    (holds find).Describes (Expr.holds find) := by
  constructor <;> intros <;> rfl

theorem describes_mapPaths (f : P → Q) : (mapPaths f).Describes (Expr.mapPaths f) := by
  constructor <;> intros <;> rfl

theorem describes_paths : (paths : Walk P (List P)).Describes Expr.paths := by
  constructor <;> intros <;> rfl

end Walk

/-! ## Chains -/

namespace Expr

variable {P : Type}

/-- How many conditions a connective joins in a row, from the root of a condition to the left. -/
def members (c : Connective) : Expr P → Nat
  | and l _ => if c = .and then l.members c + 1 else 1
  | or l _ => if c = .or then l.members c + 1 else 1
  | literal _ | bool _ | pattern _ | path _ | compare _ _ _ | not _ => 1

/-- The most conditions that one connective joins in a row anywhere in a condition. -/
def longestChain : Expr P → Nat
  | literal _ | bool _ | pattern _ | path _ => 1
  | compare l _ r => max l.longestChain r.longestChain
  | and l r => max (max l.longestChain r.longestChain) (l.members .and + 1)
  | or l r => max (max l.longestChain r.longestChain) (l.members .or + 1)
  | not e => e.longestChain

theorem one_le_members (c : Connective) (e : Expr P) : 1 ≤ e.members c := by
  cases e with
  | and | or =>
    simp only [members]
    split <;> omega
  | literal | bool | pattern | path | compare | not => exact Nat.le_refl 1

theorem one_le_longestChain (e : Expr P) : 1 ≤ e.longestChain := by
  induction e <;> simp only [longestChain] <;> omega

theorem members_le_longestChain (c : Connective) (e : Expr P) : e.members c ≤ e.longestChain := by
  have hone := one_le_longestChain e
  cases e with
  | and l r | or l r =>
    simp only [members, longestChain] at hone ⊢
    cases c <;> simp
  | literal | bool | pattern | path | compare | not => exact hone

theorem IsComparison.height_le {Good : P → Prop} {e : Expr P} (h : e.IsComparison Good) :
    e.height ≤ 2 := by
  have hside {e : Expr P} (h : e.IsSide Good) : e.height = 1 := by
    cases h <;> rfl
  cases h with
  | side he =>
    rw [hside he]
    exact Nat.le_succ 1
  | compare hleft _ hright =>
    rw [height, hside hleft, hside hright]
    exact Nat.le_refl 2
  | matching hleft p =>
    rw [height, hside hleft]
    exact Nat.le_refl 2

end Expr

namespace Query

namespace Connective

variable (c : Connective) (left right : Expr Path)

theorem height_join : (c.join left right).height = max left.height right.height + 1 := by
  cases c <;> rfl

theorem members_join : (c.join left right).members c = left.members c + 1 := by
  cases c <;> rfl

theorem longestChain_join : (c.join left right).longestChain =
    max (max left.longestChain right.longestChain) (left.members c + 1) := by
  cases c <;> rfl

/-- How high the members of a chain may be, if so much is open at once in them and their own chains
    are not longer than some length. -/
def room (chain depth : Nat) : Connective → Nat
  | and => 2 * chain * depth + 1
  | or => 2 * chain * depth + chain

theorem room_mono {c : Connective} {chain depth depth' : Nat} (h : depth ≤ depth') :
    c.room chain depth ≤ c.room chain depth' := by
  have hmul := Nat.mul_le_mul_left (2 * chain) h
  cases c <;> simp only [room] <;> omega

end Connective

/-- The length of the longest chain in what has been read of a part before. -/
def Part.leftChain : Part → Nat
  | behind _ left => left.longestChain
  | term | chain _ => 0

/-- A condition that a part was read as is not too high. -/
def Part.HeightWithin (chain depth : Nat) (e : Expr Path) : Part → Prop
  | term => e.height ≤ 2 * chain * depth + 2
  | .chain c => e.height ≤ c.room chain depth + e.members c
  | behind c left => ∀ depth', depth ≤ depth' → left.height ≤ c.room chain depth' + left.members c →
      e.height ≤ c.room chain depth' + e.members c

section

variable {patternSize depth chain : Nat} {part : Part} {s rest : List Char} {e : Expr Path}

theorem Derives.leftChain_le (h : Derives patternSize part s e rest depth) :
    part.leftChain ≤ e.longestChain := by
  induction h with
  | comparison | not | group | chain => exact Nat.zero_le _
  | done => exact Nat.le_refl _
  | @more c left right e _ _ _ _ _ _ _ _ _ _ _ ih =>
    simp only [Part.leftChain, Connective.longestChain_join] at ih ⊢
    omega

/-- A member of a chain fits into the room that it has there. -/
theorem Connective.height_le_of_member {c : Connective} (h : c.member.HeightWithin chain depth e)
    (hchain : e.longestChain ≤ chain) : e.height ≤ c.room chain depth + 1 := by
  cases c with
  | and => exact h
  | or =>
    have hheight : e.height ≤ Connective.and.room chain depth + e.members .and := h
    have hmembers := e.members_le_longestChain .and
    simp only [room] at hheight ⊢
    omega

/-- A negation or a group has one level of the room, and a chain two ways to use it up: by members
    of its own and, if it is one of `or`, by those of a chain of `and` that is one of them. -/
theorem Derives.heightWithin (h : Derives patternSize part s e rest depth)
    (hchain : e.longestChain ≤ chain) : part.HeightWithin chain depth e := by
  induction h with
  | comparison _ _ hread => exact ((Reader.gives_comparison patternSize).ok hread).height_le
  | @not _ _ _ e depth _ _ ih =>
    have hchain : e.longestChain ≤ chain := hchain
    have hheight : e.height ≤ 2 * chain * depth + 2 := ih hchain
    have hone := e.one_le_longestChain
    change e.height + 1 ≤ 2 * chain * (depth + 1) + 2
    rw [Nat.mul_succ]
    omega
  | @group _ _ _ _ e depth _ _ _ _ ih =>
    have hheight : e.height ≤ 2 * chain * depth + chain + e.members .or := ih hchain
    have hmembers := e.members_le_longestChain .or
    change e.height ≤ 2 * chain * (depth + 1) + 2
    rw [Nat.mul_succ]
    omega
  | @chain c _ _ _ first e depth depth' hfirst hmore ihfirst ihmore =>
    -- Members further on may go deeper than the first, which then has more room than it needs.
    have hchainFirst : first.longestChain ≤ chain := Nat.le_trans hmore.leftChain_le hchain
    have hheight := Connective.height_le_of_member (ihfirst hchainFirst) hchainFirst
    have hroom : c.room chain depth ≤ c.room chain (max depth depth') :=
      Connective.room_mono (Nat.le_max_left depth depth')
    have hmembers := first.one_le_members c
    exact ihmore hchain (max depth depth') (Nat.le_max_right _ _) (by omega)
  | done => exact fun _ _ h => h
  | @more c left right e _ _ _ _ depth depth' _ _ _ hmore ihright ihmore =>
    intro D hD hleft
    obtain ⟨hdepth, hdepth'⟩ := Nat.max_le.mp hD
    have hjoin : (c.join left right).longestChain ≤ chain := Nat.le_trans hmore.leftChain_le hchain
    rw [Connective.longestChain_join] at hjoin
    have hchainRight : right.longestChain ≤ chain := by omega
    have hright := Connective.height_le_of_member (ihright hchainRight) hchainRight
    have hroom : c.room chain depth ≤ c.room chain D := Connective.room_mono hdepth
    have hmembers := left.one_le_members c
    refine ihmore hchain D hdepth' ?_
    -- One level more for one member more, whichever of the two sides is the higher one.
    rw [Connective.height_join, Connective.members_join]
    omega

end
end Query

/-! ## Conditions of statements -/

/-- The greatest height of a condition under a limit to nesting, if its chains are not longer than
    some length. -/
def heightBound (nesting chain : Nat) : Nat := 2 * chain * (nesting + 1)

namespace Statement

/-- A condition that was read is not higher than the limit to nesting and its chains allow, and so
    whoever goes through it needs no more calls at a time. -/
theorem height_le_of_read {limits : QueryLimits} {text : String} {statement : Statement}
    {e : Expr Path} {chain : Nat} (h : Statement.read limits text = .ok statement)
    (he : statement.condition = some e) (hchain : e.longestChain ≤ chain) :
    e.height ≤ heightBound limits.nesting chain ∧
    (∀ (m : Type → Type) [Monad m] (find : Path → m (List Match)),
      (Walk.holds find).runWithin (heightBound limits.nesting chain) e = some (e.holds find)) ∧
    (∀ (P : Type) (f : Path → P),
      (Walk.mapPaths f).runWithin (heightBound limits.nesting chain) e = some (e.mapPaths f)) ∧
    Walk.paths.runWithin (heightBound limits.nesting chain) e = some e.paths := by
  have hheight : e.height ≤ heightBound limits.nesting chain := by
    obtain ⟨-, hderivable⟩ := (Reader.gives_wellFormed limits).ok (read_eq_ok.mp h)
    obtain ⟨_, _, depth, hdepth, hderives⟩ := hderivable e he
    have hroom : e.height ≤ 2 * chain * depth + chain + e.members .or :=
      hderives.heightWithin hchain
    have hmembers := e.members_le_longestChain .or
    have hlimit := Nat.mul_le_mul_left (2 * chain) hdepth
    rw [heightBound, Nat.mul_succ]
    omega
  exact ⟨hheight, fun m _ find => (Walk.describes_holds find).runWithin_eq hheight,
    fun P f => (Walk.describes_mapPaths f).runWithin_eq hheight,
    Walk.describes_paths.runWithin_eq hheight⟩

/-- A condition with chains of three members, a negated group and a negation in that. -/
theorem height_le_readingsStatement :
    ∃ e, Statement.read ⟨0x100000, 3⟩ readingsText = .ok readingsStatement ∧
      readingsStatement.condition = some e ∧ e.longestChain ≤ 3 ∧
      e.height ≤ heightBound 3 3 ∧ Walk.paths.runWithin (heightBound 3 3) e = some e.paths := by
  have hread := rendering_readingsText.read_eq
  obtain ⟨hheight, -, -, hpaths⟩ := height_le_of_read hread rfl (by decide : _ ≤ 3)
  exact ⟨_, hread, rfl, by decide, hheight, hpaths⟩

/-! ## Flat chains -/

/-- Some conditions in a row, with `and` between them. -/
def flatChain : Nat → Expr Path
  | 0 => .path [.key "a"]
  | n + 1 => .and (flatChain n) (.path [.key "a"])

theorem height_flatChain (n : Nat) : (flatChain n).height = n + 1 := by
  induction n with
  | zero => rfl
  | succ n ih =>
    rw [flatChain, Expr.height, ih, Expr.height]
    omega

/-- No parentheses are needed to write it, so any depth is enough. -/
theorem exists_conditionTokens_flatChain (patternSize depth n : Nat) :
    ∃ ts, ConditionTokens patternSize .conjunction depth (flatChain n) ts := by
  have hname : ∃ t, ConditionTokens patternSize .term depth (.path [.key "a"]) [t] := by
    obtain ⟨t, ht⟩ := exists_pathToken (List.cons_ne_nil (Segment.key "a") [])
    exact ⟨t, .operand (.path ht)⟩
  obtain ⟨t, ht⟩ := hname
  induction n with
  | zero => exact ⟨[t], .term ht⟩
  | succ n ih =>
    obtain ⟨ts, hts⟩ := ih
    exact ⟨_, .and hts (t := .sign .and) (.inr rfl) ht⟩

theorem exists_read_flatChain (limits : QueryLimits) (n : Nat) : ∃ text statement,
    Statement.read limits text = .ok statement ∧
      statement.condition = some (flatChain n) := by
  obtain ⟨ts, hts⟩ := exists_conditionTokens_flatChain limits.patternSize limits.nesting n
  obtain ⟨t, ht⟩ : ∃ t : Token, t.Is "select" := exists_is (by decide)
  obtain ⟨u, hu⟩ : ∃ u : Token, u.Is "where" := exists_is (by decide)
  have htokens : StatementTokens limits _ _ :=
    .mk ht .all .absent .absent (.present hu (.conjunction hts)) .absent
  obtain ⟨text, htext⟩ := exists_laidOut _
  have hrendering : Rendering limits _ (String.ofList text) :=
    ⟨_, htokens, by rwa [String.toList_ofList]⟩
  exact ⟨String.ofList text, _, hrendering.read_eq, rfl⟩

/-- Whatever the limits to nesting and to patterns are, they do not bound the height of
    conditions. -/
theorem not_height_bounded : ¬ ∃ limits bound, ∀ text statement e,
    Statement.read limits text = .ok statement → statement.condition = some e →
      e.height ≤ bound := by
  rintro ⟨limits, bound, hbound⟩
  obtain ⟨text, statement, hread, hcondition⟩ := exists_read_flatChain limits bound
  have hheight := hbound text statement _ hread hcondition
  rw [height_flatChain] at hheight
  exact Nat.not_succ_le_self bound hheight

end Statement
end EventQuery
