import EventQuery.Proofs.Query.Grammar

/-!
# Which statements can be written

A statement can be written if its paths lead somewhere, its names are identifiers, comparisons
stand between operands, and its patterns are what their sources are compiled to
(`Statement.Expressible`). Then it has a rendering as soon as so many parentheses may be opened as
its condition is high (`Statement.Expressible.exists_rendering`): the one that puts every negation
and every connective in parentheses.
-/

namespace EventQuery

open Query

/-- A condition that may stand on either side of a comparison. -/
inductive Expr.IsOperand : Expr Path → Prop
  | bool (b : Bool) : IsOperand (.bool b)
  | null : IsOperand (.literal .null)
  | integer (i : Int64) : IsOperand (.literal (.number (.int i)))
  | string (s : String) : IsOperand (.literal (.string s))
  | path {p : Path} (hp : p ≠ []) : IsOperand (.path p)

/-- A condition that can be written. -/
inductive Expr.Expressible (patternSize : Nat) : Expr Path → Prop
  | operand {e : Expr Path} (he : e.IsOperand) : Expressible patternSize e
  | compare {left right : Expr Path} {op : Comparison} (hleft : left.IsOperand)
    (hop : op ≠ .matching) (hright : right.IsOperand) :
    Expressible patternSize (.compare left op right)
  | matching {left : Expr Path} {p : Pattern} {source : String} (hleft : left.IsOperand)
    (hp : Pattern.compile patternSize source = .ok p) :
    Expressible patternSize (.compare left .matching (.pattern p))
  | not {e : Expr Path} (he : Expressible patternSize e) : Expressible patternSize (.not e)
  | and {left right : Expr Path} (hleft : Expressible patternSize left)
    (hright : Expressible patternSize right) : Expressible patternSize (.and left right)
  | or {left right : Expr Path} (hleft : Expressible patternSize left)
    (hright : Expressible patternSize right) : Expressible patternSize (.or left right)

/-- An entry of a select list other than the whole event, under its own name or an identifier. -/
inductive SelectItem.Expressible : SelectItem Path → Prop
  | plain {p : Path} (hp : p ≠ []) : Expressible (.path p none)
  | named {p : Path} (hp : p ≠ []) (n : Name) : Expressible (.path p (some n.text))

/-- A statement that can be written. -/
structure Statement.Expressible (patternSize : Nat) (s : Statement) : Prop where
  select : s.select = [.all] ∨ s.select ≠ [] ∧ ∀ item ∈ s.select, item.Expressible
  stream : ∃ n : Name, s.stream = n.text
  condition : ∀ e ∈ s.condition, e.Expressible patternSize
  groupBy : ∀ p ∈ s.groupBy, p ≠ []
  sample : s.sample = none

namespace Query

/-! ## Layouts -/

/-- Some tokens with a blank between them. -/
def spaced : List Token → List Char
  | [] => []
  | [t] => t.text
  | t :: ts => t.text ++ ' ' :: spaced ts

theorem laidOut_cons {t : Token} {ts : List Token} {rest : List Char}
    (hrest : t.isWord = true → Stops isWordChar rest) (h : LaidOut ts rest) :
    LaidOut (t :: ts) (t.text ++ rest) := by
  obtain ⟨c, cs, hc, hstart⟩ := t.text_eq_cons
  refine ⟨rest, ?_, hrest, h⟩
  rw [hc, List.cons_append, List.dropWhile_cons_of_neg (by simp [hstart.isBlank_eq_false])]

theorem laidOut_blank {ts : List Token} {text : List Char} (h : LaidOut ts text) :
    LaidOut ts (' ' :: text) := by
  cases ts with
  | nil => exact h
  | cons => exact h

theorem laidOut_spaced (ts : List Token) : LaidOut ts (spaced ts) := by
  induction ts with
  | nil => rfl
  | cons t ts ih =>
    cases ts with
    | nil =>
      have hlast : LaidOut [t] (t.text ++ []) := laidOut_cons (fun _ => stops_nil _) ih
      rwa [List.append_nil] at hlast
    | cons u us => exact laidOut_cons (fun _ => stops_cons.mpr (by decide)) (laidOut_blank ih)

theorem exists_laidOut (ts : List Token) : ∃ text, LaidOut ts text := ⟨_, laidOut_spaced ts⟩

/-! ## Tokens -/

theorem exists_is {word : String} (h : word ∈ keywords) : ∃ t : Token, t.Is word :=
  ⟨.keyword (.ofWord word h), rfl⟩

theorem exists_pathToken {p : Path} (hp : p ≠ []) : ∃ t, PathToken p t := by
  obtain ⟨first, more, rfl⟩ := List.exists_cons_of_ne_nil hp
  exact ⟨_, .displayed first more⟩

theorem exists_operandToken {e : Expr Path} (he : e.IsOperand) : ∃ t, OperandToken e t := by
  cases he with
  | bool b =>
    cases b with
    | false => exact (exists_is (by decide)).imp fun _ => .no
    | true => exact (exists_is (by decide)).imp fun _ => .yes
  | null => exact (exists_is (by decide)).imp fun _ => .null
  | integer i => exact ⟨_, .integer i⟩
  | string s => exact ⟨_, .string .single s⟩
  | path hp => exact (exists_pathToken hp).imp fun _ => .path

theorem exists_listed {α : Type} {Item : α → List Token → Prop} {as : List α} (hne : as ≠ [])
    (h : ∀ a ∈ as, ∃ ts, Item a ts) : ∃ ts, Listed Item as ts := by
  induction as with
  | nil => exact absurd rfl hne
  | cons a as ih =>
    obtain ⟨ts, ha⟩ := h a List.mem_cons_self
    cases as with
    | nil => exact ⟨ts, .last ha⟩
    | cons b as =>
      obtain ⟨us, has⟩ := ih (List.cons_ne_nil b as) fun x hx => h x (List.mem_cons_of_mem a hx)
      exact ⟨_, .cons ha has⟩

/-- In parentheses any condition is a term. -/
theorem exists_conditionTokens {patternSize : Nat} {e : Expr Path} (h : e.Expressible patternSize) :
    ∀ depth, e.height ≤ depth → ∃ ts, ConditionTokens patternSize .term depth e ts := by
  -- The operands of a connective have one level less at their disposal.
  have hpred {l r depth : Nat} (h : max l r + 1 ≤ depth) :
      ∃ inner, depth = inner + 1 ∧ l ≤ inner ∧ r ≤ inner := ⟨depth - 1, by omega⟩
  induction h with
  | operand he =>
    obtain ⟨t, ht⟩ := exists_operandToken he
    exact fun _ _ => ⟨[t], .operand ht⟩
  | @compare _ _ op hleft hop hright =>
    obtain ⟨t, ht⟩ := exists_operandToken hleft
    obtain ⟨u, hu⟩ := exists_operandToken hright
    obtain ⟨s, hs⟩ := Sign.exists_comparison op
    exact fun _ _ => ⟨_, .compare ht hs hop hu⟩
  | matching hleft hp =>
    obtain ⟨t, ht⟩ := exists_operandToken hleft
    exact fun _ _ => ⟨_, .matching ht (s := .matching) (q := .single) rfl hp⟩
  | not he ih =>
    intro depth hdepth
    obtain ⟨inner, rfl⟩ := Nat.exists_eq_add_of_lt (Nat.lt_of_lt_of_le (Nat.succ_pos _) hdepth)
    rw [Nat.zero_add] at hdepth ⊢
    obtain ⟨ts, hts⟩ := ih inner (Nat.le_of_succ_le_succ hdepth)
    exact ⟨_, .not (.inr rfl) hts⟩
  | and _ _ ihleft ihright =>
    intro depth hdepth
    obtain ⟨inner, rfl, hl, hr⟩ := hpred hdepth
    obtain ⟨ts, hts⟩ := ihleft inner hl
    obtain ⟨us, hus⟩ := ihright inner hr
    exact ⟨_, .group (.conjunction (.and (.term hts) (.inr rfl) hus))⟩
  | or _ _ ihleft ihright =>
    intro depth hdepth
    obtain ⟨inner, rfl, hl, hr⟩ := hpred hdepth
    obtain ⟨ts, hts⟩ := ihleft inner hl
    obtain ⟨us, hus⟩ := ihright inner hr
    exact ⟨_, .group (.or (.conjunction (.term hts)) (.inr rfl) (.term hus))⟩

theorem exists_clauseTokens {α : Type} {word : String} {Content : α → List Token → Prop}
    (hword : word ∈ keywords) (o : Option α) (h : ∀ a ∈ o, ∃ ts, Content a ts) :
    ∃ ts, ClauseTokens word Content o ts := by
  cases o with
  | none => exact ⟨[], .absent⟩
  | some a =>
    obtain ⟨ts, ha⟩ := h a rfl
    obtain ⟨t, ht⟩ := exists_is hword
    exact ⟨_, .present ht ha⟩

theorem exists_selectTokens {items : List (SelectItem Path)}
    (h : items = [.all] ∨ items ≠ [] ∧ ∀ item ∈ items, item.Expressible) :
    ∃ ts, SelectTokens items ts := by
  obtain rfl | ⟨hne, hitems⟩ := h
  · exact ⟨_, .all⟩
  · refine (exists_listed hne fun item hitem => ?_).imp fun _ => .items
    cases hitems item hitem with
    | plain hp =>
      obtain ⟨t, ht⟩ := exists_pathToken hp
      exact ⟨_, .plain ht⟩
    | named hp n =>
      obtain ⟨t, ht⟩ := exists_pathToken hp
      obtain ⟨u, hu⟩ : ∃ u : Token, u.Is "as" := exists_is (by decide)
      exact ⟨_, .named ht hu n⟩

theorem exists_groupTokens {ps : List Path} (hne : ps ≠ []) (h : ∀ p ∈ ps, p ≠ []) :
    ∃ ts, GroupTokens ps ts := by
  obtain ⟨t, ht⟩ : ∃ t : Token, t.Is "by" := exists_is (by decide)
  obtain ⟨ts, hts⟩ : ∃ ts, Listed PathTokens ps ts := by
    refine exists_listed hne fun p hp => ?_
    obtain ⟨u, hu⟩ := exists_pathToken (h p hp)
    exact ⟨_, .mk hu⟩
  exact ⟨_, .mk ht hts⟩

end Query

theorem Statement.Expressible.exists_rendering {limits : QueryLimits} {s : Statement}
    (h : s.Expressible limits.patternSize)
    (hnesting : ∀ e ∈ s.condition, e.height ≤ limits.nesting) :
    ∃ text, s.Rendering limits text := by
  obtain ⟨select, stream, window, condition, groupBy, sample⟩ := s
  obtain ⟨hselect, ⟨n, hstream⟩, hcondition, hgroupBy, hsample⟩ := h
  dsimp only at *
  subst hstream hsample
  obtain ⟨t, ht⟩ : ∃ t : Token, t.Is "select" := exists_is (by decide)
  obtain ⟨ts, hts⟩ := exists_selectTokens hselect
  obtain ⟨us, hus⟩ : ∃ us, ClauseTokens "from" StreamTokens (some n.text) us :=
    exists_clauseTokens (by decide) _ fun _ hname => Option.some.inj hname ▸ ⟨_, .mk n⟩
  obtain ⟨vs, hvs⟩ : ∃ vs, ClauseTokens "window" WindowTokens window vs :=
    exists_clauseTokens (by decide) _ fun w _ => ⟨_, .mk w⟩
  obtain ⟨ws, hws⟩ : ∃ ws, ClauseTokens "where"
      (ConditionTokens limits.patternSize .disjunction limits.nesting) condition ws := by
    refine exists_clauseTokens (by decide) _ fun e he => ?_
    obtain ⟨ws, hws⟩ := exists_conditionTokens (hcondition e he) _ (hnesting e he)
    exact ⟨ws, .conjunction (.term hws)⟩
  obtain ⟨o, rfl, xs, hxs⟩ : ∃ o : Option (List Path), o.getD [] = groupBy ∧
      ∃ xs, ClauseTokens "group" GroupTokens o xs := by
    cases groupBy with
    | nil => exact ⟨none, rfl, _, .absent⟩
    | cons p ps =>
      refine ⟨some (p :: ps), rfl, exists_clauseTokens (by decide) _ fun _ h => ?_⟩
      exact Option.some.inj h ▸ exists_groupTokens (List.cons_ne_nil p ps) hgroupBy
  obtain ⟨text, htext⟩ := exists_laidOut (t :: (ts ++ (us ++ (vs ++ (ws ++ xs)))))
  exact ⟨String.ofList text, _, .mk ht hts hus hvs hws hxs, by rwa [String.toList_ofList]⟩

end EventQuery
