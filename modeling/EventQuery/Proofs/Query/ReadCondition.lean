import EventQuery.Proofs.Query.TokenReaders

/-!
# Reading a condition back

The tokens of a condition are taken as that condition (`takes_condition`), by induction on how they
were put together. A chain is read from the left in one go while the grammar builds it up at its
end, so what the induction carries along for a chain is that it can still be extended (`Extends`):
whatever conditions are read behind it, they are connected to it one by one.
-/

namespace EventQuery

open Query

namespace Query

namespace Level

/-- The keywords that may come behind a condition. -/
def words : Level → List String
  | disjunction => ["group"]
  | conjunction => ["or", "group"]
  | term => ["and", "or", "group"]

/-- The signs that may come behind a condition. -/
def signs : Level → List Sign
  | disjunction => [.closing]
  | conjunction => [.or, .closing]
  | term => [.and, .or, .closing]

/-- The tokens may come behind a condition. -/
def Follows (level : Level) (after : List Token) : Prop := Led level.words level.signs after

theorem Follows.of_disjunction {after : List Token} (h : disjunction.Follows after) :
    conjunction.Follows after :=
  h.mono (by decide) (by decide)

theorem Follows.of_conjunction {after : List Token} (h : conjunction.Follows after) :
    term.Follows after :=
  h.mono (by decide) (by decide)

end Level

theorem OperandToken.not_is {e : Expr Path} {t : Token} (h : OperandToken e t) : ¬ t.Is "not" := by
  intro hnot
  cases h with
  | yes ht | no ht | null ht => exact absurd (ht.eq hnot) (by decide)
  | integer | string => exact hnot
  | path hp => cases hp <;> exact hnot

/-- A condition does not start like a sign of comparison. -/
theorem ConditionTokens.head {patternSize : Nat} {level : Level} {depth : Nat} {e : Expr Path}
    {ts : List Token} (h : ConditionTokens patternSize level depth e ts) :
    ∃ t us, ts = t :: us ∧ ∀ c, t.Starts c → c ≠ '=' := by
  have hoperand {e : Expr Path} {t : Token} (he : OperandToken e t) : ∀ c, t.Starts c → c ≠ '=' :=
    fun _ hc => ne_of_kind (he.starts hc) (by decide)
  induction h with
  | operand he => exact ⟨_, _, rfl, hoperand he⟩
  | compare hleft | matching hleft => exact ⟨_, _, rfl, hoperand hleft⟩
  | not ht =>
    refine ⟨_, _, rfl, fun c hc => ?_⟩
    obtain his | rfl := ht
    · exact ne_of_kind (his.isAlpha hc).1 (by decide)
    · obtain rfl := hc
      decide
  | group =>
    refine ⟨_, _, rfl, fun c hc => ?_⟩
    obtain rfl := hc
    decide
  | term _ ih | conjunction _ ih => exact ih
  | and _ _ _ ih | or _ _ _ ih =>
    obtain ⟨t, us, rfl, ht⟩ := ih
    exact ⟨t, _, rfl, ht⟩

namespace Reader

variable {α : Type} {patternSize : Nat} {e left right : Expr Path} {t u : Token}
  {ts us after : List Token}

/-! ## Comparisons -/

theorem takes_operand {words : List String} {signs : List Sign} (he : OperandToken e t)
    (h : Led words signs after) : Takes (padded operand) e [t] after :=
  (reads_operand he h).takes

theorem takes_comparison_operand (he : OperandToken e t) (h : Level.term.Follows after) :
    Takes (comparison patternSize) e [t] after := by
  have hsign : Refuses (padded comparisonSign) after := refuses_comparisonSign h (by decide)
  refine ((takes_operand he h).expecting _).bind_nil (hsign.optional.bind_nil ?_)
  exact takes_pure e after

theorem takes_comparison {s : Sign} {op : Comparison} (hleft : OperandToken left t)
    (hs : s.comparison? = some op) (hop : op ≠ .matching) (hright : OperandToken right u)
    (h : Level.term.Follows after) :
    Takes (comparison patternSize) (.compare left op right) [t, .sign s, u] after := by
  have hfirst : Takes (padded operand) left [t] ([.sign s, u] ++ after) :=
    takes_operand hleft (led_sign [] (List.mem_singleton_self s) _)
  have hsign : Takes (padded comparisonSign) op [.sign s] ([u] ++ after) := by
    refine (reads_comparisonSign hs ?_).takes
    rintro v ⟨⟩ c hc
    have hstart := hright.starts hc
    exact ⟨ne_of_kind hstart (by decide), ne_of_kind hstart (by decide)⟩
  have hsecond := ((takes_operand hright h).expecting "operand").committed.bind_pure fun right =>
    Expr.compare left op right
  refine (hfirst.expecting _).bind (hsign.optional.bind ?_)
  cases op with
  | matching => exact absurd rfl hop
  | _ => exact hsecond

theorem takes_comparison_matching {s : Sign} {p : Pattern} {source : String} {q : Quote}
    (hleft : OperandToken left t) (hs : s.comparison? = some .matching)
    (hp : Pattern.compile patternSize source = .ok p) :
    Takes (comparison patternSize) (.compare left .matching (.pattern p))
      [t, .sign s, .quoted q source] after := by
  have hfirst : Takes (padded operand) left [t] ([.sign s, .quoted q source] ++ after) :=
    takes_operand hleft (led_sign [] (List.mem_singleton_self s) _)
  have hsign : Takes (padded comparisonSign) .matching [.sign s] ([.quoted q source] ++ after) := by
    refine (reads_comparisonSign hs ?_).takes
    rintro v ⟨⟩ c rfl
    cases q <;> decide
  have hpattern : Takes (padded (pattern patternSize)) (.pattern p) [.quoted q source] after :=
    (reads_pattern hp q after).takes
  have hsecond := (hpattern.expecting "regular expression").committed.bind_pure fun right =>
    Expr.compare left .matching right
  exact (hfirst.expecting _).bind (hsign.optional.bind hsecond)

/-! ## Terms -/

/-- Where neither a negation nor a parenthesis starts there is a comparison. -/
theorem takes_term_comparison (h : Takes (comparison patternSize) e (t :: ts) after)
    (he : OperandToken left t) (depth : Nat) :
    Takes (term patternSize depth) e (t :: ts) after := by
  have hnegation : Shuns negationSign t :=
    shuns_negationSign he.not_is fun c hc => ne_of_kind (he.starts hc) (by decide)
  have hparenthesis : Shuns (char '(') t :=
    shuns_char fun c hc => ne_of_kind (he.starts hc) (by decide)
  have hnot : Refuses (padded negationSign) (t :: ts ++ after) := hnegation.refuses ⟨_, rfl⟩ _
  have hopening : Refuses (padded (char '(')) (t :: ts ++ after) := hparenthesis.refuses ⟨_, rfl⟩ _
  have hover (inner) : Takes (termOver patternSize inner) e (t :: ts) after :=
    hnot.optional_bind (hopening.optional_bind h)
  cases depth with
  | zero => exact hover none
  | succ depth => exact hover (some (term patternSize depth))

theorem takes_term_not {depth : Nat} (ht : t.Connects "not" .not)
    (hts : ∀ u ∈ (ts ++ after).head?, ∀ c, u.Starts c → c ≠ '=')
    (h : Takes (term patternSize depth) e ts after) :
    Takes (term patternSize (depth + 1)) (.not e) (t :: ts) after := by
  have hsign : Takes (padded negationSign) () [t] (ts ++ after) := (reads_negationSign ht hts).takes
  exact hsign.optional.bind (h.committed.map Expr.not)

theorem takes_term_group {depth : Nat}
    (h : Takes (connected (term patternSize depth)) e ts ([.sign .closing] ++ after)) :
    Takes (term patternSize (depth + 1)) e (.sign .opening :: (ts ++ [.sign .closing])) after := by
  have hnot : Refuses (padded negationSign)
      (.sign .opening :: (ts ++ [.sign .closing]) ++ after) := by
    refine (shuns_negationSign id ?_).refuses ⟨_, rfl⟩ _
    rintro c rfl
    decide
  have hopening : Takes (padded (char '(')) () [.sign .opening] (ts ++ [.sign .closing] ++ after) :=
    (reads_char rfl _).takes
  have hclosing : Takes (padded (char ')')) () [.sign .closing] after := (reads_char rfl _).takes
  have hend := (hclosing.expecting "closing ')'").committed.bind_pure fun _ => e
  exact hnot.optional_bind (hopening.optional.bind (h.committed.bind hend))

/-! ## Chains -/

/-- The conditions read behind a condition are connected to it one by one. -/
def Extends (connect : Expr Path → Expr Path → Expr Path) (connective : Reader Unit)
    (r : Reader (Expr Path)) (level : Level) (e : Expr Path) (ts : List Token) : Prop :=
  ∀ more us after, Takes (many (do padded connective; committed r)) more us after →
    level.Follows (us ++ after) →
      Takes (chain connect connective r) (more.foldl connect e) (ts ++ us) after

section

variable {connect : Expr Path → Expr Path → Expr Path} {connective : Reader Unit}
  {r : Reader (Expr Path)} {level : Level}

theorem extends_first (h : ∀ after, level.Follows after → Takes r e ts after) :
    Extends connect connective r level e ts :=
  fun _ us after hmore hfollows =>
    (h (us ++ after) hfollows).bind (hmore.bind_pure fun more => more.foldl connect e)

theorem Extends.next (h : Extends connect connective r level left ts)
    (hr : ∀ after, level.Follows after → Takes r right us after)
    (ht : ∀ after, Reads connective () t after) (hfollows : ∀ vs, level.Follows (t :: vs)) :
    Extends connect connective r level (connect left right) (ts ++ t :: us) := by
  intro more vs after hmore hvs
  have hstep : Takes (do padded connective; committed r) right (t :: us) (vs ++ after) :=
    (ht (us ++ (vs ++ after))).takes.bind (hr (vs ++ after) hvs).committed
  have htaken := h (right :: more) (t :: us ++ vs) after (hstep.many (List.cons_ne_nil _ _) hmore)
    (hfollows _)
  rwa [List.append_assoc ts]

theorem Extends.takes (h : Extends connect connective r level e ts)
    (hstop : Refuses (padded connective) after) (hfollows : level.Follows after) :
    Takes (chain connect connective r) e ts after := by
  have htaken := h [] [] after hstop.bind.many hfollows
  rwa [List.append_nil] at htaken

end

/-- The reader of a level takes these tokens as this condition, and if they are a chain it can be
    extended. -/
def TakesAt (patternSize depth : Nat) : Level → Expr Path → List Token → Prop
  | .term, e, ts => ∀ after, Level.term.Follows after → Takes (term patternSize depth) e ts after
  | .conjunction, e, ts =>
    Extends .and (connective "and" "&&") (term patternSize depth) .term e ts
  | .disjunction, e, ts =>
    Extends .or (connective "or" "||")
      (chain .and (connective "and" "&&") (term patternSize depth)) .conjunction e ts

theorem TakesAt.conjunction {depth : Nat} (h : TakesAt patternSize depth .conjunction e ts)
    (hfollows : Level.conjunction.Follows after) :
    Takes (chain .and (connective "and" "&&") (term patternSize depth)) e ts after := by
  refine Extends.takes h ?_ hfollows.of_conjunction
  exact refuses_connective (s := .and) hfollows (by decide) (by decide) rfl rfl (by decide)

theorem TakesAt.disjunction {depth : Nat} (h : TakesAt patternSize depth .disjunction e ts)
    (hfollows : Level.disjunction.Follows after) :
    Takes (connected (term patternSize depth)) e ts after := by
  refine Extends.takes h ?_ hfollows.of_disjunction
  exact refuses_connective (s := .or) hfollows (by decide) (by decide) rfl rfl (by decide)

theorem takesAt {level : Level} {depth : Nat}
    (h : ConditionTokens patternSize level depth e ts) : TakesAt patternSize depth level e ts := by
  induction h with
  | operand he =>
    exact fun after hafter => takes_term_comparison (takes_comparison_operand he hafter) he _
  | compare hleft hs hop hright =>
    exact fun after hafter =>
      takes_term_comparison (takes_comparison hleft hs hop hright hafter) hleft _
  | matching hleft hs hp =>
    exact fun after _ => takes_term_comparison (takes_comparison_matching hleft hs hp) hleft _
  | not ht he ih =>
    intro after hafter
    obtain ⟨u, us, rfl, hu⟩ := he.head
    refine takes_term_not ht ?_ (ih after hafter)
    rintro v ⟨⟩
    exact hu
  | group he ih =>
    intro after hafter
    exact takes_term_group (ih.disjunction (led_sign _ (by decide) after))
  | term he ih => exact extends_first ih
  | and hleft ht hright ihleft ihright =>
    have hfollows (vs : List Token) : Level.term.Follows (_ :: vs) :=
      led_connects ht (by decide) (by decide) vs
    exact Extends.next ihleft ihright (reads_connective (s := .and) (by decide) ht) hfollows
  | conjunction he ih => exact extends_first fun after hafter => ih.conjunction hafter
  | or hleft ht hright ihleft ihright =>
    have hfollows (vs : List Token) : Level.conjunction.Follows (_ :: vs) :=
      led_connects ht (by decide) (by decide) vs
    exact Extends.next ihleft (fun after hafter => ihright.conjunction hafter)
      (reads_connective (s := .or) (by decide) ht) hfollows

theorem takes_condition {limits : QueryLimits}
    (h : ConditionTokens limits.patternSize .disjunction limits.nesting e ts)
    (hfollows : Level.disjunction.Follows after) : Takes (condition limits) e ts after :=
  (takesAt h).disjunction hfollows

end Reader
end Query
end EventQuery
