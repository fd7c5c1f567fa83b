import EventQuery.Proofs.Query.Derivation
import EventQuery.Proofs.Query.QuietReaders

/-!
# The limit to nesting

A text that is a statement under some limit to nesting needs a certain depth: under every limit that
is not below it the statement is the same, and under every other one reading comes to a halt because
of the limit (`Statement.NeedsNesting`). The depth is counted in the text alone, as the greatest
number of negations and parentheses that are open at once in the condition (`openAtOnce`), and what
stands side by side does not add up.

The marks of the condition are found along its derivation (`Derives.opens`), the depth under a limit
likewise (`Derives.needsDepth`), and of the rest of a statement nothing depends on the limit.
-/

namespace EventQuery.Query

open Reader

/-! ## Starting anew -/

/-- No word goes on here. -/
def Fresh (p : Place) (s : List Char) : Prop := p = .between ∨ p = .word ∧ Stops isWordChar s

section

variable {p p' : Place} {s mid rest : List Char} {ms : List Mark} {u : Unit}

theorem Fresh.bare (h : Fresh p s) : p.Bare := h.imp id And.left

/-- It makes no difference whether there was a word. -/
theorem Fresh.spans (h : Fresh p s) (hs : Spans .between s ms p' rest) :
    ∃ p'', (p'.Bare → p''.Bare) ∧ (Fresh p' rest → Fresh p'' rest) ∧ Spans p s ms p'' rest := by
  obtain rfl | ⟨rfl, hstops⟩ := h
  · exact ⟨p', id, id, hs⟩
  · obtain ⟨p'', hp'', hword⟩ := hs.of_stops hstops
    obtain rfl | ⟨rfl, rfl⟩ := hp''
    · exact ⟨p'', id, id, hword⟩
    · exact ⟨.word, fun _ => .inr rfl, fun _ => .inr ⟨rfl, hstops⟩, hword⟩

theorem Fresh.blanks (h : Fresh p s) :
    ∃ p', Fresh p' (s.dropWhile isBlank) ∧ Spans p s [] p' (s.dropWhile isBlank) := by
  obtain ⟨p', hp' | ⟨rfl, hsame⟩, hspans⟩ := spans_blanks h.bare s
  · exact ⟨p', .inl hp', hspans⟩
  · exact ⟨p', hsame.symm ▸ h, hspans⟩

/-! ## Signs -/

theorem Spans.blanks_behind (h : Spans p s ms p' mid) (hp' : Fresh p' mid) :
    ∃ p'', Fresh p'' (mid.dropWhile isBlank) ∧ Spans p s ms p'' (mid.dropWhile isBlank) := by
  obtain ⟨p'', hp'', hblanks⟩ := hp'.blanks
  exact ⟨p'', hp'', List.append_nil ms ▸ h.trans hblanks⟩

/-- A sign with blanks around it, if behind the sign alone no word goes on. -/
theorem fresh_padded {r : Reader Unit} {Marked : List Mark → Prop}
    (hr : ∀ p s mid, p.Bare → r s = .ok () mid →
      ∃ ms p', Marked ms ∧ Fresh p' mid ∧ Spans p s ms p' mid)
    (h : padded r s = .ok u rest) (hp : p.Bare) :
    ∃ ms p', Marked ms ∧ Fresh p' rest ∧ Spans p s ms p' rest := by
  obtain ⟨mid, hread, rfl⟩ := padded_eq_ok h
  obtain ⟨p', hp', hblanks⟩ := spans_blanks hp s
  obtain ⟨ms, p'', hms, hp'', hspans⟩ := hr p' _ mid (bare_of_blanks hp hp') hread
  obtain ⟨q, hq, hspans⟩ := (hblanks.trans hspans).blanks_behind hp''
  exact ⟨ms, q, hms, hq, hspans⟩

/-- A character that is marked for itself, with blanks around it. -/
theorem fresh_char {c : Char} {m : Mark} (hword : isWordChar c = false)
    (hquote : isQuote c = false) (hmark : ∀ behind, signMark? c behind = some m)
    (h : padded (char c) s = .ok u rest) (hp : p.Bare) :
    ∃ p', Fresh p' rest ∧ Spans p s [m] p' rest := by
  have hsign : ∀ (p : Place) s mid, p.Bare → char c s = .ok () mid →
      ∃ ms p', ms = [m] ∧ Fresh p' mid ∧ Spans p s ms p' mid := by
    intro p s mid hp hread
    obtain rfl := char_eq_ok hread
    have hspans := spans_sign hp hword hquote mid
    rw [hmark mid] at hspans
    exact ⟨[m], .between, rfl, .inl rfl, hspans⟩
  obtain ⟨ms, p', rfl, hspans⟩ := fresh_padded hsign h hp
  exact ⟨p', hspans⟩

theorem fresh_opening (h : padded (char '(') s = .ok u rest) (hp : p.Bare) :
    ∃ p', Fresh p' rest ∧ Spans p s [.opens .parenthesis] p' rest :=
  fresh_char (by decide) (by decide) (fun _ => rfl) h hp

theorem fresh_closing (h : padded (char ')') s = .ok u rest) (hp : p.Bare) :
    ∃ p', Fresh p' rest ∧ Spans p s [.closes] p' rest :=
  fresh_char (by decide) (by decide) (fun _ => rfl) h hp

theorem fresh_negationSign (h : padded negationSign s = .ok u rest) (hp : Fresh p s) :
    ∃ p', Fresh p' rest ∧ Spans p s [.opens .negation] p' rest := by
  obtain ⟨mid, hsign, rfl⟩ := padded_eq_ok h
  obtain ⟨p', hp', hblanks⟩ := hp.blanks
  have hspans : ∃ p'', Fresh p'' mid ∧
      Spans .between (s.dropWhile isBlank) [.opens .negation] p'' mid := by
    obtain hword | hmark := orElse_eq_ok hsign
    · obtain ⟨letters, hs, hspells, hrest⟩ := keyword_eq_ok hword
      have hne : letters ≠ [] := by
        rintro rfl
        exact absurd hspells (by decide)
      have hnot : isNot letters = true := beq_iff_eq.mpr hspells
      have hfirst := spans_word hne (isWordChar_of_spells (by decide) hspells) hrest
      rw [hnot, if_pos rfl, ← hs] at hfirst
      exact ⟨.word, .inr ⟨rfl, hrest⟩, hfirst⟩
    · -- In front of `=` the sign would be part of another one; the reader looks for that.
      obtain ⟨_, behind, hchar, hend⟩ := bind_eq_ok.mp hmark
      obtain ⟨rfl, hstops⟩ := notFollowedBy_eq_ok hend
      have hfirst := spans_sign (.inl rfl) (by decide) (by decide : isQuote '!' = false) mid
      have hmark : signMark? '!' mid = some (.opens .negation) := by
        have hhead : mid.head? ≠ some '=' := fun hhead => by simpa using hstops '=' hhead
        simp [signMark?, isBlank, hhead]
      rw [hmark, ← char_eq_ok hchar] at hfirst
      exact ⟨.between, .inl rfl, hfirst⟩
  obtain ⟨p'', hp'', hspans⟩ := hspans
  obtain ⟨q, -, hfresh, hspans⟩ := hp'.spans hspans
  exact (hblanks.trans hspans).blanks_behind (hfresh hp'')

/-- The word for a connective, or a sign of two characters that are alike. -/
theorem fresh_connect {word sign : String} {c : Char} (hword : word ∈ keywords)
    (hnot : word ≠ "not") (hsign : sign.toList = [c, c]) (hc : isOrdinary c = true)
    (hend : isWordChar c = false) (hp : p.Bare) (h : connective word sign s = .ok u rest) :
    ∃ ms p', Others ms ∧ Fresh p' rest ∧ Spans p s ms p' rest := by
  obtain h | h := orElse_eq_ok h
  · obtain ⟨letters, rfl, hspells, hrest⟩ := keyword_eq_ok h
    obtain ⟨ms, hms, p', hp', hspans⟩ := quietly_word (isWordChar_of_spells hword hspells)
      (isNot_eq_false_of_spells hword hnot hspells) hrest hp
    exact ⟨ms, p', hms, hp'.imp id fun hp' => ⟨hp', hrest⟩, hspans⟩
  · have hs : s = [c, c] ++ rest := hsign ▸ symbol_eq_ok h
    subst hs
    have hquote := isQuote_eq_false_of_ordinary hc
    have hfirst := spans_sign hp hend hquote (c :: rest)
    have hsecond := spans_sign (.inl rfl) hend hquote rest
    have hothers (behind : List Char) : Others (signMark? c behind).toList :=
      others_toList (signMark?_of_ordinary hc)
    exact ⟨_, .between, (hothers _).append (hothers _), .inl rfl, hfirst.trans hsecond⟩

theorem fresh_connective {c : Connective} (h : padded c.reader s = .ok u rest) (hp : p.Bare) :
    ∃ ms p', Others ms ∧ Fresh p' rest ∧ Spans p s ms p' rest := by
  refine fresh_padded (fun p s mid hp hread => ?_) h hp
  cases c with
  | and => exact fresh_connect (by decide) (by decide) rfl (by decide) (by decide) hp hread
  | or => exact fresh_connect (by decide) (by decide) rfl (by decide) (by decide) hp hread

end

/-! ## The marks of a condition -/

/-- Where a part may begin. Only behind a member of a chain a word may still go on. -/
def Part.Ready : Part → Place → List Char → Prop
  | behind _ _, p, _ => p.Bare
  | term, p, s | chain _, p, s => Fresh p s

/-- What may be open in front of a part: negations only in front of a term. -/
def Part.Under : Part → List Opening → Prop
  | term, _ => True
  | chain _, stack | behind _ _, stack => dropNegations stack = stack

theorem Connective.ready_member {c : Connective} {p : Place} {s : List Char} :
    c.member.Ready p s ↔ Fresh p s := by
  cases c <;> rfl

theorem Connective.under_member {c : Connective} {stack : List Opening}
    (h : dropNegations stack = stack) : c.member.Under stack := by
  cases c
  · trivial
  · exact h

/-- A part goes over marks that open as much at once as its derivation counts. Induction is on the
    derivation, for every place where the part may begin and all that may be open there. -/
theorem Derives.opens {patternSize depth : Nat} {part : Part} {s rest : List Char} {e : Expr Path}
    (h : Derives patternSize part s e rest depth) :
    ∀ p, part.Ready p s → ∃ ms p', p'.Bare ∧ Spans p s ms p' rest ∧
      ∀ stack, part.Under stack → Opens stack ms depth := by
  induction h with
  | comparison hnot hopen hread =>
    intro p hp
    obtain ⟨ms, hne, hms, p', hp', hspans⟩ := Shown.comparison patternSize _ _ _ hread
    obtain ⟨p'', hbare, -, hspans⟩ := Fresh.spans hp hspans
    -- Any negation in front ends here, at the first mark, which is why one is needed.
    exact ⟨ms, p'', hbare hp', hspans, fun stack _ => .of_ne_nil hne hms⟩
  | not hnot h ih =>
    intro p hp
    obtain ⟨p', hp', hsign⟩ := fresh_negationSign hnot hp
    obtain ⟨ms, p'', hp'', hspans, hopens⟩ := ih p' hp'
    exact ⟨_, p'', hp'', hsign.trans hspans, fun stack _ => (hopens _ trivial).negation⟩
  | group hnot hopen h hclose ih =>
    intro p hp
    obtain ⟨p', hp', hopening⟩ := fresh_opening hopen (Fresh.bare hp)
    obtain ⟨ms, p'', hp'', hspans, hopens⟩ := ih p' hp'
    obtain ⟨q, hq, hclosing⟩ := fresh_closing hclose hp''
    exact ⟨_, q, hq.bare, hopening.trans (hspans.trans hclosing),
      fun stack _ => (hopens (.parenthesis :: stack) rfl).parentheses⟩
  | @chain c s mid rest first e depth depth' hfirst hmore ihfirst ihmore =>
    intro p hp
    obtain ⟨ms, p', hp', hspans, hopens⟩ := ihfirst p (Connective.ready_member.mpr hp)
    obtain ⟨ns, p'', hp'', hspans', hopens'⟩ := ihmore p' hp'
    exact ⟨ms ++ ns, p'', hp'', hspans.trans hspans', fun stack hstack =>
      (hopens stack (Connective.under_member hstack)).append hstack (hopens' stack hstack)⟩
  | done hstop => exact fun p hp => ⟨[], p, hp, .refl p _, fun stack hstack =>
      .of_settled hstack others_nil⟩
  | @more c left right e s mid mid' rest depth depth' hsign hright hshorter hmore ihright ihmore =>
    intro p hp
    obtain ⟨cs, p', hcs, hp', hconnective⟩ := fresh_connective hsign hp
    obtain ⟨ms, p'', hp'', hspans, hopens⟩ := ihright p' (Connective.ready_member.mpr hp')
    obtain ⟨ns, q, hq, hspans', hopens'⟩ := ihmore p'' hp''
    refine ⟨cs ++ (ms ++ ns), q, hq, hconnective.trans (hspans.trans hspans'), ?_⟩
    -- The member in front has closed all it opened, so this one starts from the same stack.
    intro stack hstack
    have hmember : Opens stack (ms ++ ns) (max depth depth') :=
      (hopens stack (Connective.under_member hstack)).append hstack (hopens' stack hstack)
    exact Nat.zero_max (max depth depth') ▸ (Opens.of_settled hstack hcs).append hstack hmember

/-! ## Statements -/

namespace Reader

theorem bind_assoc {α β γ : Type} (r : Reader α) (f : α → Reader β) (g : β → Reader γ) :
    (r >>= f) >>= g = r >>= fun a => f a >>= g := by
  funext s
  simp only [bind_apply]
  cases r s <;> rfl

/-- The clauses in front of the condition. -/
def beforeCondition : Reader (List (SelectItem Path) × Option String × Option UInt64) := do
  expecting "'select'" (padded (keyword "select"))
  let select ← committed (expecting "select list" selectList)
  let stream ← clause "from" (expecting "stream name" (padded identifier))
  let window ← clause "window" (expecting "window size" (padded natural))
  return (select, stream, window)

/-- The clauses behind the condition, and the statement that all of them make. -/
def afterCondition (front : List (SelectItem Path) × Option String × Option UInt64)
    (condition : Option (Expr Path)) : Reader Statement := do
  let groupBy ← clause "group" groupBy
  let sample ← clause "sample" sampleClause
  blanks
  return {
    select := front.1, stream := front.2.1.getD "stream", window := front.2.2, condition,
    groupBy := groupBy.getD [], sample }

theorem statement_eq (limits : QueryLimits) :
    statement limits = (do
      let front ← beforeCondition
      let condition ← clause "where" (condition limits)
      afterCondition front condition) := by
  simp only [beforeCondition, bind_assoc]
  rfl

end Reader

/-- A condition is read from the words, with what is behind them left over, where a text has got to
    behind the word for the clause. -/
structure ConditionWords (limits : QueryLimits) (s : List Char) (e : Expr Path)
    (words behind : List Char) : Prop where
  start : (do let _ ← beforeCondition; padded (keyword "where")) s = .ok () (words ++ behind)
  read : condition limits (words ++ behind) = .ok e behind

/-- The depth is what is open at once in the words. Where they are cut at will, pieces each of which
    closes what it opens do not add up. -/
structure DepthOf (words behind : List Char) (depth : Nat) : Prop where
  open_at_once : depth = openAtOnce words behind
  siblings : ∀ front pieces back,
    marks .between words behind = front ++ (List.flatten pieces ++ back) →
    (∀ ms ∈ pieces, openBehind (openBehind [] front) ms = openBehind [] front) →
    depth = max (mostOpen [] front) ((pieces.map (mostOpen (openBehind [] front))).foldr max
      (mostOpen (openBehind [] front) back))

theorem depthOf_openAtOnce (words behind : List Char) :
    DepthOf words behind (openAtOnce words behind) where
  open_at_once := rfl
  siblings front pieces back hmarks hpieces := by
    rw [openAtOnce, hmarks, mostOpen_append, mostOpen_flatten_append hpieces]

namespace Reader

variable {patternSize limit : Nat} {s mid rest : List Char} {statement : Statement}

/-- The depth of a condition that was read, and the words that it was read from. -/
theorem depth_condition {e : Expr Path}
    (h : condition ⟨patternSize, limit⟩ s = .ok e rest) :
    ∃ depth words, NeedsDepth (fun n => condition ⟨patternSize, n⟩) s e rest depth ∧
      s = words ++ rest ∧ DepthOf words rest depth := by
  obtain ⟨depth, -, hderives⟩ := derives_of_read h
  obtain ⟨ms, p, -, ⟨words, rfl, rfl, -⟩, hopens⟩ := hderives.opens .between (.inl rfl)
  have hdepth : openAtOnce words rest = depth := (hopens [] rfl).most.trans (Nat.zero_add depth)
  exact ⟨depth, words, hderives.needsDepth, rfl, hdepth ▸ depthOf_openAtOnce words rest⟩

/-- The clause of the condition, which may be missing. -/
theorem depth_where {c : Option (Expr Path)}
    (h : clause "where" (condition ⟨patternSize, limit⟩) mid = .ok c rest)
    (hmid : ∃ front, beforeCondition s = .ok front mid) :
    ∃ depth, NeedsDepth (fun n => clause "where" (condition ⟨patternSize, n⟩)) mid c rest depth ∧
      (c = none → depth = 0) ∧ ∀ e ∈ c, ∃ words behind,
        ConditionWords ⟨patternSize, depth⟩ s e words behind ∧ DepthOf words behind depth := by
  obtain ⟨rfl, rfl, hrefused⟩ | ⟨e, rfl, hread⟩ := optional_eq_ok h
  · have hword := refused_of_bind_committed hrefused
    refine ⟨0, ⟨fun n _ => optional_of_refused (refused_bind hword), fun n hn => ?_⟩, fun _ => rfl,
      fun e he => nomatch he⟩
    exact absurd hn (Nat.not_lt_zero n)
  · obtain ⟨⟨⟩, start, hword, hread⟩ := bind_eq_ok.mp hread
    obtain ⟨depth, words, hneeds, rfl, hdepth⟩ := depth_condition (committed_eq_ok.mp hread)
    obtain ⟨front, hfront⟩ := hmid
    refine ⟨depth, (NeedsDepth.ok_bind hword hneeds.committed).optional, nofun, ?_⟩
    rintro _ ⟨⟩
    exact ⟨words, rest, ⟨bind_eq_ok.mpr ⟨front, mid, hfront, hword⟩,
      hneeds.enough depth (Nat.le_refl depth)⟩, hdepth⟩

theorem condition_of_afterCondition
    {front : List (SelectItem Path) × Option String × Option UInt64} {c : Option (Expr Path)}
    (h : afterCondition front c s = .ok statement rest) : statement.condition = c := by
  obtain ⟨groupBy, mid, -, h⟩ := bind_eq_ok.mp h
  obtain ⟨sample, mid', -, h⟩ := bind_eq_ok.mp h
  obtain ⟨u, mid'', -, h⟩ := bind_eq_ok.mp h
  cases h
  rfl

/-- Of a statement only the condition depends on the limit. -/
theorem depth_statement (h : Reader.statement ⟨patternSize, limit⟩ s = .ok statement rest) :
    ∃ depth, NeedsDepth (fun n => Reader.statement ⟨patternSize, n⟩) s statement rest depth ∧
      (statement.condition = none → depth = 0) ∧ ∀ e ∈ statement.condition, ∃ words behind,
        ConditionWords ⟨patternSize, depth⟩ s e words behind ∧ DepthOf words behind depth := by
  rw [statement_eq] at h
  obtain ⟨front, mid, hfront, h⟩ := bind_eq_ok.mp h
  obtain ⟨c, mid', hwhere, h⟩ := bind_eq_ok.mp h
  obtain ⟨depth, hneeds, hcounted⟩ := depth_where hwhere ⟨front, hfront⟩
  rw [condition_of_afterCondition h, funext fun n => statement_eq ⟨patternSize, n⟩]
  exact ⟨depth, .ok_bind hfront (hneeds.bind_ok (.of_ok h)), hcounted⟩

end Reader
end Query

open Query

/-- Under every limit that is not below the depth the text is the statement, and under every other
    one it is refused for its nesting. -/
structure Statement.NeedsNesting (patternSize : Nat) (text : String) (statement : Statement)
    (depth : Nat) : Prop where
  enough : ∀ n, depth ≤ n → Statement.read ⟨patternSize, n⟩ text = .ok statement
  short : ∀ n, n < depth → ∃ e, Statement.read ⟨patternSize, n⟩ text = .error e ∧
    e.expected = "shallower nesting"

namespace Statement

variable {patternSize depth depth' : Nat} {text : String} {statement other : Statement}

/-- A text that comes to a halt because too much is open is refused for that. -/
theorem read_of_tooDeep {limits : QueryLimits}
    (h : (Reader.statement limits text.toList).TooDeep) :
    ∃ e, Statement.read limits text = .error e ∧ e.expected = "shallower nesting" := by
  obtain ⟨place, h⟩ := h
  exact ⟨Fault.report text.toList ⟨place, some "shallower nesting", none⟩, by rw [read, h], rfl⟩

theorem NeedsNesting.le (h : NeedsNesting patternSize text statement depth)
    (h' : NeedsNesting patternSize text other depth') : depth ≤ depth' := by
  by_contra hlt
  obtain ⟨e, he, -⟩ := h.short depth' (Nat.lt_of_not_le hlt)
  rw [h'.enough depth' (Nat.le_refl depth')] at he
  exact nomatch he

/-- There is only one such depth, and one such statement. -/
theorem NeedsNesting.unique (h : NeedsNesting patternSize text statement depth)
    (h' : NeedsNesting patternSize text other depth') : other = statement ∧ depth' = depth := by
  have hdepth : depth' = depth := Nat.le_antisymm (h'.le h) (h.le h')
  subst hdepth
  have hread := h'.enough depth' (Nat.le_refl depth')
  rw [h.enough depth' (Nat.le_refl depth')] at hread
  exact ⟨(Except.ok.inj hread).symm, rfl⟩

/-- A text is refused under every limit to nesting, or there is one depth from which on it is read,
    always as the same statement, and below which it is refused for its nesting. That depth is what
    is open at once in its condition, if it has one. -/
theorem read_or_needsNesting (patternSize : Nat) (text : String) :
    (∀ n, ∃ e, Statement.read ⟨patternSize, n⟩ text = .error e) ∨
    ∃ statement depth, NeedsNesting patternSize text statement depth ∧
      (∀ other depth', NeedsNesting patternSize text other depth' →
        other = statement ∧ depth' = depth) ∧
      (statement.condition = none → depth = 0) ∧
      ∀ e ∈ statement.condition, ∃ words behind,
        ConditionWords ⟨patternSize, depth⟩ text.toList e words behind ∧
          DepthOf words behind depth := by
  by_cases hread : ∃ n statement, Statement.read ⟨patternSize, n⟩ text = .ok statement
  · obtain ⟨n, statement, hread⟩ := hread
    obtain ⟨depth, hneeds, hcounted⟩ := Reader.depth_statement (read_eq_ok.mp hread)
    have hnesting : NeedsNesting patternSize text statement depth :=
      ⟨fun n hn => read_eq_ok.mpr (hneeds.enough n hn),
        fun n hn => read_of_tooDeep (hneeds.short n hn)⟩
    exact .inr ⟨statement, depth, hnesting, fun other depth' => hnesting.unique, hcounted⟩
  · refine .inl fun n => ?_
    cases h : Statement.read ⟨patternSize, n⟩ text with
    | ok statement => exact absurd ⟨n, statement, h⟩ hread
    | error e => exact ⟨e, rfl⟩

end Statement
end EventQuery
