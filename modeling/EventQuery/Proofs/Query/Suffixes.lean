import EventQuery.Proofs.Json.Suffixes
import EventQuery.Query.Reader.Statement

/-!
# What is left of a query

A reader of a query leaves a suffix of what it was given, and where it finds nothing the fault it
notes has a suffix of it as well. As for documents, everything is said of one text: at a suffix of
it the reader ends at another (`Reader.Within`). There is one lemma for each way of putting readers
together, and from them one for each reader of the grammar; `Reader.grammarWithin` collects these.
-/

namespace EventQuery.Query

variable {α β : Type} {t : List Char}

/-- Of two faults, the one that is kept stands where one of them does. -/
theorem Fault.rest_merge (f g : Fault) :
    (f.merge g).rest = f.rest ∨ (f.merge g).rest = g.rest := by
  unfold merge
  split
  · exact .inl rfl
  · split
    · exact .inr rfl
    · exact .inl rfl

namespace Outcome

/-- What is left of the text, be it behind what was read or where reading came to a halt. -/
def rest : Outcome α → List Char
  | ok _ rest => rest
  | refused f => f.rest
  | failed f => f.rest

@[simp] theorem rest_map (o : Outcome α) (g : α → β) : (o.map g).rest = o.rest := by
  cases o <;> rfl

theorem andThen_suffix {o : Outcome α} {next : α → List Char → Outcome β} (ho : o.rest <:+ t)
    (hn : ∀ a rest, rest <:+ t → (next a rest).rest <:+ t) : (o.andThen next).rest <:+ t :=
  match o, ho with
  | ok a rest, h => hn a rest h
  | refused _, h => h
  | failed _, h => h

end Outcome

namespace Reader

/-- At every suffix of a text the reader ends at another, whatever comes of it. -/
def Within (r : Reader α) (t : List Char) : Prop := ∀ s, s <:+ t → (r s).rest <:+ t

namespace Within

variable {r q : Reader α}

/-! ## One reader after the other -/

theorem pure (a : α) : (Pure.pure a : Reader α).Within t := fun _ h => h

theorem bind {next : α → Reader β} (hr : r.Within t) (hn : ∀ a, (next a).Within t) :
    (r >>= next).Within t :=
  fun s h => Outcome.andThen_suffix (hr s h) fun a rest => hn a rest

theorem map (hr : r.Within t) (g : α → β) : (g <$> r).Within t := hr.bind fun a => .pure (g a)

/-! ## Choices -/

theorem refuse : (refuse : Reader α).Within t := fun _ h => h

theorem fail (expected : String) : (fail expected : Reader α).Within t := fun _ h => h

theorem orElse (hr : r.Within t) (hq : q.Within t) : (r <|> q).Within t := by
  intro s h
  have hrs := hr s h
  have hqs := hq s h
  change (Reader.orElse r (fun _ => q) s).rest <:+ t
  unfold Reader.orElse
  dsimp only
  cases hre : r s with
  | ok a rest | failed f => rwa [hre] at hrs
  | refused f =>
    rw [hre] at hrs
    cases hqe : q s with
    | ok a rest | failed g => rwa [hqe] at hqs
    | refused g =>
      rw [hqe] at hqs
      change (f.merge g).rest <:+ t
      obtain e | e := f.rest_merge g
      · exact e ▸ hrs
      · exact e ▸ hqs

theorem firstOf {rs : List (Reader α)} (h : ∀ r ∈ rs, r.Within t) : (firstOf rs).Within t := by
  fun_induction Reader.firstOf rs with
  | case1 => exact refuse
  | case2 r => exact h r List.mem_cons_self
  | case3 r rs _ ih =>
    exact (h r List.mem_cons_self).orElse (ih fun q hq => h q (List.mem_cons_of_mem r hq))

theorem optional (hr : r.Within t) : (optional r).Within t := by
  intro s h
  have hrs := hr s h
  unfold Reader.optional
  cases hre : r s with
  | ok a rest | failed f => rwa [hre] at hrs
  | refused f => exact h

/-! ## Other faults for the same reader -/

theorem committed (hr : r.Within t) : (committed r).Within t := by
  intro s h
  have hrs := hr s h
  unfold Reader.committed
  cases hre : r s <;> rwa [hre] at hrs

theorem expecting (label : String) (hr : r.Within t) : (expecting label r).Within t := by
  intro s h
  have hrs := hr s h
  unfold Reader.expecting
  cases hre : r s <;> rwa [hre] at hrs

/-- A reader that refuses what it has read does so where it began. -/
theorem refine (hr : r.Within t) (form : α → Except String β) : (refine r form).Within t := by
  intro s h
  refine Outcome.andThen_suffix (hr s h) fun a rest hrest => ?_
  cases form a with
  | ok b => exact hrest
  | error detail => exact h

theorem verify (hr : r.Within t) (p : α → Bool) : (verify r p).Within t := by
  intro s h
  refine Outcome.andThen_suffix (hr s h) fun a rest hrest => ?_
  cases p a with
  | true => exact hrest
  | false => exact h

/-! ## Repetition -/

theorem many (hr : r.Within t) : Reader.Within (many r) t := by
  intro s h
  have hrs := hr s h
  fun_induction Reader.many r s with
  | case1 s a rest hre _ ih =>
    rw [hre] at hrs
    rw [Outcome.rest_map]
    exact ih hrs (hr rest hrs)
  | case2 | case3 => exact h
  | case4 s f hre => rwa [hre] at hrs

theorem separated {separator : Reader Unit} (hs : separator.Within t) (hr : r.Within t) :
    (separated separator r).Within t :=
  hr.bind fun _ => (hs.bind fun _ => hr).many.map _

/-! ## Characters -/

theorem satisfying (p : Char → Bool) : (satisfying p).Within t := by
  intro s h
  unfold Reader.satisfying
  split
  · exact h
  · split
    · exact Json.suffix_of_cons h
    · exact h

theorem char (c : Char) : (char c).Within t := (satisfying _).bind fun _ => .pure ()

theorem takeWhile (p : Char → Bool) : (takeWhile p).Within t :=
  fun _ h => (List.dropWhile_suffix p).trans h

theorem takeWhile1 (p : Char → Bool) : (takeWhile1 p).Within t :=
  (satisfying p).bind fun _ => (takeWhile p).map _

theorem notFollowedBy (p : Char → Bool) : (notFollowedBy p).Within t := by
  intro s h
  unfold Reader.notFollowedBy
  split
  · exact h
  · split <;> exact h

theorem exactly (same : Char → Char → Bool) (text : List Char) : (exactly same text).Within t := by
  intro s h
  unfold Reader.exactly
  split
  · exact h
  · exact (List.drop_suffix _ _).trans h

theorem symbol (text : String) : (symbol text).Within t := exactly _ _

theorem blanks : blanks.Within t := fun _ h => (List.dropWhile_suffix _).trans h

theorem padded (hr : r.Within t) : (padded r).Within t :=
  blanks.bind fun _ => hr.bind fun a => blanks.bind fun _ => .pure a

end Within

/-! ## Words and numbers -/

theorem within_keyword (word : String) : (keyword word).Within t :=
  (Within.exactly _ _).bind fun _ => .notFollowedBy _

theorem within_identifier : identifier.Within t :=
  (((Within.satisfying _).bind fun _ => (Within.takeWhile _).map _).verify _).map _

theorem within_digits : digits.Within t := .takeWhile1 _

theorem within_minus : minus.Within t := (Within.char _).optional.map _

theorem within_integer : integer.Within t :=
  (within_minus.bind fun _ => within_digits.map _).refine _

theorem within_natural : natural.Within t := within_digits.refine _

theorem within_fraction : fraction.Within t := (Within.char _).bind fun _ => within_digits

theorem within_exponent : exponent.Within t :=
  (Within.satisfying _).bind fun _ => (Within.satisfying _).optional.bind fun _ =>
    within_digits.map _

theorem within_number : number.Within t :=
  within_minus.bind fun _ => within_digits.bind fun _ => within_fraction.optional.bind fun _ =>
    within_exponent.optional.map _

/-! ## Strings and patterns -/

/-- A string without its closing quote is at fault where the text ends. -/
theorem within_quotedBody (quote : Char) : (quotedBody quote).Within t := by
  intro s h
  fun_induction quotedBody quote s with
  | case1 | case2 => exact List.nil_suffix
  | case3 c rest ih =>
    rw [Outcome.rest_map]
    exact ih (Json.suffix_of_cons (Json.suffix_of_cons h))
  | case4 => exact Json.suffix_of_cons h
  | case5 c rest _ _ _ ih =>
    rw [Outcome.rest_map]
    exact ih (Json.suffix_of_cons h)

theorem within_quotedString : quotedString.Within t :=
  (Within.satisfying _).bind fun quote => (within_quotedBody quote).map _

theorem within_slashedBody : slashedBody.Within t := by
  intro s h
  fun_induction slashedBody s with
  | case1 | case2 => exact List.nil_suffix
  | case3 c rest ih =>
    rw [Outcome.rest_map]
    exact ih (Json.suffix_of_cons (Json.suffix_of_cons h))
  | case4 => exact Json.suffix_of_cons h
  | case5 c rest _ _ _ ih =>
    rw [Outcome.rest_map]
    exact ih (Json.suffix_of_cons h)

theorem within_slashedPattern : slashedPattern.Within t :=
  (Within.char _).bind fun _ => within_slashedBody.map _

/-! ## Paths -/

theorem within_stem : stem.Within t :=
  (Within.char _).padded.bind fun _ =>
    (within_quotedString.expecting _).committed.map _

theorem within_wildcard : wildcard.Within t := (Within.char _).map _

theorem within_segment : segment.Within t := by
  refine .firstOf ?_
  simp only [List.forall_mem_cons, List.not_mem_nil, false_implies, implies_true, and_true]
  exact ⟨within_quotedString.map _, within_wildcard, within_stem, within_integer.map _⟩

theorem within_bracket : bracket.Within t :=
  (Within.char _).bind fun _ => (within_segment.padded.expecting _).committed.bind fun _ =>
    ((Within.char _).expecting _).committed.map _

theorem within_path : path.Within t :=
  within_identifier.bind fun _ => within_bracket.many.map _

/-! ## Conditions -/

theorem within_comparisonSign : comparisonSign.Within t := by
  refine .firstOf fun r hr => ?_
  obtain ⟨⟨text, op⟩, -, rfl⟩ := List.mem_map.mp hr
  exact (Within.symbol text).map _

theorem within_connective (word sign : String) : (connective word sign).Within t :=
  (within_keyword word).orElse (.symbol sign)

theorem within_negationSign : negationSign.Within t :=
  (within_keyword _).orElse ((Within.char _).bind fun _ => .notFollowedBy _)

theorem within_constant (word : String) (e : Expr Path) : (constant word e).Within t :=
  (within_keyword word).map _

theorem within_operand : operand.Within t := by
  refine .firstOf ?_
  simp only [List.forall_mem_cons, List.not_mem_nil, false_implies, implies_true, and_true]
  exact ⟨within_constant _ _, within_constant _ _, within_constant _ _, within_number.map _,
    within_quotedString.map _, within_path.map _⟩

/-- A pattern that does not compile is at fault where it starts. -/
theorem within_pattern (patternSize : Nat) : (pattern patternSize).Within t := by
  intro s h
  refine Outcome.andThen_suffix ((within_slashedPattern.orElse within_quotedString) s h) ?_
  intro source rest hrest
  cases Pattern.compile patternSize source with
  | ok p => exact hrest
  | error e => exact h

theorem within_comparison (patternSize : Nat) : (comparison patternSize).Within t := by
  refine (within_operand.padded.expecting _).bind fun left => ?_
  refine within_comparisonSign.padded.optional.bind fun sign => ?_
  split
  · exact .pure left
  · exact ((within_pattern patternSize).padded.expecting _).committed.map _
  · exact (within_operand.padded.expecting _).committed.map _

section

variable {r : Reader (Expr Path)}

theorem within_chain {c : Reader Unit} (connect : Expr Path → Expr Path → Expr Path)
    (hc : c.Within t) (hr : r.Within t) : (chain connect c r).Within t :=
  hr.bind fun _ => (hc.padded.bind fun _ => hr.committed).many.map _

theorem within_connected (hr : r.Within t) : (connected r).Within t :=
  within_chain _ (within_connective _ _) (within_chain _ (within_connective _ _) hr)

theorem within_negation (hr : r.Within t) : (negation r).Within t := hr.committed.map _

theorem within_group (hr : r.Within t) : (group r).Within t :=
  (within_connected hr).committed.bind fun _ => ((Within.char _).padded.expecting _).committed.map _

end

/-- At the deepest level a further one is refused where it would begin. -/
theorem within_nested {inner : Option (Reader α)} {read : Reader α → Reader β}
    (hi : ∀ r ∈ inner, r.Within t) (hread : ∀ r, r.Within t → (read r).Within t) :
    (nested inner read).Within t :=
  match inner, hi with
  | none, _ => .fail _
  | some r, hi => hread r (hi r rfl)

theorem within_termOver (patternSize : Nat) {inner : Option (Reader (Expr Path))}
    (hi : ∀ r ∈ inner, r.Within t) : (termOver patternSize inner).Within t := by
  refine within_negationSign.padded.optional.bind fun sign => ?_
  split
  · exact within_nested hi fun _ => within_negation
  · refine (Within.char _).padded.optional.bind fun paren => ?_
    split
    · exact within_nested hi fun _ => within_group
    · exact within_comparison patternSize

/-- Induction is on the number of levels that may still be opened. -/
theorem within_term (patternSize depth : Nat) : Reader.Within (term patternSize depth) t := by
  induction depth with
  | zero => exact within_termOver patternSize fun r hr => nomatch hr
  | succ depth ih => exact within_termOver patternSize fun r hr => Option.mem_some.mp hr ▸ ih

theorem within_condition (limits : QueryLimits) : (condition limits).Within t :=
  within_connected (within_term _ _)

/-! ## Clauses -/

theorem within_comma : comma.Within t := (Within.char _).padded

theorem within_selectItem : selectItem.Within t := by
  refine within_path.bind fun _ => ?_
  refine ((within_keyword _).padded.bind fun _ => ?_).optional.map _
  exact (within_identifier.padded.expecting _).committed

theorem within_selectList : selectList.Within t :=
  ((Within.char _).padded.map _).orElse
    (.separated within_comma (within_selectItem.padded.expecting _).committed)

theorem within_groupBy : groupBy.Within t :=
  ((within_keyword _).padded.expecting _).bind fun _ =>
    .separated within_comma (within_path.padded.expecting _).committed

/-- A document that cannot be read is at fault where it starts. -/
theorem within_sampleClause : sampleClause.Within t := by
  intro s h
  have hstart : Text.trimStart s <:+ t := (List.dropWhile_suffix _).trans h
  unfold sampleClause
  dsimp only
  split
  · exact List.nil_suffix
  · split
    · next hd => exact (SampleClause.within_decoder hstart).suffix hd
    · exact hstart

theorem within_clause (word : String) {r : Reader α} (hr : r.Within t) :
    (clause word r).Within t :=
  ((within_keyword word).padded.bind fun _ => hr.committed).optional

theorem within_statement (limits : QueryLimits) : (statement limits).Within t := by
  refine ((within_keyword _).padded.expecting _).bind fun _ => ?_
  refine (within_selectList.expecting _).committed.bind fun select => ?_
  refine (within_clause _ (within_identifier.padded.expecting _)).bind fun stream => ?_
  refine (within_clause _ (within_natural.padded.expecting _)).bind fun window => ?_
  refine (within_clause _ (within_condition limits)).bind fun condition => ?_
  refine (within_clause _ within_groupBy).bind fun groupBy => ?_
  exact (within_clause _ within_sampleClause).bind fun sample => Within.blanks.map _

/-! ## The grammar -/

/-- Every reader of the grammar, wherever in the text it begins, ends at a suffix of the text. So
    does what the grammar makes of readers that do. -/
structure GrammarWithin (limits : QueryLimits) (t : List Char) : Prop where
  padded : ∀ {α : Type} {r : Reader α}, r.Within t → (padded r).Within t
  clause : ∀ {α : Type} word {r : Reader α}, r.Within t → (clause word r).Within t
  chain : ∀ {c : Reader Unit} {r : Reader (Expr Path)} connect,
    c.Within t → r.Within t → (chain connect c r).Within t
  nested : ∀ {α β : Type} {inner : Option (Reader α)} {read : Reader α → Reader β},
    (∀ r ∈ inner, r.Within t) → (∀ r, r.Within t → (read r).Within t) →
      (nested inner read).Within t
  keyword : ∀ word, (keyword word).Within t
  identifier : identifier.Within t
  integer : integer.Within t
  natural : natural.Within t
  number : number.Within t
  quotedString : quotedString.Within t
  slashedPattern : slashedPattern.Within t
  segment : segment.Within t
  bracket : bracket.Within t
  path : path.Within t
  comparisonSign : comparisonSign.Within t
  connective : ∀ word sign, (connective word sign).Within t
  negationSign : negationSign.Within t
  operand : operand.Within t
  pattern : (pattern limits.patternSize).Within t
  comparison : (comparison limits.patternSize).Within t
  /-- Conditions, with so many levels that may still be opened. -/
  connected : ∀ depth, (connected (term limits.patternSize depth)).Within t
  term : ∀ depth, Reader.Within (term limits.patternSize depth) t
  condition : (condition limits).Within t
  selectItem : selectItem.Within t
  selectList : selectList.Within t
  groupBy : groupBy.Within t
  sampleClause : sampleClause.Within t
  statement : (statement limits).Within t

theorem grammarWithin (limits : QueryLimits) (t : List Char) : GrammarWithin limits t where
  padded := Within.padded
  clause := within_clause
  chain connect := within_chain connect
  nested := within_nested
  keyword := within_keyword
  identifier := within_identifier
  integer := within_integer
  natural := within_natural
  number := within_number
  quotedString := within_quotedString
  slashedPattern := within_slashedPattern
  segment := within_segment
  bracket := within_bracket
  path := within_path
  comparisonSign := within_comparisonSign
  connective := within_connective
  negationSign := within_negationSign
  operand := within_operand
  pattern := within_pattern _
  comparison := within_comparison _
  connected depth := within_connected (within_term _ depth)
  term := within_term _
  condition := within_condition limits
  selectItem := within_selectItem
  selectList := within_selectList
  groupBy := within_groupBy
  sampleClause := within_sampleClause
  statement := within_statement limits

end Reader
end EventQuery.Query
