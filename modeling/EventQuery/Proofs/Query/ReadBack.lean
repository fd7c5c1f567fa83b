import EventQuery.Proofs.Query.ReadCondition
import EventQuery.Proofs.Query.Renderings

/-!
# Reading a statement back

Every statement has renderings, and each of them is read as that statement
(`Statement.read_renderings`).
-/

namespace EventQuery

open Query

namespace Query

theorem ClauseTokens.led {α : Type} {word : String} {Content : α → List Token → Prop}
    {o : Option α} {ts after : List Token} {words : List String}
    (h : ClauseTokens word Content o ts) (hafter : Led words [] after) :
    Led (word :: words) [] (ts ++ after) := by
  cases h with
  | absent => exact hafter.mono (List.subset_cons_self word words) (List.Subset.refl _)
  | present ht => exact led_keyword ht List.mem_cons_self _

theorem Listed.head {α : Type} {Item : α → List Token → Prop} {p : Token → Prop} {as : List α}
    {ts : List Token} (h : Listed Item as ts)
    (hitem : ∀ a ts, Item a ts → ∃ t us, ts = t :: us ∧ p t) : ∃ t us, ts = t :: us ∧ p t := by
  cases h with
  | last ha => exact hitem _ _ ha
  | cons ha =>
    obtain ⟨t, us, rfl, ht⟩ := hitem _ _ ha
    exact ⟨t, _, rfl, ht⟩

/-- A list of paths does not start like anything else. -/
theorem ItemTokens.head {item : SelectItem Path} {ts : List Token} (h : ItemTokens item ts) :
    ∃ t us, ts = t :: us ∧ ∀ c, t.Starts c → isWordStart c = true := by
  cases h with
  | plain hp => exact ⟨_, _, rfl, fun _ => hp.starts⟩
  | named hp => exact ⟨_, _, rfl, fun _ => hp.starts⟩

namespace Reader

variable {α : Type} {r : Reader α} {ts after : List Token} {words : List String}

/-! ## Lists and clauses -/

theorem refuses_comma (h : Led words [] after) : Refuses comma after := by
  refine refuses_of_led h (fun _ => refused_char) (fun c hc => ?_) nofun
  exact beq_eq_false_of_kind hc (by decide)

theorem takes_comma (after : List Token) : Takes comma () [.sign .comma] after :=
  (reads_char rfl after).takes

/-- A list is read to the end if each of its members may have a comma behind it. -/
theorem takes_separated {Item : α → List Token → Prop} {as : List α}
    (hr : ∀ a ts after, Item a ts → Led words [.comma] after → Takes r a ts after)
    (has : Listed Item as ts) (hafter : Led words [] after) :
    Takes (separated comma r) as ts after := by
  have hstop : Takes (many (do comma; r)) [] [] after := (refuses_comma hafter).bind.many
  have hlast : Led words [.comma] after := hafter.mono (List.Subset.refl _) (by simp)
  have hmany {as : List α} {ts : List Token} (has : Listed Item as ts) :
      Takes (many (do comma; r)) as (.sign .comma :: ts) after := by
    induction has with
    | @last a ts ha =>
      have hstep : Takes (do comma; r) a (.sign .comma :: ts) after :=
        (takes_comma _).bind (hr a ts after ha hlast)
      rw [← List.append_nil (_ :: ts)]
      exact Takes.many hstep (List.cons_ne_nil _ _) hstop
    | @cons a as ts us ha _ ih =>
      have hstep : Takes (do comma; r) a (.sign .comma :: ts) (.sign .comma :: us ++ after) :=
        (takes_comma _).bind (hr a ts _ ha (led_sign _ List.mem_cons_self _))
      exact hstep.many (List.cons_ne_nil _ _) ih
  cases has with
  | last ha => exact (hr _ ts after ha hlast).bind_nil (hstop.bind_pure fun more => _ :: more)
  | cons ha has =>
    exact (hr _ _ _ ha (led_sign _ List.mem_cons_self _)).bind
      ((hmany has).bind_pure fun more => _ :: more)

theorem takes_clause {word : String} {Content : α → List Token → Prop} {o : Option α}
    (h : ClauseTokens word Content o ts) (hword : word ∈ reservedWords)
    (hafter : Led words [] after) (hne : word ∉ words)
    (hr : ∀ a ts, Content a ts → Takes r a ts after) : Takes (clause word r) o ts after := by
  cases h with
  | absent => exact (refuses_keyword hafter hword hne).bind.optional
  | present ht ha => exact ((takes_keyword ht _).bind (hr _ _ ha).committed).optional

/-! ## The clauses -/

theorem takes_path {p : Path} (hp : PathTokens p ts) (after : List Token) :
    Takes (padded path) p ts after := by
  obtain ⟨hp⟩ := hp
  exact (reads_path hp after).takes

theorem takes_selectItem {item : SelectItem Path} (h : ItemTokens item ts)
    (hafter : Led words [.comma] after) (has : "as" ∉ words) :
    Takes (padded selectItem) item ts after := by
  cases h with
  | plain hp =>
    have hnone : Refuses (padded (keyword "as")) after := refuses_keyword hafter (by decide) has
    refine takes_padded_bind (reads_path hp _) ?_
    exact hnone.bind.optional.bind_pure fun name => SelectItem.path _ name
  | named hp hu n =>
    have hname : Takes (padded identifier) n.text [.name n] after :=
      (reads_identifier n after).takes
    refine takes_padded_bind (reads_path hp _) ?_
    exact ((takes_keyword hu _).bind (hname.expecting _).committed).optional.bind_pure
      fun name => SelectItem.path _ name

theorem takes_selectList {items : List (SelectItem Path)} (h : SelectTokens items ts)
    (hafter : Led words [] after) (has : "as" ∉ words) : Takes selectList items ts after := by
  cases h with
  | all =>
    have hstar : Takes (padded (char '*')) () [.sign .star] after := (reads_char rfl after).takes
    exact (hstar.bind_pure fun _ => [SelectItem.all]).orElse
  | items h =>
    have hstar : Refuses (padded (char '*')) (ts ++ after) := by
      obtain ⟨t, us, rfl, ht⟩ := h.head fun _ _ => ItemTokens.head
      have hshuns : Shuns (char '*') t := shuns_char fun c hc => ne_of_kind (ht c hc) (by decide)
      exact hshuns.refuses ⟨_, rfl⟩ _
    refine hstar.bind.orElse_takes (takes_separated (fun item ts after hitem hled => ?_) h hafter)
    exact ((takes_selectItem hitem hled has).expecting _).committed

theorem takes_groupBy {ps : List Path} (h : GroupTokens ps ts) (hafter : Led words [] after) :
    Takes groupBy ps ts after := by
  obtain ⟨ht, hps⟩ := h
  have hpaths := takes_separated (r := committed (expecting "field path" (padded path)))
    (fun p ts after hp _ => ((takes_path hp after).expecting _).committed) hps hafter
  exact ((takes_keyword ht _).expecting _).bind hpaths

theorem takes_stream {stream : String} (h : StreamTokens stream ts) (after : List Token) :
    Takes (expecting "stream name" (padded identifier)) stream ts after := by
  obtain ⟨n⟩ := h
  exact (reads_identifier n after).takes.expecting _

theorem takes_window {window : UInt64} (h : WindowTokens window ts) (hafter : Led words [] after) :
    Takes (expecting "window size" (padded natural)) window ts after := by
  obtain ⟨⟩ := h
  exact (reads_natural window hafter).takes.expecting _

theorem finishes_statement {limits : QueryLimits} {s : Statement}
    (h : StatementTokens limits s ts) : Finishes (statement limits) s ts := by
  obtain ⟨ht, hselect, hstream, hwindow, hcondition, hgroupBy⟩ := h
  -- What may come behind a clause is one of the words for those that are left.
  have hledGroup := hgroupBy.led (led_nil [] [])
  rw [List.append_nil] at hledGroup
  have hledWhere := hcondition.led hledGroup
  have hledWindow := hwindow.led hledWhere
  have hledFrom := hstream.led hledWindow
  refine ((takes_keyword ht _).expecting _).finishes ?_
  refine ((takes_selectList hselect hledFrom (by decide)).expecting _).committed.finishes ?_
  refine Takes.finishes (takes_clause hstream (by decide) hledWindow (by decide)
    fun _ _ h => takes_stream h _) ?_
  refine Takes.finishes (takes_clause hwindow (by decide) hledWhere (by decide)
    fun _ _ h => takes_window h hledWhere) ?_
  refine Takes.finishes (takes_clause hcondition (by decide) hledGroup (by decide)
    fun _ _ h => takes_condition h (hledGroup.mono (by decide) (by simp))) ?_
  refine Takes.finishes_nil (takes_clause hgroupBy (by decide) (led_nil [] []) (by decide)
    fun _ _ h => takes_groupBy h (led_nil [] [])) ?_
  have hsample : Takes (clause "sample" sampleClause) none [] [] :=
    (refuses_keyword (led_nil [] []) (by decide) (by decide)).bind.optional
  exact hsample.finishes_nil (finishes_blanks _)

end Reader
end Query

namespace Statement

theorem Rendering.read_eq {limits : QueryLimits} {statement : Statement} {text : String}
    (h : statement.Rendering limits text) : Statement.read limits text = .ok statement := by
  obtain ⟨ts, hts, htext⟩ := h
  exact read_eq_ok.mpr (Reader.finishes_statement hts _ htext)

/-- Every rendering of a statement is read as that statement, and whatever can be expressed has
    renderings. -/
theorem read_renderings {patternSize : Nat} {s : Statement} (h : s.Expressible patternSize) :
    (∃ nesting text, s.Rendering ⟨patternSize, nesting⟩ text) ∧
    ∀ nesting text, s.Rendering ⟨patternSize, nesting⟩ text →
      Statement.read ⟨patternSize, nesting⟩ text = .ok s := by
  constructor
  · refine ⟨s.condition.elim 0 Expr.height, h.exists_rendering fun e he => ?_⟩
    rw [Option.mem_def.mp he]
    exact Nat.le_refl _
  · rintro nesting text ⟨ts, hts, htext⟩
    simp only [Statement.read, Reader.finishes_statement hts _ htext]

/-- The pattern that is compiled from a source, or any other if there is none. -/
def patternOf (source : String) : Pattern :=
  match Pattern.compile 0x100000 source with
  | .ok p => p
  | .error _ => default

theorem compile_patternOf {source : String}
    (hok : (Pattern.compile 0x100000 source).isOk = true) :
    Pattern.compile 0x100000 source = .ok (patternOf source) := by
  unfold patternOf
  cases h : Pattern.compile 0x100000 source with
  | ok p => rfl
  | error e =>
    rw [h] at hok
    exact absurd hok Bool.false_ne_true

theorem compile_patternOf_plus : Pattern.compile 0x100000 "x+" = .ok (patternOf "x+") :=
  compile_patternOf (by decide +kernel)

/-- A name that begins like a keyword. -/
def nots : Name :=
  ⟨'n', ['o', 't', 's'], by decide, List.all_eq_true.mp (by decide), by decide +kernel⟩

/-- A statement with something in each of its clauses. -/
def readingsStatement : Statement where
  select := [.path [.key "it's", .index (-1)] (some "e"), .path [.key "nots", .stem "x"] none]
  stream := "nots"
  window := some 18446744073709551615
  condition := some
    (.and
      (.and
        (.not (.or (.compare (.path [.key "e"]) .eq (.literal (.number (.int 1))))
          (.not (.compare (.path [.key "nots"]) .matching (.pattern (patternOf "x+"))))))
        (.bool true))
      (.compare (.path [.key "e"]) .le (.literal (.number (.int Int64.minValue)))))
  groupBy := [[.key "e"]]
  sample := none

/-- One of its renderings, with capitals in keywords, both forms of negation and of the connectives,
    a path from the root and others from a name, and hardly a blank but those that part words. -/
def readingsText : String :=
  "SELECT e['it\\'s'][-1]As e,nots[^'x']\nfrom nots window 18446744073709551615" ++
    "where not(e=1oR!nots=~\"x+\")&&true and e<=-9223372036854775808group by e"

theorem expressible_readingsStatement : readingsStatement.Expressible 0x100000 where
  select := .inr ⟨List.cons_ne_nil _ _, by
    rintro item (_ | ⟨_, _ | ⟨_, ⟨⟩⟩⟩)
    · exact .named (List.cons_ne_nil _ _) Name.root
    · exact .plain (List.cons_ne_nil _ _)⟩
  stream := ⟨nots, by decide +kernel⟩
  condition := by
    rintro e ⟨⟩
    refine .and (.and (.not (.or ?_ (.not ?_))) (.operand (.bool true))) ?_
    · exact .compare (.path (List.cons_ne_nil _ _)) (by decide) (.integer 1)
    · exact .matching (.path (List.cons_ne_nil _ _)) compile_patternOf_plus
    · exact .compare (.path (List.cons_ne_nil _ _)) (by decide) (.integer _)
  groupBy := by
    rintro p (_ | ⟨_, ⟨⟩⟩)
    exact List.cons_ne_nil _ _
  sample := rfl

/-- Keywords with capitals. -/
def selectWord : Keyword := ⟨"select", 'S', ['E', 'L', 'E', 'C', 'T'], by decide, rfl⟩

def asWord : Keyword := ⟨"as", 'A', ['s'], by decide, rfl⟩

def orWord : Keyword := ⟨"or", 'o', ['R'], by decide, rfl⟩

theorem rendering_readingsText : readingsStatement.Rendering ⟨0x100000, 3⟩ readingsText := by
  have hword {word : String} (h : word ∈ keywords) : (Token.keyword (.ofWord word h)).Is word := rfl
  have hsecond : ItemTokens (.path [.key "nots", .stem "x"] none) [.path nots (.stem "x") []] :=
    .plain (.within nots (by decide +kernel) _ _)
  have hselect : SelectTokens readingsStatement.select _ :=
    .items (.cons (.named (.displayed (.key "it's") [.index (-1)])
      (show (Token.keyword asWord).Is "as" from rfl) Name.root) (.last hsecond))
  have hequal : ConditionTokens 0x100000 .term 1 _ _ :=
    .compare (s := .equal) (.path (.field Name.root)) rfl (by decide) (.integer 1)
  have hmatching : ConditionTokens 0x100000 .term 0 _ _ :=
    .matching (s := .matching) (q := .double) (.path (.field nots)) rfl compile_patternOf_plus
  have hor : ConditionTokens 0x100000 .disjunction 1 _ _ :=
    .or (.conjunction (.term hequal)) (t := .keyword orWord) (.inl rfl)
      (.term (.not (t := .sign .not) (.inr rfl) hmatching))
  have htrue : ConditionTokens 0x100000 .term 3 _ _ := .operand (.yes (hword (by decide)))
  have hless : ConditionTokens 0x100000 .term 3 _ _ :=
    .compare (s := .lessEqual) (.path (.field Name.root)) rfl (by decide)
      (.integer Int64.minValue)
  have hcondition : ConditionTokens 0x100000 .disjunction 3 _ _ :=
    .conjunction (.and (.and (.term (.not (.inl (hword (by decide))) (.group hor)))
      (t := .sign .and) (.inr rfl) htrue) (.inl (hword (by decide))) hless)
  refine ⟨_, .mk (show (Token.keyword selectWord).Is "select" from rfl) hselect
    (.present (hword (by decide)) (.mk nots)) (.present (hword (by decide)) (.mk _))
    (.present (hword (by decide)) hcondition)
    (.present (hword (by decide)) (.mk (hword (by decide)) (.last (.mk (.field Name.root))))), ?_⟩
  decide +kernel

/-- Capitals, quotes, signs for words and missing blanks make no difference. -/
theorem read_readingsText :
    readingsStatement.Expressible 0x100000 ∧
    readingsStatement.Rendering ⟨0x100000, 3⟩ readingsText ∧
    Statement.read ⟨0x100000, 3⟩ readingsText = .ok readingsStatement :=
  ⟨expressible_readingsStatement, rendering_readingsText,
    (read_renderings expressible_readingsStatement).2 3 readingsText rendering_readingsText⟩

end Statement
end EventQuery
