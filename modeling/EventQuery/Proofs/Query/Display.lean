import EventQuery.Proofs.Query.ReadBack

/-!
# The text of a path in a query

The text of a path is query syntax for that path, wherever in a query a path may stand, and whatever
characters its names are made of (`Path.reads_render`). It follows that no two paths have the same
text; the empty path, whose text alone is no query syntax for it, is told apart by its length.
-/

namespace EventQuery

open Query

namespace Statement

/-- Nothing is said but that the whole event is selected. -/
def plain : Statement where
  select := [.all]
  stream := "stream"
  window := none
  condition := none
  groupBy := []
  sample := none

end Statement

/-- Where a path may stand in a query, its text is read as the path. -/
structure Path.ReadsBack (p : Path) : Prop where
  selected : ∀ limits, Statement.read limits ("select " ++ p.render ++ " from s") =
    .ok { Statement.plain with select := [.path p none], stream := "s" }
  operand : ∀ limits, Statement.read limits ("select * where " ++ p.render) =
    .ok { Statement.plain with condition := some (.path p) }
  left : ∀ limits op e t, op ≠ .matching → OperandToken e t →
    Statement.read limits ("select * where " ++ p.render ++ " " ++ op.symbol ++ " " ++
        String.ofList t.text) =
      .ok { Statement.plain with condition := some (.compare (.path p) op e) }
  right : ∀ limits op e t, op ≠ .matching → OperandToken e t →
    Statement.read limits ("select * where " ++ String.ofList t.text ++ " " ++ op.symbol ++ " " ++
        p.render) =
      .ok { Statement.plain with condition := some (.compare e op (.path p)) }
  matched : ∀ (limits : QueryLimits) (q : Quote) source compiled,
    Pattern.compile limits.patternSize source = .ok compiled →
    Statement.read limits ("select * where " ++ p.render ++ " =~ " ++
        String.ofList (q.around source)) =
      .ok { Statement.plain with
        condition := some (.compare (.path p) .matching (.pattern compiled)) }
  groupedBy : ∀ limits, Statement.read limits ("select * group by " ++ p.render) =
    .ok { Statement.plain with groupBy := [p] }

namespace Query

theorem Keyword.letters_ofWord {word : String} (h : word ∈ keywords) :
    (ofWord word h).letters = word.toList := List.cons_head_tail _

/-- The keyword in small letters. -/
def wordToken (word : String) (h : word ∈ keywords) : Token := .keyword (.ofWord word h)

theorem text_wordToken {word : String} (h : word ∈ keywords) :
    (wordToken word h).text = word.toList := Keyword.letters_ofWord h

/-- The sign of a comparison as it is displayed. -/
def signOf : Comparison → Sign
  | .eq => .doubleEqual
  | .ne => .unequal
  | .lt => .less
  | .le => .lessEqual
  | .gt => .greater
  | .ge => .greaterEqual
  | .matching => .matching

theorem comparison?_signOf (op : Comparison) : (signOf op).comparison? = some op := by
  cases op <;> rfl

theorem text_signOf (op : Comparison) : (signOf op).text = op.symbol := by
  cases op <;> rfl

theorem Token.text_sign (s : Sign) : (sign s).text = s.text.toList := rfl

theorem Token.text_quoted (q : Quote) (s : String) : (quoted q s).text = q.around s := rfl

def streamName : Name :=
  { Name.root with first := 's', starts := by decide, free := by decide +kernel }

theorem text_streamName : (Token.name streamName).text = ['s'] := rfl

variable {limits : QueryLimits} {statement : Statement} {ts : List Token}

theorem read_spaced (h : StatementTokens limits statement ts) {text : String}
    (htext : text.toList = spaced ts) : Statement.read limits text = .ok statement :=
  Statement.Rendering.read_eq ⟨ts, h, htext ▸ laidOut_spaced ts⟩

/-- A query that selects the whole event under a condition without connectives. -/
theorem read_condition {e : Expr Path} {t : Token}
    (h : ConditionTokens limits.patternSize .term limits.nesting e (t :: ts)) {text : String}
    (htext : text.toList = "select * where ".toList ++ spaced (t :: ts)) :
    Statement.read limits text = .ok { Statement.plain with condition := some e } := by
  have htokens : StatementTokens limits _ _ :=
    .mk (t := wordToken "select" (by decide)) rfl .all .absent .absent
      (.present (t := wordToken "where" (by decide)) rfl (.conjunction (.term h))) .absent
  refine read_spaced htokens (htext.trans ?_)
  simp [spaced, text_wordToken, Token.text_sign, Sign.text]

variable (limits) (first : Segment) (more : List Segment)

theorem read_selected : Statement.read limits
    ("select " ++ Path.render (first :: more) ++ " from s") =
      .ok { Statement.plain with select := [.path (first :: more) none], stream := "s" } := by
  have htokens : StatementTokens limits _ _ :=
    .mk (t := wordToken "select" (by decide)) rfl (.items (.last (.plain (.displayed first more))))
      (.present (t := wordToken "from" (by decide)) rfl (.mk streamName)) .absent .absent .absent
  refine read_spaced htokens ?_
  simp [spaced, text_wordToken, Token.text_path_root, Path.render, text_streamName]

theorem read_groupedBy : Statement.read limits
    ("select * group by " ++ Path.render (first :: more)) =
      .ok { Statement.plain with groupBy := [first :: more] } := by
  have htokens : StatementTokens limits _ _ :=
    .mk (t := wordToken "select" (by decide)) rfl .all .absent .absent .absent
      (.present (t := wordToken "group" (by decide)) rfl
        (.mk (t := wordToken "by" (by decide)) rfl (.last (.mk (.displayed first more)))))
  refine read_spaced htokens ?_
  simp [spaced, text_wordToken, Token.text_path_root, Path.render, Token.text_sign, Sign.text]

/-- The path as an operand. -/
theorem operandToken_displayed :
    OperandToken (.path (first :: more)) (.path Name.root first more) :=
  .path (.displayed first more)

end Query

namespace Path

theorem readsBack_cons (first : Segment) (more : List Segment) : ReadsBack (first :: more) where
  selected limits := read_selected limits first more
  operand limits := by
    refine read_condition (.operand (operandToken_displayed first more)) ?_
    simp [spaced, Token.text_path_root, render]
  left limits op e t hop he := by
    have hleft := operandToken_displayed first more
    refine read_condition (.compare hleft (comparison?_signOf op) hop he) ?_
    simp [spaced, Token.text_path_root, render, Token.text_sign, text_signOf]
  right limits op e t hop he := by
    have hright := operandToken_displayed first more
    refine read_condition (.compare he (comparison?_signOf op) hop hright) ?_
    simp [spaced, Token.text_path_root, render, Token.text_sign, text_signOf]
  matched limits q source compiled hcompiled := by
    have hleft := operandToken_displayed first more
    refine read_condition (.matching (s := .matching) (q := q) hleft rfl hcompiled) ?_
    simp [spaced, Token.text_path_root, render, Token.text_sign, Token.text_quoted, Sign.text]
  groupedBy limits := read_groupedBy limits first more

theorem render_nil_ne_render_cons (first : Segment) (more : List Segment) :
    render [] ≠ render (first :: more) := by
  intro h
  have htext : text [] = text (first :: more) := String.ofList_injective h
  rw [text, text, List.flatMap_cons, Reader.segmentText_eq] at htext
  simp at htext

/-- What is selected by the text of a path is the path. -/
theorem eq_of_render_cons {first first' : Segment} {more more' : List Segment}
    (h : render (first :: more) = render (first' :: more')) : first :: more = first' :: more' := by
  have hread := read_selected default first more
  rw [h, read_selected] at hread
  simpa using hread.symm

/-- The text of a path with a segment is read as the path wherever a path may stand, and different
    paths have different texts. -/
theorem reads_render : (∀ p : Path, p ≠ [] → p.ReadsBack) ∧ Function.Injective render := by
  refine ⟨fun p hp => ?_, fun p q h => ?_⟩
  · obtain ⟨first, more, rfl⟩ := List.exists_cons_of_ne_nil hp
    exact readsBack_cons first more
  · cases p with
    | nil =>
      cases q with
      | nil => rfl
      | cons first more => exact absurd h (render_nil_ne_render_cons first more)
    | cons first more =>
      cases q with
      | nil => exact absurd h.symm (render_nil_ne_render_cons first more)
      | cons first' more' => exact eq_of_render_cons h

/-- A path with a name of quotes and backslashes, one without characters, the least index, and a
    stem that begins like a bracket. -/
def awkwardPath : Path :=
  [.key "'\\n\"\n", .key "", .index Int64.minValue, .wildcard, .stem "]['\\"]

theorem reads_render_awkwardPath : awkwardPath ≠ [] ∧ awkwardPath.ReadsBack ∧
    awkwardPath.render = "e['\\'\\\\n\"\n'][''][-9223372036854775808][*][^'][\\'\\\\']" := by
  have hne : awkwardPath ≠ [] := List.cons_ne_nil _ _
  exact ⟨hne, reads_render.1 awkwardPath hne, by decide +kernel⟩

end Path
end EventQuery
