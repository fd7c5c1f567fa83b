import EventQuery.Query.Reader.Condition
import EventQuery.Query.Statement
import EventQuery.Sampling.Decoder

/-!
# Statements of a query

The clauses of a statement come in one order, and only the first has to be there. A clause that has
begun is read to its end, or the query is wrong.
-/

namespace EventQuery

namespace Query.Reader

def comma : Reader Unit := padded (char ',')

/-- A path with the name it is given, if any. -/
def selectItem : Reader (SelectItem Path) := do
  let path ← path
  let name ← optional (do padded (keyword "as"); committed (expecting "alias" (padded identifier)))
  return .path path name

/-- The whole event, or a list of paths. -/
def selectList : Reader (List (SelectItem Path)) :=
  (do padded (char '*'); return [.all]) <|>
    separated comma (committed (expecting "field path" (padded selectItem)))

/-- The paths to group by, with the word in front. -/
def groupBy : Reader (List Path) := do
  expecting "'by'" (padded (keyword "by"))
  separated comma (committed (expecting "field path" (padded path)))

/-- A sample clause, which is a document with other text behind it. -/
def sampleClause : Reader SampleClause := fun s =>
  let expected := "sample configuration"
  match Text.trimStart s with
  | [] => .failed ⟨[], some expected, none⟩
  | start =>
    match SampleClause.decoder start with
    | .ok clause rest => .ok clause rest
    | .error f =>
      let reason := Text.lastLine (f.toError start).message.toList
      .failed ⟨start, some expected, some (String.ofList reason)⟩

/-- A clause that may be missing, with the word it starts with. -/
def clause {α : Type} (word : String) (r : Reader α) : Reader (Option α) :=
  optional (do padded (keyword word); committed r)

/-- A statement, up to what does not belong to it. -/
def statement (limits : QueryLimits) : Reader Statement := do
  expecting "'select'" (padded (keyword "select"))
  let select ← committed (expecting "select list" selectList)
  let stream ← clause "from" (expecting "stream name" (padded identifier))
  let window ← clause "window" (expecting "window size" (padded natural))
  let condition ← clause "where" (condition limits)
  let groupBy ← clause "group" groupBy
  let sample ← clause "sample" sampleClause
  blanks
  return {
    select, stream := stream.getD "stream", window, condition, groupBy := groupBy.getD [], sample }

end Query.Reader

open Query in
/-- The statement that the whole of a text is. -/
def Statement.read (limits : QueryLimits) (text : String) : Except SyntaxError Statement :=
  let s := text.toList
  match Reader.statement limits s with
  | .ok statement [] => .ok statement
  | .ok _ rest => .error (Fault.report s ⟨rest, some "end of query", none⟩)
  | .refused f | .failed f => .error (f.report s)

/-- A statement is read if it leaves nothing of the text. -/
theorem Statement.read_eq_ok {limits : QueryLimits} {text : String} {statement : Statement} :
    Statement.read limits text = .ok statement ↔
      Query.Reader.statement limits text.toList = .ok statement [] := by
  unfold Statement.read
  dsimp only
  split
  · next hread => simp [hread]
  · next rest hne hread => simp [hread, show rest ≠ [] from hne]
  · next hread => simp [hread]
  · next hread => simp [hread]

end EventQuery
