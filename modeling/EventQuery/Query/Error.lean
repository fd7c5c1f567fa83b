import EventQuery.Text.Characters

/-!
# What can be wrong with a query

A fault is noted while reading, at what is left of the text. It is reported at the next character
that is not white space, by its position in bytes (`Fault.report`).
-/

namespace EventQuery

/-- A query that cannot be read, as it is reported. -/
structure SyntaxError where
  /-- The bytes of the text in front of the fault. -/
  position : Nat
  expected : String
  found : String
deriving DecidableEq, Repr, Inhabited

namespace SyntaxError

def message (e : SyntaxError) : String :=
  s!"MQL parse error at position {e.position}: expected {e.expected}, found {e.found}"

end SyntaxError

namespace Query

/-- Characters of words: alphanumerical ones and the underscore. -/
def isWordChar (c : Char) : Bool := Text.isAlphanumeric c || c == '_'

/-- What stands at the start of a text: a word, another character, or nothing. -/
def describe : List Char → String
  | [] => "end of input"
  | c :: rest =>
    let shown := if isWordChar c then c :: rest.takeWhile isWordChar else [c]
    String.ofList ('\'' :: shown ++ ['\''])

/-- Where reading came to a halt, what was looked for there, and what is known besides. -/
structure Fault where
  rest : List Char
  expected : Option String := none
  detail : Option String := none
deriving DecidableEq, Repr

namespace Fault

/-- What two readers looked for at one place. -/
def either : Option String → Option String → Option String
  | some a, some b => if a = b then some a else some s!"{a} or {b}"
  | a, b => a <|> b

/-- Of two faults the one further along. At one place both expectations count, and the first detail
    that there is. -/
def merge (f g : Fault) : Fault :=
  if f.rest.length < g.rest.length then f
  else if g.rest.length < f.rest.length then g
  else ⟨f.rest, either f.expected g.expected, f.detail <|> g.detail⟩

/-- What was looked for, in words. -/
def expectation (f : Fault) : String :=
  let expected := f.expected.getD "valid query syntax"
  match f.detail with
  | none => expected
  | some detail => s!"{expected} ({detail})"

/-- The fault as it is reported for a text. -/
def report (text : List Char) (f : Fault) : SyntaxError :=
  let rest := Text.trimStart f.rest
  { position := Text.byteLength text - Text.byteLength rest
    expected := f.expectation
    found := describe rest }

end Fault
end Query
end EventQuery
