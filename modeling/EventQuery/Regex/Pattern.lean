import EventQuery.Regex.Match
import EventQuery.Regex.Meaning
import EventQuery.Regex.Automaton
import EventQuery.Regex.Words

/-!
# Patterns

A pattern is an expression that has to match a text as a whole. To that end its source is put into a
group between the signs for the start and the end of the text. The source has to be an expression by
itself before that, so that it cannot close the group.
-/

namespace EventQuery

/-- A pattern: what was written, and the expression for the whole of a text. -/
structure Pattern where
  source : String
  anchored : Regex
deriving Repr, Inhabited

namespace Pattern

/-- The source between the signs for start and end, in a group. -/
def anchoredSource (source : List Char) : List Char :=
  ['^', '(', '?', ':'] ++ source ++ [')', '$']

/-- An expression for which no automaton is needed, or none that is too large. -/
def readWithin (limit : Nat) (source : List Char) : Except Regex.Error Regex := do
  let r ← Regex.read source
  let blueprint := Regex.Blueprint.ofRegex r
  if blueprint.isWords || blueprint.fits limit then return r else .error (.tooLarge limit)

/-- The pattern with a source. -/
def compile (limit : Nat) (source : String) : Except Regex.Error Pattern := do
  let _ ← readWithin limit source.toList
  let anchored ← readWithin limit (anchoredSource source.toList)
  return ⟨source, anchored⟩

/-- The pattern matches the whole of a text. -/
def isMatch (p : Pattern) (text : String) : Bool := p.anchored.occursIn text.toList

/-- Two patterns are the same when they were written alike. -/
instance : BEq Pattern := ⟨fun p q => p.source == q.source⟩

end Pattern
end EventQuery
