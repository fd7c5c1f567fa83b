import EventQuery.Path
import EventQuery.Query.Reader.Token

/-!
# Paths of a query

A path starts with an identifier, which names a field of the event unless it is the root `e` with
brackets behind it. Each pair of brackets adds a segment.
-/

namespace EventQuery.Query.Reader

/-- A stem, after its sign. -/
def stem : Reader Segment := do
  padded (char '^')
  let start ← committed (expecting "quoted prefix" quotedString)
  return .stem start

def wildcard : Reader Segment := do
  char '*'
  return .wildcard

/-- What stands between brackets. -/
def segment : Reader Segment :=
  firstOf [Segment.key <$> quotedString, wildcard, stem, Segment.index <$> integer]

/-- A segment in brackets. Blanks may stand inside the brackets and not around them. -/
def bracket : Reader Segment := do
  char '['
  let segment ← committed (expecting "path key" (padded segment))
  committed (expecting "closing ']'" (char ']'))
  return segment

/-- The path of a leading word and brackets. -/
def pathOf (root : String) (brackets : List Segment) : Path :=
  if root = "e" ∧ brackets ≠ [] then brackets else .key root :: brackets

/-- A path. -/
def path : Reader Path := do
  let root ← identifier
  let brackets ← many bracket
  return pathOf root brackets

end EventQuery.Query.Reader
