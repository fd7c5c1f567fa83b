/-!
# Paths

A path leads from an event to the values inside it, one segment at a time. Its text starts at the
root `e` and writes every segment in brackets, a name in single quotes.
-/

namespace EventQuery

/-- One step of a path. -/
inductive Segment where
  /-- The field of an object. -/
  | key (name : String)
  /-- The item of a list; negative positions count from its end. -/
  | index (i : Int64)
  /-- Every item of a list, every field of an object. -/
  | wildcard
  /-- Every field of an object whose name starts so. -/
  | stem (start : String)
deriving DecidableEq, Repr, Inhabited

/-- A path, from the event on. The empty path leads to the event itself. -/
abbrev Path := List Segment

namespace Segment

/-- More than one value may lie behind the segment. -/
def fansOut : Segment → Bool
  | wildcard | stem _ => true
  | key _ | index _ => false

end Segment

namespace Path

/-- The path to a field of the event. -/
def field (name : String) : Path := [.key name]

/-- More than one value may lie at the end of the path. -/
def fansOut (p : Path) : Bool := p.any Segment.fansOut

/-- One character inside single quotes. -/
def quotedChar (c : Char) : List Char :=
  if c = '\\' then ['\\', '\\'] else if c = '\'' then ['\\', '\''] else [c]

/-- A name in single quotes. -/
def quotedName (s : String) : List Char := '\'' :: s.toList.flatMap quotedChar ++ ['\'']

def indexText (i : Int) : List Char :=
  if i < 0 then '-' :: Nat.toDigits 10 i.natAbs else Nat.toDigits 10 i.natAbs

/-- The text of a segment. -/
def segmentText : Segment → List Char
  | .key name => '[' :: quotedName name ++ [']']
  | .index i => '[' :: indexText i.toInt ++ [']']
  | .wildcard => ['[', '*', ']']
  | .stem start => '[' :: '^' :: quotedName start ++ [']']

/-- The text of a path. -/
def text (p : Path) : List Char := 'e' :: p.flatMap segmentText

def render (p : Path) : String := String.ofList p.text

end Path
end EventQuery
