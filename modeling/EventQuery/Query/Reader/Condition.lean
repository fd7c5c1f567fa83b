import EventQuery.Query.Expr
import EventQuery.Query.Limits
import EventQuery.Query.Reader.Path

/-!
# Conditions of a query

Negation binds more closely than `and`, and that more closely than `or`; chains of either group to
the left. Comparisons do not chain. Recursion is on the number of negations and parentheses that may
still be opened: the reader one level further in is handed to the reader of a level, and there is
none at the last.
-/

namespace EventQuery.Query.Reader

/-- The signs of the comparisons. A sign comes before those it starts with. -/
def comparisonSigns : List (String × Comparison) :=
  [("==~", .matching), ("=~", .matching), ("==", .eq), ("=", .eq), ("!=", .ne), ("<=", .le),
    ("<", .lt), (">=", .ge), (">", .gt)]

def comparisonSign : Reader Comparison :=
  firstOf (comparisonSigns.map fun (text, op) => do symbol text; return op)

/-- The word for a connective, or its sign. -/
def connective (word sign : String) : Reader Unit := keyword word <|> symbol sign

/-- The sign of negation, which is not the start of `!=`. -/
def negationSign : Reader Unit :=
  keyword "not" <|> (do char '!'; notFollowedBy (· == '='))

/-- A word that stands for a condition. -/
def constant (word : String) (e : Expr Path) : Reader (Expr Path) := do
  keyword word
  return e

/-- One side of a comparison. -/
def operand : Reader (Expr Path) :=
  firstOf
    [constant "true" (.bool true), constant "false" (.bool false),
      constant "null" (.literal .null), (fun n => .literal (.number n)) <$> number,
      (fun s => .literal (.string s)) <$> quotedString, Expr.path <$> path]

/-- A pattern between slashes or in quotes. One that is refused makes the query wrong at its
    start. -/
def pattern (patternSize : Nat) : Reader (Expr Path) := fun s =>
  ((slashedPattern <|> quotedString) s).andThen fun source rest =>
    match Pattern.compile patternSize source with
    | .ok p => .ok (.pattern p) rest
    | .error e => .failed ⟨s, none, some e.message⟩

/-- A comparison, or an operand alone. -/
def comparison (patternSize : Nat) : Reader (Expr Path) := do
  let left ← expecting "operand" (padded operand)
  match ← optional (padded comparisonSign) with
  | none => return left
  | some .matching =>
    let right ← committed (expecting "regular expression" (padded (pattern patternSize)))
    return .compare left .matching right
  | some op =>
    let right ← committed (expecting "operand" (padded operand))
    return .compare left op right

/-- Conditions with connectives between them, grouped to the left. -/
def chain (connect : Expr Path → Expr Path → Expr Path) (connective : Reader Unit)
    (r : Reader (Expr Path)) : Reader (Expr Path) := do
  let first ← r
  let more ← many (do padded connective; committed r)
  return more.foldl connect first

/-- Conditions of a level with `and` and `or` between them. -/
def connected (r : Reader (Expr Path)) : Reader (Expr Path) :=
  chain .or (connective "or" "||") (chain .and (connective "and" "&&") r)

/-- Reading on one level further in, if there is another. -/
def nested {α β : Type} (inner : Option (Reader α)) (read : Reader α → Reader β) : Reader β :=
  match inner with
  | none => fail "shallower nesting"
  | some r => read r

/-- A negation, after its sign. -/
def negation (r : Reader (Expr Path)) : Reader (Expr Path) := Expr.not <$> committed r

/-- A condition in parentheses, after the opening one. -/
def group (r : Reader (Expr Path)) : Reader (Expr Path) := do
  let e ← committed (connected r)
  committed (expecting "closing ')'" (padded (char ')')))
  return e

/-- A negation, a condition in parentheses, or a comparison, given the same one level further
    in. -/
def termOver (patternSize : Nat) (inner : Option (Reader (Expr Path))) : Reader (Expr Path) := do
  if (← optional (padded negationSign)).isSome then nested inner negation
  else if (← optional (padded (char '('))).isSome then nested inner group
  else comparison patternSize

/-- A negation, a condition in parentheses, or a comparison, in which so many more negations and
    parentheses may be open at once. -/
def term (patternSize : Nat) (depth : Nat) (s : List Char) : Outcome (Expr Path) :=
  match depth with
  | 0 => termOver patternSize none s
  | depth + 1 => termOver patternSize (some (term patternSize depth)) s

/-- A condition. -/
def condition (limits : QueryLimits) : Reader (Expr Path) :=
  connected (term limits.patternSize limits.nesting)

end EventQuery.Query.Reader
