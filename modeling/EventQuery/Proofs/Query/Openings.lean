import EventQuery.Query.Reader.Token
import Mathlib.Data.List.DropRight
import Mathlib.Tactic.Common

/-!
# What is open in a condition

The negations and parentheses that are open at a place of a condition can be told from its
characters alone, without reading it. What matters of a text is a list of marks: where a negation or
a parenthesis is opened, where a parenthesis is closed, and where there is anything else outside
quotes and patterns. A parenthesis is open up to the one that closes it, and a negation up to the
end of what it negates, which is a condition in parentheses or begins with something else; in the
latter case nothing more is opened before its end, so it does no harm to close the negation where
that begins.

`openAtOnce` is the greatest number of them that are open at once. Pieces that close what they open
do not add up, however many there are (`mostOpen_flatten_append`).
-/

namespace EventQuery.Query

open Reader (isBlank)

/-! ## Marks -/

/-- What may be open at a place of a condition. -/
inductive Opening where
  | negation
  | parenthesis
deriving DecidableEq, Repr

/-- What a condition is to the eye that looks for openings. -/
inductive Mark where
  | opens (o : Opening)
  /-- A closing parenthesis. -/
  | closes
  /-- Part of a comparison, or a connective. -/
  | other
deriving DecidableEq, Repr

/-- Where a character of a text stands. -/
inductive Place where
  | between
  /-- Behind a character of a word. -/
  | word
  /-- Inside a string or a pattern that the given character closes. -/
  | quoted (mark : Char)
  /-- Inside a string or a pattern, behind a backslash. -/
  | escaped (mark : Char)
deriving DecidableEq, Repr

/-- The characters that open and close strings and patterns. -/
def isQuote (c : Char) : Bool := c == '\'' || c == '"' || c == '/'

/-- The word for negation, in whatever case. -/
def isNot (word : List Char) : Bool := word.map Char.toLower == ['n', 'o', 't']

/-- The mark of a character between words, with what comes behind it. -/
def signMark? (c : Char) (behind : List Char) : Option Mark :=
  if isBlank c then none
  else if c = '(' then some (.opens .parenthesis)
  else if c = ')' then some .closes
  else if c = '!' ∧ behind.head? ≠ some '=' then some (.opens .negation)
  else some .other

namespace Place

/-- The place behind a character. -/
def next : Place → Char → Place
  | quoted mark, c =>
    if c = '\\' then escaped mark else if c = mark then between else quoted mark
  | escaped mark, _ => quoted mark
  | between, c | word, c =>
    if isWordChar c then word else if isQuote c then quoted c else between

/-- The mark of a character, with what comes behind it. A word is marked at its first character. -/
def mark? : Place → Char → List Char → Option Mark
  | quoted _, _, _ | escaped _, _, _ => none
  | word, c, behind => if isWordChar c then none else signMark? c behind
  | between, c, behind =>
    if isWordChar c then
      some (if isNot (c :: behind.takeWhile isWordChar) then .opens .negation else .other)
    else signMark? c behind

end Place

/-- The marks of a text that begins at a place, with another text behind it. -/
def marks (p : Place) : List Char → List Char → List Mark
  | [], _ => []
  | c :: text, behind => (p.mark? c (text ++ behind)).toList ++ marks (p.next c) text behind

theorem marks_append (p : Place) (a b behind : List Char) :
    marks p (a ++ b) behind = marks p a (b ++ behind) ++ marks (a.foldl Place.next p) b behind := by
  induction a generalizing p with
  | nil => rfl
  | cons c a ih =>
    rw [List.cons_append, marks, marks, ih, List.append_assoc, List.append_assoc, List.foldl_cons]

/-! ## What is open -/

/-- What is left open, innermost first, when what the negations in front negate has come. -/
def dropNegations (stack : List Opening) : List Opening := stack.dropWhile (· = .negation)

/-- What is open behind a mark. A closing parenthesis also ends what the negations in front of the
    opening one negate. -/
def Mark.change : Mark → List Opening → List Opening
  | opens o, stack => o :: stack
  | closes, stack => dropNegations (dropNegations stack).tail
  | other, stack => dropNegations stack

/-- What is open behind some marks. -/
def openBehind (stack : List Opening) (ms : List Mark) : List Opening :=
  ms.foldl (fun stack m => m.change stack) stack

/-- The most that is open at once, from the first mark to the last. -/
def mostOpen : List Opening → List Mark → Nat
  | stack, [] => stack.length
  | stack, m :: ms => max stack.length (mostOpen (m.change stack) ms)

/-- The most negations and parentheses that are open at once in a text, with another one behind
    it. -/
def openAtOnce (text behind : List Char) : Nat := mostOpen [] (marks .between text behind)

theorem dropNegations_idem (stack : List Opening) :
    dropNegations (dropNegations stack) = dropNegations stack :=
  List.dropWhile_idempotent _ _

theorem length_dropNegations_le (stack : List Opening) :
    (dropNegations stack).length ≤ stack.length :=
  (List.dropWhile_suffix _).length_le

theorem openBehind_append (stack : List Opening) (ms ns : List Mark) :
    openBehind stack (ms ++ ns) = openBehind (openBehind stack ms) ns :=
  List.foldl_append

theorem length_le_mostOpen (stack : List Opening) (ms : List Mark) :
    stack.length ≤ mostOpen stack ms := by
  cases ms with
  | nil => exact Nat.le_refl _
  | cons m ms => exact Nat.le_max_left _ _

theorem mostOpen_append (stack : List Opening) (ms ns : List Mark) :
    mostOpen stack (ms ++ ns) = max (mostOpen stack ms) (mostOpen (openBehind stack ms) ns) := by
  induction ms generalizing stack with
  | nil => exact (Nat.max_eq_right (length_le_mostOpen stack ns)).symm
  | cons m ms ih => rw [List.cons_append, mostOpen, mostOpen, ih, Nat.max_assoc]; rfl

/-- Pieces each of which leaves open what was open before do not add up: what is open at once in
    them and behind them is what is open at once in one of them, or behind them. -/
theorem mostOpen_flatten_append {stack : List Opening} {pieces : List (List Mark)}
    (h : ∀ ms ∈ pieces, openBehind stack ms = stack) (behind : List Mark) :
    mostOpen stack (pieces.flatten ++ behind) =
      (pieces.map (mostOpen stack)).foldr max (mostOpen stack behind) := by
  induction pieces with
  | nil => rfl
  | cons ms pieces ih =>
    obtain ⟨hms, hpieces⟩ := List.forall_mem_cons.mp h
    rw [List.flatten_cons, List.append_assoc, mostOpen_append, hms, ih hpieces]
    rfl

example : openAtOnce "(a) and not (b or c != '(((')".toList [] = 2 := by
  decide +kernel

/-! ## Openings that are closed again -/

/-- On top of what is open the marks open so much at once. They close it again, together with the
    negations in front of them. -/
structure Opens (stack : List Opening) (ms : List Mark) (depth : Nat) : Prop where
  behind : openBehind stack ms = dropNegations stack
  most : mostOpen stack ms = stack.length + depth

namespace Opens

variable {stack : List Opening} {ms ns : List Mark} {depth depth' : Nat}

/-- Marks that open and close nothing, where no negation waits for one. -/
theorem of_settled (hstack : dropNegations stack = stack) (h : ∀ m ∈ ms, m = .other) :
    Opens stack ms 0 := by
  induction ms with
  | nil => exact ⟨hstack.symm, rfl⟩
  | cons m ms ih =>
    obtain ⟨rfl, hms⟩ := List.forall_mem_cons.mp h
    obtain ⟨hbehind, hmost⟩ := ih hms
    have hchange : Mark.other.change stack = stack := hstack
    refine ⟨?_, ?_⟩
    · rw [openBehind, List.foldl_cons, hchange]
      exact hbehind
    · rw [mostOpen, hchange, hmost, Nat.add_zero, Nat.max_self]

/-- One mark or more of this kind. -/
theorem of_ne_nil (hne : ms ≠ []) (h : ∀ m ∈ ms, m = .other) : Opens stack ms 0 := by
  obtain ⟨m, ms, rfl⟩ := List.exists_cons_of_ne_nil hne
  obtain ⟨rfl, hms⟩ := List.forall_mem_cons.mp h
  obtain ⟨hbehind, hmost⟩ := of_settled (dropNegations_idem stack) hms
  refine ⟨?_, ?_⟩
  · rw [openBehind, List.foldl_cons]
    exact hbehind.trans (dropNegations_idem stack)
  · rw [mostOpen]
    change max stack.length (mostOpen (dropNegations stack) ms) = _
    rw [hmost, Nat.add_zero, Nat.add_zero, Nat.max_eq_left (length_dropNegations_le stack)]

theorem append (hstack : dropNegations stack = stack) (h : Opens stack ms depth)
    (h' : Opens stack ns depth') : Opens stack (ms ++ ns) (max depth depth') := by
  have hbehind : openBehind stack ms = stack := h.behind.trans hstack
  refine ⟨?_, ?_⟩
  · rw [openBehind_append, hbehind, h'.behind]
  · rw [mostOpen_append, hbehind, h.most, h'.most, Nat.add_max_add_left]

theorem negation (h : Opens (.negation :: stack) ms depth) :
    Opens stack (.opens .negation :: ms) (depth + 1) := by
  refine ⟨h.behind, ?_⟩
  rw [mostOpen, Mark.change, h.most, List.length_cons]
  omega

theorem parentheses (h : Opens (.parenthesis :: stack) ms depth) :
    Opens stack (.opens .parenthesis :: (ms ++ [.closes])) (depth + 1) := by
  have hbehind : openBehind (.parenthesis :: stack) ms = .parenthesis :: stack := h.behind
  refine ⟨?_, ?_⟩
  · rw [openBehind, List.foldl_cons]
    change openBehind (.parenthesis :: stack) (ms ++ [.closes]) = _
    rw [openBehind_append, hbehind]
    rfl
  · rw [mostOpen, Mark.change, mostOpen_append, hbehind, h.most]
    -- Closing ends negations too, so behind it there is no more open than in front.
    have hclosed : mostOpen (.parenthesis :: stack) [.closes] =
        max (stack.length + 1) (dropNegations stack).length := rfl
    have hle := length_dropNegations_le stack
    rw [hclosed, List.length_cons]
    omega

end Opens
end EventQuery.Query
