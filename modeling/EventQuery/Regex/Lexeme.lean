import EventQuery.Regex.Ast
import EventQuery.Regex.Error
import EventQuery.Text.Characters

/-!
# The lexemes of regular expressions

Readers of the parts that hold no other expression: blanks and comments, escapes, counts, flags and
names of groups. All of them take the text from the point where the lexeme starts and return what
is left; `verbose` says whether blanks and comments are skipped between their characters.
-/

namespace EventQuery.Regex.Lexeme

/-- The text after blanks and comments, where they are skipped at all. -/
def skipBlanks (verbose : Bool) (s : List Char) : List Char := if verbose then skip false s else s
where
  skip : Bool → List Char → List Char
    | _, [] => []
    | true, c :: s => if c = '\n' then skip false s else skip true s
    | false, c :: s =>
      if Text.isWhiteSpace c then skip false s
      else if c = '#' then skip true s
      else c :: s

theorem length_skip_le (inComment : Bool) (s : List Char) :
    (skipBlanks.skip inComment s).length ≤ s.length := by
  fun_induction skipBlanks.skip inComment s <;> simp_all <;> omega

/-- Skipping blanks makes no text longer. -/
theorem length_skipBlanks_le (verbose : Bool) (s : List Char) :
    (skipBlanks verbose s).length ≤ s.length := by
  unfold skipBlanks
  split
  · exact length_skip_le false s
  · exact Nat.le_refl _

theorem length_lt_of_skipBlanks {verbose : Bool} {s rest : List Char} {c : Char}
    (h : skipBlanks verbose s = c :: rest) : rest.length < s.length := by
  have := length_skipBlanks_le verbose s
  rw [h, List.length_cons] at this
  omega

/-- The character after the current one and the blanks behind it. A comment there is not skipped:
    its first character that is no blank counts. -/
def peekPastBlanks (verbose : Bool) (s : List Char) : Option Char :=
  if verbose then (visible false s).or s.head? else s.head?
where
  visible : Bool → List Char → Option Char
    | _, [] => none
    | inComment, c :: s =>
      if Text.isWhiteSpace c then visible inComment s
      else if !inComment && c == '#' then visible true s
      else some c

/-! ## Escapes -/

/-- An escape, or a character by itself. -/
inductive Primitive where
  | literal (l : Literal)
  | dot
  | assertion (kind : Assertion)
  | shorthand (kind : Shorthand) (negated : Bool)
  | property (query : PropertyQuery) (negated : Bool)
deriving Repr

def Primitive.toAst : Primitive → Ast
  | literal l => .literal l
  | dot => .dot
  | assertion kind => .assertion kind
  | shorthand kind negated => .shorthand kind negated
  | property query negated => .property query negated

/-- Characters with a meaning of their own. -/
def isMeta (c : Char) : Bool :=
  "\\.+*?()|[]\x7b\x7d^$#&-~".toList.contains c

/-- Characters that may be escaped to stand for themselves. -/
def isEscapable (c : Char) : Bool :=
  isMeta c || (c.toNat < 128 && !c.isAlphanum && c != '<' && c != '>')

def isHexDigit (c : Char) : Bool :=
  c.isDigit || ('a' ≤ c && c ≤ 'f') || ('A' ≤ c && c ≤ 'F')

def hexValue (ds : List Char) : Nat :=
  ds.foldl (fun n c =>
    n * 16 + (if c.isDigit then c.toNat - 48
      else if 'a' ≤ c then c.toNat - 87 else c.toNat - 55)) 0

/-- The character with a code point, if there is one. -/
def scalar? (n : Nat) : Option Char :=
  if h : n.isValidChar then some (Char.ofNatAux n h) else none

/-- A code point in so many digits. -/
def hexFixed (verbose : Bool) : Nat → List Char → Except Error (List Char × List Char)
  | 0, s => .ok ([], s)
  | _ + 1, [] => .error .escapeUnexpectedEnd
  | n + 1, c :: s =>
    if isHexDigit c then do
      let (ds, rest) ← hexFixed verbose n (skipBlanks verbose s)
      return (c :: ds, rest)
    else .error .escapeHexInvalidDigit

/-- The digits of a code point up to the closing brace. -/
def hexBraced (verbose : Bool) (s : List Char) : Except Error (List Char × List Char) :=
  match _h : skipBlanks verbose s with
  | [] => .error .escapeUnexpectedEnd
  | '\x7d' :: s => .ok ([], skipBlanks verbose s)
  | c :: s' =>
    if isHexDigit c then do
      let (ds, rest) ← hexBraced verbose s'
      return (c :: ds, rest)
    else .error .escapeHexInvalidDigit
termination_by s.length
decreasing_by exact length_lt_of_skipBlanks ‹_›

/-- A character by its code point, after the letter that starts it and says how many digits there
    are. -/
def hexEscape (verbose : Bool) (count : Nat) (s : List Char) :
    Except Error (Literal × List Char) :=
  match skipBlanks verbose s with
  | [] => .error .escapeUnexpectedEnd
  | '\x7b' :: s => do
    let (ds, rest) ← hexBraced verbose s
    if ds.isEmpty then .error .escapeHexEmpty
    else
      match scalar? (hexValue ds) with
      | some c => return (⟨c, false⟩, rest)
      | none => .error .escapeHexInvalid
  | s => do
    let (ds, rest) ← hexFixed verbose count s
    match scalar? (hexValue ds) with
    | some c => return (⟨c, count == 2⟩, rest)
    | none => .error .escapeHexInvalid

/-- The characters up to the closing brace, and what follows it. -/
def upToBrace (verbose : Bool) (s : List Char) : Except Error (List Char × List Char) :=
  match _h : skipBlanks verbose s with
  | [] => .error .escapeUnexpectedEnd
  | '\x7d' :: s => .ok ([], s)
  | c :: s' => do
    let (cs, rest) ← upToBrace verbose s'
    return (c :: cs, rest)
termination_by s.length
decreasing_by exact length_lt_of_skipBlanks ‹_›

/-- The text before the first of two adjacent characters and the text after them. -/
def splitAtPair? (a b : Char) : List Char → Option (List Char × List Char)
  | c :: d :: s =>
    if c = a ∧ d = b then some ([], s)
    else (splitAtPair? a b (d :: s)).map fun (before, after) => (c :: before, after)
  | _ => none

/-- The text before the first of a character and the text after it. -/
def splitAt? (a : Char) : List Char → Option (List Char × List Char)
  | c :: s => if c = a then some ([], s) else (splitAt? a s).map fun (b, after) => (c :: b, after)
  | [] => none

/-- What a name in braces asks for, and whether its operator turns it round. -/
def propertyQuery (name : List Char) : PropertyQuery × Bool :=
  let valued (p : List Char × List Char) : PropertyQuery :=
    .valued (String.ofList p.1) (String.ofList p.2)
  match splitAtPair? '!' '=' name with
  | some p => (valued p, true)
  | none =>
    match (splitAt? ':' name).or (splitAt? '=' name) with
    | some p => (valued p, false)
    | none => (.single (String.ofList name), false)

/-- A class by property, after its letter. -/
def propertyClass (verbose negated : Bool) (s : List Char) :
    Except Error (Primitive × List Char) :=
  match skipBlanks verbose s with
  | [] => .error .escapeUnexpectedEnd
  | '\x7b' :: s => do
    let (name, rest) ← upToBrace verbose s
    let (query, flipped) := propertyQuery name
    return (.property query (negated != flipped), rest)
  | '\\' :: _ => .error .propertyClassInvalid
  | c :: s => .ok (.property (.single c.toString) negated, skipBlanks verbose s)

/-- Letters and hyphens, with the blanks between them skipped. -/
def boundaryName (verbose : Bool) (s : List Char) : List Char × List Char :=
  match s with
  | [] => ([], [])
  | c :: s' =>
    if c.isAlpha || c == '-' then
      let (cs, rest) := boundaryName verbose (skipBlanks verbose s')
      (c :: cs, rest)
    else ([], s)
termination_by s.length
decreasing_by exact Nat.lt_succ_of_le (length_skipBlanks_le verbose s')

/-- What follows `\b` and an opening brace: the name of a special boundary, or nothing of the kind,
    and then the brace opens a count. -/
def specialBoundary (verbose : Bool) (s : List Char) :
    Except Error (Option (Assertion × List Char)) :=
  match skipBlanks verbose s with
  | [] => .error .wordBoundaryUnexpectedEnd
  | c :: s =>
    if !(c.isAlpha || c == '-') then .ok none
    else
      match boundaryName verbose (c :: s) with
      | (name, '\x7d' :: rest) =>
        if name = "start".toList then .ok (some (.wordStart, rest))
        else if name = "end".toList then .ok (some (.wordEnd, rest))
        else if name = "start-half".toList then .ok (some (.wordStartHalf, rest))
        else if name = "end-half".toList then .ok (some (.wordEndHalf, rest))
        else .error .wordBoundaryUnrecognized
      | _ => .error .wordBoundaryUnclosed

/-- An escape by code point, after its letter. -/
def codePoint (verbose : Bool) (count : Nat) (s : List Char) :
    Except Error (Primitive × List Char) := do
  let (l, rest) ← hexEscape verbose count s
  return (.literal l, rest)

/-- What follows a backslash. -/
def escape (verbose : Bool) (s : List Char) : Except Error (Primitive × List Char) :=
  match s with
  | [] => .error .escapeUnexpectedEnd
  | c :: s =>
    let char (c : Char) : Except Error (Primitive × List Char) := .ok (.literal ⟨c, false⟩, s)
    let assertion (a : Assertion) : Except Error (Primitive × List Char) := .ok (.assertion a, s)
    let shorthand (k : Shorthand) (negated : Bool) : Except Error (Primitive × List Char) :=
      .ok (.shorthand k negated, s)
    if c.isDigit then .error .backreference
    else
      match c with
      | 'x' => codePoint verbose 2 s
      | 'u' => codePoint verbose 4 s
      | 'U' => codePoint verbose 8 s
      | 'p' => propertyClass verbose false s
      | 'P' => propertyClass verbose true s
      | 'd' => shorthand .digit false
      | 's' => shorthand .space false
      | 'w' => shorthand .word false
      | 'D' => shorthand .digit true
      | 'S' => shorthand .space true
      | 'W' => shorthand .word true
      | 'a' => char '\x07'
      | 'f' => char '\x0C'
      | 't' => char '\t'
      | 'n' => char '\n'
      | 'r' => char '\r'
      | 'v' => char '\x0B'
      | 'A' => assertion .startText
      | 'z' => assertion .endText
      | 'B' => assertion .notWordBoundary
      | '<' => assertion .wordStart
      | '>' => assertion .wordEnd
      | 'b' =>
        match s with
        | '\x7b' :: inside => do
          match ← specialBoundary verbose inside with
          | some (a, rest) => return (.assertion a, rest)
          | none => assertion .wordBoundary
        | _ => assertion .wordBoundary
      | c => if isEscapable c then char c else .error .escapeUnrecognized

/-- A single character or escape outside of a class. -/
def primitive (verbose : Bool) (c : Char) (s : List Char) : Except Error (Primitive × List Char) :=
  match c with
  | '\\' => escape verbose s
  | '.' => .ok (.dot, s)
  | '^' => .ok (.assertion .startLine, s)
  | '$' => .ok (.assertion .endLine, s)
  | c => .ok (.literal ⟨c, false⟩, s)

/-! ## Counts -/

/-- The digits of a count, and the text behind it and its blanks. -/
def countDigits (verbose : Bool) (s : List Char) : List Char × List Char :=
  match s with
  | [] => ([], [])
  | c :: s' =>
    if c.isDigit then
      let (ds, rest) := countDigits verbose (skipBlanks verbose s')
      (c :: ds, rest)
    else ([], s)
termination_by s.length
decreasing_by exact Nat.lt_succ_of_le (length_skipBlanks_le verbose s')

/-- A count of a repetition, blanks around it allowed. The text moves on whether the count is good
    or not. -/
def count (verbose : Bool) (s : List Char) : Except Error Nat × List Char :=
  let (ds, rest) := countDigits verbose (s.dropWhile Text.isWhiteSpace)
  let rest := skipBlanks verbose (rest.dropWhile Text.isWhiteSpace)
  let n := ds.foldl (fun n c => n * 10 + (c.toNat - 48)) 0
  (if ds.isEmpty then .error .repetitionCountEmpty
    else if n < UInt32.size then .ok n else .error .decimalInvalid, rest)

/-- Whether a repetition takes as much as it can, that is, whether no sign of reluctance follows;
    and the text after that sign. -/
def greed : List Char → Bool × List Char
  | '?' :: s => (false, s)
  | s => (true, s)

/-- The counts of a repetition: one, one or more, or from one to another. A count that is missing or
    too large matters only once it is seen how the counts go on. -/
def counts (verbose : Bool) (s : List Char) : Except Error ((Nat × Option Nat) × List Char) :=
  let least := count verbose s
  match least.2 with
  | [] => .error .repetitionCountUnclosed
  | ',' :: rest =>
    match skipBlanks verbose rest with
    | [] => .error .repetitionCountUnclosed
    | '\x7d' :: rest => do
      let n ← least.1
      return ((n, none), '\x7d' :: rest)
    | rest => do
      let n ← least.1
      let most := count verbose rest
      let m ← most.1
      return ((n, some m), most.2)
  | rest => do
    let n ← least.1
    return ((n, some n), rest)

/-- The bounds of a counted repetition and its greed, after the opening brace. -/
def bounds (verbose : Bool) (s : List Char) :
    Except Error ((Nat × Option Nat × Bool) × List Char) :=
  match skipBlanks verbose s with
  | [] => .error .repetitionCountUnclosed
  | s => do
    let ((least, most), rest) ← counts verbose s
    match rest with
    | '\x7d' :: rest =>
      let (greedy, rest) := greed (skipBlanks verbose rest)
      if most.any (· < least) then .error .repetitionCountInvalid
      else return ((least, most, greedy), rest)
    | _ => .error .repetitionCountUnclosed

/-! ## Flags and names -/

def flag? : Char → Option Flag
  | 'i' => some .caseInsensitive
  | 'm' => some .multiLine
  | 's' => some .dotMatchesNewline
  | 'U' => some .swapGreed
  | 'u' => some .unicode
  | 'R' => some .crlf
  | 'x' => some .verbose
  | _ => none

/-- A list of flags and the character that ends it, a colon or a closing parenthesis. -/
def flags (seen : List FlagItem) : List Char → Except Error (List FlagItem × Char × List Char)
  | [] => .error .flagUnexpectedEnd
  | c :: s =>
    if c = ':' ∨ c = ')' then
      match seen.getLast? with
      | some .negation => .error .flagDanglingNegation
      | _ => .ok (seen, c, s)
    else if c = '-' then
      if seen.contains .negation then .error .flagRepeatedNegation
      else flags (seen ++ [.negation]) s
    else
      match flag? c with
      | none => .error .flagUnrecognized
      | some f =>
        if seen.contains (.flag f) then .error .flagDuplicate else flags (seen ++ [.flag f]) s

/-- Characters of the name of a group. -/
def isNameChar (first : Bool) (c : Char) : Bool :=
  if first then c == '_' || Text.isAlphabetic c
  else c == '_' || c == '.' || c == '[' || c == ']' || Text.isAlphanumeric c

/-- The name of a group up to the closing angle bracket. -/
def groupName (first : Bool) : List Char → Except Error (List Char × List Char)
  | [] => .error .groupNameUnexpectedEnd
  | '>' :: s => if first then .error .groupNameEmpty else .ok ([], s)
  | c :: s =>
    if isNameChar first c then do
      let (cs, rest) ← groupName false s
      return (c :: cs, rest)
    else .error .groupNameInvalid

end EventQuery.Regex.Lexeme
