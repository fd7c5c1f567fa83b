import EventQuery.Regex.ClassReader

/-!
# Reading regular expressions

The reader keeps the groups that are open as a list of frames, innermost first, and adds to the
innermost one: a character or class to its last branch, a repetition around the last part of that
branch, a bar to start another branch. Flags set inside a group end with it.
-/

namespace EventQuery.Regex

/-- The branches of a group so far, and the parts of the last one, each latest first. -/
structure Branches where
  done : List Ast := []
  parts : List Ast := []

namespace Branches

/-- The parts of a branch as one expression. -/
def sequence : List Ast → Ast
  | [] => .empty
  | [part] => part
  | parts => .concat parts.reverse

def push (b : Branches) (part : Ast) : Branches := { b with parts := part :: b.parts }

/-- The last branch ends and another one starts. -/
def bar (b : Branches) : Branches := ⟨sequence b.parts :: b.done, []⟩

/-- All branches as one expression. -/
def toAst (b : Branches) : Ast :=
  match b.done with
  | [] => sequence b.parts
  | done => .alternation (sequence b.parts :: done).reverse

end Branches

/-- A group that is open: what opened it, and what was there outside of it. -/
structure GroupFrame where
  kind : GroupKind
  verbose : Bool
  outside : Branches

/-- Everything the reader knows between two steps. -/
structure ReaderState where
  verbose : Bool := false
  names : List (List Char) := []
  frames : List GroupFrame := []
  branches : Branches := {}

namespace ReaderState

def push (st : ReaderState) (part : Ast) : ReaderState :=
  { st with branches := st.branches.push part }

/-- A group opens. -/
def openGroup (st : ReaderState) (kind : GroupKind) (verbose : Bool) : ReaderState :=
  { st with
    verbose
    frames := ⟨kind, st.verbose, st.branches⟩ :: st.frames
    branches := {} }

/-- The innermost group closes. -/
def closeGroup (st : ReaderState) : Except Error ReaderState :=
  match st.frames with
  | [] => .error .groupUnopened
  | frame :: frames =>
    .ok { st with
      verbose := frame.verbose
      frames
      branches := frame.outside.push (.group frame.kind st.branches.toAst) }

/-- The last part of the last branch is repeated. -/
def repeated (st : ReaderState) (least : Nat) (most : Option Nat) (greedy : Bool) :
    Except Error ReaderState :=
  match st.branches.parts with
  | [] | .empty :: _ | .flags _ :: _ => .error .repetitionMissing
  | part :: parts =>
    .ok { st with
      branches := { st.branches with parts := .repetition part least most greedy :: parts } }

end ReaderState

namespace Reader

/-- A group with a name, from the name on. -/
def namedGroup (st : ReaderState) (s : List Char) : Except Error (ReaderState × List Char) := do
  let (name, rest) ← Lexeme.groupName true s
  if st.names.contains name then .error .groupNameDuplicate
  else return ({ st with names := name :: st.names }.openGroup .capture st.verbose, rest)

/-- A group with flags of its own, or a change of flags, from the flags on. -/
def flagged (st : ReaderState) (s : List Char) : Except Error (ReaderState × List Char) := do
  let (items, last, rest) ← Lexeme.flags [] s
  let verbose := (flagState? .verbose items).getD st.verbose
  if last = ':' then return (st.openGroup (.plain items) verbose, rest)
  else if items.isEmpty then .error .repetitionMissing
  else return ({ st with verbose }.push (.flags items), rest)

/-- The start of a group or a change of flags, after the opening parenthesis. -/
def openParen (st : ReaderState) (s : List Char) : Except Error (ReaderState × List Char) :=
  match Lexeme.skipBlanks st.verbose s with
  | '?' :: '=' :: _ | '?' :: '!' :: _ | '?' :: '<' :: '=' :: _ | '?' :: '<' :: '!' :: _ =>
    .error .lookAround
  | '?' :: 'P' :: '<' :: s => namedGroup st s
  | '?' :: '<' :: s => namedGroup st s
  | ['?'] => .error .groupUnclosed
  | '?' :: s => flagged st s
  | s => .ok (st.openGroup .capture st.verbose, s)

/-- A repetition of the last part, after its sign: whether it is greedy is still to be seen. -/
def repetition (st : ReaderState) (least : Nat) (most : Option Nat) (s : List Char) :
    Except Error (ReaderState × List Char) := do
  let g := Lexeme.greed s
  let st ← st.repeated least most g.1
  return (st, g.2)

/-- One step of the reader, at a character that is not skipped. -/
def step (st : ReaderState) (c : Char) (s : List Char) : Except Error (ReaderState × List Char) :=
  match c with
  | '(' => openParen st s
  | ')' => do
    let st ← st.closeGroup
    return (st, s)
  | '|' => .ok ({ st with branches := st.branches.bar }, s)
  | '[' => do
    let (part, rest) ← ClassReader.bracketed st.verbose s
    return (st.push part, rest)
  | '?' => repetition st 0 (some 1) s
  | '*' => repetition st 0 none s
  | '+' => repetition st 1 none s
  | '\x7b' => do
    let _ ← st.repeated 0 none true
    let ((least, most, greedy), rest) ← Lexeme.bounds st.verbose s
    let st ← st.repeated least most greedy
    return (st, rest)
  | c => do
    let (p, rest) ← Lexeme.primitive st.verbose c s
    return (st.push p.toAst, rest)

theorem leaves_namedGroup {st : ReaderState} {s : List Char} :
    Leaves s.length (namedGroup st s) := by
  refine .bind Lexeme.leaves_groupName fun name rest h => ?_
  dsimp only
  split
  · simp
  · simpa using h

theorem leaves_flagged {st : ReaderState} {s : List Char} : Leaves s.length (flagged st s) := by
  refine .after fun found h => ?_
  have := Lexeme.length_of_flags h
  dsimp only
  split
  · simp; omega
  · split
    · simp
    · simp; omega

theorem leaves_openParen {st : ReaderState} {s : List Char} :
    Leaves s.length (openParen st s) := by
  have := Lexeme.length_skipBlanks_le st.verbose s
  unfold openParen
  split
  case h_5 h =>
    rw [h] at this
    exact leaves_namedGroup.mono (by simp only [List.length_cons] at this; omega)
  case h_6 h =>
    rw [h] at this
    exact leaves_namedGroup.mono (by simp only [List.length_cons] at this; omega)
  case h_8 h =>
    rw [h] at this
    exact leaves_flagged.mono (by simp only [List.length_cons] at this; omega)
  all_goals simp
  exact this

theorem leaves_repetition {st : ReaderState} {least : Nat} {most : Option Nat} {s : List Char} :
    Leaves s.length (repetition st least most s) :=
  .after fun _ _ => by simpa using Lexeme.length_greed_le s

theorem leaves_step {st : ReaderState} {c : Char} {s : List Char} :
    Leaves s.length (step st c s) := by
  unfold step
  split
  · exact leaves_openParen
  · exact .after fun _ _ => by simp
  · simp
  · exact .bind ClassReader.leaves_bracketed fun _ _ h => by simpa using h
  · exact leaves_repetition
  · exact leaves_repetition
  · exact leaves_repetition
  · exact .after fun _ _ => .bind Lexeme.leaves_bounds fun _ _ h =>
      .after fun _ _ => by simpa using h
  · exact .bind Lexeme.leaves_primitive fun _ _ h => by simpa using h

/-- The whole expression from a state on. -/
def run (st : ReaderState) (s : List Char) : Except Error ReaderState :=
  match _h : Lexeme.skipBlanks st.verbose s with
  | [] => .ok st
  | c :: after =>
    match _hs : step st c after with
    | .error e => .error e
    | .ok (st, rest) => run st rest
termination_by s.length
decreasing_by
  have := Lexeme.length_lt_of_skipBlanks _h
  have := leaves_step _ _ _hs
  omega

end Reader

/-- The expression that a text is, not nested too deep. -/
def Ast.read (s : List Char) : Except Error Ast := do
  let st ← Reader.run {} s
  match st.frames with
  | _ :: _ => .error .groupUnclosed
  | [] =>
    let ast := st.branches.toAst
    if maxDepth < ast.depth then .error (.tooDeep maxDepth) else return ast

end EventQuery.Regex
