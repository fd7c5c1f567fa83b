import EventQuery.Regex.Lexeme.Leaves

/-!
# Reading character classes

A class in brackets may hold further classes, and operators between them that all bind alike, to
the left. The reader keeps the classes that are open as a list of levels, innermost first.
-/

namespace EventQuery.Regex

/-- A class that is open: what was read of it so far. -/
structure ClassLevel where
  negated : Bool
  /-- An operator and its left operand, while the right one is being read. -/
  pending : Option (ClassOp × ClassSet) := none
  /-- The items since the last operator, the latest first. -/
  items : List ClassSet := []

namespace ClassLevel

/-- The items since the last operator, as one set. -/
def operand (l : ClassLevel) : ClassSet :=
  match l.items with
  | [] => .empty
  | [item] => item
  | items => .union items.reverse

/-- Everything so far, as one set. -/
def body (l : ClassLevel) : ClassSet :=
  match l.pending with
  | none => l.operand
  | some (op, left) => .binary op left l.operand

def push (l : ClassLevel) (item : ClassSet) : ClassLevel := { l with items := item :: l.items }

/-- Everything so far becomes the left operand. -/
def operator (l : ClassLevel) (op : ClassOp) : ClassLevel :=
  { l with pending := some (op, l.body), items := [] }

end ClassLevel

namespace ClassReader

open Lexeme

/-- The named class with this name. -/
def asciiClass? : String → Option AsciiClass
  | "alnum" => some .alnum
  | "alpha" => some .alpha
  | "ascii" => some .ascii
  | "blank" => some .blank
  | "cntrl" => some .cntrl
  | "digit" => some .digit
  | "graph" => some .graph
  | "lower" => some .lower
  | "print" => some .print
  | "punct" => some .punct
  | "space" => some .space
  | "upper" => some .upper
  | "word" => some .word
  | "xdigit" => some .xdigit
  | _ => none

/-- A class by name, after its opening bracket; anything else there is no such class. -/
def named? : List Char → Option (ClassSet × List Char)
  | ':' :: '^' :: s => upToColon true s
  | ':' :: s => upToColon false s
  | _ => none
where
  upToColon (negated : Bool) (s : List Char) : Option (ClassSet × List Char) :=
    match s.dropWhile (· != ':') with
    | ':' :: ']' :: rest =>
      (asciiClass? (String.ofList (s.takeWhile (· != ':')))).map fun kind =>
        (.ascii kind negated, rest)
    | _ => none

/-- Hyphens at the start of a class stand for themselves. -/
def leadingHyphens (verbose : Bool) (level : ClassLevel) (s : List Char) :
    Except Error (ClassLevel × List Char) :=
  match s with
  | '-' :: s' =>
    match _h : skipBlanks verbose s' with
    | [] => .error .classUnclosed
    | c :: rest => leadingHyphens verbose (level.push (.literal ⟨'-', false⟩)) (c :: rest)
  | s => .ok (level, s)
termination_by s.length
decreasing_by
  have := length_lt_of_skipBlanks _h
  simp only [List.length_cons]
  omega

/-- Whether a sign of negation comes first, after the opening bracket, and the text behind it. -/
def negation (verbose : Bool) (s : List Char) : Except Error (Bool × List Char) :=
  match skipBlanks verbose s with
  | [] => .error .classUnclosed
  | '^' :: s =>
    match skipBlanks verbose s with
    | [] => .error .classUnclosed
    | s => .ok (true, s)
  | s => .ok (false, s)

/-- The start of a class, after its opening bracket: a sign of negation, hyphens, and a closing
    bracket that stands for itself because it comes first. -/
def start (verbose : Bool) (s : List Char) : Except Error (ClassLevel × List Char) := do
  let (negated, s) ← negation verbose s
  let (level, s) ← leadingHyphens verbose { negated } s
  match level.items, s with
  | [], ']' :: s =>
    match skipBlanks verbose s with
    | [] => .error .classUnclosed
    | s => .ok (level.push (.literal ⟨']', false⟩), s)
  | _, s => .ok (level, s)

/-- One character or escape inside a class. -/
def primitive (verbose : Bool) (c : Char) (s : List Char) :
    Except Error (Lexeme.Primitive × List Char) :=
  if c = '\\' then Lexeme.escape verbose s else .ok (.literal ⟨c, false⟩, s)

/-- What a primitive is by itself in a class. -/
def itemOf : Lexeme.Primitive → Except Error ClassSet
  | .literal l => .ok (.literal l)
  | .shorthand kind negated => .ok (.shorthand kind negated)
  | .property query negated => .ok (.property query negated)
  | .dot | .assertion _ => .error .classEscapeInvalid

/-- What a primitive is as the end of a range. -/
def endOf : Lexeme.Primitive → Except Error Literal
  | .literal l => .ok l
  | _ => .error .classRangeLiteral

/-- A single item or a range. A hyphen makes no range before a closing bracket or another one. -/
def rangeOrItem (verbose : Bool) (c : Char) (s : List Char) :
    Except Error (ClassSet × List Char) := do
  let (first, s) ← primitive verbose c s
  match skipBlanks verbose s with
  | [] => .error .classUnclosed
  | '-' :: after =>
    let next := Lexeme.peekPastBlanks verbose after
    if next = some ']' ∨ next = some '-' then do
      let item ← itemOf first
      return (item, '-' :: after)
    else
      match skipBlanks verbose after with
      | [] => .error .classUnclosed
      | d :: rest => do
        let (last, rest) ← primitive verbose d rest
        let lo ← endOf first
        let hi ← endOf last
        if hi.char.toNat < lo.char.toNat then .error .classRangeInvalid
        else return (.range lo hi, rest)
  | s => do
    let item ← itemOf first
    return (item, s)

/-! ## What is left -/

theorem length_of_upToColon {negated : Bool} {s rest : List Char} {item : ClassSet}
    (h : named?.upToColon negated s = some (item, rest)) : rest.length < s.length := by
  have hd := (List.dropWhile_sublist (· != ':') (l := s)).length_le
  unfold named?.upToColon at h
  split at h
  · next heq =>
    obtain ⟨_, _, hp⟩ := Option.map_eq_some_iff.1 h
    cases hp
    rw [heq] at hd
    simp only [List.length_cons] at hd
    omega
  · cases h

theorem length_of_named {s rest : List Char} {item : ClassSet}
    (h : named? s = some (item, rest)) : rest.length < s.length := by
  unfold named? at h
  split at h
  · have := length_of_upToColon h
    simp only [List.length_cons]
    omega
  · have := length_of_upToColon h
    simp only [List.length_cons]
    omega
  · cases h

theorem leaves_leadingHyphens {verbose : Bool} {level : ClassLevel} {s : List Char} :
    Leaves s.length (leadingHyphens verbose level s) := by
  fun_induction leadingHyphens verbose level s with
  | case1 => simp
  | case2 level s c after h ih =>
    have := length_lt_of_skipBlanks h
    exact ih.mono (by simp only [List.length_cons]; omega)
  | case3 => simp

theorem leaves_negation {verbose : Bool} {s : List Char} :
    Leaves s.length (negation verbose s) := by
  have := length_skipBlanks_le verbose s
  unfold negation
  split
  · simp
  · next after h =>
    have := length_lt_of_skipBlanks h
    have := length_skipBlanks_le verbose after
    split
    · simp
    · simp; omega
  · simp; omega

theorem leaves_start {verbose : Bool} {s : List Char} :
    Leaves s.length (start verbose s) := by
  unfold start
  refine .bind leaves_negation fun _ _ _ => .bind leaves_leadingHyphens fun _ _ h => ?_
  dsimp only
  split
  · next after _ =>
    have := length_skipBlanks_le verbose after
    simp only [List.length_cons] at h
    split
    · simp
    · simp; omega
  · simp; omega

theorem leaves_primitive {verbose : Bool} {c : Char} {s : List Char} :
    Leaves s.length (primitive verbose c s) := by
  unfold primitive
  split
  · exact leaves_escape
  · simp

theorem leaves_rangeOrItem {verbose : Bool} {c : Char} {s : List Char} :
    Leaves s.length (rangeOrItem verbose c s) := by
  unfold rangeOrItem
  refine .bind leaves_primitive fun _ s' _ => ?_
  have := length_skipBlanks_le verbose s'
  dsimp only
  split
  · simp
  · next after h =>
    have := length_lt_of_skipBlanks h
    have := length_skipBlanks_le verbose after
    split
    · exact .after fun _ _ => by simp; omega
    · split
      · simp
      · next h' =>
        have := length_lt_of_skipBlanks h'
        refine .bind leaves_primitive fun _ _ _ => .after fun _ _ => .after fun _ _ => ?_
        dsimp only
        split
        · simp
        · simp; omega
  · exact .after fun _ _ => by simp; omega

/-! ## The whole class -/

/-- A class from the middle of its innermost level to its very end. -/
def classFrom (verbose : Bool) (outer : List ClassLevel) (level : ClassLevel) (s : List Char) :
    Except Error ((Bool × ClassSet) × List Char) :=
  match _h : skipBlanks verbose s with
  | [] => .error .classUnclosed
  | '[' :: after =>
    match _hn : named? after with
    | some (item, rest) => classFrom verbose outer (level.push item) rest
    | none =>
      match _hs : start verbose after with
      | .error e => .error e
      | .ok (inner, rest) => classFrom verbose (level :: outer) inner rest
  | ']' :: after =>
    match outer with
    | [] => .ok ((level.negated, level.body), after)
    | parent :: more =>
      classFrom verbose more (parent.push (.bracketed level.negated level.body)) after
  | '&' :: '&' :: after => classFrom verbose outer (level.operator .intersection) after
  | '-' :: '-' :: after => classFrom verbose outer (level.operator .difference) after
  | '~' :: '~' :: after => classFrom verbose outer (level.operator .symmetricDifference) after
  | c :: after =>
    match _hr : rangeOrItem verbose c after with
    | .error e => .error e
    | .ok (item, rest) => classFrom verbose outer (level.push item) rest
termination_by s.length
decreasing_by
  all_goals have := length_lt_of_skipBlanks _h
  · have := length_of_named _hn
    omega
  · have := leaves_start _ _ _hs
    omega
  · omega
  · simp only [List.length_cons] at this; omega
  · simp only [List.length_cons] at this; omega
  · simp only [List.length_cons] at this; omega
  · have := leaves_rangeOrItem _ _ _hr
    omega

theorem leaves_classFrom {verbose : Bool} {outer : List ClassLevel} {level : ClassLevel}
    {s : List Char} : Leaves s.length (classFrom verbose outer level s) := by
  fun_induction classFrom verbose outer level s
  all_goals try have := length_lt_of_skipBlanks ‹_›
  case case1 => simp
  case case2 h hn ih =>
    have := length_of_named hn
    exact ih.mono (by omega)
  case case3 => simp
  case case4 hs ih =>
    have := leaves_start _ _ hs
    exact ih.mono (by omega)
  case case5 => simp; omega
  case case6 ih => exact ih.mono (by omega)
  case case7 ih => exact ih.mono (by simp only [List.length_cons] at this; omega)
  case case8 ih => exact ih.mono (by simp only [List.length_cons] at this; omega)
  case case9 ih => exact ih.mono (by simp only [List.length_cons] at this; omega)
  case case10 => simp
  case case11 hr ih =>
    have := leaves_rangeOrItem _ _ hr
    exact ih.mono (by omega)

/-- A class after its opening bracket. -/
def bracketed (verbose : Bool) (s : List Char) : Except Error (Ast × List Char) := do
  let (level, s) ← start verbose s
  let ((negated, body), rest) ← classFrom verbose [] level s
  return (.bracketed negated body, rest)

theorem leaves_bracketed {verbose : Bool} {s : List Char} :
    Leaves s.length (bracketed verbose s) :=
  .bind leaves_start fun _ _ h => .bind leaves_classFrom fun _ _ h' => by simp; omega

end ClassReader
end EventQuery.Regex
