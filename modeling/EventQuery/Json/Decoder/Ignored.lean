import EventQuery.Json.Reader

/-!
# Values that are passed over

The value of an unknown field only has to be well formed, and may be nested as deep as it likes: the
containers that are open are kept in a list, and none of them is built.
-/

namespace EventQuery.Json

/-- A container that is open. -/
inductive Container where
  | list
  | object
deriving DecidableEq, Repr

namespace Container

def cutShort : Container → Cause
  | list => .listCutShort
  | object => .objectCutShort

def expectedSeparator : Container → Cause
  | list => .expectedListSeparator
  | object => .expectedObjectSeparator

def close : Container → Char
  | list => ']'
  | object => '\x7d'

end Container

namespace Ignored

open Reader

/-- A string after its opening quote. Escapes have to be well formed, but code points need not
    be. -/
def string (s : List Char) : Read Unit :=
  match s with
  | [] => .error (.here .stringCutShort [])
  | '"' :: s => .ok () s
  | ['\\'] => .error (.here .stringCutShort [])
  | '\\' :: 'u' :: s =>
    match _h : fourHexDigits s with
    | .error f => .error f
    | .ok _ rest => string rest
  | '\\' :: c :: s =>
    if "\"\\/bfnrt".toList.contains c then string s else .error (.atNext .invalidEscape (c :: s))
  | c :: s => if c.toNat < 0x20 then .error (.here .controlCharacter (c :: s)) else string s
termination_by s.length
decreasing_by
  · have := (below_fourHexDigits _).length_lt _h
    simp only [List.length_cons]
    omega
  · simp only [List.length_cons]
    omega
  · simp

theorem below_string (s : List Char) : (string s).Below s.length := by
  fun_induction string s with
  | case1 => simp
  | case2 => simp
  | case3 => simp
  | case4 => simp
  | case5 s _ rest h ih =>
    have := (below_fourHexDigits s).length_lt h
    exact ih.mono (by simp only [List.length_cons]; omega)
  | case6 c s _ _ ih => exact ih.mono (by simp only [List.length_cons]; omega)
  | case7 => simp
  | case8 => simp
  | case9 c s _ _ _ _ _ ih => exact ih.mono (by simp)

/-- The digits of an exponent, after its sign. -/
def exponentDigits (s : List Char) : Read Unit :=
  match s with
  | [] => .error (.here .invalidNumber [])
  | c :: _ => if c.isDigit then .ok () (digits s).2 else .error (.atNext .invalidNumber s)

/-- An exponent after its letter. -/
def exponent : List Char → Read Unit
  | '+' :: s => exponentDigits s
  | '-' :: s => exponentDigits s
  | s => exponentDigits s

/-- What follows the whole digits of a number. -/
def afterWhole (s : List Char) : Read Unit :=
  match s with
  | '.' :: s =>
    let (fraction, rest) := digits s
    if fraction.isEmpty then .error (.atNext .invalidNumber rest)
    else
      match rest with
      | 'e' :: rest | 'E' :: rest => exponent rest
      | rest => .ok () rest
  | 'e' :: s | 'E' :: s => exponent s
  | s => .ok () s

/-- A number after its sign. -/
def number (s : List Char) : Read Unit :=
  match s with
  | [] => .error (.here .invalidNumber [])
  | '0' :: rest =>
    match rest with
    | c :: _ => if c.isDigit then .error (.atNext .invalidNumber rest) else afterWhole rest
    | [] => .ok () []
  | c :: _ => if c.isDigit then afterWhole (digits s).2 else .error (.atNext .invalidNumber s)

theorem below_exponentDigits (s : List Char) : (exponentDigits s).Below (s.length + 1) := by
  have := length_digits_le s
  unfold exponentDigits
  split
  · simp
  · split
    · simp only [Read.below_ok]; omega
    · simp

theorem below_exponent (s : List Char) : (exponent s).Below (s.length + 1) := by
  unfold exponent
  split
  · exact (below_exponentDigits _).mono (by simp)
  · exact (below_exponentDigits _).mono (by simp)
  · exact below_exponentDigits _

theorem below_afterWhole (s : List Char) : (afterWhole s).Below (s.length + 1) := by
  unfold afterWhole
  split
  · next s =>
    have hd := length_digits_le s
    dsimp only
    split
    · simp
    · split
      case h_1 h | h_2 h =>
        rw [h, List.length_cons] at hd
        exact (below_exponent _).mono (by simp only [List.length_cons]; omega)
      case h_3 => simp only [Read.below_ok, List.length_cons]; omega
  · exact (below_exponent _).mono (by simp)
  · exact (below_exponent _).mono (by simp)
  · simp

theorem below_number (s : List Char) : (number s).Below s.length := by
  unfold number
  split
  · simp
  · split
    · split
      · simp
      · exact below_afterWhole _
    · simp
  · next c s _ =>
    split
    · next hc =>
      have hd := length_digits_le s
      refine (below_afterWhole _).mono ?_
      simp only [digits, List.dropWhile_cons, hc, if_true] at hd ⊢
      simp only [List.length_cons]
      omega
    · simp

/-- After a value or an opening bracket: closing brackets are taken as they come, until the start of
    the next item is reached or nothing is open any more. `afterValue` says whether a comma is due
    before an item. The containers that are still open are returned. -/
def closes (afterValue : Bool) : List Container → List Char → Read (List Container)
  | [], s => .ok [] s
  | open_ :: outer, s =>
    match skipSpace s with
    | [] => .error (.here open_.cutShort [])
    | c :: rest =>
      if c = ',' ∧ afterValue then .ok (open_ :: outer) rest
      else if c = open_.close then closes true outer rest
      else if afterValue then .error (.atNext open_.expectedSeparator (c :: rest))
      else .ok (open_ :: outer) (c :: rest)

theorem below_closes (afterValue : Bool) (containers : List Container) (s : List Char) :
    (closes afterValue containers s).Below (s.length + 1) := by
  fun_induction closes afterValue containers s with
  | case1 => simp
  | case2 => simp
  | case3 _ _ _ s c rest h =>
    have := length_lt_of_skipSpace h
    simp only [Read.below_ok]
    omega
  | case4 _ _ _ s _ h _ ih =>
    have := length_lt_of_skipSpace h
    exact ih.mono (by omega)
  | case5 => simp
  | case6 _ _ _ s c rest h =>
    have := length_skipSpace_le s
    rw [h] at this
    simp only [Read.below_ok]
    omega

/-- The name of the next item, if it is due in an object. -/
def name (containers : List Container) (s : List Char) : Read (List Container) :=
  match containers with
  | .object :: _ =>
    match skipSpace s with
    | [] => .error (.here .objectCutShort [])
    | '"' :: rest => (string rest).andThen fun _ rest => (colon rest).map fun _ => containers
    | rest => .error (.atNext .keyNotString rest)
  | _ => .ok containers s

theorem below_name (containers : List Container) (s : List Char) :
    (name containers s).Below (s.length + 1) := by
  unfold name
  split
  · split
    · simp
    · next h =>
      have := length_lt_of_skipSpace h
      exact (below_string _).andThen fun _ rest _ => ((below_colon rest).map _).mono (by omega)
    · simp
  · simp

/-- A scalar or an opening bracket, in the containers that are open. -/
def token (outer : List Container) (s : List Char) : Read (Bool × List Container) :=
  let scalar (r : Read Unit) : Read (Bool × List Container) := r.map fun _ => (true, outer)
  match skipSpace s with
  | [] => .error (.here .valueCutShort [])
  | 'n' :: s => scalar (word ['u', 'l', 'l'] s)
  | 't' :: s => scalar (word ['r', 'u', 'e'] s)
  | 'f' :: s => scalar (word ['a', 'l', 's', 'e'] s)
  | '-' :: s => scalar (number s)
  | '"' :: s => scalar (string s)
  | '[' :: s => .ok (false, .list :: outer) s
  | '\x7b' :: s => .ok (false, .object :: outer) s
  | c :: s =>
    if c.isDigit then scalar (number (c :: s)) else .error (.atNext .expectedValue (c :: s))

theorem below_token (outer : List Container) (s : List Char) : (token outer s).Below s.length := by
  have hs := length_skipSpace_le s
  unfold token
  dsimp only
  split
  case h_1 => simp
  case h_2 s h | h_3 s h | h_4 s h =>
    have := length_lt_of_skipSpace h
    exact ((below_word _ s).map _).mono (by omega)
  case h_5 s h =>
    have := length_lt_of_skipSpace h
    exact ((below_number s).map _).mono (by omega)
  case h_6 s h =>
    have := length_lt_of_skipSpace h
    exact ((below_string s).map _).mono (by omega)
  case h_7 h | h_8 h => exact length_lt_of_skipSpace h
  case h_9 c s _ _ _ _ _ _ _ h =>
    rw [h] at hs
    split
    · exact ((below_number (c :: s)).map _).mono hs
    · simp

/-- From the start of an item to the start of the next, or to the end of the outermost value. The
    containers that are open then are returned. -/
def step (outer : List Container) (s : List Char) : Read (List Container) :=
  (token outer s).andThen fun (afterValue, containers) rest =>
    (closes afterValue containers rest).andThen name

theorem below_step (outer : List Container) (s : List Char) : (step outer s).Below s.length :=
  (below_token outer s).andThen fun _ _ _ =>
    (below_closes _ _ _).andThen fun _ _ _ => (below_name _ _).mono (by omega)

/-- A value with what follows it in the containers that are open. -/
def value (outer : List Container) (s : List Char) : Read Unit :=
  match _h : step outer s with
  | .error f => .error f
  | .ok [] rest => .ok () rest
  | .ok (c :: more) rest => value (c :: more) rest
termination_by s.length
decreasing_by exact (below_step _ _).length_lt _h

theorem below_value (outer : List Container) (s : List Char) : (value outer s).Below s.length := by
  fun_induction value outer s with
  | case1 => simp
  | case2 outer s rest h => exact (below_step outer s).length_lt h
  | case3 outer s c more rest h ih =>
    have := (below_step outer s).length_lt h
    exact ih.mono (by omega)

end Ignored

end EventQuery.Json
