import EventQuery.Query.Error

/-!
# Readers

A reader takes the start of a text and leaves the rest. Where it does not find what it looks for it
refuses, and another reader may be tried at the same place; once a clause has begun it fails, and
nothing else is tried. Readers are put together by the operations below, each of which has an
equation for every outcome.
-/

namespace EventQuery.Query

/-- What reading amounts to. -/
inductive Outcome (α : Type) where
  | ok (value : α) (rest : List Char)
  /-- It is not here; something else may be. -/
  | refused (fault : Fault)
  /-- The query is wrong, whatever else is tried. -/
  | failed (fault : Fault)
deriving Repr

namespace Outcome

variable {α β : Type}

def map (g : α → β) : Outcome α → Outcome β
  | ok a rest => ok (g a) rest
  | refused f => refused f
  | failed f => failed f

/-- Reading on from where the first reader stopped. -/
def andThen (o : Outcome α) (next : α → List Char → Outcome β) : Outcome β :=
  match o with
  | ok a rest => next a rest
  | refused f => refused f
  | failed f => failed f

@[simp] theorem map_ok (g : α → β) (a : α) (rest : List Char) :
    (ok a rest).map g = ok (g a) rest := rfl

@[simp] theorem map_refused (g : α → β) (f : Fault) : (refused f).map g = refused f := rfl

@[simp] theorem map_failed (g : α → β) (f : Fault) : (failed f).map g = failed f := rfl

@[simp] theorem andThen_ok (a : α) (rest : List Char) (next : α → List Char → Outcome β) :
    (ok a rest).andThen next = next a rest := rfl

@[simp] theorem andThen_refused (f : Fault) (next : α → List Char → Outcome β) :
    (refused f).andThen next = refused f := rfl

@[simp] theorem andThen_failed (f : Fault) (next : α → List Char → Outcome β) :
    (failed f).andThen next = failed f := rfl

end Outcome

/-- A reader of an `α`. -/
def Reader (α : Type) : Type := List Char → Outcome α

namespace Reader

variable {α β : Type}

/-- Nothing is read. -/
protected def pure (a : α) : Reader α := fun s => .ok a s

/-- One reader after the other. -/
protected def bind (r : Reader α) (next : α → Reader β) : Reader β := fun s =>
  (r s).andThen fun a rest => next a rest

instance : Monad Reader where
  pure := Reader.pure
  bind := Reader.bind

@[simp] theorem pure_apply (a : α) (s : List Char) : (pure a : Reader α) s = .ok a s := rfl

@[simp] theorem bind_apply (r : Reader α) (next : α → Reader β) (s : List Char) :
    (r >>= next) s = (r s).andThen fun a rest => next a rest := rfl

/-- It is not here. -/
def refuse : Reader α := fun s => .refused ⟨s, none, none⟩

/-- Something else is wanted here, and nothing else will do. -/
def fail (expected : String) : Reader α := fun s => .failed ⟨s, some expected, none⟩

/-- The first reader, or the second where that one refuses. If both do, the fault further along
    counts. -/
protected def orElse (r : Reader α) (other : Unit → Reader α) : Reader α := fun s =>
  match r s with
  | .refused f =>
    match other () s with
    | .refused g => .refused (f.merge g)
    | outcome => outcome
  | outcome => outcome

instance : OrElse (Reader α) := ⟨Reader.orElse⟩

/-- The first of some readers that does not refuse. -/
def firstOf : List (Reader α) → Reader α
  | [] => refuse
  | [r] => r
  | r :: rest => r <|> firstOf rest

/-- Something that may be missing. -/
def optional (r : Reader α) : Reader (Option α) := fun s =>
  match r s with
  | .ok a rest => .ok (some a) rest
  | .refused _ => .ok none s
  | .failed f => .failed f

/-- A reader that fails instead of refusing. -/
def committed (r : Reader α) : Reader α := fun s =>
  match r s with
  | .refused f => .failed f
  | outcome => outcome

/-- A reader that says what it looks for, in faults that do not say. -/
def expecting (label : String) (r : Reader α) : Reader α := fun s =>
  match r s with
  | .ok a rest => .ok a rest
  | .refused f => .refused { f with expected := f.expected <|> some label }
  | .failed f => .failed { f with expected := f.expected <|> some label }

/-- What was read, put into another form. If that cannot be done the reader refuses at the start and
    says why. -/
def refine (r : Reader α) (form : α → Except String β) : Reader β := fun s =>
  (r s).andThen fun a rest =>
    match form a with
    | .ok b => .ok b rest
    | .error detail => .refused ⟨s, none, some detail⟩

/-- What was read, if it has a property. If not the reader refuses at the start. -/
def verify (r : Reader α) (p : α → Bool) : Reader α := fun s =>
  (r s).andThen fun a rest => if p a then .ok a rest else .refused ⟨s, none, none⟩

/-- One thing after the other until the next one is refused. One that takes nothing is refused
    as well. -/
def many (r : Reader α) (s : List Char) : Outcome (List α) :=
  match r s with
  | .ok a rest =>
    if rest.length < s.length then (many r rest).map (a :: ·) else .refused ⟨s, none, none⟩
  | .refused _ => .ok [] s
  | .failed f => .failed f
termination_by s.length

/-- One thing or more, with separators between them. -/
def separated (separator : Reader Unit) (r : Reader α) : Reader (List α) := do
  let first ← r
  let more ← many (do separator; r)
  return first :: more

/-! ## Characters -/

/-- A character of a certain kind. -/
def satisfying (p : Char → Bool) : Reader Char := fun
  | [] => .refused ⟨[], none, none⟩
  | c :: rest => if p c then .ok c rest else .refused ⟨c :: rest, none, none⟩

def char (c : Char) : Reader Unit := do
  let _ ← satisfying (· == c)
  return

/-- The characters of a certain kind that come next, if any. -/
def takeWhile (p : Char → Bool) : Reader (List Char) := fun s =>
  .ok (s.takeWhile p) (s.dropWhile p)

/-- One character of a certain kind or more. -/
def takeWhile1 (p : Char → Bool) : Reader (List Char) := do
  let first ← satisfying p
  let more ← takeWhile p
  return first :: more

/-- The next character is not of a certain kind. -/
def notFollowedBy (p : Char → Bool) : Reader Unit := fun s =>
  match s with
  | [] => .ok () []
  | c :: rest => if p c then .refused ⟨c :: rest, none, none⟩ else .ok () (c :: rest)

/-- Some characters, compared by `same`. If one differs, the reader refuses at the start. -/
def exactly (same : Char → Char → Bool) (text : List Char) : Reader Unit := fun s =>
  if s.length < text.length || !(text.zip s).all (fun (a, b) => same a b) then
    .refused ⟨s, none, none⟩
  else .ok () (s.drop text.length)

/-- A sign of one character or more. -/
def symbol (text : String) : Reader Unit := exactly (· == ·) text.toList

/-- The characters between the parts of a query. -/
def isBlank (c : Char) : Bool := c == ' ' || c == '\t' || c == '\r' || c == '\n'

def blanks : Reader Unit := fun s => .ok () (s.dropWhile isBlank)

/-- A reader with blanks on both sides. -/
def padded (r : Reader α) : Reader α := do
  blanks
  let a ← r
  blanks
  return a

end Reader
end EventQuery.Query
