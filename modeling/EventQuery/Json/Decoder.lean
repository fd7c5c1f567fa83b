import EventQuery.Json.Decoder.Item

/-!
# Reading documents of a known shape

Records may be written as objects, in which unknown fields are passed over, or as lists of their
fields in order. A fault of a record as a whole (a field that is missing or given twice) is placed
where the reading of its container ended.
-/

namespace EventQuery.Json

namespace Decoder

open Reader

/-- What the inside of a record amounts to: a result, a fault with a place, or a cause that belongs
    to the record as a whole. -/
inductive Body (α : Type) where
  | ok (value : α) (rest : List Char)
  | error (fault : Fault)
  | refused (cause : Cause) (rest : List Char)

namespace Body

variable {α β : Type} {m n : Nat}

def ofRead : Read α → Body α
  | .ok a rest => ok a rest
  | .error f => error f

def andThen (b : Body α) (next : α → List Char → Body β) : Body β :=
  match b with
  | ok a rest => next a rest
  | error f => error f
  | refused c rest => refused c rest

/-- Less than so much text is left, if the inside could be read at all. -/
def Below (n : Nat) : Body α → Prop
  | ok _ rest => rest.length < n
  | error _ => True
  | refused _ _ => True

@[simp] theorem below_ok {a : α} {rest : List Char} : (ok a rest).Below n ↔ rest.length < n :=
  Iff.rfl

@[simp] theorem below_refused {c : Cause} {rest : List Char} :
    (refused c rest : Body α).Below n := trivial

theorem below_ofRead {r : Read α} (h : r.Below n) : (ofRead r).Below n :=
  match r, h with
  | .ok _ _, h => h
  | .error _, _ => trivial

namespace Below

theorem length_lt {b : Body α} (h : b.Below n) {a : α} {rest : List Char} (e : b = ok a rest) :
    rest.length < n := by
  subst e
  exact h

theorem mono {b : Body α} (h : b.Below m) (hm : m ≤ n) : b.Below n :=
  match b, h with
  | ok _ _, h => Nat.lt_of_lt_of_le h hm
  | error _, _ => trivial
  | refused _ _, _ => trivial

theorem andThen {b : Body α} {next : α → List Char → Body β} (hb : b.Below m)
    (hn : ∀ a rest, rest.length < m → (next a rest).Below n) : (b.andThen next).Below n :=
  match b, hb with
  | ok a rest, h => hn a rest h
  | error _, _ => trivial
  | refused _ _, _ => trivial

end Below

/-- The record with its end. A fault of the whole is placed where the end was looked for. -/
def closeWith (close : List Char → Close) (b : Body α) : Read α :=
  match b with
  | ok a rest => (close rest).result a
  | error f => .error f
  | refused c rest => .error (.here c (close rest).rest)

end Body

/-- How a record takes in a field: given what it has so far, the name of the field and the text from
    the colon on. -/
structure FieldReader (σ : Type) where
  read : σ → String → List Char → Body σ
  below (state : σ) (name : String) (s : List Char) : (read state name s).Below (s.length + 1)

/-- A field after the opening quote of its name. -/
def fieldInto {σ : Type} (field : FieldReader σ) (state : σ) (s : List Char) : Body σ :=
  (Body.ofRead (Reader.string s)).andThen (field.read state)

theorem below_fieldInto {σ : Type} (field : FieldReader σ) (state : σ) (s : List Char) :
    (fieldInto field state s).Below s.length :=
  (Body.below_ofRead (below_string s)).andThen fun name rest _ =>
    (field.below state name rest).mono (by omega)

/-- The fields of a record written as an object, taken in one by one. -/
def fieldsInto {σ : Type} (field : FieldReader σ) (first : Bool) (state : σ) (s : List Char) :
    Body σ :=
  match _h : nextField first s with
  | .error f => .error f
  | .ok none => .ok state s
  | .ok (some start) =>
    match _hf : fieldInto field state start with
    | .ok state rest => fieldsInto field false state rest
    | .error f => .error f
    | .refused c rest => .refused c rest
termination_by s.length
decreasing_by
  have := length_of_nextField _h
  have := (below_fieldInto field _ start).length_lt _hf
  omega

/-- The value of a field, from the colon on, taken in unless the field has a value already. -/
def once {α σ : Type} (value : ItemReader α) (name : String) (old : Option α)
    (set : α → σ) (s : List Char) : Body σ :=
  if old.isSome then .refused (.duplicateField name) s
  else
    (Body.ofRead (colon s)).andThen fun _ rest =>
      (Body.ofRead (value.read rest)).andThen fun a rest => .ok (set a) rest

theorem below_once {α σ : Type} (value : ItemReader α) (name : String) (old : Option α)
    (set : α → σ) (s : List Char) : (once value name old set s).Below (s.length + 1) := by
  unfold once
  split
  · simp
  · exact (Body.below_ofRead (below_colon s)).andThen fun _ rest _ =>
      (Body.below_ofRead (value.below rest)).andThen fun _ _ _ => by
        simp only [Body.below_ok]
        omega

/-- The value of a field that the record does not have. -/
def unknown {σ : Type} (state : σ) (s : List Char) : Body σ :=
  (Body.ofRead (colon s)).andThen fun _ rest =>
    (Body.ofRead (ignored.read rest)).andThen fun _ rest => .ok state rest

theorem below_unknown {σ : Type} (state : σ) (s : List Char) :
    (unknown state s).Below (s.length + 1) :=
  (Body.below_ofRead (below_colon s)).andThen fun _ rest _ =>
    (Body.below_ofRead (ignored.below rest)).andThen fun _ _ _ => by
      simp only [Body.below_ok]
      omega

/-- The next item of a record written as a list, if there is one. -/
def element {α : Type} (item : ItemReader α) (first : Bool) (s : List Char) :
    Body (Option α) :=
  match nextItem first s with
  | .error f => .error f
  | .ok none => .ok none s
  | .ok (some start) => Body.ofRead ((item.read start).map some)

/-- A record, as an object or as a list. -/
def record {α : Type} (expected : String) (object list : List Char → Body α) (s : List Char) :
    Read α :=
  match skipSpace s with
  | [] => .error (.here .valueCutShort [])
  | '[' :: s => (list s).closeWith closeList
  | '\x7b' :: s => (object s).closeWith closeObject
  | s => .error (unexpected expected s)

end Decoder

/-- The whole of a text, by a decoder. -/
def decode {α : Type} (decoder : List Char → Read α) (text : String) : Except Error α :=
  let s := text.toList
  match decoder s with
  | .error f => .error (f.toError s)
  | .ok a rest =>
    match Reader.finish rest with
    | .error f => .error (f.toError s)
    | .ok _ => .ok a

end EventQuery.Json
