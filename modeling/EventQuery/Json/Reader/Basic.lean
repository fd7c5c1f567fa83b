import EventQuery.Json.Error

/-!
# What a reader answers

A reader takes a text and returns what it read together with the rest, or a fault. `Read.Below`
bounds the rest: readers that call others again and again end because each call leaves less text.
-/

namespace EventQuery.Json

/-- A value and what is left of the text, or a fault. -/
inductive Read (α : Type) where
  | ok (value : α) (rest : List Char)
  | error (fault : Fault)

namespace Read

variable {α β : Type} {m n : Nat}

/-- Reading on from where the first reader stopped. -/
def andThen (r : Read α) (next : α → List Char → Read β) : Read β :=
  match r with
  | ok a rest => next a rest
  | error f => error f

def map (g : α → β) (r : Read α) : Read β :=
  match r with
  | ok a rest => ok (g a) rest
  | error f => error f

@[simp] theorem andThen_ok (a : α) (rest : List Char) (next : α → List Char → Read β) :
    (ok a rest).andThen next = next a rest := rfl

@[simp] theorem andThen_error (f : Fault) (next : α → List Char → Read β) :
    (error f).andThen next = error f := rfl

@[simp] theorem map_ok (g : α → β) (a : α) (rest : List Char) :
    (ok a rest).map g = ok (g a) rest := rfl

@[simp] theorem map_error (g : α → β) (f : Fault) : (error f : Read α).map g = error f := rfl

/-- Less than so much text is left, if anything was read. -/
def Below (n : Nat) : Read α → Prop
  | ok _ rest => rest.length < n
  | error _ => True

@[simp] theorem below_ok {a : α} {rest : List Char} : (ok a rest).Below n ↔ rest.length < n :=
  Iff.rfl

@[simp] theorem below_error {f : Fault} : (error f : Read α).Below n := trivial

namespace Below

theorem length_lt {r : Read α} (h : r.Below n) {a : α} {rest : List Char} (e : r = ok a rest) :
    rest.length < n := by
  subst e
  exact h

theorem mono {r : Read α} (h : r.Below m) (hm : m ≤ n) : r.Below n :=
  match r, h with
  | ok _ _, h => Nat.lt_of_lt_of_le h hm
  | error _, _ => trivial

theorem map {r : Read α} (g : α → β) (h : r.Below n) : (r.map g).Below n :=
  match r, h with
  | ok _ _, h => h
  | error _, _ => trivial

theorem andThen {r : Read α} {next : α → List Char → Read β} (hr : r.Below m)
    (hn : ∀ a rest, rest.length < m → (next a rest).Below n) : (r.andThen next).Below n :=
  match r, hr with
  | ok a rest, h => hn a rest h
  | error _, _ => trivial

end Below

end Read

/-- A reader that takes at least one character whenever it reads something. -/
structure ItemReader (α : Type) where
  read : List Char → Read α
  below (s : List Char) : (read s).Below s.length

def ItemReader.map {α β : Type} (g : α → β) (item : ItemReader α) : ItemReader β :=
  ⟨fun s => (item.read s).map g, fun s => (item.below s).map g⟩

namespace Reader

def isSpace (c : Char) : Bool := c == ' ' || c == '\t' || c == '\n' || c == '\r'

def skipSpace (s : List Char) : List Char := s.dropWhile isSpace

theorem length_skipSpace_le (s : List Char) : (skipSpace s).length ≤ s.length :=
  (List.dropWhile_sublist isSpace).length_le

theorem length_lt_of_skipSpace {s rest : List Char} {c : Char} (h : skipSpace s = c :: rest) :
    rest.length < s.length := by
  have := length_skipSpace_le s
  rw [h, List.length_cons] at this
  omega

/-- The rest of a word such as `null`. -/
def word : List Char → List Char → Read Unit
  | [], s => .ok () s
  | _ :: _, [] => .error (.here .valueCutShort [])
  | e :: es, c :: s => if c = e then word es s else .error (.atNext .expectedWord (c :: s))

theorem below_word (expected s : List Char) : (word expected s).Below (s.length + 1) := by
  fun_induction word expected s with
  | case1 s => simp
  | case2 => simp
  | case3 e es s ih => exact ih.mono (by simp)
  | case4 => simp

end Reader
end EventQuery.Json
