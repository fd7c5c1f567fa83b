import EventQuery.Json.Decoder.Ignored

/-!
# Reading values of a known kind

A decoder reads a value of a certain kind and refuses all others, naming what it found and what it
expected.
-/

namespace EventQuery.Json

namespace Decoder

open Reader

/-- The fault of a value of another kind. A scalar is read to its end first, which may fail on its
    own. -/
def unexpected (expected : String) (s : List Char) : Fault :=
  let scalar {α : Type} (found : α → Found) (r : Read α) : Fault :=
    match r with
    | .ok a rest => .here (.invalidType (found a) expected) rest
    | .error f => f
  let numeral : Numeral → Found
    | .natural n => .integer n.toNat
    | .negative i => .integer i.toInt
    | .float x => .float x
  match s with
  | [] => .here .valueCutShort []
  | 'n' :: rest => scalar (fun _ => .null) (word ['u', 'l', 'l'] rest)
  | 't' :: rest => scalar (fun _ => .bool true) (word ['r', 'u', 'e'] rest)
  | 'f' :: rest => scalar (fun _ => .bool false) (word ['a', 'l', 's', 'e'] rest)
  | '-' :: rest => scalar numeral (Reader.number true rest)
  | '"' :: rest => scalar .string (Reader.string rest)
  | '[' :: _ => .here (.invalidType .list expected) s
  | '\x7b' :: _ => .here (.invalidType .object expected) s
  | c :: _ => if c.isDigit then scalar numeral (Reader.number false s) else .atNext .expectedValue s

/-- A numeral that should be a natural number below a bound. -/
def boundedNatural (bound : Nat) (expected : String) (n : Numeral) (rest : List Char) : Read Nat :=
  match n with
  | .natural n =>
    if n.toNat < bound then .ok n.toNat rest
    else .error (.here (.invalidValue (.integer n.toNat) expected) rest)
  | .negative i => .error (.here (.invalidValue (.integer i.toInt) expected) rest)
  | .float x => .error (.here (.invalidType (.float x) expected) rest)

theorem below_boundedNatural (bound : Nat) (expected : String) (n : Numeral) (rest : List Char) :
    (boundedNatural bound expected n rest).Below (rest.length + 1) := by
  unfold boundedNatural
  split
  · split <;> simp
  · simp
  · simp

/-- A natural number below a bound. -/
def natural (bound : Nat) (expected : String) : ItemReader Nat where
  read s :=
    match skipSpace s with
    | [] => .error (.here .valueCutShort [])
    | '-' :: s => (Reader.number true s).andThen (boundedNatural bound expected)
    | c :: s =>
      if c.isDigit then (Reader.number false (c :: s)).andThen (boundedNatural bound expected)
      else .error (unexpected expected (c :: s))
  below s := by
    have hs := length_skipSpace_le s
    split
    · simp
    · next s h =>
      have := length_lt_of_skipSpace h
      exact (below_number true s).andThen fun _ _ _ =>
        (below_boundedNatural ..).mono (by omega)
    · next c s _ h =>
      rw [h] at hs
      split
      · exact (below_number false (c :: s)).andThen fun _ _ _ =>
          (below_boundedNatural ..).mono (by omega)
      · simp

def uint32 : ItemReader UInt32 := (natural UInt32.size "u32").map UInt32.ofNat

/-- A number of things that are kept in memory. -/
def count : ItemReader UInt64 := (natural UInt64.size "usize").map UInt64.ofNat

def string : ItemReader String where
  read s :=
    match skipSpace s with
    | [] => .error (.here .valueCutShort [])
    | '"' :: s => Reader.string s
    | s => .error (unexpected "a string" s)
  below s := by
    split
    · simp
    · next h =>
      have := length_lt_of_skipSpace h
      exact (below_string _).mono (by omega)
    · simp

/-- A value, or null for none. -/
def optional {α : Type} (value : ItemReader α) : ItemReader (Option α) where
  read s :=
    match skipSpace s with
    | 'n' :: s => (word ['u', 'l', 'l'] s).map fun _ => none
    | s => (value.read s).map some
  below s := by
    have := length_skipSpace_le s
    split
    · next h =>
      have := length_lt_of_skipSpace h
      exact ((below_word _ _).map _).mono (by omega)
    · exact ((value.below _).map _).mono this

def list {α : Type} (item : ItemReader α) : ItemReader (List α) where
  read s :=
    match skipSpace s with
    | [] => .error (.here .valueCutShort [])
    | '[' :: s => items item true s
    | s => .error (unexpected "a sequence" s)
  below s := by
    split
    · simp
    · next h =>
      have := length_lt_of_skipSpace h
      exact (below_items item true _).mono (by omega)
    · simp

/-- The choice with a name that was just read. -/
def choose {α : Type} (choices : List (String × α)) (name : String) (rest : List Char) : Read α :=
  match choices.lookup name with
  | some a => .ok a rest
  | none => .error (.here (.unknownVariant name (choices.map (·.1))) rest)

/-- The end of a choice that was written as the name of a null field: the null and the brace. -/
def closeChoice {α : Type} (a : α) (s : List Char) : Read α :=
  match skipSpace s with
  | [] => .error (.here .valueCutShort [])
  | 'n' :: rest =>
    (word ['u', 'l', 'l'] rest).andThen fun _ rest =>
      match skipSpace rest with
      | '\x7d' :: rest => .ok a rest
      | [] => .error (.here .objectCutShort [])
      | rest => .error (.here .expectedValue rest)
  | rest => .error (unexpected "unit" rest)

theorem below_choose {α : Type} (choices : List (String × α)) (name : String) (s : List Char) :
    (choose choices name s).Below (s.length + 1) := by
  unfold choose
  split <;> simp

theorem below_closeChoice {α : Type} (a : α) (s : List Char) :
    (closeChoice a s).Below s.length := by
  unfold closeChoice
  split
  · simp
  · next h =>
    have := length_lt_of_skipSpace h
    refine (below_word _ _).andThen fun _ rest _ => ?_
    split
    · next h =>
      have := length_lt_of_skipSpace h
      simp only [Read.below_ok]
      omega
    · simp
    · simp
  · simp

/-- A choice that is written as the name of a null field, after the opening brace. -/
def choiceField {α : Type} (choices : List (String × α)) (s : List Char) : Read α :=
  match skipSpace s with
  | [] => .error (.here .valueCutShort [])
  | '"' :: s =>
    (Reader.string s).andThen fun name rest =>
      (choose choices name rest).andThen fun a rest =>
        (colon rest).andThen fun _ rest => closeChoice a rest
  | '\x7d' :: s => .error (.atNext .expectedValue ('\x7d' :: s))
  | s => .error (.atNext .keyNotString s)

theorem below_choiceField {α : Type} (choices : List (String × α)) (s : List Char) :
    (choiceField choices s).Below s.length := by
  unfold choiceField
  split
  · simp
  · next h =>
    have := length_lt_of_skipSpace h
    exact (below_string _).andThen fun _ _ _ => (below_choose ..).andThen fun _ _ _ =>
      (below_colon _).andThen fun _ _ _ => (below_closeChoice ..).mono (by omega)
  · simp
  · simp

/-- One of some named choices, as a string or as the name of a null field. -/
def choice {α : Type} (choices : List (String × α)) : ItemReader α where
  read s :=
    match skipSpace s with
    | [] => .error (.here .valueCutShort [])
    | '"' :: s => (Reader.string s).andThen (choose choices)
    | '\x7b' :: s => choiceField choices s
    | s => .error (.atNext .expectedValue s)
  below s := by
    split
    · simp
    · next h =>
      have := length_lt_of_skipSpace h
      exact (below_string _).andThen fun _ _ _ => (below_choose ..).mono (by omega)
    · next h =>
      have := length_lt_of_skipSpace h
      exact (below_choiceField ..).mono (by omega)
    · simp

/-- A value of any kind that is passed over. -/
def ignored : ItemReader Unit := ⟨Ignored.value [], Ignored.below_value []⟩

end Decoder

end EventQuery.Json
