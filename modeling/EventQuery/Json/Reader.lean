import EventQuery.Json.Reader.Number
import EventQuery.Json.Reader.Text

/-!
# Reading documents

Nesting is bounded: a reader of values knows whether it may open containers and, if so, how to read
what they hold. Of two fields with one name the first gives the position and the last the value.
-/

namespace EventQuery.Json

namespace Reader

/-- What comes next in a list: its end, or an item at the given place. -/
def nextItem (first : Bool) (s : List Char) : Except Fault (Option (List Char)) :=
  match skipSpace s with
  | [] => .error (.here .listCutShort [])
  | ']' :: _ => .ok none
  | ',' :: s' =>
    if first then .ok (some (',' :: s'))
    else
      match skipSpace s' with
      | [] => .error (.here .valueCutShort [])
      | ']' :: s => .error (.atNext .trailingComma (']' :: s))
      | s => .ok (some s)
  | s => if first then .ok (some s) else .error (.atNext .expectedListSeparator s)

/-- What comes next in an object: its end, or the name of a field after its opening quote. -/
def nextField (first : Bool) (s : List Char) : Except Fault (Option (List Char)) :=
  match skipSpace s with
  | [] => .error (.here .objectCutShort [])
  | '\x7d' :: _ => .ok none
  | '"' :: s' =>
    if first then .ok (some s') else .error (.atNext .expectedObjectSeparator ('"' :: s'))
  | ',' :: s' =>
    if first then .error (.atNext .keyNotString (',' :: s'))
    else
      match skipSpace s' with
      | [] => .error (.here .valueCutShort [])
      | '"' :: s => .ok (some s)
      | '\x7d' :: s => .error (.atNext .trailingComma ('\x7d' :: s))
      | s => .error (.atNext .keyNotString s)
  | s =>
    if first then .error (.atNext .keyNotString s)
    else .error (.atNext .expectedObjectSeparator s)

/-- The colon behind a name. -/
def colon (s : List Char) : Read Unit :=
  match skipSpace s with
  | [] => .error (.here .objectCutShort [])
  | ':' :: s => .ok () s
  | s => .error (.atNext .expectedColon s)

/-- Where the reading of a container stopped, and what was wrong there if anything was. -/
structure Close where
  rest : List Char
  fault : Option Fault

/-- The end of a list. -/
def closeList (s : List Char) : Close :=
  match skipSpace s with
  | [] => ⟨[], some (.here .listCutShort [])⟩
  | ']' :: s => ⟨s, none⟩
  | ',' :: s =>
    let s := skipSpace s
    match s with
    | ']' :: _ => ⟨s, some (.atNext .trailingComma s)⟩
    | _ => ⟨s, some (.atNext .trailingCharacters s)⟩
  | s => ⟨s, some (.atNext .trailingCharacters s)⟩

/-- The end of an object. -/
def closeObject (s : List Char) : Close :=
  match skipSpace s with
  | [] => ⟨[], some (.here .objectCutShort [])⟩
  | '\x7d' :: s => ⟨s, none⟩
  | ',' :: s => ⟨',' :: s, some (.atNext .trailingComma (',' :: s))⟩
  | s => ⟨s, some (.atNext .trailingCharacters s)⟩

/-- What a container amounts to once its end has been looked for. -/
def Close.result {α : Type} (close : Close) (a : α) : Read α :=
  match close.fault with
  | none => .ok a close.rest
  | some f => .error f

theorem length_of_nextItem {first : Bool} {s start : List Char}
    (h : nextItem first s = .ok (some start)) : start.length ≤ s.length := by
  have hs := length_skipSpace_le s
  unfold nextItem at h
  split at h
  case h_1 => cases h
  case h_2 => cases h
  case h_3 after heq =>
    rw [heq] at hs
    have := length_skipSpace_le after
    simp only [List.length_cons] at hs
    split at h
    · cases h
      simpa using hs
    · split at h
      · cases h
      · cases h
      · cases h
        omega
  case h_4 =>
    split at h
    · cases h
      exact hs
    · cases h

theorem length_of_nextField {first : Bool} {s start : List Char}
    (h : nextField first s = .ok (some start)) : start.length < s.length := by
  have hs := length_skipSpace_le s
  unfold nextField at h
  split at h
  case h_1 => cases h
  case h_2 => cases h
  case h_3 heq =>
    rw [heq, List.length_cons] at hs
    split at h
    · cases h
      omega
    · cases h
  case h_4 after heq =>
    rw [heq, List.length_cons] at hs
    have ha := length_skipSpace_le after
    split at h
    · cases h
    · split at h
      · cases h
      · next heq' =>
        cases h
        rw [heq', List.length_cons] at ha
        omega
      · cases h
      · cases h
  case h_5 => split at h <;> cases h

theorem below_colon (s : List Char) : (colon s).Below s.length := by
  unfold colon
  split
  · simp
  · next h => exact length_lt_of_skipSpace h
  · simp

theorem below_closeList {α : Type} (a : α) (s : List Char) :
    ((closeList s).result a).Below s.length := by
  unfold closeList
  split
  · simp [Close.result]
  · next h => exact length_lt_of_skipSpace h
  · dsimp only
    split <;> simp [Close.result]
  · simp [Close.result]

theorem below_closeObject {α : Type} (a : α) (s : List Char) :
    ((closeObject s).result a).Below s.length := by
  unfold closeObject
  split
  · simp [Close.result]
  · next h => exact length_lt_of_skipSpace h
  · simp [Close.result]
  · simp [Close.result]

/-- The items of a list and its end. -/
def items {α : Type} (item : ItemReader α) (first : Bool) (s : List Char) : Read (List α) :=
  match _h : nextItem first s with
  | .error f => .error f
  | .ok none => (closeList s).result []
  | .ok (some start) =>
    match _hi : item.read start with
    | .error f => .error f
    | .ok a rest => (items item false rest).map (a :: ·)
termination_by s.length
decreasing_by
  have := length_of_nextItem _h
  have := (item.below start).length_lt _hi
  omega

theorem below_items {α : Type} (item : ItemReader α) (first : Bool) (s : List Char) :
    (items item first s).Below s.length := by
  fun_induction items item first s with
  | case1 => simp
  | case2 => exact below_closeList _ _
  | case3 => simp
  | case4 _ _ start h a rest hi ih =>
    have := length_of_nextItem h
    have := (item.below start).length_lt hi
    exact (ih.map _).mono (by omega)

/-- The name and the value of a field, after the opening quote of the name. -/
def field {α : Type} (value : ItemReader α) (s : List Char) : Read (String × α) :=
  (string s).andThen fun name rest =>
    (colon rest).andThen fun _ rest => (value.read rest).map fun a => (name, a)

theorem below_field {α : Type} (value : ItemReader α) (s : List Char) :
    (field value s).Below s.length :=
  (below_string s).andThen fun _ rest _ => (below_colon rest).andThen fun _ rest _ =>
    ((value.below rest).map _).mono (by omega)

/-- The fields of an object and its end. -/
def fields {α : Type} (value : ItemReader α) (first : Bool) (s : List Char) :
    Read (List (String × α)) :=
  match _h : nextField first s with
  | .error f => .error f
  | .ok none => (closeObject s).result []
  | .ok (some start) =>
    match _hf : field value start with
    | .error f => .error f
    | .ok a rest => (fields value false rest).map (a :: ·)
termination_by s.length
decreasing_by
  have := length_of_nextField _h
  have := (below_field value start).length_lt _hf
  omega

theorem below_fields {α : Type} (value : ItemReader α) (first : Bool) (s : List Char) :
    (fields value first s).Below s.length := by
  fun_induction fields value first s with
  | case1 => simp
  | case2 => exact below_closeObject _ _
  | case3 => simp
  | case4 _ _ start h a rest hf ih =>
    have := length_of_nextField h
    have := (below_field value start).length_lt hf
    exact (ih.map _).mono (by omega)

/-! ## Values -/

/-- A value whose containers, if it may have any, hold what `inner` reads. -/
def valueOver (inner : Option (ItemReader Json)) (s : List Char) : Read Json :=
  match skipSpace s with
  | [] => .error (.here .valueCutShort [])
  | 'n' :: s => (word ['u', 'l', 'l'] s).map fun _ => .null
  | 't' :: s => (word ['r', 'u', 'e'] s).map fun _ => .bool true
  | 'f' :: s => (word ['a', 'l', 's', 'e'] s).map fun _ => .bool false
  | '-' :: s => (number true s).map .number
  | '"' :: s => (string s).map .string
  | '[' :: s =>
    match inner with
    | none => .error (.atNext .tooDeep ('[' :: s))
    | some item => (items item true s).map .array
  | '\x7b' :: s =>
    match inner with
    | none => .error (.atNext .tooDeep ('\x7b' :: s))
    | some value =>
      (fields value true s).map fun all => .object (Record.ofList all)
  | c :: s =>
    if c.isDigit then (number false (c :: s)).map .number
    else .error (.atNext .expectedValue (c :: s))

theorem below_valueOver (inner : Option (ItemReader Json)) (s : List Char) :
    (valueOver inner s).Below s.length := by
  have hs := length_skipSpace_le s
  unfold valueOver
  split
  case h_1 => simp
  case h_2 s h | h_3 s h | h_4 s h =>
    have := length_lt_of_skipSpace h
    exact ((below_word _ s).map _).mono (by omega)
  case h_5 s h =>
    have := length_lt_of_skipSpace h
    exact ((below_number true s).map _).mono (by omega)
  case h_6 s h =>
    have := length_lt_of_skipSpace h
    exact ((below_string s).map _).mono (by omega)
  case h_7 s h =>
    have := length_lt_of_skipSpace h
    split
    · simp
    · exact ((below_items _ true s).map _).mono (by omega)
  case h_8 s h =>
    have := length_lt_of_skipSpace h
    split
    · simp
    · exact ((below_fields _ true s).map _).mono (by omega)
  case h_9 c s _ _ _ _ _ _ _ h =>
    rw [h] at hs
    split
    · exact ((below_number false (c :: s)).map _).mono hs
    · simp

/-- A reader of values in which so many containers may be open at once. -/
def values : Nat → ItemReader Json
  | 0 => ⟨valueOver none, below_valueOver none⟩
  | depth + 1 => ⟨valueOver (some (values depth)), below_valueOver (some (values depth))⟩

/-- A value, in which so many containers may be open at once. -/
def value (depth : Nat) (s : List Char) : Read Json := (values depth).read s

/-- The greatest number of containers that may be open at once. -/
def maxDepth : Nat := 127

/-- Nothing but blanks up to the end of the text. -/
def finish (s : List Char) : Except Fault Unit :=
  match skipSpace s with
  | [] => .ok ()
  | s => .error (.atNext .trailingCharacters s)

end Reader

/-- The document that the whole of a text is. -/
def read (text : String) : Except Error Json :=
  let s := text.toList
  match Reader.value Reader.maxDepth s with
  | .error f => .error (f.toError s)
  | .ok j rest =>
    match Reader.finish rest with
    | .error f => .error (f.toError s)
    | .ok _ => .ok j

end EventQuery.Json
