import EventQuery.Decimal.Layout
import EventQuery.Text.Quoted

/-!
# What can be wrong with a document

A cause says what was wrong, a fault also where: at a point of the text, given by what is left of
it, or some bytes past that point. The place shown to the reader counts lines from one and the
bytes of a line from one (`Fault.place`).
-/

namespace EventQuery.Json

/-- What stood in the document where something else was expected. -/
inductive Found where
  | null
  | bool (b : Bool)
  | integer (i : Int)
  | float (x : Binary64)
  | string (s : String)
  | list
  | object
deriving DecidableEq, Repr

/-- What was wrong. -/
inductive Cause where
  | listCutShort
  | objectCutShort
  | stringCutShort
  | valueCutShort
  | expectedColon
  | expectedListSeparator
  | expectedObjectSeparator
  | expectedWord
  | expectedValue
  | invalidEscape
  | invalidNumber
  | numberOutOfRange
  | controlCharacter
  | keyNotString
  | loneSurrogate
  | surrogateCutShort
  | trailingComma
  | trailingCharacters
  | tooDeep
  | invalidType (found : Found) (expected : String)
  | invalidValue (found : Found) (expected : String)
  | invalidLength (length : Nat) (expected : String)
  | unknownVariant (name : String) (known : List String)
  | missingField (name : String)
  | duplicateField (name : String)
deriving DecidableEq, Repr

def Found.describe : Found → String
  | null => "null"
  | bool b => s!"boolean `{b}`"
  | integer i => s!"integer `{i}`"
  | float x => "floating point `" ++ String.ofList (Layout.document.finiteText x) ++ "`"
  | string s => "string " ++ Text.quoted s
  | list => "sequence"
  | object => "map"

/-- The names that were possible. -/
def describeChoice : List String → String
  | [] => "there are no variants"
  | [a] => s!"expected `{a}`"
  | [a, b] => s!"expected `{a}` or `{b}`"
  | names => "expected one of " ++ ", ".intercalate (names.map fun n => s!"`{n}`")

/-- The words for a cause. -/
def Cause.message : Cause → String
  | listCutShort => "EOF while parsing a list"
  | objectCutShort => "EOF while parsing an object"
  | stringCutShort => "EOF while parsing a string"
  | valueCutShort => "EOF while parsing a value"
  | expectedColon => "expected `:`"
  | expectedListSeparator => "expected `,` or `]`"
  | expectedObjectSeparator => "expected `,` or `\x7d`"
  | expectedWord => "expected ident"
  | expectedValue => "expected value"
  | invalidEscape => "invalid escape"
  | invalidNumber => "invalid number"
  | numberOutOfRange => "number out of range"
  | controlCharacter =>
    "control character (\\u0000-\\u001F) found while parsing a string"
  | keyNotString => "key must be a string"
  | loneSurrogate => "lone leading surrogate in hex escape"
  | surrogateCutShort => "unexpected end of hex escape"
  | trailingComma => "trailing comma"
  | trailingCharacters => "trailing characters"
  | tooDeep => "recursion limit exceeded"
  | invalidType found expected => "invalid type: " ++ found.describe ++ ", expected " ++ expected
  | invalidValue found expected => "invalid value: " ++ found.describe ++ ", expected " ++ expected
  | invalidLength length expected => s!"invalid length {length}, expected {expected}"
  | unknownVariant name known => s!"unknown variant `{name}`, " ++ describeChoice known
  | missingField name => s!"missing field `{name}`"
  | duplicateField name => s!"duplicate field `{name}`"

/-- A cause and where it was found: `ahead` bytes into `rest`. -/
structure Fault where
  cause : Cause
  rest : List Char
  ahead : Nat
deriving Repr

namespace Fault

/-- A fault right here, after everything that was read. -/
def here (cause : Cause) (rest : List Char) : Fault := ⟨cause, rest, 0⟩

/-- A fault of the next byte, or of the end if there is none. -/
def atNext (cause : Cause) (rest : List Char) : Fault :=
  ⟨cause, rest, if rest.isEmpty then 0 else 1⟩

/-- The bytes of the text up to the fault. -/
def offset (text : List Char) (f : Fault) : Nat :=
  Text.byteLength text - Text.byteLength f.rest + f.ahead

end Fault

/-- The line and the column after so many bytes of a text. -/
def placeAfter : List Char → Nat → Nat → Nat → Nat × Nat
  | [], _, line, column => (line, column)
  | c :: cs, bytes, line, column =>
    if bytes = 0 then (line, column)
    else if c = '\n' then placeAfter cs (bytes - 1) (line + 1) 0
    else if bytes < c.utf8Size then (line, column + bytes)
    else placeAfter cs (bytes - c.utf8Size) line (column + c.utf8Size)

/-- A fault as it is reported. -/
structure Error where
  cause : Cause
  line : Nat
  column : Nat
deriving DecidableEq, Repr

def Fault.toError (text : List Char) (f : Fault) : Error :=
  let (line, column) := placeAfter text (f.offset text) 1 0
  ⟨f.cause, line, column⟩

def Error.message (e : Error) : String :=
  s!"{e.cause.message} at line {e.line} column {e.column}"

end EventQuery.Json
