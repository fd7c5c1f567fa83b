import EventQuery.Json
import EventQuery.Text.Quoted

/-!
# Writing documents

The compact text of a document: no blanks, fields in order, integers as digits, doubles with the
fewest digits that read back. In a string the quote, the backslash and the control characters are
escaped and nothing else is.
-/

namespace EventQuery.Json.Writer

/-- One character inside a string. -/
def escapedChar (c : Char) : List Char :=
  if c = '"' then ['\\', '"']
  else if c = '\\' then ['\\', '\\']
  else if c.toNat = 0x08 then ['\\', 'b']
  else if c.toNat = 0x0C then ['\\', 'f']
  else if c = '\n' then ['\\', 'n']
  else if c = '\r' then ['\\', 'r']
  else if c = '\t' then ['\\', 't']
  else if c.toNat < 0x20 then
    ['\\', 'u', '0', '0', Nat.digitChar (c.toNat / 16), Nat.digitChar (c.toNat % 16)]
  else [c]

/-- A string in its quotes. -/
def stringText (s : String) : List Char := '"' :: s.toList.flatMap escapedChar ++ ['"']

def intText (i : Int) : List Char :=
  if i < 0 then '-' :: Nat.toDigits 10 i.natAbs else Nat.toDigits 10 i.natAbs

/-- A finite double. -/
def floatText (x : Binary64) : List Char := Layout.document.finiteText x

def nullText : List Char := ['n', 'u', 'l', 'l']

def boolText : Bool → List Char
  | true => ['t', 'r', 'u', 'e']
  | false => ['f', 'a', 'l', 's', 'e']

def numeralText : Numeral → List Char
  | .natural n => Nat.toDigits 10 n.toNat
  | .negative i => intText i.toInt
  | .float x => if x.isFinite then floatText x else nullText

mutual

/-- The compact text of a document. -/
def text : Json → List Char
  | .null => nullText
  | .bool b => boolText b
  | .number n => numeralText n
  | .string s => stringText s
  | .array [] => ['[', ']']
  | .array (item :: rest) => '[' :: text item ++ itemsText rest ++ [']']
  | .object [] => ['\x7b', '\x7d']
  | .object ((name, value) :: rest) =>
    '\x7b' :: stringText name ++ ':' :: text value ++ fieldsText rest ++ ['\x7d']

/-- The items after the first one, each behind a comma. -/
def itemsText : List Json → List Char
  | [] => []
  | item :: rest => ',' :: text item ++ itemsText rest

/-- The fields after the first one, each behind a comma. -/
def fieldsText : List (String × Json) → List Char
  | [] => []
  | (name, value) :: rest => ',' :: stringText name ++ ':' :: text value ++ fieldsText rest

end

end EventQuery.Json.Writer

namespace EventQuery

/-- The compact text of a document. -/
def Json.render (j : Json) : String := String.ofList (Json.Writer.text j)

end EventQuery
