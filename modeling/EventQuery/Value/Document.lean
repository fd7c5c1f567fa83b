import EventQuery.Json.Reader
import EventQuery.Json.Writer
import EventQuery.Value

/-!
# Values and documents

A value is read from a document and written as one. Integers that fit keep their form; larger ones
become doubles. A double that is not finite has no place in a document and is written as null.
There are two ways to write a value, through the tree of a document (`Value.render`) and directly
(`Value.serialize`).
-/

namespace EventQuery

namespace Number

/-- The number that a numeral stands for. -/
def ofNumeral : Json.Numeral → Number
  | .natural n =>
    if n.toNat ≤ Int64.maxValue.toInt then .int (Int64.ofInt n.toNat)
    else .float (Binary64.ofInt n.toNat)
  | .negative i => .int i
  | .float x => .float x

/-- The document of a number. -/
def toJson : Number → Json
  | int i =>
    .number (if 0 ≤ i.toInt then .natural (UInt64.ofNat i.toInt.toNat) else .negative i)
  | float x => if x.isFinite then .number (.float x) else .null

/-- A number written directly. -/
def serializeText : Number → List Char
  | int i => Json.Writer.intText i.toInt
  | float x => if x.isFinite then Json.Writer.floatText x else Json.Writer.nullText

end Number

namespace Value

mutual

/-- The value of a document. -/
def ofJson : Json → Value
  | .null => .null
  | .bool b => .bool b
  | .number n => .number (.ofNumeral n)
  | .string s => .string s
  | .array items => .list (ofItems items)
  | .object fields => .object (ofFields fields)

/-- The values of a list of documents. -/
def ofItems : List Json → List Value
  | [] => []
  | item :: rest => ofJson item :: ofItems rest

/-- The values of named documents. -/
def ofFields : List (String × Json) → List (String × Value)
  | [] => []
  | (name, item) :: rest => (name, ofJson item) :: ofFields rest

end

mutual

/-- The document of a value. -/
def toJson : Value → Json
  | null => .null
  | bool b => .bool b
  | number n => n.toJson
  | string s => .string s
  | list items => .array (toItems items)
  | object fields => .object (toFields fields)

/-- The documents of a list of values. -/
def toItems : List Value → List Json
  | [] => []
  | v :: rest => toJson v :: toItems rest

/-- The documents of named values. -/
def toFields : List (String × Value) → List (String × Json)
  | [] => []
  | (name, v) :: rest => (name, toJson v) :: toFields rest

end

mutual

/-- The text of a value, written directly. -/
def serializeText : Value → List Char
  | null => Json.Writer.nullText
  | bool b => Json.Writer.boolText b
  | number n => n.serializeText
  | string s => Json.Writer.stringText s
  | list items => '[' :: serializeItems true items ++ [']']
  | object fields => '\x7b' :: serializeFields true fields ++ ['\x7d']

/-- The items of a list, with a comma in front of all but the first. -/
def serializeItems : Bool → List Value → List Char
  | _, [] => []
  | true, v :: rest => serializeText v ++ serializeItems false rest
  | false, v :: rest => ',' :: serializeText v ++ serializeItems false rest

/-- The fields of an object, with a comma in front of all but the first. -/
def serializeFields : Bool → List (String × Value) → List Char
  | _, [] => []
  | true, (name, v) :: rest =>
    Json.Writer.stringText name ++ ':' :: serializeText v ++ serializeFields false rest
  | false, (name, v) :: rest =>
    ',' :: Json.Writer.stringText name ++ ':' :: serializeText v ++ serializeFields false rest

end

/-- The compact text of a value, through its document. -/
def render (v : Value) : String := v.toJson.render

/-- The compact text of a value, written directly. -/
def serialize (v : Value) : String := String.ofList v.serializeText

/-- The value that a text holds. -/
def read (text : String) : Except Json.Error Value := (Json.read text).map ofJson

end Value
end EventQuery
