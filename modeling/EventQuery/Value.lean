import EventQuery.Number
import EventQuery.Record

/-!
# Event values

Events, their parts, and the literals of a query are values. Two values are equal when they are of
one kind and agree: numbers by value across both forms, lists item by item, objects field by field
whatever their order.
-/

namespace EventQuery

/-- A value of an event. The names of an object's fields are distinct (`Value.Storable`). -/
inductive Value where
  | null
  | bool (b : Bool)
  | number (n : Number)
  | string (s : String)
  | list (items : List Value)
  | object (fields : List (String × Value))
deriving Repr, Inhabited

namespace Value

def int (i : Int64) : Value := .number (.int i)
def float (x : Binary64) : Value := .number (.float x)

def isNull : Value → Bool
  | null => true
  | _ => false

def toBool? : Value → Option Bool
  | bool b => some b
  | _ => none

def toNumber? : Value → Option Number
  | number n => some n
  | _ => none

def toString? : Value → Option String
  | string s => some s
  | _ => none

def toList? : Value → Option (List Value)
  | list items => some items
  | _ => none

def toFields? : Value → Option (List (String × Value))
  | object fields => some fields
  | _ => none

/-- A field of an object; nothing else has fields. -/
def get? (v : Value) (name : String) : Option Value := v.toFields?.bind (Record.get? · name)

/-- The kind of a value, in a word. -/
def typeName : Value → String
  | null => "null"
  | bool _ => "boolean"
  | number _ => "number"
  | string _ => "string"
  | list _ => "list"
  | object _ => "object"

mutual

/-- Equality of values. -/
def equal : Value → Value → Bool
  | null, null => true
  | bool a, bool b => a == b
  | number a, number b => a.equal b
  | string a, string b => a == b
  | list as, list bs => equalItems as bs
  | object as, object bs => as.length == bs.length && includedFields as bs
  | _, _ => false

/-- The lists have the same length and equal items. -/
def equalItems : List Value → List Value → Bool
  | [], [] => true
  | a :: as, b :: bs => equal a b && equalItems as bs
  | _, _ => false

/-- Every field of the first has an equal one in the second. -/
def includedFields : List (String × Value) → List (String × Value) → Bool
  | [], _ => true
  | (name, a) :: rest, bs =>
    (match Record.get? bs name with
      | some b => equal a b
      | none => false) && includedFields rest bs

end

/-- A value as memory can hold it: the names of an object's fields are distinct, and every item of a
    list has an index. -/
inductive Storable : Value → Prop
  | null : Storable null
  | bool (b : Bool) : Storable (bool b)
  | number (n : Number) : Storable (number n)
  | string (s : String) : Storable (string s)
  | list {items : List Value} (size : items.length ≤ Int64.maxValue.toInt)
      (inner : ∀ v ∈ items, Storable v) : Storable (list items)
  | object {fields : List (String × Value)} (distinct : (Record.keys fields).Nodup)
      (inner : ∀ field ∈ fields, Storable field.2) : Storable (object fields)

end Value
end EventQuery
