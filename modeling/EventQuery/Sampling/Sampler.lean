import EventQuery.Sampling.Clause
import EventQuery.Sampling.Draw
import EventQuery.Sampling.SipHash
import EventQuery.Value.Document

/-!
# Sampling

A sample clause puts events into buckets below its factor and lets the buckets below its threshold
through. The bucket is drawn, or found by hashing the salt and the values of the keys; the bytes
that are hashed are those of one list of texts only (`StickyKey.bytes`).
-/

namespace EventQuery

/-- What a bucket is found by: the salt, and for each key the text of its value, if the event has
    it. -/
structure StickyKey where
  salt : String
  values : List (Option String)
deriving DecidableEq, Repr

namespace StickyKey

/-- A text and its end, which is no byte of any text. -/
def textBytes (s : String) : List UInt8 := s.toUTF8.toList ++ [0xff]

/-- The bytes for a key: no text of a value starts with a zero. -/
def valueBytes : Option String → List UInt8
  | some s => textBytes s
  | none => [0]

/-- The bytes that are hashed. -/
def bytes (k : StickyKey) : List UInt8 := textBytes k.salt ++ k.values.flatMap valueBytes

/-- What the bucket of an event is found by. -/
def ofEvent (c : SampleClause) (event : Value) : StickyKey :=
  ⟨c.salt.getD "", c.keys.map fun key => (event.get? key).map Value.render⟩

/-- The bucket below a factor. -/
def bucket (k : StickyKey) (factor : UInt32) : UInt32 :=
  (SipHash.hash k.bytes % factor.toUInt64).toUInt32

end StickyKey

/-- What decides on sample clauses: the factor for those that have none. -/
structure Sampler where
  factor : UInt32
deriving DecidableEq, Repr

namespace Sampler

/-- The sampler for a factor; zero stands for one. -/
def ofFactor (factor : UInt32) : Sampler := ⟨max factor 1⟩

/-- The number of buckets of a clause. -/
def buckets (s : Sampler) (c : SampleClause) : UInt32 := max (c.factor.getD s.factor) 1

/-- The bucket of an event. -/
def bucket (s : Sampler) (c : SampleClause) (event : Value) : StateM Draws UInt32 :=
  match c.strategy with
  | .random => Draws.below (s.buckets c)
  | .sticky => return (StickyKey.ofEvent c event).bucket (s.buckets c)

/-- An event is let through. Without a clause all are. -/
def admits (s : Sampler) (clause : Option SampleClause) (event : Value) : StateM Draws Bool :=
  match clause with
  | none => return true
  | some c => return (← s.bucket c event) < c.threshold

end Sampler
end EventQuery
