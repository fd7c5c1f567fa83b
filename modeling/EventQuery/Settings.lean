import EventQuery.Json.Decoder
import EventQuery.Query.Limits

/-!
# Settings

What the keeper of a registry may choose. Every setting has a default, so a document of settings
needs to name only those that differ.
-/

namespace EventQuery

/-- The settings of a registry. -/
structure Settings where
  /-- The greatest number of queries, if there is one. -/
  maxQueries : Option UInt64 := none
  patternSize : UInt64 := 0x100000
  nesting : UInt64 := 64
  /-- The number of events that the threshold of a sample clause is out of, if the clause does not
      say. -/
  sampleFactor : UInt32 := 10000
deriving DecidableEq, Repr

instance : Inhabited Settings := ⟨{}⟩

namespace Settings

open Json Json.Decoder

def queryLimits (s : Settings) : QueryLimits :=
  { patternSize := s.patternSize.toNat, nesting := s.nesting.toNat }

/-- The settings that have been read so far. -/
structure Fields where
  maxQueries : Option (Option UInt64) := none
  patternSize : Option UInt64 := none
  nesting : Option UInt64 := none
  sampleFactor : Option UInt32 := none

namespace Fields

/-- The settings, with defaults for what has not been read. -/
def toSettings (f : Fields) : Settings :=
  let default : Settings := {}
  { maxQueries := f.maxQueries.getD default.maxQueries
    patternSize := f.patternSize.getD default.patternSize
    nesting := f.nesting.getD default.nesting
    sampleFactor := f.sampleFactor.getD default.sampleFactor }

/-- One more setting. -/
def reader : FieldReader Fields where
  read f name s :=
    match name with
    | "max_queries" =>
      once (optional count) name f.maxQueries (fun v => { f with maxQueries := some v }) s
    | "regex_size_limit" =>
      once count name f.patternSize (fun v => { f with patternSize := some v }) s
    | "max_nesting" => once count name f.nesting (fun v => { f with nesting := some v }) s
    | "sample_factor" =>
      once uint32 name f.sampleFactor (fun v => { f with sampleFactor := some v }) s
    | _ => unknown f s
  below f name s := by
    split
    case h_5 => exact below_unknown f s
    all_goals exact below_once ..

end Fields

/-- Settings written as an object, inside its braces. -/
def ofObject (s : List Char) : Body Settings :=
  (fieldsInto Fields.reader true {} s).andThen fun f rest => .ok f.toSettings rest

/-- Settings written as a list, inside its brackets. -/
def ofList (s : List Char) : Body Settings :=
  (element (optional count) true s).andThen fun maxQueries s =>
    (element count false s).andThen fun patternSize s =>
      (element count false s).andThen fun nesting s =>
        (element uint32 false s).andThen fun sampleFactor s =>
          .ok (Fields.toSettings { maxQueries, patternSize, nesting, sampleFactor }) s

/-- The settings that the whole of a text is. -/
def ofText (text : String) : Except Json.Error Settings :=
  Json.decode (record "struct EngineConfig" ofObject ofList) text

end Settings
end EventQuery
