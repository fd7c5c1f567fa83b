import EventQuery.Json.Decoder
import EventQuery.Sampling.Clause

/-!
# Reading sample clauses

A clause is a record of five fields, of which the strategy and the threshold have to be there.
-/

namespace EventQuery.SampleClause

open Json Json.Decoder

/-- The fields of a clause that have been read so far. -/
structure Fields where
  strategy : Option SampleStrategy := none
  threshold : Option UInt32 := none
  keys : Option (List String) := none
  salt : Option (Option String) := none
  factor : Option (Option UInt32) := none

namespace Fields

/-- The clause of some fields. -/
def toClause (f : Fields) (rest : List Char) : Body SampleClause :=
  match f.strategy, f.threshold with
  | none, _ => .refused (.missingField "strategy") rest
  | _, none => .refused (.missingField "threshold") rest
  | some strategy, some threshold =>
    .ok
      { strategy, threshold, keys := f.keys.getD [], salt := f.salt.join,
        factor := f.factor.join } rest

/-- One more field. -/
def reader : FieldReader Fields where
  read f name s :=
    match name with
    | "strategy" =>
      once (choice SampleStrategy.named) name f.strategy (fun v => { f with strategy := some v }) s
    | "threshold" => once uint32 name f.threshold (fun v => { f with threshold := some v }) s
    | "keys" => once (list string) name f.keys (fun v => { f with keys := some v }) s
    | "salt" => once (optional string) name f.salt (fun v => { f with salt := some v }) s
    | "factor" => once (optional uint32) name f.factor (fun v => { f with factor := some v }) s
    | _ => unknown f s
  below f name s := by
    split
    case h_6 => exact below_unknown f s
    all_goals exact below_once ..

end Fields

/-- A clause written as an object, inside its braces. -/
def ofObject (s : List Char) : Body SampleClause :=
  (fieldsInto Fields.reader true {} s).andThen Fields.toClause

/-- What is expected of a clause written as a list. -/
def expectedItems : String := "struct SampleConfig with 5 elements"

/-- A clause written as a list, inside its brackets. -/
def ofList (s : List Char) : Body SampleClause :=
  (element (choice SampleStrategy.named) true s).andThen fun
    | none, s => .refused (.invalidLength 0 expectedItems) s
    | some strategy, s =>
      (element uint32 false s).andThen fun
        | none, s => .refused (.invalidLength 1 expectedItems) s
        | some threshold, s =>
          (element (list string) false s).andThen fun keys s =>
            (element (optional string) false s).andThen fun salt s =>
              (element (optional uint32) false s).andThen fun factor s =>
                .ok
                  { strategy, threshold, keys := keys.getD [], salt := salt.join,
                    factor := factor.join } s

/-- A clause at the start of a text. -/
def decoder (s : List Char) : Read SampleClause := record "struct SampleConfig" ofObject ofList s

/-- The clause that the whole of a text is. -/
def ofText (text : String) : Except Json.Error SampleClause := Json.decode decoder text

end EventQuery.SampleClause
