import EventQuery.Number
import EventQuery.Query.Reader

/-!
# Words, numbers and strings of a query

Keywords may be written in any case. A word is reserved if it is a keyword in some case, and no
identifier is.
-/

namespace EventQuery.Query

/-- The words that are not identifiers. -/
def reservedWords : List String :=
  ["select", "from", "where", "and", "or", "not", "as", "true", "false", "null", "group", "window",
    "sample"]

/-- Two characters are alike but for the case of a letter. -/
def sameLetter (a b : Char) : Bool := a.toLower == b.toLower

/-- A word is reserved, in whatever case. -/
def isReserved (word : List Char) : Bool :=
  reservedWords.any fun r => r.toList.map Char.toLower == word.map Char.toLower

/-- Characters that an identifier may start with. -/
def isWordStart (c : Char) : Bool := c.isAlpha || c == '_'

namespace Reader

/-- A keyword, in any case, and not the start of a longer word. -/
def keyword (word : String) : Reader Unit := do
  exactly sameLetter word.toList
  notFollowedBy isWordChar

/-- An identifier. -/
def identifier : Reader String := do
  let word ← verify
    (do
      let first ← satisfying isWordStart
      let more ← takeWhile isWordChar
      return first :: more)
    fun word => !isReserved word
  return String.ofList word

/-! ## Numbers -/

/-- Digits from zero to nine, one or more. -/
def digits : Reader (List Char) := takeWhile1 Char.isDigit

/-- The value of a list of digits. -/
def natOf (ds : List Char) : Nat := ds.foldl (fun n c => n * 10 + (c.toNat - '0'.toNat)) 0

/-- A minus sign, which may be missing. -/
def minus : Reader Bool := do
  let sign ← optional (char '-')
  return sign.isSome

/-- The integer of a sign and digits. -/
def intOf (negative : Bool) (ds : List Char) : Int :=
  if negative then -(natOf ds : Int) else natOf ds

/-- An integer within the range of 64 bits, if it is. -/
def toInt64 (i : Int) : Except String Int64 :=
  if i < Int64.minValue.toInt then .error "number too small to fit in target type"
  else if Int64.maxValue.toInt < i then .error "number too large to fit in target type"
  else .ok (Int64.ofInt i)

/-- A position in a list. -/
def integer : Reader Int64 :=
  refine
    (do
      let negative ← minus
      let ds ← digits
      return intOf negative ds)
    toInt64

/-- A natural number of 64 bits. -/
def natural : Reader UInt64 :=
  refine digits fun ds =>
    if natOf ds < UInt64.size then .ok (UInt64.ofNat (natOf ds))
    else .error "number too large to fit in target type"

/-- The digits behind a point. -/
def fraction : Reader (List Char) := do
  char '.'
  digits

/-- The exponent of a number. -/
def exponent : Reader Int := do
  let _ ← satisfying fun c => c == 'e' || c == 'E'
  let sign ← optional (satisfying fun c => c == '+' || c == '-')
  let ds ← digits
  return intOf (sign == some '-') ds

/-- The number that has been written: an integer if it has neither a point nor an exponent and is
    within range, and the nearest double otherwise. -/
def numberOf (negative : Bool) (whole : List Char) (fraction : Option (List Char))
    (exponent : Option Int) : Number :=
  let nearest : Number :=
    let places := fraction.getD []
    .float (Binary64.ofDecimal negative (natOf (whole ++ places))
      (exponent.getD 0 - (places.length : Int)))
  match fraction, exponent with
  | none, none =>
    match toInt64 (intOf negative whole) with
    | .ok i => .int i
    | .error _ => nearest
  | _, _ => nearest

/-- A number. -/
def number : Reader Number := do
  let negative ← minus
  let whole ← digits
  let fraction ← optional fraction
  let exponent ← optional exponent
  return numberOf negative whole fraction exponent

/-! ## Strings and patterns -/

/-- The character that an escape in a string stands for. -/
def unescaped (c : Char) : Char :=
  if c = 'n' then '\n' else if c = 't' then '\t' else c

/-- The characters of a string up to its closing quote. A backslash escapes the next one. -/
def quotedBody (quote : Char) : Reader (List Char) := fun
  | [] | ['\\'] => .failed ⟨[], some "closing quote", none⟩
  | '\\' :: c :: rest => (quotedBody quote rest).map (unescaped c :: ·)
  | c :: rest => if c = quote then .ok [] rest else (quotedBody quote rest).map (c :: ·)

/-- A string in single or double quotes. -/
def quotedString : Reader String := do
  let quote ← satisfying fun c => c == '\'' || c == '"'
  let body ← quotedBody quote
  return String.ofList body

/-- The characters of a pattern up to the closing slash. An escaped slash stands for itself; other
    escapes are part of the pattern. -/
def slashedBody : Reader (List Char) := fun
  | [] | ['\\'] => .failed ⟨[], some "closing '/'", none⟩
  | '\\' :: c :: rest =>
    (slashedBody rest).map fun body => if c = '/' then '/' :: body else '\\' :: c :: body
  | c :: rest => if c = '/' then .ok [] rest else (slashedBody rest).map (c :: ·)

/-- A pattern between slashes. -/
def slashedPattern : Reader String := do
  char '/'
  let body ← slashedBody
  return String.ofList body

end Reader
end EventQuery.Query
