import EventQuery.Regex.Basic
import EventQuery.Regex.Property
import EventQuery.Regex.Reader
import EventQuery.Text.CaseFolding

/-!
# The meaning of written expressions

What a written expression stands for depends on the flags in force. They run from left to right
through an expression, and what is set inside a group ends with it. With the Unicode flag cleared
classes are those of ASCII, and whatever could match part of a character is refused.
-/

namespace EventQuery.Regex

/-- The flags that decide about meaning. -/
structure Flags where
  caseInsensitive : Bool := false
  multiLine : Bool := false
  dotMatchesNewline : Bool := false
  swapGreed : Bool := false
  unicode : Bool := true
  crlf : Bool := false
deriving DecidableEq, Repr

namespace Flags

/-- The flags after a change of some of them. -/
def apply (f : Flags) (items : List FlagItem) : Flags where
  caseInsensitive := (flagState? .caseInsensitive items).getD f.caseInsensitive
  multiLine := (flagState? .multiLine items).getD f.multiLine
  dotMatchesNewline := (flagState? .dotMatchesNewline items).getD f.dotMatchesNewline
  swapGreed := (flagState? .swapGreed items).getD f.swapGreed
  unicode := (flagState? .unicode items).getD f.unicode
  crlf := (flagState? .crlf items).getD f.crlf

def wordKind (f : Flags) : WordKind := if f.unicode then .unicode else .ascii

/-- The set that a class has to be counted in: all characters, or all bytes. -/
def negate (f : Flags) (s : CodeSet) : CodeSet :=
  if f.unicode then s.compl else s.compl.inter (CodeSet.range 0 0xFF)

/-- The class with the case variants of its ASCII letters. -/
def asciiCaseClosure (s : CodeSet) : CodeSet :=
  (List.range 26).foldl
    (fun t k =>
      let upper := 0x41 + k
      let lower := 0x61 + k
      if s.containsCode upper || s.containsCode lower then
        (t.union (CodeSet.range upper upper)).union (CodeSet.range lower lower)
      else t) s

/-- The class with the case variants of its members, where case does not count. -/
def fold (f : Flags) (s : CodeSet) : CodeSet :=
  if f.caseInsensitive then if f.unicode then s.caseClosure else asciiCaseClosure s else s

/-- A class without Unicode must keep to ASCII. -/
def checked (f : Flags) (s : CodeSet) : Except Error CodeSet :=
  if f.unicode || (s.inter (CodeSet.range 0 0x7F).compl).isEmpty then .ok s
  else .error .invalidUtf8

/-- A class after folding and negation. -/
def finish (f : Flags) (negated : Bool) (s : CodeSet) : Except Error CodeSet :=
  let s := f.fold s
  f.checked (if negated then f.negate s else s)

end Flags

/-- The members of a named class. -/
def AsciiClass.set : AsciiClass → CodeSet
  | alnum => .ofRanges [(0x30, 0x39), (0x41, 0x5A), (0x61, 0x7A)]
  | alpha => .ofRanges [(0x41, 0x5A), (0x61, 0x7A)]
  | ascii => .ofRanges [(0, 0x7F)]
  | blank => .ofRanges [(0x09, 0x09), (0x20, 0x20)]
  | cntrl => .ofRanges [(0, 0x1F), (0x7F, 0x7F)]
  | digit => .ofRanges [(0x30, 0x39)]
  | graph => .ofRanges [(0x21, 0x7E)]
  | lower => .ofRanges [(0x61, 0x7A)]
  | print => .ofRanges [(0x20, 0x7E)]
  | punct => .ofRanges [(0x21, 0x2F), (0x3A, 0x40), (0x5B, 0x60), (0x7B, 0x7E)]
  | space => .ofRanges [(0x09, 0x0D), (0x20, 0x20)]
  | upper => .ofRanges [(0x41, 0x5A)]
  | word => .ofRanges [(0x30, 0x39), (0x41, 0x5A), (0x5F, 0x5F), (0x61, 0x7A)]
  | xdigit => .ofRanges [(0x30, 0x39), (0x41, 0x46), (0x61, 0x66)]

/-- The members of a class with a one-letter escape. -/
def Shorthand.set (unicode : Bool) : Shorthand → CodeSet
  | digit => if unicode then Category.decimalNumber else AsciiClass.digit.set
  | space => if unicode then EventQuery.Property.whiteSpace else AsciiClass.space.set
  | word => if unicode then EventQuery.Property.word else AsciiClass.word.set

namespace Meaning

/-- A class with a one-letter escape. Case plays no part in these classes. -/
def shorthandSet (f : Flags) (kind : Shorthand) (negated : Bool) : Except Error CodeSet :=
  let s := kind.set f.unicode
  f.checked (if negated then f.negate s else s)

/-- A class by property. -/
def propertySet (f : Flags) (query : PropertyQuery) (negated : Bool) : Except Error CodeSet := do
  if !f.unicode then .error .unicodeNotAllowed
  else
    let s ← Property.lookup query
    f.finish negated s

/-- A character inside a class; without Unicode it has to be one of ASCII. -/
def classLiteral (f : Flags) (l : Literal) : Except Error Nat :=
  if f.unicode || l.char.toNat < 128 then .ok l.char.toNat
  else if l.isByte then .error .invalidUtf8
  else .error .unicodeNotAllowed

def combine : ClassOp → CodeSet → CodeSet → CodeSet
  | .intersection => CodeSet.inter
  | .difference => CodeSet.diff
  | .symmetricDifference => CodeSet.symmDiff

mutual

/-- The members of what stands inside the brackets of a class. -/
def classSet (f : Flags) : ClassSet → Except Error CodeSet
  | .empty => .ok CodeSet.empty
  | .literal l => do
    let n ← classLiteral f l
    return CodeSet.range n n
  | .range lo hi => do
    let m ← classLiteral f lo
    let n ← classLiteral f hi
    return CodeSet.range m n
  | .ascii kind negated => f.finish negated kind.set
  | .shorthand kind negated => shorthandSet f kind negated
  | .property query negated => propertySet f query negated
  | .bracketed negated body => do
    let s ← classSet f body
    f.finish negated s
  | .union items => classUnion f items
  | .binary op left right => do
    let a ← classSet f left
    let b ← classSet f right
    return combine op (f.fold a) (f.fold b)

/-- The members of any of several sets. -/
def classUnion (f : Flags) : List ClassSet → Except Error CodeSet
  | [] => .ok CodeSet.empty
  | item :: rest => do
    let a ← classSet f item
    let b ← classUnion f rest
    return a.union b

end

/-- A single character. -/
def literal (f : Flags) (l : Literal) : Except Error Regex :=
  let c := l.char
  if !f.unicode && l.isByte && 128 ≤ c.toNat then .error .invalidUtf8
  else .ok (.set (f.fold (CodeSet.singleton c)))

/-- Any character, a line break only if the flags say so. -/
def dot (f : Flags) : Except Error Regex :=
  if !f.unicode then .error .invalidUtf8
  else if f.dotMatchesNewline then .ok (.set CodeSet.all)
  else if f.crlf then .ok (.set (CodeSet.ofRanges [(10, 10), (13, 13)]).compl)
  else .ok (.set (CodeSet.range 10 10).compl)

def assertion (f : Flags) : Assertion → Look
  | .startLine => if f.multiLine then if f.crlf then .crlfLineStart else .lineStart else .textStart
  | .endLine => if f.multiLine then if f.crlf then .crlfLineEnd else .lineEnd else .textEnd
  | .startText => .textStart
  | .endText => .textEnd
  | .wordBoundary => .wordBoundary f.wordKind
  | .notWordBoundary => .notWordBoundary f.wordKind
  | .wordStart => .wordStart f.wordKind
  | .wordEnd => .wordEnd f.wordKind
  | .wordStartHalf => .wordStartHalf f.wordKind
  | .wordEndHalf => .wordEndHalf f.wordKind

mutual

/-- The meaning of a written expression under some flags, and the flags in force after it. -/
def ofAst (f : Flags) : Ast → Except Error (Regex × Flags)
  | .empty => .ok (.seq [], f)
  | .flags items => .ok (.seq [], f.apply items)
  | .literal l => do
    let r ← literal f l
    return (r, f)
  | .dot => do
    let r ← dot f
    return (r, f)
  | .assertion kind => .ok (.look (assertion f kind), f)
  | .shorthand kind negated => do
    let s ← shorthandSet f kind negated
    return (.set s, f)
  | .property query negated => do
    let s ← propertySet f query negated
    return (.set s, f)
  | .bracketed negated body => do
    let s ← classSet f body
    let s ← f.finish negated s
    return (.set s, f)
  | .repetition body least most greedy => do
    let (r, f) ← ofAst f body
    return (.rep r least most (greedy != f.swapGreed), f)
  | .group .capture body => do
    let (r, _) ← ofAst f body
    return (.group r, f)
  | .group (.plain items) body => do
    let (r, _) ← ofAst (f.apply items) body
    return (r, f)
  | .alternation branches => do
    let (rs, f) ← ofList f branches
    return (.alt rs, f)
  | .concat parts => do
    let (rs, f) ← ofList f parts
    return (.seq rs, f)

/-- The meanings of several expressions, read one after the other. -/
def ofList (f : Flags) : List Ast → Except Error (List Regex × Flags)
  | [] => .ok ([], f)
  | part :: rest => do
    let (r, f) ← ofAst f part
    let (rs, f) ← ofList f rest
    return (r :: rs, f)

end

end Meaning

/-- The expression that a text stands for. -/
def read (s : List Char) : Except Error Regex := do
  let ast ← Ast.read s
  let (r, _) ← Meaning.ofAst {} ast
  return r

end EventQuery.Regex
