/-!
# The syntax of regular expressions

The tree of an expression as it was written. Flags, groups and the parts of a character class are
still there; what they mean is decided later.
-/

namespace EventQuery.Regex

/-- A flag that can be set or cleared inside an expression. -/
inductive Flag where
  | caseInsensitive
  | multiLine
  | dotMatchesNewline
  | swapGreed
  | unicode
  | crlf
  | verbose
deriving DecidableEq, Repr

/-- One character of a list of flags: a flag, or the sign that the ones after it are cleared. -/
inductive FlagItem where
  | negation
  | flag (f : Flag)
deriving DecidableEq, Repr

/-- What a list of flags says about one of them. -/
def flagState? (f : Flag) : List FlagItem → Option Bool
  | items => go true items
where
  go (value : Bool) : List FlagItem → Option Bool
    | [] => none
    | .negation :: rest => go false rest
    | .flag g :: rest => if g = f then some value else go value rest

/-- A position that an expression can ask for. -/
inductive Assertion where
  | startLine
  | endLine
  | startText
  | endText
  | wordBoundary
  | notWordBoundary
  | wordStart
  | wordEnd
  | wordStartHalf
  | wordEndHalf
deriving DecidableEq, Repr

/-- A character of an expression. `isByte` marks the two-digit form, which without Unicode names a
    byte. -/
structure Literal where
  char : Char
  isByte : Bool := false
deriving DecidableEq, Repr

/-- The classes that have a one-letter escape. -/
inductive Shorthand where
  | digit
  | space
  | word
deriving DecidableEq, Repr

/-- The classes that have a name in brackets and colons. -/
inductive AsciiClass where
  | alnum
  | alpha
  | ascii
  | blank
  | cntrl
  | digit
  | graph
  | lower
  | print
  | punct
  | space
  | upper
  | word
  | xdigit
deriving DecidableEq, Repr

/-- A property of characters that is asked for by name. -/
inductive PropertyQuery where
  | single (name : String)
  | valued (property value : String)
deriving DecidableEq, Repr

/-- The operators between two classes. -/
inductive ClassOp where
  | intersection
  | difference
  | symmetricDifference
deriving DecidableEq, Repr

/-- What stands inside the brackets of a class. -/
inductive ClassSet where
  | empty
  | literal (l : Literal)
  | range (lo hi : Literal)
  | ascii (kind : AsciiClass) (negated : Bool)
  | shorthand (kind : Shorthand) (negated : Bool)
  | property (query : PropertyQuery) (negated : Bool)
  | bracketed (negated : Bool) (body : ClassSet)
  | union (items : List ClassSet)
  | binary (op : ClassOp) (left right : ClassSet)
deriving Repr, Inhabited

/-- What a parenthesis opens. -/
inductive GroupKind where
  | capture
  | plain (flags : List FlagItem)
deriving DecidableEq, Repr

/-- An expression as it was written. -/
inductive Ast where
  | empty
  | flags (items : List FlagItem)
  | literal (l : Literal)
  | dot
  | assertion (kind : Assertion)
  | shorthand (kind : Shorthand) (negated : Bool)
  | property (query : PropertyQuery) (negated : Bool)
  | bracketed (negated : Bool) (body : ClassSet)
  | repetition (body : Ast) (least : Nat) (most : Option Nat) (greedy : Bool)
  | group (kind : GroupKind) (body : Ast)
  | alternation (branches : List Ast)
  | concat (parts : List Ast)
deriving Repr, Inhabited

mutual

/-- How deep the parts of a class are nested. -/
def ClassSet.depth : ClassSet → Nat
  | .bracketed _ body => body.depth + 1
  | .union items => ClassSet.depths items + 1
  | .binary _ left right => max left.depth right.depth + 1
  | _ => 0

/-- The greatest depth of several. -/
def ClassSet.depths : List ClassSet → Nat
  | [] => 0
  | item :: rest => max item.depth (ClassSet.depths rest)

end

mutual

/-- How deep the parts of an expression are nested. -/
def Ast.depth : Ast → Nat
  | .bracketed _ body => body.depth + 1
  | .repetition body _ _ _ => body.depth + 1
  | .group _ body => body.depth + 1
  | .alternation branches => Ast.depths branches + 1
  | .concat parts => Ast.depths parts + 1
  | _ => 0

/-- The greatest depth of several. -/
def Ast.depths : List Ast → Nat
  | [] => 0
  | item :: rest => max item.depth (Ast.depths rest)

end

/-- The deepest nesting that is accepted. -/
def maxDepth : Nat := 250

end EventQuery.Regex
