import EventQuery.Text.Characters

/-!
# Regular expressions

An expression of characters, positions, sequence, choice and repetition. `Spans w r i j` says that
`r` can match the text `w` from position `i` to position `j`; nothing is said about which of the
possible matches is preferred.
-/

namespace EventQuery

namespace Regex

/-- What counts as a character of a word. -/
inductive WordKind where
  | unicode
  | ascii
deriving DecidableEq, Repr

/-- A condition on a position in a text. -/
inductive Look where
  | textStart
  | textEnd
  | lineStart
  | lineEnd
  | crlfLineStart
  | crlfLineEnd
  | wordBoundary (kind : WordKind)
  | notWordBoundary (kind : WordKind)
  | wordStart (kind : WordKind)
  | wordEnd (kind : WordKind)
  | wordStartHalf (kind : WordKind)
  | wordEndHalf (kind : WordKind)
deriving DecidableEq, Repr

namespace WordKind

/-- Whether there is a character and it is one of a word. -/
def isWord (kind : WordKind) : Option Char → Bool
  | none => false
  | some c =>
    if c.toNat < 128 then c.isAlphanum || c == '_'
    else
      match kind with
      | unicode => Property.word.contains c
      | ascii => false

end WordKind

namespace Look

/-- Whether the condition holds between two characters; there is none before the start of the text
    and after its end. -/
def holds (before after : Option Char) : Look → Bool
  | textStart => before.isNone
  | textEnd => after.isNone
  | lineStart => before.isNone || before == some '\n'
  | lineEnd => after.isNone || after == some '\n'
  | crlfLineStart =>
    before.isNone || before == some '\n' || (before == some '\r' && after != some '\n')
  | crlfLineEnd =>
    after.isNone || after == some '\r' || (after == some '\n' && before != some '\r')
  | wordBoundary k => k.isWord before != k.isWord after
  | notWordBoundary k => k.isWord before == k.isWord after
  | wordStart k => !k.isWord before && k.isWord after
  | wordEnd k => k.isWord before && !k.isWord after
  | wordStartHalf k => !k.isWord before
  | wordEndHalf k => !k.isWord after

end Look

end Regex

/-- A regular expression. The greed of a repetition and the groups say which of several matches is
    taken and what is remembered of it; whether there is a match does not depend on them. -/
inductive Regex where
  | set (s : CodeSet)
  | look (l : Regex.Look)
  | seq (parts : List Regex)
  | alt (branches : List Regex)
  | rep (r : Regex) (least : Nat) (most : Option Nat) (greedy : Bool)
  | group (r : Regex)
deriving Repr, Inhabited

namespace Regex

/-- The character before a position of a text. -/
def charBefore (w : List Char) : Nat → Option Char
  | 0 => none
  | i + 1 => w[i]?

/-- `Spans w r i j`: the expression can match the text from one position to the other. -/
inductive Spans (w : List Char) : Regex → Nat → Nat → Prop where
  | set {s : CodeSet} {i : Nat} {c : Char} (hc : w[i]? = some c) (hs : s.contains c = true) :
      Spans w (.set s) i (i + 1)
  | look {l : Look} {i : Nat} (hi : i ≤ w.length) (hl : l.holds (charBefore w i) w[i]? = true) :
      Spans w (.look l) i i
  | seqNil {i : Nat} (hi : i ≤ w.length) : Spans w (.seq []) i i
  | seqCons {r : Regex} {rs : List Regex} {i j k : Nat} (hr : Spans w r i j)
      (hs : Spans w (.seq rs) j k) : Spans w (.seq (r :: rs)) i k
  | altHere {r : Regex} {rs : List Regex} {i j : Nat} (h : Spans w r i j) :
      Spans w (.alt (r :: rs)) i j
  | altThere {r : Regex} {rs : List Regex} {i j : Nat} (h : Spans w (.alt rs) i j) :
      Spans w (.alt (r :: rs)) i j
  | repDone {r : Regex} {most : Option Nat} {greedy : Bool} {i : Nat} (hi : i ≤ w.length) :
      Spans w (.rep r 0 most greedy) i i
  | repMore {r : Regex} {least : Nat} {most : Option Nat} {greedy : Bool} {i j k : Nat}
      (hm : most ≠ some 0) (hr : Spans w r i j)
      (hs : Spans w (.rep r (least - 1) (most.map (· - 1)) greedy) j k) :
      Spans w (.rep r least most greedy) i k
  | group {r : Regex} {i j : Nat} (h : Spans w r i j) : Spans w (.group r) i j

end Regex
end EventQuery
