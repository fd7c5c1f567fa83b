import EventQuery.Regex.Blueprint

/-!
# The words of a blueprint

Some blueprints are nothing but a short list of words, the preferred one first. To find one of them
no automaton is needed (`Blueprint.isWords`). The list is worked out from the parts of the blueprint
within fixed bounds. Where these are passed a word is cut off, and then only the start of a match,
or there is no list at all. A list that is good enough for a quick search is also cut where that
makes the search quicker, and then it no longer says all about a match.
-/

namespace EventQuery.Regex

/-- A word, and whether a match is exactly it or only starts with it. -/
structure Word where
  bytes : List Nat
  exact : Bool
deriving DecidableEq, Repr

/-- The words with which matches start, or nothing where there are too many. -/
abbrev Words := Option (List Word)

namespace Words

/-- The most members of a class, the most copies, the longest word and the longest list. -/
def maxClass : Nat := 10
def maxCopies : Nat := 10
def maxLength : Nat := 100
def maxWords : Nat := 250

/-- The empty text, exactly. -/
def blank : Words := some [⟨[], true⟩]

def allExact : Words → Bool
  | none => false
  | some ws => ws.all (·.exact)

/-- No word can be extended. -/
def noneExact : Words → Bool
  | none => true
  | some ws => ws.all (!·.exact)

def inexact : Words → Words := Option.map (·.map fun w => { w with exact := false })

/-- The first bytes of a word. -/
def cutWord (n : Nat) (w : Word) : Word := if n < w.bytes.length then ⟨w.bytes.take n, false⟩ else w

def cut (n : Nat) : Words → Words := Option.map (·.map (cutWord n))

/-- One of each run of equal words, exact if all of them are. -/
def dedup : List Word → List Word
  | [] => []
  | w :: rest =>
    match dedup rest with
    | v :: more =>
      if w.bytes = v.bytes then ⟨w.bytes, w.exact && v.exact⟩ :: more else w :: v :: more
    | [] => [w]

/-- The words of two parts one after the other. -/
def append (a b : Words) : Words :=
  let b := match a, b with
    | some xs, some ys => if maxWords < xs.length * ys.length then none else some ys
    | _, b => b
  let both : Words := match a, b with
    | none, _ => none
    | some xs, none => if xs.any (·.bytes.isEmpty) then none else inexact (some xs)
    | some xs, some ys =>
      some <| dedup <| xs.flatMap fun x =>
        if x.exact then ys.map fun y => ⟨x.bytes ++ y.bytes, y.exact⟩ else [x]
  both.cut maxLength

/-- The words of either of two parts. Where there are too many, shorter ones may do. -/
def either (a b : Words) : Words :=
  match a, b with
  | some xs, some ys =>
    if maxWords < xs.length + ys.length then
      let xs := dedup (xs.map (cutWord 4))
      let ys := dedup (ys.map (cutWord 4))
      if maxWords < xs.length + ys.length then none else some (dedup (xs ++ ys))
    else some (dedup (xs ++ ys))
  | _, _ => none

/-- So many copies of a part, after some words. -/
def copies (one : Words) : Nat → Words → Words
  | 0, before => before
  | n + 1, before => if before.noneExact then before else copies one n (before.append one)

/-- The words of a repetition. -/
def repeated (one : Words) (least : Nat) (most : Option Nat) (greedy : Bool) : Words :=
  if least = 0 then
    let one := if most = some 1 then one else one.inexact
    if greedy then one.either blank else blank.either one
  else
    let all := copies one (min least maxCopies) blank
    if most = some least ∧ least ≤ maxCopies then all else all.inexact

/-- The members of a class. -/
def ofSet (s : CodeSet) : Words :=
  let ranges := Encoding.ranges s
  if maxClass < ranges.foldl (fun n (lo, hi) => n + (hi - lo + 1)) 0 then none
  else
    some <| ranges.flatMap fun (lo, hi) =>
      (List.range (hi - lo + 1)).map fun k => ⟨Encoding.bytes (Char.ofNat (lo + k)), true⟩

mutual

/-- The words with which matches of a blueprint start. -/
def ofBlueprint : Blueprint → Words
  | .empty | .look _ => blank
  | .word cs => Words.cut maxLength (some [⟨cs.flatMap Encoding.bytes, true⟩])
  | .set s => ofSet s
  | .capture body => ofBlueprint body
  | .concat parts => ofParts blank parts
  | .choice branches => ofBranches (some []) branches
  | .rep body least most greedy => repeated (ofBlueprint body) least most greedy

/-- The words of parts one after the other, after those of earlier ones. -/
def ofParts (before : Words) : List Blueprint → Words
  | [] => before
  | part :: rest =>
    if before.noneExact then before else ofParts (before.append (ofBlueprint part)) rest

/-- The words of any of several, besides those of earlier ones. -/
def ofBranches (before : Words) : List Blueprint → Words
  | [] => before
  | branch :: rest =>
    if before.isNone then none else ofBranches (before.either (ofBlueprint branch)) rest

end

/-! ## A list for a quick search -/

/-- The words that no earlier word makes superfluous: a preferred word that one starts with is found
    in its place. -/
def preferred (ws : List Word) : List Word :=
  ws.foldl (fun kept w => if kept.any (·.bytes.isPrefixOf w.bytes) then kept else kept ++ [w]) []

/-- What two words have in common at their start. -/
def common : List Nat → List Nat → List Nat
  | a :: as, b :: bs => if a = b then a :: common as bs else []
  | _, _ => []

/-- What all words have in common at their start. -/
def commonStart : List Word → List Nat
  | [] => []
  | w :: ws => ws.foldl (fun start w => common start w.bytes) w.bytes

/-- Bytes that are rare enough in a text to look for them alone. -/
def rare : CodeSet := .ofRanges
  [(0x0, 0x9), (0xB, 0xC), (0xE, 0x1F), (0x21, 0x27), (0x2A, 0x2B), (0x33, 0x38), (0x3B, 0x5E),
   (0x60, 0x60), (0x6A, 0x6B), (0x71, 0x71), (0x77, 0x77), (0x7A, 0x7B), (0x7D, 0x7F),
   (0x85, 0x8F), (0x91, 0xB0), (0xB2, 0xB4), (0xB8, 0xB8), (0xBE, 0xBE)]

/-- Bytes that are so frequent that to look for one of them alone is of no use. -/
def frequent : CodeSet := .ofRanges
  [(0x20, 0x20), (0x65, 0x65), (0x74, 0x74), (0xC0, 0xFF)]

/-- A word that is found nearly everywhere. -/
def isFrequent (w : Word) : Bool :=
  match w.bytes with
  | [] => true
  | [b] => frequent.containsCode b
  | _ => false

/-- To how many bytes words are cut, and of how many words the list has to be for that. -/
def cuts : List (Nat × Nat) := [(5, 10), (4, 10), (3, 64), (2, 64), (1, 10)]

/-- The list cut shorter and shorter while it is too long. -/
def shortened : List (Nat × Nat) → List Word → List Word
  | [], ws => ws
  | (length, count) :: rest, ws =>
    if ws.length ≤ count then ws else shortened rest (preferred (ws.map (cutWord length)))

/-- The list as it is searched for: the words themselves, or the starts of them that are better to
    look for. There is nothing to look for if something on the list is found nearly everywhere. -/
def forSearch (all : List Word) : Words :=
  let ws := preferred all
  let start := commonStart ws
  if 1 < all.length ∧ 1 ≤ start.length ∧ start.length ≤ 3 ∧
      start.head?.any rare.containsCode then
    some (dedup (ws.map (cutWord 1)))
  else
    let isFast := ws.all (·.exact) && ws.length ≤ 16
    let useStart := 4 < start.length || (1 < start.length && !isFast)
    let ws := if useStart then dedup (ws.map (cutWord start.length)) else ws
    let short := shortened cuts ws
    let isPoor := short.any fun w => isFrequent w || w.bytes.length ≤ 2
    if ws.all (·.exact) && (isPoor || 64 < short.length) then some ws
    else if short.any isFrequent then none
    else some short

/-- A blueprint that neither remembers anything nor looks at what stands around. -/
def isPlain : Blueprint → Bool := go
where
  go : Blueprint → Bool
    | .empty | .word _ | .set _ => true
    | .look _ | .capture _ => false
    | .concat parts => goAll parts
    | .choice branches => goAll branches
    | .rep body _ _ _ => go body
  goAll : List Blueprint → Bool
    | [] => true
    | part :: rest => go part && goAll rest

/-- A choice between words alone, and so many of them that a search for words is quicker than an
    automaton. -/
def isLongList : Blueprint → Bool
  | .choice branches =>
    3000 ≤ branches.length && branches.all fun
      | .word _ => true
      | _ => false
  | _ => false

end Words

/-- The blueprint is a list of words, and to search for these no automaton is needed. -/
def Blueprint.isWords (b : Blueprint) : Bool :=
  Words.isPlain b &&
    (Words.isLongList b ||
      match Words.ofBlueprint b with
      | none => false
      | some all =>
        !all.isEmpty && !all.any (·.bytes.isEmpty) && (Words.forSearch all).allExact)

end EventQuery.Regex
