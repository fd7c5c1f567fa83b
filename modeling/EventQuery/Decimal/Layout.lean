import EventQuery.Decimal.Shortest

/-!
# Writing a double

How a number is laid out is decided by a `Layout`: which numbers are written with a decimal point
in place, how an exponent is signed, and where a tie between two shortest decimals goes.
-/

namespace EventQuery

/-- How numbers are written. -/
structure Layout where
  /-- The leading exponents that are written positionally run from here … -/
  positionalFrom : Int
  /-- … to here. All others are written with an exponent. -/
  positionalTo : Int
  /-- A positive exponent has a plus sign. -/
  plusSign : Bool
  tie : Tie
deriving DecidableEq, Repr

namespace Layout

/-- Numbers in documents: `0.00001`, `1e-6`, `1e+16`. -/
def document : Layout := ⟨-5, 15, true, .toEven⟩

/-- Numbers shown by themselves: `0.0001`, `1e-5`, `1e16`. -/
def display : Layout := ⟨-4, 15, false, .up⟩

/-- A point in place: digits before it or a zero, and at least one digit after it. -/
def positional (digits : List Char) (leading : Int) : List Char :=
  if leading < 0 then
    ['0', '.'] ++ List.replicate (-leading - 1).toNat '0' ++ digits
  else
    let before := leading.toNat + 1
    let whole := digits.take before ++ List.replicate (before - digits.length) '0'
    let fraction := digits.drop before
    whole ++ '.' :: (if fraction.isEmpty then ['0'] else fraction)

/-- One digit, the others after a point if there are any, and the exponent. -/
def scientific (plusSign : Bool) (digits : List Char) (leading : Int) : List Char :=
  let mantissa :=
    match digits with
    | [] => []
    | [d] => [d]
    | d :: ds => d :: '.' :: ds
  let sign := if leading < 0 then ['-'] else if plusSign then ['+'] else []
  mantissa ++ 'e' :: sign ++ Nat.toDigits 10 leading.natAbs

/-- The magnitude of a finite double. -/
def magnitudeText (l : Layout) (x : Binary64) : List Char :=
  if x.isZero then ['0', '.', '0']
  else
    let d := x.shortest l.tie
    let digits := Nat.toDigits 10 d.digits
    let leading := d.exponent + digits.length - 1
    if l.positionalFrom ≤ leading ∧ leading ≤ l.positionalTo then positional digits leading
    else scientific l.plusSign digits leading

/-- The text of a finite double, with its sign, that of a zero included. -/
def finiteText (l : Layout) (x : Binary64) : List Char :=
  if x.isNegative then '-' :: l.magnitudeText x else l.magnitudeText x

end Layout

namespace Binary64

/-- The text of any double when it is shown by itself. -/
def displayText (x : Binary64) : String :=
  if x.isNaN then "NaN"
  else if x.isInfinite then if x.isNegative then "-inf" else "inf"
  else String.ofList (Layout.display.finiteText x)

end Binary64
end EventQuery
