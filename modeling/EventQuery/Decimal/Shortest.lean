import EventQuery.Decimal.Binary64

/-!
# The fewest digits that read back

Every double is the nearest one to an interval of reals. Among the decimals in it one with the
fewest digits is chosen, and of those the nearest to the double. On the grid of a given number of
digits only the double's two neighbours have to be tried: if any point of the grid lies in the
interval, so does one of them.
-/

namespace EventQuery

/-- `digits * 10 ^ exponent`. -/
structure Decimal where
  digits : Nat
  exponent : Int
deriving DecidableEq, Repr, Inhabited

/-- Which of two decimals is taken when both are equally near. -/
inductive Tie where
  | toEven
  | up
deriving DecidableEq, Repr

namespace Binary64

/-- The reals that round to a positive double `significand * 2 ^ exponent`, counted in quarters of
    its unit. Below a power of two the doubles lie twice as close. -/
structure Interval where
  lower : Nat
  value : Nat
  upper : Nat
  /-- Whether the two ends themselves round to the double. -/
  closed : Bool

def interval (x : Binary64) : Interval where
  lower := 4 * x.significand - (if x.significand = leadingBit ∧ 1 < x.exponentField then 1 else 2)
  value := 4 * x.significand
  upper := 4 * x.significand + 2
  closed := x.significand % 2 = 0

/-- The exponent of the leading decimal digit of a positive finite double. -/
def leadingExponent (x : Binary64) : Int :=
  let estimate := ((Nat.log2 x.significand : Int) + x.exponent) * 30103 / 100000
  let next := estimate + 1
  let reached :=
    Nat.pow 10 next.toNat <<< (-x.exponent).toNat ≤
      x.significand <<< x.exponent.toNat * Nat.pow 10 (-next).toNat
  if reached then next else estimate

/-- The decimal on the grid `10 ^ k` that rounds to the positive double and is nearest to it, if
    there is one. A quarter unit of the double is `quarter / step` steps of the grid. -/
def onGrid? (tie : Tie) (x : Binary64) (k : Int) : Option Decimal :=
  let e := x.exponent - 2
  let quarter := Nat.pow 10 (-k).toNat <<< e.toNat
  let step := Nat.pow 10 k.toNat <<< (-e).toNat
  let i := x.interval
  let inside (d : Nat) : Bool :=
    if i.closed then i.lower * quarter ≤ d * step && d * step ≤ i.upper * quarter
    else i.lower * quarter < d * step && d * step < i.upper * quarter
  let below := i.value * quarter / step
  let above := below + 1
  let toBelow := i.value * quarter - below * step
  let toAbove := above * step - i.value * quarter
  let preferBelow : Bool :=
    if toBelow = toAbove then
      match tie with
      | .toEven => below % 2 = 0
      | .up => false
    else toBelow < toAbove
  if inside below && (preferBelow || !inside above) && below != 0 then some ⟨below, k⟩
  else if inside above then some ⟨above, k⟩
  else none

/-- The first of the grids with 1, 2, … digits that has a decimal in the interval. -/
def firstOnGrid (tie : Tie) (x : Binary64) (k : Int) : Nat → Decimal
  | 0 => ⟨x.significand, x.exponent⟩
  | more + 1 =>
    match onGrid? tie x k with
    | some d => d
    | none => firstOnGrid tie x (k - 1) more

/-- The decimal without zeros at the end of its digits. -/
def stripZeros (d : Decimal) : Nat → Decimal
  | 0 => d
  | more + 1 =>
    if d.digits % 10 = 0 ∧ d.digits ≠ 0 then stripZeros ⟨d.digits / 10, d.exponent + 1⟩ more else d

/-- The shortest decimal of a positive finite double. Seventeen digits are always enough. -/
def shortest (tie : Tie) (x : Binary64) : Decimal :=
  stripZeros (firstOnGrid tie x x.leadingExponent 17) 17

end Binary64
end EventQuery
