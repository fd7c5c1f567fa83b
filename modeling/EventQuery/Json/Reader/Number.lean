import EventQuery.Json
import EventQuery.Json.Reader.Basic

/-!
# Reading numerals

A numeral stays an integer if it has no point and no exponent and the range of integers holds it;
otherwise it is the nearest double, which has to be finite.
-/

namespace EventQuery.Json.Reader

/-- The digits in front, and the rest. -/
def digits (s : List Char) : List Char × List Char :=
  (s.takeWhile Char.isDigit, s.dropWhile Char.isDigit)

/-- The value of a list of digits. -/
def natOf (ds : List Char) : Nat := ds.foldl (fun n c => n * 10 + (c.toNat - '0'.toNat)) 0

/-- A double from its digits and exponent, refused where it is beyond the largest one. -/
def finiteFloat (negative : Bool) (digits : Nat) (exponent : Int) (rest : List Char) :
    Read Numeral :=
  let x := Binary64.ofDecimal negative digits exponent
  if x.isFinite then .ok (.float x) rest else .error (.here .numberOutOfRange rest)

/-- The largest exponent that is computed with. -/
def maxExponent : Nat := 0x7FFFFFFF

/-- The digits of an exponent up to and with the first that makes it too large, if one does. -/
def exponentOverflow? : Nat → List Char → Option (List Char)
  | _, [] => none
  | value, c :: s =>
    if c.isDigit then
      let next := value * 10 + (c.toNat - '0'.toNat)
      if maxExponent < next then some s else exponentOverflow? next s
    else none

/-- The digits of an exponent, whose sign has been read, behind `significand * 10 ^ scale`. -/
def exponentDigits (negative : Bool) (significand : Nat) (scale : Int) (positive : Bool)
    (s : List Char) : Read Numeral :=
  match s with
  | [] => .error (.here .valueCutShort [])
  | c :: _ =>
    if !c.isDigit then .error (.atNext .invalidNumber s)
    else
      let (ds, rest) := digits s
      match exponentOverflow? 0 s with
      | some after =>
        if significand ≠ 0 && positive then .error (.here .numberOutOfRange after)
        else .ok (.float (Binary64.zero negative)) rest
      | none =>
        let exponent : Int := natOf ds
        finiteFloat negative significand (if positive then scale + exponent else scale - exponent)
          rest

/-- What follows the `e` of a number whose digits so far are `significand * 10 ^ scale`. -/
def exponentPart (negative : Bool) (significand : Nat) (scale : Int) :
    List Char → Read Numeral
  | '+' :: s => exponentDigits negative significand scale true s
  | '-' :: s => exponentDigits negative significand scale false s
  | s => exponentDigits negative significand scale true s

/-- A number from its whole digits on: it stays an integer if no point and no exponent follow and
    the range of integers holds it. Minus zero is a double. -/
def fromWhole (negative : Bool) (whole : List Char) (s : List Char) : Read Numeral :=
  match s with
  | '.' :: s =>
    let (fraction, rest) := digits s
    if fraction.isEmpty then
      if s.isEmpty then .error (.here .valueCutShort s) else .error (.atNext .invalidNumber s)
    else
      let significand := natOf (whole ++ fraction)
      let scale : Int := -(fraction.length : Int)
      match rest with
      | 'e' :: rest | 'E' :: rest => exponentPart negative significand scale rest
      | _ => finiteFloat negative significand scale rest
  | 'e' :: rest | 'E' :: rest => exponentPart negative (natOf whole) 0 rest
  | _ =>
    let n := natOf whole
    if negative then
      if n ≠ 0 ∧ Int64.minValue.toInt ≤ -(n : Int) then .ok (.negative (Int64.ofInt (-(n : Int)))) s
      else finiteFloat true n 0 s
    else if n < UInt64.size then .ok (.natural (UInt64.ofNat n)) s
    else finiteFloat false n 0 s

/-- A number after its sign. A leading zero stands alone. -/
def number (negative : Bool) (s : List Char) : Read Numeral :=
  match s with
  | [] => .error (.here .valueCutShort [])
  | '0' :: rest =>
    match rest with
    | c :: _ =>
      if c.isDigit then .error (.atNext .invalidNumber rest) else fromWhole negative ['0'] rest
    | [] => fromWhole negative ['0'] rest
  | c :: _ =>
    if c.isDigit then
      let (whole, rest) := digits s
      fromWhole negative whole rest
    else .error (.atNext .invalidNumber s)

/-! ## What is left -/

theorem length_digits_le (s : List Char) : (digits s).2.length ≤ s.length :=
  (List.dropWhile_sublist Char.isDigit).length_le

theorem below_finiteFloat {negative : Bool} {ds : Nat} {exponent : Int} (rest : List Char) :
    (finiteFloat negative ds exponent rest).Below (rest.length + 1) := by
  unfold finiteFloat
  dsimp only
  split <;> simp

theorem below_exponentDigits {negative positive : Bool} {significand : Nat} {scale : Int}
    (s : List Char) :
    (exponentDigits negative significand scale positive s).Below (s.length + 1) := by
  have hd := length_digits_le s
  unfold exponentDigits
  split
  · simp
  · split
    · simp
    · dsimp only
      split
      · split
        · simp
        · simp only [Read.below_ok]; omega
      · exact (below_finiteFloat _).mono (by omega)

theorem below_exponentPart {negative : Bool} {significand : Nat} {scale : Int} (s : List Char) :
    (exponentPart negative significand scale s).Below (s.length + 1) := by
  unfold exponentPart
  split
  · exact (below_exponentDigits _).mono (by simp)
  · exact (below_exponentDigits _).mono (by simp)
  · exact below_exponentDigits _

theorem below_fromWhole {negative : Bool} {whole : List Char} (s : List Char) :
    (fromWhole negative whole s).Below (s.length + 1) := by
  unfold fromWhole
  split
  · next s =>
    have hd := length_digits_le s
    dsimp only
    split
    · split <;> simp
    · split
      · next h =>
        rw [h, List.length_cons] at hd
        exact (below_exponentPart _).mono (by simp only [List.length_cons]; omega)
      · next h =>
        rw [h, List.length_cons] at hd
        exact (below_exponentPart _).mono (by simp only [List.length_cons]; omega)
      · exact (below_finiteFloat _).mono (by simp only [List.length_cons]; omega)
  · exact (below_exponentPart _).mono (by simp)
  · exact (below_exponentPart _).mono (by simp)
  · dsimp only
    split
    · split
      · simp
      · exact below_finiteFloat _
    · split
      · simp
      · exact below_finiteFloat _

theorem below_number (negative : Bool) (s : List Char) : (number negative s).Below s.length := by
  unfold number
  split
  · simp
  · split
    · split
      · simp
      · exact below_fromWhole _
    · exact below_fromWhole _
  · next c s _ =>
    split
    · next hc =>
      have hd := length_digits_le s
      refine (below_fromWhole _).mono ?_
      simp only [digits, List.dropWhile_cons, hc, if_true] at hd ⊢
      simp only [List.length_cons]
      omega
    · simp

end EventQuery.Json.Reader
