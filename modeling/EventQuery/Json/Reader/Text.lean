import EventQuery.Json.Reader.Basic

/-!
# Reading strings

A string is read from behind its opening quote up to its closing one. Escapes by code point above
the first plane come in pairs.
-/

namespace EventQuery.Json.Reader

/-- The value of a hexadecimal digit. -/
def hexDigit? (c : Char) : Option Nat :=
  if c.isDigit then some (c.toNat - '0'.toNat)
  else if 'a' ≤ c && c ≤ 'f' then some (c.toNat - 'a'.toNat + 10)
  else if 'A' ≤ c && c ≤ 'F' then some (c.toNat - 'A'.toNat + 10)
  else none

/-- The four digits of an escape. They are taken by bytes, so an escape that is cut off by the end
    is another fault than one with other characters. -/
def fourHexDigits (s : List Char) : Read Nat :=
  if Text.byteLength (s.take 4) < 4 then .error (.here .stringCutShort [])
  else
    match s with
    | a :: b :: c :: d :: rest =>
      match hexDigit? a, hexDigit? b, hexDigit? c, hexDigit? d with
      | some a, some b, some c, some d => .ok (((a * 16 + b) * 16 + c) * 16 + d) rest
      | _, _, _, _ => .error ⟨.invalidEscape, s, 4⟩
    | _ => .error ⟨.invalidEscape, s, 4⟩

/-- An escape by code point, after `\u`. Code points above the first plane are written as two
    escapes, and neither half may stand alone. -/
def unicodeEscape (s : List Char) : Read Char :=
  (fourHexDigits s).andThen fun high s =>
    if 0xDC00 ≤ high ∧ high ≤ 0xDFFF then .error (.here .loneSurrogate s)
    else if high < 0xD800 ∨ 0xDBFF < high then .ok (Char.ofNat high) s
    else
      match s with
      | [] => .error (.here .stringCutShort [])
      | '\\' :: s =>
        match s with
        | [] => .error (.here .stringCutShort [])
        | 'u' :: s =>
          (fourHexDigits s).andThen fun low s =>
            if 0xDC00 ≤ low ∧ low ≤ 0xDFFF then
              .ok (Char.ofNat ((high - 0xD800) * 0x400 + (low - 0xDC00) + 0x10000)) s
            else .error (.here .loneSurrogate s)
        | _ => .error (.atNext .surrogateCutShort s)
      | _ => .error (.atNext .surrogateCutShort s)

/-- What follows a backslash. -/
def escape (s : List Char) : Read Char :=
  match s with
  | [] => .error (.here .stringCutShort [])
  | '"' :: s => .ok '"' s
  | '\\' :: s => .ok '\\' s
  | '/' :: s => .ok '/' s
  | 'b' :: s => .ok '\x08' s
  | 'f' :: s => .ok '\x0C' s
  | 'n' :: s => .ok '\n' s
  | 'r' :: s => .ok '\r' s
  | 't' :: s => .ok '\t' s
  | 'u' :: s => unicodeEscape s
  | _ => .error (.atNext .invalidEscape s)

theorem below_fourHexDigits (s : List Char) : (fourHexDigits s).Below s.length := by
  unfold fourHexDigits
  split
  · simp
  · split
    · split
      · simp only [Read.below_ok, List.length_cons]; omega
      · simp
    · simp

theorem below_unicodeEscape (s : List Char) : (unicodeEscape s).Below s.length := by
  refine (below_fourHexDigits s).andThen fun high rest h => ?_
  split
  · simp
  · split
    · exact h
    · split
      · simp
      · split
        · simp
        · simp only [List.length_cons] at h
          refine (below_fourHexDigits _).andThen fun low rest h' => ?_
          split
          · simp only [Read.below_ok]; omega
          · simp
        · simp
      · simp

theorem below_escape (s : List Char) : (escape s).Below s.length := by
  unfold escape
  split
  case h_10 s => exact (below_unicodeEscape s).mono (by simp)
  all_goals simp

/-- The characters of a string up to its closing quote. -/
def stringBody (s : List Char) : Read (List Char) :=
  match s with
  | [] => .error (.here .stringCutShort [])
  | '"' :: rest => .ok [] rest
  | '\\' :: rest =>
    match _h : escape rest with
    | .error f => .error f
    | .ok c rest => (stringBody rest).map (c :: ·)
  | c :: rest =>
    if c.toNat < 0x20 then .error (.atNext .controlCharacter (c :: rest))
    else (stringBody rest).map (c :: ·)
termination_by s.length
decreasing_by
  · have := (below_escape _).length_lt _h
    simp only [List.length_cons]
    omega
  · simp

theorem below_stringBody (s : List Char) : (stringBody s).Below s.length := by
  fun_induction stringBody s with
  | case1 => simp
  | case2 => simp
  | case3 => simp
  | case4 s c rest h ih =>
    have := (below_escape s).length_lt h
    exact (ih.map _).mono (by simp only [List.length_cons]; omega)
  | case5 => simp
  | case6 c s _ _ _ ih => exact (ih.map _).mono (by simp)

/-- A string after its opening quote. -/
def string (s : List Char) : Read String := (stringBody s).map String.ofList

theorem below_string (s : List Char) : (string s).Below s.length := (below_stringBody s).map _

end EventQuery.Json.Reader
