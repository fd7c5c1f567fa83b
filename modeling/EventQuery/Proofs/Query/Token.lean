import EventQuery.Proofs.Text.Digits
import EventQuery.Query.Reader.Statement
import Mathlib.Data.List.DropRight
import Mathlib.Tactic.Common

/-!
# Tokens

What a query is written in: keywords, names, paths, numbers, quoted texts and signs. A keyword
carries the way it is spelled and a name carries the proof that it is one, so that no token has to
be checked when a query is put together from some.

A list of tokens is laid out in a text (`LaidOut`) when they come one after the other with blanks
wherever one likes. Blanks are needed only where a word would run into the next one. What a token
can start with is said once (`Token.text_eq_cons`).
-/

namespace EventQuery.Query

theorem isAlpha_iff {c : Char} : c.isAlpha = true ↔
    65 ≤ c.toNat ∧ c.toNat ≤ 90 ∨ 97 ≤ c.toNat ∧ c.toNat ≤ 122 := by
  change (decide (65 ≤ c.val ∧ c.val ≤ 90) ||
    decide (97 ≤ c.val) && decide (c.val ≤ 122)) = true ↔ _
  simp only [Bool.or_eq_true, Bool.and_eq_true, decide_eq_true_eq, UInt32.le_iff_toNat_le]
  rfl

theorem toNat_lt_of_isAlpha {c : Char} (h : c.isAlpha = true) : c.toNat < 128 := by
  have hrange := isAlpha_iff.mp h
  omega

theorem isWordChar_of_isAlpha {c : Char} (h : c.isAlpha = true) : isWordChar c = true := by
  simp [isWordChar, Text.isAlphanumeric_eq_of_ascii (toNat_lt_of_isAlpha h), Char.isAlphanum, h]

theorem isWordChar_of_isWordStart {c : Char} (h : isWordStart c = true) : isWordChar c = true := by
  rw [isWordStart, Bool.or_eq_true] at h
  obtain h | h := h
  · exact isWordChar_of_isAlpha h
  · simp [isWordChar, h]

/-- Only a letter becomes a letter in lower case. -/
theorem isAlpha_of_isAlpha_toLower {c : Char} (h : c.toLower.isAlpha = true) :
    c.isAlpha = true := by
  unfold Char.toLower at h
  split at h
  · next hupper => exact isAlpha_iff.mpr (.inl hupper)
  · exact h

/-- A character of some kind is not one that is not of that kind. -/
theorem ne_of_kind {kind : Char → Bool} {c d : Char} (hc : kind c = true) (hd : kind d = false) :
    c ≠ d := by
  rintro rfl
  exact absurd hc (by simp [hd])

theorem beq_eq_false_of_kind {kind : Char → Bool} {c d : Char} (hc : kind c = true)
    (hd : kind d = false) : (c == d) = false :=
  beq_eq_false_iff_ne.mpr (ne_of_kind hc hd)

/-- The words with a meaning of their own. All but the first are reserved. -/
def keywords : List String := "by" :: reservedWords

/-- A keyword as it is written, in whatever case. -/
structure Keyword where
  word : String
  first : Char
  more : List Char
  known : word ∈ keywords
  spells : (first :: more).map Char.toLower = word.toList.map Char.toLower

namespace Keyword

def letters (k : Keyword) : List Char := k.first :: k.more

/-- Keywords are made of small letters. -/
theorem isAlpha_of_mem_keywords (word : String) (hword : word ∈ keywords) (c : Char)
    (hc : c ∈ word.toList) : c.isAlpha = true ∧ c.toLower = c := by
  have hall : keywords.all (fun word => word.toList.all fun c => c.isAlpha && c.toLower == c) =
      true := by
    decide +kernel
  simpa using List.all_eq_true.mp (List.all_eq_true.mp hall word hword) c hc

theorem toList_ne_nil : ∀ word ∈ keywords, word.toList ≠ [] := by
  decide +kernel

/-- Two keywords are told apart in any case. -/
theorem eq_of_map_toLower : ∀ word ∈ keywords, ∀ other ∈ keywords,
    word.toList.map Char.toLower = other.toList.map Char.toLower → word = other := by
  decide +kernel

/-- What the exponent of a number starts with is no keyword. -/
theorem head_ne_of_mem_keywords : ∀ word ∈ keywords, word.toList.head? ≠ some 'e' := by
  decide +kernel

/-- A keyword in small letters. -/
def ofWord (word : String) (known : word ∈ keywords) : Keyword where
  word
  first := word.toList.head (toList_ne_nil word known)
  more := word.toList.tail
  known
  spells := by rw [List.cons_head_tail]

/-- In lower case the letters are those of the word. -/
theorem map_toLower_letters (k : Keyword) : k.letters.map Char.toLower = k.word.toList := by
  have hword : k.word.toList.map Char.toLower = k.word.toList :=
    (List.map_congr_left fun c hc => (isAlpha_of_mem_keywords k.word k.known c hc).2).trans
      (List.map_id' _)
  exact k.spells.trans hword

theorem isAlpha_of_mem_letters (k : Keyword) {c : Char} (hc : c ∈ k.letters) :
    c.isAlpha = true := by
  have hlower : c.toLower ∈ k.word.toList :=
    k.map_toLower_letters ▸ List.mem_map_of_mem hc
  exact isAlpha_of_isAlpha_toLower (isAlpha_of_mem_keywords k.word k.known _ hlower).1

theorem toLower_first_ne (k : Keyword) : k.first.toLower ≠ 'e' := by
  intro he
  apply head_ne_of_mem_keywords k.word k.known
  rw [← k.map_toLower_letters, letters, List.map_cons, List.head?_cons, he]

end Keyword

/-- An identifier. -/
structure Name where
  first : Char
  more : List Char
  starts : isWordStart first = true
  continues : ∀ c ∈ more, isWordChar c = true
  free : isReserved (first :: more) = false

namespace Name

def letters (n : Name) : List Char := n.first :: n.more

def text (n : Name) : String := String.ofList n.letters

theorem isWordChar_of_mem_letters (n : Name) {c : Char} (hc : c ∈ n.letters) :
    isWordChar c = true := by
  obtain rfl | hc := List.mem_cons.mp hc
  · exact isWordChar_of_isWordStart n.starts
  · exact n.continues c hc

/-- The name that stands for the event at the start of a path. -/
def root : Name := ⟨'e', [], by decide, by simp, by decide +kernel⟩

end Name

/-- The two kinds of quotes. -/
inductive Quote where
  | single
  | double
deriving DecidableEq, Repr

namespace Quote

def mark : Quote → Char
  | single => '\''
  | double => '"'

/-- One character inside quotes. Only the backslash and the quote itself are escaped. -/
def escaped (q : Quote) (c : Char) : List Char :=
  if c = '\\' ∨ c = q.mark then ['\\', c] else [c]

/-- A text in quotes. -/
def around (q : Quote) (s : String) : List Char :=
  q.mark :: s.toList.flatMap q.escaped ++ [q.mark]

/-- Names inside a path are in single quotes. -/
theorem around_single (s : String) : single.around s = Path.quotedName s := by
  have hchar : single.escaped = Path.quotedChar := by
    funext c
    unfold escaped Path.quotedChar
    by_cases hb : c = '\\'
    · simp [hb]
    · by_cases hq : c = '\'' <;> simp [hb, hq, mark]
  rw [around, Path.quotedName, hchar]
  rfl

end Quote

/-- The signs of the grammar. -/
inductive Sign where
  | star
  | comma
  | opening
  | closing
  | and
  | or
  | not
  | equal
  | doubleEqual
  | unequal
  | less
  | lessEqual
  | greater
  | greaterEqual
  | matching
  | doubleMatching
deriving DecidableEq, Repr

namespace Sign

def text : Sign → String
  | star => "*"
  | comma => ","
  | opening => "("
  | closing => ")"
  | and => "&&"
  | or => "||"
  | not => "!"
  | equal => "="
  | doubleEqual => "=="
  | unequal => "!="
  | less => "<"
  | lessEqual => "<="
  | greater => ">"
  | greaterEqual => ">="
  | matching => "=~"
  | doubleMatching => "==~"

/-- The comparison that a sign stands for. -/
def comparison? : Sign → Option Comparison
  | equal | doubleEqual => some .eq
  | unequal => some .ne
  | less => some .lt
  | lessEqual => some .le
  | greater => some .gt
  | greaterEqual => some .ge
  | matching | doubleMatching => some .matching
  | star | comma | opening | closing | and | or | not => none

theorem exists_comparison : ∀ op : Comparison, ∃ s : Sign, s.comparison? = some op
  | .eq => ⟨equal, rfl⟩
  | .ne => ⟨unequal, rfl⟩
  | .lt => ⟨less, rfl⟩
  | .le => ⟨lessEqual, rfl⟩
  | .gt => ⟨greater, rfl⟩
  | .ge => ⟨greaterEqual, rfl⟩
  | .matching => ⟨matching, rfl⟩

def lead (s : Sign) : Char := s.text.toList.headD ' '

end Sign

/-- What an integer may start with. -/
def isNumberStart (c : Char) : Bool := c == '-' || c.isDigit

theorem indexText_eq_cons (i : Int) :
    ∃ c cs, Path.indexText i = c :: cs ∧ isNumberStart c = true := by
  obtain ⟨d, ds, hd, hdigit⟩ := Text.toDigits_eq_cons i.natAbs
  by_cases hi : i < 0
  · exact ⟨'-', _, by rw [Path.indexText, if_pos hi], rfl⟩
  · exact ⟨d, ds, by rw [Path.indexText, if_neg hi, hd], by simp [isNumberStart, hdigit]⟩

/-- What an operand may start with. -/
def isOperandStart (c : Char) : Bool :=
  isWordStart c || isNumberStart c || c == '\'' || c == '"'

/-- A token of a query. -/
inductive Token where
  | keyword (k : Keyword)
  /-- An identifier without brackets behind it. -/
  | name (n : Name)
  /-- An identifier with brackets, at least one pair of them. -/
  | path (root : Name) (first : Segment) (more : List Segment)
  | number (i : Int)
  | quoted (q : Quote) (s : String)
  | sign (s : Sign)

namespace Token

def text : Token → List Char
  | keyword k => k.letters
  | name n => n.letters
  | path root first more => root.letters ++ (first :: more).flatMap Path.segmentText
  | number i => Path.indexText i
  | quoted q s => q.around s
  | sign s => s.text.toList

/-- Behind an identifier with brackets, the path is written as it is displayed when the identifier
    is the root. -/
theorem text_path_root (first : Segment) (more : List Segment) :
    (path Name.root first more).text = Path.text (first :: more) := rfl

/-- The token would run into a word behind it. -/
def isWord : Token → Bool
  | keyword _ | name _ => true
  | path .. | number _ | quoted .. | sign _ => false

/-- What a token may start with. -/
def Starts : Token → Char → Prop
  | keyword k, c => c = k.first ∧ c.isAlpha = true ∧ c.toLower ≠ 'e'
  | name n, c => c = n.first ∧ isWordStart c = true
  | path root _ _, c => c = root.first ∧ isWordStart c = true
  | number _, c => isNumberStart c = true
  | quoted q _, c => c = q.mark
  | sign s, c => c = s.lead

theorem text_eq_cons (t : Token) : ∃ c cs, t.text = c :: cs ∧ t.Starts c := by
  cases t with
  | keyword k =>
    have halpha := k.isAlpha_of_mem_letters List.mem_cons_self
    exact ⟨k.first, k.more, rfl, rfl, halpha, k.toLower_first_ne⟩
  | name n => exact ⟨n.first, n.more, rfl, rfl, n.starts⟩
  | path root first more => exact ⟨root.first, _, rfl, rfl, root.starts⟩
  | number i => exact indexText_eq_cons i
  | quoted q s => exact ⟨q.mark, _, rfl, rfl⟩
  | sign s => cases s <;> exact ⟨_, _, rfl, rfl⟩

/-- A token starts like an operand, or it is a sign. -/
theorem Starts.kind {t : Token} {c : Char} (h : t.Starts c) :
    isOperandStart c = true ∨ ∃ s : Sign, t = .sign s ∧ c = s.lead := by
  cases t with
  | keyword k => exact .inl (by simp [isOperandStart, isWordStart, h.2.1])
  | name n => exact .inl (by simp [isOperandStart, h.2])
  | path root first more => exact .inl (by simp [isOperandStart, h.2])
  | number i => exact .inl (by simp [isOperandStart, show isNumberStart c = true from h])
  | quoted q s =>
    obtain rfl := h
    exact .inl (by cases q <;> rfl)
  | sign s => exact .inr ⟨s, rfl, h⟩

/-- What neither an operand nor a sign starts with is not the start of a token. -/
theorem Starts.ne {t : Token} {c d : Char} (h : t.Starts c) (hoperand : isOperandStart d = false)
    (hsign : ∀ s : Sign, d ≠ s.lead) : c ≠ d := by
  obtain hc | ⟨s, -, rfl⟩ := h.kind
  · exact ne_of_kind hc hoperand
  · exact (hsign s).symm

theorem Starts.isBlank_eq_false {t : Token} {c : Char} (h : t.Starts c) :
    Reader.isBlank c = false := by
  by_contra hblank
  simp only [Reader.isBlank, Bool.not_eq_false, Bool.or_eq_true, beq_iff_eq] at hblank
  rcases hblank with ((rfl | rfl) | rfl) | rfl <;>
    exact h.ne (by decide) (by rintro ⟨⟩ <;> decide) rfl

end Token

/-- A text does not go on with a character of a certain kind. -/
def Stops (p : Char → Bool) (text : List Char) : Prop := ∀ c ∈ text.head?, p c = false

theorem stops_nil (p : Char → Bool) : Stops p [] := fun _ hc => nomatch hc

theorem stops_cons {p : Char → Bool} {c : Char} {text : List Char} :
    Stops p (c :: text) ↔ p c = false := by
  simp [Stops]

theorem Stops.mono {p q : Char → Bool} {text : List Char} (h : Stops q text)
    (hpq : ∀ c, q c = false → p c = false) : Stops p text :=
  fun c hc => hpq c (h c hc)

theorem stops_dropWhile (p : Char → Bool) (cs : List Char) : Stops p (cs.dropWhile p) := by
  induction cs with
  | nil => exact stops_nil p
  | cons c cs ih =>
    by_cases hc : p c = true
    · rwa [List.dropWhile_cons_of_pos hc]
    · rw [List.dropWhile_cons_of_neg hc, stops_cons]
      exact Bool.not_eq_true _ ▸ hc

/-- Some tokens make up a text, one after the other, with blanks between and around them. -/
def LaidOut : List Token → List Char → Prop
  | [], text => text.dropWhile Reader.isBlank = []
  | t :: ts, text =>
    ∃ rest, text.dropWhile Reader.isBlank = t.text ++ rest ∧
      (t.isWord = true → Stops isWordChar rest) ∧ LaidOut ts rest

instance decidableStops (p : Char → Bool) : (text : List Char) → Decidable (Stops p text)
  | [] => .isTrue (stops_nil p)
  | _ :: _ => decidable_of_iff _ stops_cons.symm

/-- What is left behind a token is known from the text. -/
theorem laidOut_cons_iff {t : Token} {ts : List Token} {text : List Char} :
    LaidOut (t :: ts) text ↔
      t.text <+: text.dropWhile Reader.isBlank ∧
      (t.isWord = true →
        Stops isWordChar ((text.dropWhile Reader.isBlank).drop t.text.length)) ∧
      LaidOut ts ((text.dropWhile Reader.isBlank).drop t.text.length) := by
  constructor
  · rintro ⟨rest, hrest, h⟩
    rw [hrest, List.drop_left]
    exact ⟨List.prefix_append _ rest, h⟩
  · rintro ⟨⟨rest, hrest⟩, h⟩
    rw [← hrest, List.drop_left] at h
    exact ⟨rest, hrest.symm, h⟩

instance decidableLaidOut : (ts : List Token) → (text : List Char) → Decidable (LaidOut ts text)
  | [], text => inferInstanceAs (Decidable (text.dropWhile Reader.isBlank = []))
  | t :: ts, text =>
    have := decidableLaidOut ts ((text.dropWhile Reader.isBlank).drop t.text.length)
    decidable_of_iff _ laidOut_cons_iff.symm

end EventQuery.Query
