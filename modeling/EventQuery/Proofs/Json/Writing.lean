import EventQuery.Json.Writer
import EventQuery.Proofs.Text.Digits

/-!
# How a written document begins

The text of a document is never empty, and its first character tells a reader what is to come: a
word, a sign, a digit, a quote or a bracket (`Writer.text_eq_cons`). That is no blank, nothing that
stands between or behind the parts of a container, and no character that is encoded by a zero byte.
-/

namespace EventQuery.Json.Writer

/-- What a document may start with. -/
def isStart (c : Char) : Bool :=
  c == 'n' || c == 't' || c == 'f' || c == '"' || c == '[' || c == '\x7b' || c == '-' || c.isDigit

theorem isStart_of_isDigit {c : Char} (h : c.isDigit = true) : isStart c = true := by
  simp [isStart, h]

theorem intText_eq_cons (i : Int) : ∃ c cs, intText i = c :: cs ∧ isStart c = true := by
  obtain ⟨d, ds, hd, hdigit⟩ := Text.toDigits_eq_cons i.natAbs
  unfold intText
  split
  · exact ⟨'-', _, rfl, rfl⟩
  · exact ⟨d, ds, hd, isStart_of_isDigit hdigit⟩

theorem magnitudeText_eq_cons (l : Layout) (x : Binary64) :
    ∃ c cs, l.magnitudeText x = c :: cs ∧ isStart c = true := by
  obtain ⟨d, ds, hd, hdigit⟩ := Text.toDigits_eq_cons (x.shortest l.tie).digits
  have hstart := isStart_of_isDigit hdigit
  unfold Layout.magnitudeText
  split
  · exact ⟨'0', _, rfl, rfl⟩
  · simp only [hd]
    split
    · unfold Layout.positional
      split
      · exact ⟨'0', _, rfl, rfl⟩
      · exact ⟨d, _, rfl, hstart⟩
    · unfold Layout.scientific
      cases ds with
      | nil => exact ⟨d, _, rfl, hstart⟩
      | cons e ds => exact ⟨d, _, rfl, hstart⟩

theorem floatText_eq_cons (x : Binary64) : ∃ c cs, floatText x = c :: cs ∧ isStart c = true := by
  unfold floatText Layout.finiteText
  split
  · exact ⟨'-', _, rfl, rfl⟩
  · exact magnitudeText_eq_cons _ x

theorem numeralText_eq_cons (n : Numeral) :
    ∃ c cs, numeralText n = c :: cs ∧ isStart c = true := by
  cases n with
  | natural n =>
    obtain ⟨d, ds, hd, hdigit⟩ := Text.toDigits_eq_cons n.toNat
    exact ⟨d, ds, hd, isStart_of_isDigit hdigit⟩
  | negative i => exact intText_eq_cons i.toInt
  | float x =>
    rw [numeralText]
    split
    · exact floatText_eq_cons x
    · exact ⟨'n', _, rfl, rfl⟩

/-- A document begins with a character that tells what it is. -/
theorem text_eq_cons (j : Json) : ∃ c cs, text j = c :: cs ∧ isStart c = true := by
  cases j with
  | null => exact ⟨'n', _, rfl, rfl⟩
  | bool b => cases b <;> exact ⟨_, _, rfl, rfl⟩
  | number n => exact numeralText_eq_cons n
  | string s => exact ⟨'"', _, rfl, rfl⟩
  | array items =>
    cases items with
    | nil => exact ⟨'[', _, by rw [text], rfl⟩
    | cons item rest => exact ⟨'[', _, by rw [text]; rfl, rfl⟩
  | object fields =>
    cases fields with
    | nil => exact ⟨'\x7b', _, by rw [text], rfl⟩
    | cons field rest => exact ⟨'\x7b', _, by rw [text]; rfl, rfl⟩

end EventQuery.Json.Writer
