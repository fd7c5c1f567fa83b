import EventQuery.Regex.Lexeme

/-!
# What is left after a lexeme

No reader makes the text longer. `Leaves n r` says so of one answer: what it leaves is no longer
than `n`. The lemmas go along the readers, so that those which call themselves can cite them.
-/

namespace EventQuery.Regex

/-- An answer that leaves at most so much text. -/
def Leaves {α : Type} (n : Nat) (r : Except Error (α × List Char)) : Prop :=
  ∀ a rest, r = .ok (a, rest) → rest.length ≤ n

namespace Leaves

variable {α β : Type} {m n : Nat}

@[simp] theorem ok_iff {a : α} {rest : List Char} :
    Leaves n (.ok (a, rest)) ↔ rest.length ≤ n :=
  ⟨fun h => h a rest rfl, fun h _ _ e => by cases e; exact h⟩

theorem mono {r : Except Error (α × List Char)} (h : Leaves m r) (hm : m ≤ n) : Leaves n r :=
  fun a rest e => Nat.le_trans (h a rest e) hm

@[simp] theorem pure_iff {a : α} {rest : List Char} :
    Leaves n (pure (a, rest)) ↔ rest.length ≤ n := ok_iff

@[simp] theorem error (e : Error) : Leaves n (.error e : Except Error (α × List Char)) :=
  fun _ _ h => nomatch h

theorem bind {r : Except Error (α × List Char)}
    {next : α × List Char → Except Error (β × List Char)} (hr : Leaves m r)
    (hn : ∀ a rest, rest.length ≤ m → Leaves n (next (a, rest))) : Leaves n (r >>= next) :=
  match r with
  | .error _ => error _
  | .ok (a, rest) => hn a rest (hr a rest rfl)

/-- After a step that returns no text by itself. -/
theorem after {r : Except Error α} {next : α → Except Error (β × List Char)}
    (hn : ∀ a, r = .ok a → Leaves n (next a)) : Leaves n (r >>= next) :=
  match r, hn with
  | .error _, _ => error _
  | .ok a, hn => hn a rfl

end Leaves

namespace Lexeme

theorem leaves_hexFixed {verbose : Bool} {n : Nat} {s : List Char} :
    Leaves s.length (hexFixed verbose n s) := by
  fun_induction hexFixed verbose n s with
  | case1 s => simp
  | case2 => simp
  | case3 n c s hc ih =>
    have := length_skipBlanks_le verbose s
    exact .bind ih fun _ _ _ => by simp; omega
  | case4 => simp

theorem leaves_hexBraced {verbose : Bool} {s : List Char} :
    Leaves s.length (hexBraced verbose s) := by
  fun_induction hexBraced verbose s with
  | case1 => simp
  | case2 s after h =>
    have := length_lt_of_skipBlanks h
    have := length_skipBlanks_le verbose after
    simp; omega
  | case3 s c after _ h _ ih =>
    have := length_lt_of_skipBlanks h
    exact .bind ih fun _ _ _ => by simp; omega
  | case4 => simp

theorem leaves_hexEscape {verbose : Bool} {count : Nat} {s : List Char} :
    Leaves s.length (hexEscape verbose count s) := by
  have := length_skipBlanks_le verbose s
  unfold hexEscape
  split
  · simp
  · next h =>
    have := length_lt_of_skipBlanks h
    refine .bind leaves_hexBraced fun ds _ _ => ?_
    dsimp only
    cases ds.isEmpty with
    | true => simp
    | false => cases scalar? (hexValue ds) <;> simp; omega
  · refine .bind leaves_hexFixed fun ds _ _ => ?_
    dsimp only
    cases scalar? (hexValue ds) <;> simp; omega

theorem leaves_upToBrace {verbose : Bool} {s : List Char} :
    Leaves s.length (upToBrace verbose s) := by
  fun_induction upToBrace verbose s with
  | case1 => simp
  | case2 s after h =>
    have := length_lt_of_skipBlanks h
    simp; omega
  | case3 s c after _ h ih =>
    have := length_lt_of_skipBlanks h
    exact .bind ih fun _ _ _ => by simp; omega

theorem leaves_propertyClass {verbose negated : Bool} {s : List Char} :
    Leaves s.length (propertyClass verbose negated s) := by
  unfold propertyClass
  split
  · simp
  · next h =>
    have := length_lt_of_skipBlanks h
    exact .bind leaves_upToBrace fun _ _ _ => by simp; omega
  · simp
  · next after _ _ h =>
    have := length_lt_of_skipBlanks h
    have := length_skipBlanks_le verbose after
    simp; omega

theorem length_boundaryName_le (verbose : Bool) (s : List Char) :
    (boundaryName verbose s).2.length ≤ s.length := by
  fun_induction boundaryName verbose s with
  | case1 => simp
  | case2 c s hc _ _ heq ih =>
    have := length_skipBlanks_le verbose s
    simp_all; omega
  | case3 => simp

theorem length_of_specialBoundary {verbose : Bool} {s rest : List Char} {a : Assertion}
    (h : specialBoundary verbose s = .ok (some (a, rest))) : rest.length ≤ s.length := by
  unfold specialBoundary at h
  split at h
  · cases h
  · next c after h' =>
    have := length_lt_of_skipBlanks h'
    have hb := length_boundaryName_le verbose (c :: after)
    split at h
    · cases h
    · split at h
      · next heq =>
        rw [heq] at hb
        simp only [List.length_cons] at hb
        repeat' split at h
        all_goals cases h
        all_goals omega
      · cases h

theorem leaves_codePoint {verbose : Bool} {count : Nat} {s : List Char} :
    Leaves s.length (codePoint verbose count s) :=
  .bind leaves_hexEscape fun _ _ h => by simpa using h

theorem leaves_escape {verbose : Bool} {s : List Char} : Leaves s.length (escape verbose s) := by
  unfold escape
  split
  · simp
  · next c s =>
    have hex (count : Nat) : Leaves (c :: s).length (codePoint verbose count s) :=
      leaves_codePoint.mono (by simp)
    have property (negated : Bool) : Leaves (c :: s).length (propertyClass verbose negated s) :=
      leaves_propertyClass.mono (by simp)
    dsimp only
    split
    · simp
    · split
      all_goals first
        | exact hex _
        | exact property _
        | simp
      · split
        · next inside =>
          refine .after fun found h => ?_
          cases found with
          | none => simp
          | some p =>
            have := length_of_specialBoundary h
            simp; omega
        · simp
      · split <;> simp

theorem leaves_primitive {verbose : Bool} {c : Char} {s : List Char} :
    Leaves s.length (primitive verbose c s) := by
  unfold primitive
  split
  · exact leaves_escape
  all_goals simp

theorem length_countDigits_le (verbose : Bool) (s : List Char) :
    (countDigits verbose s).2.length ≤ s.length := by
  fun_induction countDigits verbose s with
  | case1 => simp
  | case2 c s hc _ _ heq ih =>
    have := length_skipBlanks_le verbose s
    simp_all; omega
  | case3 => simp

theorem length_count_le (verbose : Bool) (s : List Char) :
    (count verbose s).2.length ≤ s.length := by
  have h₁ := (List.dropWhile_sublist Text.isWhiteSpace (l := s)).length_le
  have h₂ := length_countDigits_le verbose (s.dropWhile Text.isWhiteSpace)
  have h₃ := (List.dropWhile_sublist Text.isWhiteSpace
    (l := (countDigits verbose (s.dropWhile Text.isWhiteSpace)).2)).length_le
  exact Nat.le_trans (length_skipBlanks_le ..) (by omega)

theorem length_greed_le (s : List Char) : (greed s).2.length ≤ s.length := by
  unfold greed
  split <;> simp

theorem leaves_counts {verbose : Bool} {s : List Char} :
    Leaves s.length (counts verbose s) := by
  have hc := length_count_le verbose s
  unfold counts
  dsimp only
  split
  · simp
  · next rest h =>
    rw [h, List.length_cons] at hc
    have := length_skipBlanks_le verbose rest
    split
    · simp
    · next h' =>
      have := length_lt_of_skipBlanks h'
      exact .after fun _ _ => by simp; omega
    · have := length_count_le verbose (skipBlanks verbose rest)
      exact .after fun _ _ => .after fun _ _ => by simp; omega
  · exact .after fun _ _ => by simpa using hc

theorem leaves_bounds {verbose : Bool} {s : List Char} :
    Leaves s.length (bounds verbose s) := by
  have := length_skipBlanks_le verbose s
  unfold bounds
  split
  · simp
  · refine .bind leaves_counts fun range rest h => ?_
    dsimp only
    split
    · next rest =>
      have := length_skipBlanks_le verbose rest
      have := length_greed_le (skipBlanks verbose rest)
      simp only [List.length_cons] at h
      split
      · simp
      · simp; omega
    · simp

theorem length_of_flags {seen items : List FlagItem} {s rest : List Char} {last : Char}
    (h : flags seen s = .ok (items, last, rest)) : rest.length < s.length := by
  fun_induction flags seen s <;> simp_all <;> omega

theorem leaves_groupName {first : Bool} {s : List Char} :
    Leaves s.length (groupName first s) := by
  fun_induction groupName first s with
  | case1 => simp
  | case2 => simp
  | case3 => simp
  | case4 first c s _ _ ih => exact .bind ih fun _ _ _ => by simp; omega
  | case5 => simp

end Lexeme

end EventQuery.Regex
