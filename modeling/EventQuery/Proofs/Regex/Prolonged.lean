import EventQuery.Regex.Lexeme.Leaves
import Mathlib.Tactic.Common

/-!
# Lexemes of a longer source
-/

namespace EventQuery.Regex

/-- What stands behind a source that is put into a group between the signs for start and end. -/
def closing : List Char := [')', '$']

/-- The second text is the first one with the closing behind it, unless a comment has taken that. -/
inductive Prolongs : List Char → List Char → Prop
  | behind (s : List Char) : Prolongs s (s ++ closing)
  | taken : Prolongs [] []

namespace Prolongs

variable {s s' : List Char} {c : Char}

theorem of_cons (h : Prolongs (c :: s) s') : ∃ rest', s' = c :: rest' ∧ Prolongs s rest' := by
  cases h
  exact ⟨s ++ closing, rfl, .behind s⟩

end Prolongs

theorem bind_eq_ok {α β : Type} {r : Except Error α} {next : α → Except Error β} {b : β}
    (h : r >>= next = .ok b) : ∃ a, r = .ok a ∧ next a = .ok b := by
  cases r with
  | error e => cases h
  | ok a => exact ⟨a, rfl, h⟩

/-- What the first answer gives the second one gives as well, and what it leaves is prolonged. -/
def Keeps {α : Type} (r r' : Except Error (α × List Char)) : Prop :=
  ∀ a rest, r = .ok (a, rest) → ∃ rest', r' = .ok (a, rest') ∧ Prolongs rest rest'

namespace Keeps

variable {α β : Type}

theorem error (e : Error) (r' : Except Error (α × List Char)) : Keeps (.error e) r' :=
  fun _ _ h => nomatch h

theorem ok {rest rest' : List Char} (h : Prolongs rest rest') (a : α) :
    Keeps (.ok (a, rest)) (.ok (a, rest')) := by
  rintro _ _ ⟨⟩
  exact ⟨rest', rfl, h⟩

theorem bind {r r' : Except Error (α × List Char)}
    {next next' : α × List Char → Except Error (β × List Char)} (hr : Keeps r r')
    (hn : ∀ a rest rest', Prolongs rest rest' → Keeps (next (a, rest)) (next' (a, rest'))) :
    Keeps (r >>= next) (r' >>= next') := by
  cases r with
  | error e => exact error e _
  | ok p =>
    obtain ⟨rest', rfl, hrest⟩ := hr p.1 p.2 rfl
    exact hn p.1 p.2 rest' hrest

/-- After a step that returns no text by itself. -/
theorem after {r : Except Error α} {next next' : α → Except Error (β × List Char)}
    (hn : ∀ a, Keeps (next a) (next' a)) : Keeps (r >>= next) (r >>= next') := by
  cases r with
  | error e => exact error e _
  | ok a => exact hn a

end Keeps

namespace Lexeme

/-! ## Blanks -/

theorem prolongs_skip (inComment : Bool) (s : List Char) :
    Prolongs (skipBlanks.skip inComment s) (skipBlanks.skip inComment (s ++ closing)) := by
  induction s generalizing inComment with
  | nil =>
    cases inComment with
    | true => exact .taken
    | false => exact .behind []
  | cons c s ih =>
    cases inComment with
    | true =>
      rw [List.cons_append, skipBlanks.skip, skipBlanks.skip]
      split
      · exact ih false
      · exact ih true
    | false =>
      rw [List.cons_append, skipBlanks.skip, skipBlanks.skip]
      split
      · exact ih false
      · split
        · exact ih true
        · exact .behind (c :: s)

end Lexeme

/-- Behind blanks and comments the second text is still longer, unless a comment goes on to the end
    of the first. -/
theorem Prolongs.skipBlanks {s s' : List Char} (h : Prolongs s s') (verbose : Bool) :
    Prolongs (Lexeme.skipBlanks verbose s) (Lexeme.skipBlanks verbose s') := by
  cases h with
  | taken => cases verbose <;> exact .taken
  | behind =>
    cases verbose with
    | false => exact .behind s
    | true => exact Lexeme.prolongs_skip false s

/-- Leaving out what comes first, as long as it is of one kind that the closing is not. -/
theorem Prolongs.dropWhile {s s' : List Char} (h : Prolongs s s') {p : Char → Bool}
    (hp : p ')' = false) : Prolongs (s.dropWhile p) (s'.dropWhile p) := by
  cases h with
  | taken => exact .taken
  | behind =>
    induction s with
    | nil =>
      rw [List.nil_append, closing, List.dropWhile_cons, hp]
      exact .behind []
    | cons c s ih =>
      rw [List.cons_append, List.dropWhile_cons, List.dropWhile_cons]
      split
      · exact ih
      · exact .behind (c :: s)

namespace Lexeme

variable {verbose : Bool} {s s' : List Char}

/-! ## Escapes -/

theorem keeps_hexFixed {n : Nat} (h : Prolongs s s') :
    Keeps (hexFixed verbose n s) (hexFixed verbose n s') := by
  induction n generalizing s s' with
  | zero => exact .ok h []
  | succ n ih =>
    cases s with
    | nil => exact .error _ _
    | cons c s =>
      obtain ⟨s', rfl, hs⟩ := h.of_cons
      rw [hexFixed, hexFixed]
      split
      · exact .bind (ih (hs.skipBlanks verbose)) fun ds rest rest' hrest => .ok hrest (c :: ds)
      · exact .error _ _

theorem hexBraced_brace {rest : List Char} (h : skipBlanks verbose s = '\x7d' :: rest) :
    hexBraced verbose s = .ok ([], skipBlanks verbose rest) := by
  rw [hexBraced]
  split <;> simp_all

theorem hexBraced_digit {c : Char} {rest : List Char} (h : skipBlanks verbose s = c :: rest)
    (hc : c ≠ '\x7d') (hd : isHexDigit c = true) :
    hexBraced verbose s = hexBraced verbose rest >>= fun p => return (c :: p.1, p.2) := by
  conv_lhs => rw [hexBraced]
  split
  · next heq => rw [h] at heq; cases heq
  · next heq => rw [h] at heq; cases heq; exact absurd rfl hc
  · next heq => rw [h] at heq; cases heq; rw [if_pos hd]

theorem keeps_hexBraced (h : Prolongs s s') : Keeps (hexBraced verbose s) (hexBraced verbose s') := by
  have hskip := h.skipBlanks verbose
  fun_induction hexBraced verbose s generalizing s' with
  | case1 => exact .error _ _
  | case2 s after heq =>
    rw [heq] at hskip
    obtain ⟨after', heq', hafter⟩ := hskip.of_cons
    rw [hexBraced_brace heq']
    exact .ok (hafter.skipBlanks verbose) []
  | case3 s c after hc heq hd ih =>
    rw [heq] at hskip
    obtain ⟨after', heq', hafter⟩ := hskip.of_cons
    rw [hexBraced_digit heq' hc hd]
    exact .bind (ih hafter (hafter.skipBlanks verbose)) fun ds _ _ hrest => .ok hrest (c :: ds)
  | case4 => exact .error _ _

theorem keeps_hexEscape {count : Nat} (h : Prolongs s s') :
    Keeps (hexEscape verbose count s) (hexEscape verbose count s') := by
  have hskip := h.skipBlanks verbose
  unfold hexEscape
  generalize skipBlanks verbose s = t at hskip ⊢
  generalize skipBlanks verbose s' = t' at hskip ⊢
  cases t with
  | nil => exact .error _ _
  | cons c after =>
    obtain ⟨after', rfl, hafter⟩ := hskip.of_cons
    split
    · exact .error _ _
    · next heq =>
      cases heq
      refine .bind (keeps_hexBraced hafter) fun ds rest rest' hrest => ?_
      dsimp only
      split
      · exact .error _ _
      · split
        · exact .ok hrest _
        · exact .error _ _
    · next hne =>
      split
      · next heq => cases heq
      · next heq => cases heq; exact (hne _ rfl).elim
      · refine .bind (keeps_hexFixed hskip) fun ds rest rest' hrest => ?_
        dsimp only
        split
        · exact .ok hrest _
        · exact .error _ _

theorem upToBrace_brace {rest : List Char} (h : skipBlanks verbose s = '\x7d' :: rest) :
    upToBrace verbose s = .ok ([], rest) := by
  rw [upToBrace]
  split <;> simp_all

theorem upToBrace_cons {c : Char} {rest : List Char} (h : skipBlanks verbose s = c :: rest)
    (hc : c ≠ '\x7d') :
    upToBrace verbose s = upToBrace verbose rest >>= fun p => return (c :: p.1, p.2) := by
  conv_lhs => rw [upToBrace]
  split
  · next heq => rw [h] at heq; cases heq
  · next heq => rw [h] at heq; cases heq; exact absurd rfl hc
  · next heq => rw [h] at heq; cases heq; rfl

theorem keeps_upToBrace (h : Prolongs s s') : Keeps (upToBrace verbose s) (upToBrace verbose s') := by
  fun_induction upToBrace verbose s generalizing s' with
  | case1 => exact .error _ _
  | case2 s after heq =>
    have hskip := h.skipBlanks verbose
    rw [heq] at hskip
    obtain ⟨after', heq', hafter⟩ := hskip.of_cons
    rw [upToBrace_brace heq']
    exact .ok hafter []
  | case3 s c after hc heq ih =>
    have hskip := h.skipBlanks verbose
    rw [heq] at hskip
    obtain ⟨after', heq', hafter⟩ := hskip.of_cons
    rw [upToBrace_cons heq' hc]
    exact .bind (ih hafter) fun cs _ _ hrest => .ok hrest (c :: cs)

theorem keeps_propertyClass {negated : Bool} (h : Prolongs s s') :
    Keeps (propertyClass verbose negated s) (propertyClass verbose negated s') := by
  have hskip := h.skipBlanks verbose
  unfold propertyClass
  generalize skipBlanks verbose s = t at hskip ⊢
  generalize skipBlanks verbose s' = t' at hskip ⊢
  cases t with
  | nil => exact .error _ _
  | cons c after =>
    obtain ⟨after', rfl, hafter⟩ := hskip.of_cons
    split
    · exact .error _ _
    · next heq =>
      cases heq
      exact .bind (keeps_upToBrace hafter) fun name _ _ hrest => .ok hrest _
    · exact .error _ _
    · next hbrace hslash heq =>
      cases heq
      split
      · next heq => cases heq
      · next heq => cases heq; exact (hbrace rfl).elim
      · next heq => cases heq; exact (hslash rfl).elim
      · next heq =>
        cases heq
        exact .ok (hafter.skipBlanks verbose) _

/-- The name ends where something else than a letter or a hyphen stands, as the closing does. -/
theorem prolongs_boundaryName (verbose : Bool) (h : Prolongs s s') :
    (boundaryName verbose s').1 = (boundaryName verbose s).1 ∧
      Prolongs (boundaryName verbose s).2 (boundaryName verbose s').2 := by
  fun_induction boundaryName verbose s generalizing s' with
  | case1 =>
    cases h with
    | behind => rw [List.nil_append, closing, boundaryName]; exact ⟨rfl, .behind []⟩
    | taken => exact ⟨by rw [boundaryName], by rw [boundaryName]; exact .taken⟩
  | case2 c after hc cs rest heq ih =>
    obtain ⟨after', rfl, hafter⟩ := h.of_cons
    obtain ⟨hname, hrest⟩ := ih (hafter.skipBlanks verbose)
    rw [boundaryName, if_pos hc]
    rw [heq] at hname hrest
    exact ⟨congrArg (c :: ·) hname, hrest⟩
  | case3 c after hc =>
    obtain ⟨after', rfl, hafter⟩ := h.of_cons
    rw [boundaryName, if_neg hc]
    exact ⟨rfl, h⟩

/-- What a special boundary is taken for does not change. -/
theorem keeps_specialBoundary (verbose : Bool) (h : Prolongs s s') :
    (specialBoundary verbose s = .ok none → specialBoundary verbose s' = .ok none) ∧
    ∀ a rest, specialBoundary verbose s = .ok (some (a, rest)) →
      ∃ rest', specialBoundary verbose s' = .ok (some (a, rest')) ∧ Prolongs rest rest' := by
  have hskip := h.skipBlanks verbose
  unfold specialBoundary
  generalize skipBlanks verbose s = t at hskip ⊢
  generalize skipBlanks verbose s' = t' at hskip ⊢
  cases t with
  | nil => exact ⟨nofun, nofun⟩
  | cons c after =>
    obtain ⟨after', rfl, hafter⟩ := hskip.of_cons
    obtain ⟨hname, hrest⟩ := prolongs_boundaryName verbose hskip
    dsimp only
    split
    · exact ⟨fun h => h, nofun⟩
    · generalize boundaryName verbose (c :: after) = p at hname hrest ⊢
      generalize boundaryName verbose (c :: after') = p' at hname hrest ⊢
      obtain ⟨name, rest⟩ := p
      obtain ⟨_, rest'⟩ := p'
      cases hname
      cases rest with
      | nil => exact ⟨nofun, nofun⟩
      | cons d rest =>
        obtain ⟨rest', rfl, hbehind⟩ := hrest.of_cons
        refine ⟨fun hfound => ?_, fun a out hfound => ?_⟩
        · split at hfound
          · split_ifs at hfound
            all_goals cases hfound
          · cases hfound
        · split at hfound
          · next heq =>
            cases heq
            split
            · next heq =>
              cases heq
              split_ifs at hfound ⊢
              all_goals cases hfound
              all_goals exact ⟨rest', rfl, hbehind⟩
            · next hne => exact (hne _ _ rfl).elim
          · cases hfound

theorem keeps_codePoint {count : Nat} (h : Prolongs s s') :
    Keeps (codePoint verbose count s) (codePoint verbose count s') :=
  .bind (keeps_hexEscape h) fun l _ _ hrest => .ok hrest (Primitive.literal l)

theorem keeps_escape (h : Prolongs s s') : Keeps (escape verbose s) (escape verbose s') := by
  cases s with
  | nil => exact .error _ _
  | cons c after =>
    obtain ⟨after', rfl, hafter⟩ := h.of_cons
    unfold escape
    dsimp only
    split
    · exact .error _ _
    · split
      all_goals try first
        | exact keeps_codePoint hafter
        | exact keeps_propertyClass hafter
        | exact .ok hafter _
      · -- A boundary of words; a brace behind it may open the name of a special one.
        cases after with
        | nil => cases hafter <;> exact .ok (by constructor) _
        | cons d inside =>
          obtain ⟨inside', rfl, hinside⟩ := hafter.of_cons
          split
          · next heq =>
            cases heq
            obtain ⟨hnone, hsome⟩ := keeps_specialBoundary verbose hinside
            change Keeps (specialBoundary verbose inside >>= _)
              (specialBoundary verbose inside' >>= _)
            cases hspecial : specialBoundary verbose inside with
            | error e => exact .error e _
            | ok found =>
              cases found with
              | none => rw [hnone hspecial]; exact .ok hafter _
              | some p =>
                obtain ⟨rest', hspecial', hrest⟩ := hsome p.1 p.2 hspecial
                rw [hspecial']
                exact .ok hrest _
          · next hne =>
            split
            · next heq => cases heq; exact (hne _ rfl).elim
            · exact .ok hafter _
      · split
        · exact .ok hafter _
        · exact .error _ _

theorem keeps_primitive {c : Char} (h : Prolongs s s') :
    Keeps (primitive verbose c s) (primitive verbose c s') := by
  unfold primitive
  split
  · exact keeps_escape h
  all_goals exact .ok h _

/-! ## Counts -/

theorem prolongs_countDigits (verbose : Bool) (h : Prolongs s s') :
    (countDigits verbose s').1 = (countDigits verbose s).1 ∧
      Prolongs (countDigits verbose s).2 (countDigits verbose s').2 := by
  fun_induction countDigits verbose s generalizing s' with
  | case1 =>
    cases h with
    | behind => rw [List.nil_append, closing, countDigits]; exact ⟨rfl, .behind []⟩
    | taken => exact ⟨by rw [countDigits], by rw [countDigits]; exact .taken⟩
  | case2 c after hc ds rest heq ih =>
    obtain ⟨after', rfl, hafter⟩ := h.of_cons
    obtain ⟨hdigits, hrest⟩ := ih (hafter.skipBlanks verbose)
    rw [countDigits, if_pos hc]
    rw [heq] at hdigits hrest
    exact ⟨congrArg (c :: ·) hdigits, hrest⟩
  | case3 c after hc =>
    obtain ⟨after', rfl, hafter⟩ := h.of_cons
    rw [countDigits, if_neg hc]
    exact ⟨rfl, h⟩

theorem prolongs_count (verbose : Bool) (h : Prolongs s s') :
    (count verbose s').1 = (count verbose s).1 ∧
      Prolongs (count verbose s).2 (count verbose s').2 := by
  have hspace : Text.isWhiteSpace ')' = false := by decide +kernel
  obtain ⟨hdigits, hrest⟩ := prolongs_countDigits verbose (h.dropWhile hspace)
  refine ⟨?_, (hrest.dropWhile hspace).skipBlanks verbose⟩
  simp only [count, hdigits]

theorem counts_exact {c : Char} {rest : List Char} (h : (count verbose s).2 = c :: rest)
    (hc : c ≠ ',') :
    counts verbose s = (count verbose s).1 >>= fun n => return ((n, some n), c :: rest) := by
  unfold counts
  dsimp only
  rw [h]
  split
  · next heq => cases heq
  · next heq => cases heq; exact absurd rfl hc
  · rfl

theorem counts_orMore {rest after : List Char} (h : (count verbose s).2 = ',' :: rest)
    (hrest : skipBlanks verbose rest = '}' :: after) :
    counts verbose s = (count verbose s).1 >>= fun n => return ((n, none), '}' :: after) := by
  unfold counts
  dsimp only
  split <;> simp_all

theorem counts_between {c : Char} {rest after : List Char}
    (h : (count verbose s).2 = ',' :: rest) (hrest : skipBlanks verbose rest = c :: after)
    (hc : c ≠ '}') :
    counts verbose s = (count verbose s).1 >>= fun n => (count verbose (c :: after)).1 >>= fun m =>
      return ((n, some m), (count verbose (c :: after)).2) := by
  unfold counts
  dsimp only
  split <;> simp_all

theorem keeps_counts (h : Prolongs s s') : Keeps (counts verbose s) (counts verbose s') := by
  obtain ⟨hleast, hend⟩ := prolongs_count verbose h
  cases hcount : (count verbose s).2 with
  | nil =>
    have hnone : counts verbose s = .error .repetitionCountUnclosed := by simp [counts, hcount]
    rw [hnone]
    exact .error _ _
  | cons c rest =>
    rw [hcount] at hend
    obtain ⟨rest', hcount', hrest⟩ := hend.of_cons
    by_cases hc : c = ','
    · subst hc
      have hskip := hrest.skipBlanks verbose
      cases hblanks : skipBlanks verbose rest with
      | nil =>
        have hnone : counts verbose s = .error .repetitionCountUnclosed := by
          simp [counts, hcount, hblanks]
        rw [hnone]
        exact .error _ _
      | cons d after =>
        rw [hblanks] at hskip
        obtain ⟨after', hblanks', hafter⟩ := hskip.of_cons
        rw [hblanks'] at hskip
        by_cases hd : d = '}'
        · subst hd
          rw [counts_orMore hcount hblanks, counts_orMore hcount' hblanks', hleast]
          exact .after fun n => .ok hskip _
        · obtain ⟨hmost, hmore⟩ := prolongs_count verbose hskip
          rw [counts_between hcount hblanks hd, counts_between hcount' hblanks' hd, hleast, hmost]
          exact .after fun n => .after fun m => .ok hmore _
    · rw [counts_exact hcount hc, counts_exact hcount' hc, hleast]
      rw [hcount'] at hend
      exact .after fun n => .ok hend _

/-- The sign of reluctance is not the start of the closing. -/
theorem prolongs_greed (h : Prolongs s s') :
    (greed s').1 = (greed s).1 ∧ Prolongs (greed s).2 (greed s').2 := by
  cases s with
  | nil => cases h <;> exact ⟨rfl, by constructor⟩
  | cons c s =>
    obtain ⟨s', rfl, hs⟩ := h.of_cons
    unfold greed
    split
    · next heq => cases heq; exact ⟨rfl, hs⟩
    · next hne =>
      split
      · next heq => cases heq; exact (hne _ rfl).elim
      · exact ⟨rfl, h⟩

theorem keeps_bounds (h : Prolongs s s') : Keeps (bounds verbose s) (bounds verbose s') := by
  have hskip := h.skipBlanks verbose
  unfold bounds
  generalize skipBlanks verbose s = t at hskip ⊢
  generalize skipBlanks verbose s' = t' at hskip ⊢
  cases t with
  | nil => exact .error _ _
  | cons c after =>
    obtain ⟨after', rfl, hafter⟩ := hskip.of_cons
    refine .bind (keeps_counts hskip) fun range rest rest' hrest => ?_
    cases rest with
    | nil => exact .error _ _
    | cons d rest =>
      obtain ⟨rest', rfl, hrest'⟩ := hrest.of_cons
      intro b out hout
      dsimp only at hout ⊢
      split at hout
      · next heq =>
        cases heq
        obtain ⟨hgreedy, hend⟩ := prolongs_greed (hrest'.skipBlanks verbose)
        split
        · next heq =>
          cases heq
          rw [hgreedy]
          split_ifs at hout ⊢
          exact Keeps.ok hend _ _ _ hout
        · next hne => exact (hne _ rfl).elim
      · cases hout

/-! ## Flags and names -/

/-- What ends a list of flags stands within the source if it ends there at all. -/
theorem keeps_flags {seen : List FlagItem} (h : Prolongs s s') : ∀ items last rest,
    flags seen s = .ok (items, last, rest) →
    ∃ rest', flags seen s' = .ok (items, last, rest') ∧ Prolongs rest rest' := by
  induction s generalizing seen s' with
  | nil => exact nofun
  | cons c s ih =>
    obtain ⟨s', rfl, hs⟩ := h.of_cons
    intro items last rest hflags
    rw [flags] at hflags ⊢
    split_ifs at hflags ⊢ with hend hminus hseen
    · split at hflags
      · cases hflags
      · cases hflags
        exact ⟨s', rfl, hs⟩
    · exact ih hs _ _ _ hflags
    · split at hflags
      · cases hflags
      · split_ifs at hflags ⊢ with hdup
        exact ih hs _ _ _ hflags

theorem keeps_groupName {first : Bool} (h : Prolongs s s') :
    Keeps (groupName first s) (groupName first s') := by
  induction s generalizing first s' with
  | nil => exact .error _ _
  | cons c s ih =>
    obtain ⟨s', rfl, hs⟩ := h.of_cons
    by_cases hc : c = '>'
    · subst hc
      rw [groupName, groupName]
      split
      · exact .error _ _
      · exact .ok hs _
    · rw [groupName, groupName]
      · split
        · exact .bind (ih hs) fun cs _ _ hrest => .ok hrest _
        · exact .error _ _
      all_goals exact hc

end Lexeme

end EventQuery.Regex
