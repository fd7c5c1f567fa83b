import EventQuery.Proofs.Regex.Prolonged
import EventQuery.Regex.ClassReader

/-!
# Character classes of a longer source

A class that ends within the source is read alike from the longer one. Whether a hyphen makes a
range is decided by the character that comes next, which may be the first of the closing; but only
a bracket and another hyphen matter there.
-/

namespace EventQuery.Regex

namespace Prolongs

variable {s s' : List Char}

/-- The first character of the closing apart the longer text starts with the same one. -/
theorem head?_iff (h : Prolongs s s') {c : Char} (hc : c ≠ ')') :
    s'.head? = some c ↔ s.head? = some c := by
  cases h with
  | taken => exact Iff.rfl
  | behind =>
    cases s with
    | nil => simp [closing, Ne.symm hc]
    | cons d s => exact Iff.rfl

/-- A character that is searched for and found is found at the same place. -/
theorem dropWhile_found (h : Prolongs s s') {p : Char → Bool} {c : Char} {after : List Char}
    (hfound : s.dropWhile p = c :: after) :
    ∃ after', s'.dropWhile p = c :: after' ∧ Prolongs after after' ∧
      s'.takeWhile p = s.takeWhile p := by
  induction s generalizing s' with
  | nil => cases hfound
  | cons d s ih =>
    obtain ⟨s', rfl, hs⟩ := h.of_cons
    rw [List.dropWhile_cons] at hfound ⊢
    rw [List.takeWhile_cons, List.takeWhile_cons]
    split at hfound
    · next hd =>
      obtain ⟨after', hdrop, hafter, htake⟩ := ih hs hfound
      rw [if_pos hd, if_pos hd, if_pos hd, htake]
      exact ⟨after', hdrop, hafter, rfl⟩
    · next hd =>
      cases hfound
      rw [if_neg hd, if_neg hd, if_neg hd]
      exact ⟨s', rfl, hs, rfl⟩

/-- One that is not found is not found in the closing either. -/
theorem dropWhile_nil (h : Prolongs s s') {p : Char → Bool} (hp : closing.dropWhile p = [])
    (hnone : s.dropWhile p = []) : s'.dropWhile p = [] := by
  cases h with
  | taken => rfl
  | behind => rw [List.dropWhile_append, hnone, List.isEmpty_nil, if_pos rfl, hp]

end Prolongs

namespace Lexeme

theorem visible_append {inComment : Bool} {s : List Char} (t : List Char) {c : Char}
    (h : peekPastBlanks.visible inComment s = some c) :
    peekPastBlanks.visible inComment (s ++ t) = some c := by
  fun_induction peekPastBlanks.visible inComment s with
  | case1 => cases h
  | case2 inComment d s hd ih =>
    rw [List.cons_append, peekPastBlanks.visible, if_pos hd]
    exact ih h
  | case3 inComment d s hd hcomment ih =>
    rw [List.cons_append, peekPastBlanks.visible, if_neg hd, if_pos hcomment]
    exact ih h
  | case4 inComment d s hd hcomment =>
    rw [List.cons_append, peekPastBlanks.visible, if_neg hd, if_neg hcomment]
    exact h

/-- Where the source has nothing visible any more, the closing comes next. -/
theorem visible_closing {inComment : Bool} {s : List Char}
    (h : peekPastBlanks.visible inComment s = none) :
    peekPastBlanks.visible inComment (s ++ closing) = some ')' := by
  fun_induction peekPastBlanks.visible inComment s with
  | case1 inComment => cases inComment <;> decide +kernel
  | case2 inComment d s hd ih =>
    rw [List.cons_append, peekPastBlanks.visible, if_pos hd]
    exact ih h
  | case3 inComment d s hd hcomment ih =>
    rw [List.cons_append, peekPastBlanks.visible, if_neg hd, if_pos hcomment]
    exact ih h
  | case4 => cases h

/-- What comes next is the same, unless it is the closing or the start of a comment. -/
theorem peekPastBlanks_prolonged {s s' : List Char} (verbose : Bool) (h : Prolongs s s') {d : Char}
    (hparen : d ≠ ')') (hblank : Text.isWhiteSpace d = false) (hhash : d ≠ '#') :
    peekPastBlanks verbose s' = some d ↔ peekPastBlanks verbose s = some d := by
  have hfirst := h.head?_iff hparen
  cases h with
  | taken => exact Iff.rfl
  | behind =>
    cases verbose with
    | false => exact hfirst
    | true =>
      rw [peekPastBlanks, peekPastBlanks, if_pos rfl, if_pos rfl]
      cases hvisible : peekPastBlanks.visible false s with
      | some c => rw [visible_append closing hvisible]; exact Iff.rfl
      | none =>
        -- A first character that is not visible is a blank or starts a comment.
        have hhead : s.head? ≠ some d := by
          rintro hhead
          obtain ⟨rest, rfl⟩ := List.head?_eq_some_iff.mp hhead
          simp [peekPastBlanks.visible, hblank, hhash] at hvisible
        rw [visible_closing hvisible]
        simp [Ne.symm hparen, hhead]

end Lexeme

namespace ClassReader

open Lexeme

variable {verbose : Bool} {s s' : List Char}

/-! ## The start of a class -/

theorem leadingHyphens_hyphen {level : ClassLevel} {c : Char} {rest : List Char}
    (h : skipBlanks verbose s = c :: rest) :
    leadingHyphens verbose level ('-' :: s) =
      leadingHyphens verbose (level.push (.literal ⟨'-', false⟩)) (c :: rest) := by
  conv_lhs => rw [leadingHyphens]
  split
  · next heq => rw [h] at heq; cases heq
  · next heq => rw [h] at heq; cases heq; rfl

theorem leadingHyphens_other {level : ClassLevel} (h : s.head? ≠ some '-') :
    leadingHyphens verbose level s = .ok (level, s) := by
  rw [leadingHyphens]
  rintro rest rfl
  exact h rfl

theorem keeps_leadingHyphens {level : ClassLevel} (h : Prolongs s s') :
    Keeps (leadingHyphens verbose level s) (leadingHyphens verbose level s') := by
  fun_induction leadingHyphens verbose level s generalizing s' with
  | case1 => exact .error _ _
  | case2 level s c rest heq ih =>
    obtain ⟨s', rfl, hs⟩ := h.of_cons
    have hskip := hs.skipBlanks verbose
    rw [heq] at hskip
    obtain ⟨rest', heq', hrest⟩ := hskip.of_cons
    rw [leadingHyphens_hyphen heq']
    rw [heq'] at hskip
    exact ih hskip
  | case3 level s hne =>
    have hother : s'.head? ≠ some '-' := by
      intro hhead
      obtain ⟨rest, rfl⟩ := List.head?_eq_some_iff.mp ((h.head?_iff (by decide)).mp hhead)
      exact hne rest rfl
    rw [leadingHyphens_other hother]
    exact .ok h level

theorem keeps_negation (h : Prolongs s s') : Keeps (negation verbose s) (negation verbose s') := by
  have hskip := h.skipBlanks verbose
  unfold negation
  generalize skipBlanks verbose s = t at hskip ⊢
  generalize skipBlanks verbose s' = t' at hskip ⊢
  cases t with
  | nil => exact .error _ _
  | cons c after =>
    obtain ⟨after', rfl, hafter⟩ := hskip.of_cons
    intro a out hout
    split at hout
    · cases hout
    · next heq =>
      cases heq
      split
      · next heq => cases heq
      · next heq =>
        cases heq
        have hblanks := hafter.skipBlanks verbose
        generalize skipBlanks verbose after = u at hblanks hout
        generalize skipBlanks verbose after' = u' at hblanks ⊢
        cases u with
        | nil => cases hout
        | cons d rest =>
          obtain ⟨rest', rfl, -⟩ := hblanks.of_cons
          exact Keeps.ok hblanks true _ _ hout
      · next hne => exact (hne _ rfl).elim
    · next hne =>
      split
      · next heq => cases heq
      · next heq => cases heq; exact (hne _ rfl).elim
      · exact Keeps.ok hskip false _ _ hout

theorem keeps_start (h : Prolongs s s') : Keeps (start verbose s) (start verbose s') := by
  refine .bind (keeps_negation h) fun negated t t' ht => ?_
  refine .bind (keeps_leadingHyphens ht) fun level u u' hu => ?_
  dsimp only
  intro a out hout
  split at hout
  · next after hitems =>
    obtain ⟨after', rfl, hafter⟩ := hu.of_cons
    have hblanks := hafter.skipBlanks verbose
    split
    · next heq =>
      cases heq
      generalize skipBlanks verbose after = v at hblanks hout
      generalize skipBlanks verbose after' = v' at hblanks ⊢
      cases v with
      | nil => cases hout
      | cons d rest =>
        obtain ⟨rest', rfl, -⟩ := hblanks.of_cons
        exact Keeps.ok hblanks _ _ _ hout
    · next hne => exact (hne _ hitems rfl).elim
  · next hne =>
    split
    · next after' hitems =>
      obtain ⟨after, rfl⟩ := List.head?_eq_some_iff.mp ((hu.head?_iff (by decide)).mp rfl)
      exact (hne _ hitems rfl).elim
    · exact Keeps.ok hu level _ _ hout

theorem keeps_primitive {c : Char} (h : Prolongs s s') :
    Keeps (primitive verbose c s) (primitive verbose c s') := by
  unfold primitive
  split
  · exact keeps_escape h
  · exact .ok h _

theorem keeps_rangeOrItem {c : Char} (h : Prolongs s s') :
    Keeps (rangeOrItem verbose c s) (rangeOrItem verbose c s') := by
  refine .bind (keeps_primitive h) fun first t t' ht => ?_
  have hskip := ht.skipBlanks verbose
  dsimp only
  generalize skipBlanks verbose t = u at hskip ⊢
  generalize skipBlanks verbose t' = u' at hskip ⊢
  cases u with
  | nil => exact .error _ _
  | cons d after =>
    obtain ⟨after', rfl, hafter⟩ := hskip.of_cons
    intro a out hout
    split at hout
    · cases hout
    · next heq =>
      cases heq
      split
      · next heq => cases heq
      · next heq =>
        cases heq
        have hnext := or_congr
          (peekPastBlanks_prolonged verbose hafter (d := ']') (by decide) (by decide +kernel)
            (by decide))
          (peekPastBlanks_prolonged verbose hafter (d := '-') (by decide) (by decide +kernel)
            (by decide))
        split at hout
        · next hsingle =>
          rw [if_pos (hnext.mpr hsingle)]
          exact (Keeps.after fun item => .ok hskip item) _ _ hout
        · next hsingle =>
          rw [if_neg (mt hnext.mp hsingle)]
          have hblanks := hafter.skipBlanks verbose
          generalize skipBlanks verbose after = v at hblanks hout
          generalize skipBlanks verbose after' = v' at hblanks ⊢
          cases v with
          | nil => cases hout
          | cons d rest =>
            obtain ⟨rest', rfl, hrest⟩ := hblanks.of_cons
            refine (Keeps.bind (keeps_primitive hrest) fun last rest rest' hrest => ?_) _ _ hout
            refine .after fun lo => .after fun hi => ?_
            split
            · exact .error _ _
            · exact .ok hrest _
      · next hne => exact (hne _ rfl).elim
    · next hne =>
      split
      · next heq => cases heq
      · next heq => cases heq; exact (hne _ rfl).elim
      · exact (Keeps.after fun item => .ok hskip item) _ _ hout

/-! ## Classes by name -/

/-- What is found in the source is found in the longer text, and nothing else is. -/
def FindsAlike {α : Type} (o o' : Option (α × List Char)) : Prop :=
  (o = none → o' = none) ∧
    ∀ a rest, o = some (a, rest) → ∃ rest', o' = some (a, rest') ∧ Prolongs rest rest'

theorem upToColon_closed {negated : Bool} {rest : List Char}
    (h : s.dropWhile (· != ':') = ':' :: ']' :: rest) :
    named?.upToColon negated s =
      (asciiClass? (String.ofList (s.takeWhile (· != ':')))).map fun kind =>
        (.ascii kind negated, rest) := by
  rw [named?.upToColon]
  split
  · next heq => rw [h] at heq; cases heq; rfl
  · next hne => exact (hne _ h).elim

theorem upToColon_unclosed {negated : Bool}
    (h : ∀ rest, s.dropWhile (· != ':') ≠ ':' :: ']' :: rest) :
    named?.upToColon negated s = none := by
  rw [named?.upToColon]
  split
  · next heq => exact absurd heq (h _)
  · rfl

theorem findsAlike_upToColon {negated : Bool} (h : Prolongs s s') :
    FindsAlike (named?.upToColon negated s) (named?.upToColon negated s') := by
  by_cases hclosed : ∃ rest, s.dropWhile (· != ':') = ':' :: ']' :: rest
  · obtain ⟨rest, hclosed⟩ := hclosed
    obtain ⟨after', hdrop, hafter, htake⟩ := h.dropWhile_found hclosed
    obtain ⟨rest', rfl, hrest⟩ := hafter.of_cons
    rw [upToColon_closed hclosed, upToColon_closed hdrop, htake]
    cases asciiClass? (String.ofList (s.takeWhile (· != ':'))) with
    | none => exact ⟨fun h => h, nofun⟩
    | some kind => exact ⟨nofun, by rintro _ _ ⟨⟩; exact ⟨rest', rfl, hrest⟩⟩
  · have hclosed' : ∀ rest', s'.dropWhile (· != ':') ≠ ':' :: ']' :: rest' := by
      intro rest' hdrop
      cases hfound : s.dropWhile (· != ':') with
      | nil =>
        rw [h.dropWhile_nil (by decide) hfound] at hdrop
        cases hdrop
      | cons c after =>
        obtain ⟨after', hdrop', hafter, -⟩ := h.dropWhile_found hfound
        rw [hdrop] at hdrop'
        cases hdrop'
        obtain ⟨rest, rfl⟩ := List.head?_eq_some_iff.mp ((hafter.head?_iff (by decide)).mp rfl)
        exact hclosed ⟨rest, hfound⟩
    rw [upToColon_unclosed hclosed']
    exact ⟨fun _ => rfl, by rw [upToColon_unclosed (not_exists.mp hclosed)]; nofun⟩

theorem named?_plain (h : s.head? ≠ some '^') :
    named? (':' :: s) = named?.upToColon false s := by
  rw [named?]
  rintro rest ⟨⟩
  exact h rfl

theorem named?_none (h : s.head? ≠ some ':') : named? s = none := by
  rw [named?]
  · rintro rest rfl
    exact h rfl
  · rintro rest rfl
    exact h rfl

theorem findsAlike_named (h : Prolongs s s') : FindsAlike (named? s) (named? s') := by
  by_cases hcolon : s.head? = some ':'
  · obtain ⟨t, rfl⟩ := List.head?_eq_some_iff.mp hcolon
    obtain ⟨t', rfl, ht⟩ := h.of_cons
    by_cases hnegated : t.head? = some '^'
    · obtain ⟨u, rfl⟩ := List.head?_eq_some_iff.mp hnegated
      obtain ⟨u', rfl, hu⟩ := ht.of_cons
      exact findsAlike_upToColon hu
    · rw [named?_plain hnegated, named?_plain (mt (ht.head?_iff (by decide)).mp hnegated)]
      exact findsAlike_upToColon ht
  · rw [named?_none hcolon, named?_none (mt (h.head?_iff (by decide)).mp hcolon)]
    exact ⟨fun h => h, nofun⟩

/-! ## The whole class -/

section

variable {outer : List ClassLevel} {level : ClassLevel}

theorem classFrom_named {after rest : List Char} {item : ClassSet}
    (h : skipBlanks verbose s = '[' :: after) (hnamed : named? after = some (item, rest)) :
    classFrom verbose outer level s = classFrom verbose outer (level.push item) rest := by
  conv_lhs => rw [classFrom]
  split
  case h_2 heq =>
    cases h.symm.trans heq
    split
    · next heq => cases hnamed.symm.trans heq; rfl
    · next heq => cases hnamed.symm.trans heq
  case h_7 hne _ _ _ _ heq => cases h.symm.trans heq; exact (hne rfl).elim
  all_goals next heq => cases h.symm.trans heq

theorem classFrom_nested {after rest : List Char} {inner : ClassLevel}
    (h : skipBlanks verbose s = '[' :: after) (hnamed : named? after = none)
    (hstart : start verbose after = .ok (inner, rest)) :
    classFrom verbose outer level s = classFrom verbose (level :: outer) inner rest := by
  conv_lhs => rw [classFrom]
  split
  case h_2 heq =>
    cases h.symm.trans heq
    split
    · next heq => cases hnamed.symm.trans heq
    · split
      · next heq => cases hstart.symm.trans heq
      · next heq => cases hstart.symm.trans heq; rfl
  case h_7 hne _ _ _ _ heq => cases h.symm.trans heq; exact (hne rfl).elim
  all_goals next heq => cases h.symm.trans heq

theorem classFrom_end {after : List Char} (h : skipBlanks verbose s = ']' :: after) :
    classFrom verbose [] level s = .ok ((level.negated, level.body), after) := by
  rw [classFrom]
  split
  case h_3 heq => cases h.symm.trans heq; rfl
  case h_7 hne _ _ _ heq => cases h.symm.trans heq; exact (hne rfl).elim
  all_goals next heq => cases h.symm.trans heq

theorem classFrom_close {after : List Char} {parent : ClassLevel}
    (h : skipBlanks verbose s = ']' :: after) :
    classFrom verbose (parent :: outer) level s =
      classFrom verbose outer (parent.push (.bracketed level.negated level.body)) after := by
  conv_lhs => rw [classFrom]
  split
  case h_3 heq => cases h.symm.trans heq; rfl
  case h_7 hne _ _ _ heq => cases h.symm.trans heq; exact (hne rfl).elim
  all_goals next heq => cases h.symm.trans heq

theorem classFrom_intersection {after : List Char}
    (h : skipBlanks verbose s = '&' :: '&' :: after) :
    classFrom verbose outer level s =
      classFrom verbose outer (level.operator .intersection) after := by
  conv_lhs => rw [classFrom]
  split
  case h_4 heq => cases h.symm.trans heq; rfl
  case h_7 hne _ _ heq => cases h.symm.trans heq; exact (hne _ rfl rfl).elim
  all_goals next heq => cases h.symm.trans heq

theorem classFrom_difference {after : List Char}
    (h : skipBlanks verbose s = '-' :: '-' :: after) :
    classFrom verbose outer level s =
      classFrom verbose outer (level.operator .difference) after := by
  conv_lhs => rw [classFrom]
  split
  case h_5 heq => cases h.symm.trans heq; rfl
  case h_7 hne _ heq => cases h.symm.trans heq; exact (hne _ rfl rfl).elim
  all_goals next heq => cases h.symm.trans heq

theorem classFrom_symmetricDifference {after : List Char}
    (h : skipBlanks verbose s = '~' :: '~' :: after) :
    classFrom verbose outer level s =
      classFrom verbose outer (level.operator .symmetricDifference) after := by
  conv_lhs => rw [classFrom]
  split
  case h_6 heq => cases h.symm.trans heq; rfl
  case h_7 hne heq => cases h.symm.trans heq; exact (hne _ rfl rfl).elim
  all_goals next heq => cases h.symm.trans heq

/-- Any other character is an item or starts one. -/
theorem classFrom_item {c : Char} {after rest : List Char} {item : ClassSet}
    (h : skipBlanks verbose s = c :: after) (hopen : c ≠ '[') (hclose : c ≠ ']')
    (hdouble : c = '&' ∨ c = '-' ∨ c = '~' → after.head? ≠ some c)
    (hitem : rangeOrItem verbose c after = .ok (item, rest)) :
    classFrom verbose outer level s = classFrom verbose outer (level.push item) rest := by
  conv_lhs => rw [classFrom]
  split
  · next heq => cases h.symm.trans heq
  · next heq => cases h.symm.trans heq; exact absurd rfl hopen
  · next heq => cases h.symm.trans heq; exact absurd rfl hclose
  · next heq => cases h.symm.trans heq; exact absurd rfl (hdouble (.inl rfl))
  · next heq => cases h.symm.trans heq; exact absurd rfl (hdouble (.inr (.inl rfl)))
  · next heq => cases h.symm.trans heq; exact absurd rfl (hdouble (.inr (.inr rfl)))
  · next heq =>
    cases h.symm.trans heq
    split
    · next heq => cases hitem.symm.trans heq
    · next heq => cases hitem.symm.trans heq; rfl

end

theorem keeps_classFrom {outer : List ClassLevel} {level : ClassLevel} (h : Prolongs s s') :
    Keeps (classFrom verbose outer level s) (classFrom verbose outer level s') := by
  have hskip := h.skipBlanks verbose
  fun_induction classFrom verbose outer level s generalizing s'
  case case1 => exact .error _ _
  case case2 hblanks item rest hnamed ih =>
    rw [hblanks] at hskip
    obtain ⟨after', hblanks', hafter⟩ := hskip.of_cons
    obtain ⟨rest', hnamed', hrest⟩ := (findsAlike_named hafter).2 _ _ hnamed
    rw [classFrom_named hblanks' hnamed']
    exact ih hrest (hrest.skipBlanks verbose)
  case case3 => exact .error _ _
  case case4 hblanks hnamed inner rest hstart ih =>
    rw [hblanks] at hskip
    obtain ⟨after', hblanks', hafter⟩ := hskip.of_cons
    obtain ⟨rest', hstart', hrest⟩ := keeps_start hafter _ _ hstart
    rw [classFrom_nested hblanks' ((findsAlike_named hafter).1 hnamed) hstart']
    exact ih hrest (hrest.skipBlanks verbose)
  case case5 hblanks =>
    rw [hblanks] at hskip
    obtain ⟨after', hblanks', hafter⟩ := hskip.of_cons
    rw [classFrom_end hblanks']
    exact .ok hafter _
  case case6 hblanks parent more ih =>
    rw [hblanks] at hskip
    obtain ⟨after', hblanks', hafter⟩ := hskip.of_cons
    rw [classFrom_close hblanks']
    exact ih hafter (hafter.skipBlanks verbose)
  case case7 hblanks ih =>
    rw [hblanks] at hskip
    obtain ⟨_, hblanks', hafter⟩ := hskip.of_cons
    obtain ⟨after', rfl, hrest⟩ := hafter.of_cons
    rw [classFrom_intersection hblanks']
    exact ih hrest (hrest.skipBlanks verbose)
  case case8 hblanks ih =>
    rw [hblanks] at hskip
    obtain ⟨_, hblanks', hafter⟩ := hskip.of_cons
    obtain ⟨after', rfl, hrest⟩ := hafter.of_cons
    rw [classFrom_difference hblanks']
    exact ih hrest (hrest.skipBlanks verbose)
  case case9 hblanks ih =>
    rw [hblanks] at hskip
    obtain ⟨_, hblanks', hafter⟩ := hskip.of_cons
    obtain ⟨after', rfl, hrest⟩ := hafter.of_cons
    rw [classFrom_symmetricDifference hblanks']
    exact ih hrest (hrest.skipBlanks verbose)
  case case10 => exact .error _ _
  case case11 c after hopen hclose hand hminus htilde hblanks item rest hitem ih =>
    rw [hblanks] at hskip
    obtain ⟨after', hblanks', hafter⟩ := hskip.of_cons
    obtain ⟨rest', hitem', hrest⟩ := keeps_rangeOrItem hafter _ _ hitem
    have hsingle : c = '&' ∨ c = '-' ∨ c = '~' → after'.head? ≠ some c := by
      intro hc hhead
      have hparen : c ≠ ')' := by rintro rfl; revert hc; decide
      obtain ⟨rest, rfl⟩ := List.head?_eq_some_iff.mp ((hafter.head?_iff hparen).mp hhead)
      rcases hc with rfl | rfl | rfl
      · exact hand _ rfl rfl
      · exact hminus _ rfl rfl
      · exact htilde _ rfl rfl
    rw [classFrom_item hblanks' hopen hclose hsingle hitem']
    exact ih hrest (hrest.skipBlanks verbose)

/-- A class that the source has as a whole is the same class in the longer text. -/
theorem keeps_bracketed (h : Prolongs s s') :
    Keeps (bracketed verbose s) (bracketed verbose s') :=
  .bind (keeps_start h) fun _ _ _ ht => .bind (keeps_classFrom ht) fun _ _ _ hrest => .ok hrest _

end ClassReader

end EventQuery.Regex
