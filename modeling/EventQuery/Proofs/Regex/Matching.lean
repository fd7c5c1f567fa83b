import EventQuery.Regex.Match
import Mathlib.Data.Nat.Bitwise

/-!
# What the matcher finds

The matcher computes with sets of positions, and what it computes are the ends of all possible
matches: a position is among them if the expression can match from one of the given positions to it
(`Regex.leads_ends`). Which of several matches would be preferred plays no part. So an expression
occurs in a text just if it can match some part of it (`Regex.occursIn_iff`).

A repetition is so many rounds (`Regex.Rounds`). A round never goes back, so the rounds that stay
where they are can be left out, and there are at most as many others as the text has characters
(`Rounds.shorten`): the matcher may stop counting there. That it also stops as soon as a round adds
nothing is right because no further one will.

Bounds that are the wrong way round would be a mistake of the matcher, which does not look for it;
expressions are taken here to have none (`Regex.Bounded`).
-/

namespace EventQuery.Regex

variable {w : List Char}

/-! ## Positions -/

namespace Positions

theorem testBit_ofMarks (marks : List Bool) (i : Nat) :
    (ofMarks marks).testBit i = marks[i]?.getD false := by
  induction marks generalizing i with
  | nil => simp [ofMarks]
  | cons mark marks ih =>
    rw [ofMarks]
    cases i with
    | zero => cases mark <;> simp [Nat.testBit_zero]
    | succ i =>
      rw [Nat.testBit_succ, List.getElem?_cons_succ, ← ih]
      congr 1
      have := mark.toNat_lt
      omega

theorem testBit_all (w : List Char) (i : Nat) : (all w).testBit i = decide (i ≤ w.length) := by
  rw [all, Nat.one_shiftLeft, Nat.testBit_two_pow_sub_one]
  exact decide_eq_decide.mpr Nat.lt_succ_iff

theorem testBit_before (s : CodeSet) (w : List Char) (i : Nat) :
    (before s w).testBit i = true ↔ ∃ c, w[i]? = some c ∧ s.contains c = true := by
  rw [before, testBit_ofMarks, List.getElem?_map]
  cases w[i]? <;> simp

theorem getElem?_marks (l : Look) (last : Option Char) (w : List Char) (i : Nat) :
    (satisfying.marks l last w)[i]? =
      if i ≤ w.length then
        some (l.holds (if i = 0 then last else charBefore w i) w[i]?)
      else none := by
  induction w generalizing last i with
  | nil => cases i <;> simp [satisfying.marks]
  | cons c cs ih =>
    rw [satisfying.marks]
    cases i with
    | zero => simp
    | succ i =>
      rw [List.getElem?_cons_succ, ih]
      cases i <;> simp [charBefore]

theorem testBit_satisfying (l : Look) (w : List Char) (i : Nat) :
    (satisfying l w).testBit i = true ↔ i ≤ w.length ∧ l.holds (charBefore w i) w[i]? = true := by
  have hfirst : (if i = 0 then none else charBefore w i) = charBefore w i := by
    cases i <;> rfl
  rw [satisfying, testBit_ofMarks, getElem?_marks, hfirst]
  split
  · next h => simp [h]
  · next h => simp [h]

end Positions

/-! ## Matches -/

theorem Spans.bounds {r : Regex} {i j : Nat} (h : Spans w r i j) : i ≤ j ∧ j ≤ w.length := by
  induction h with
  | set hc hs =>
    obtain ⟨hlt, -⟩ := List.getElem?_eq_some_iff.mp hc
    exact ⟨Nat.le_succ _, hlt⟩
  | look hi hl => exact ⟨Nat.le_refl _, hi⟩
  | seqNil hi | repDone hi => exact ⟨Nat.le_refl _, hi⟩
  | seqCons _ _ ihr ihs | repMore _ _ _ ihr ihs => exact ⟨Nat.le_trans ihr.1 ihs.1, ihs.2⟩
  | altHere _ ih | altThere _ ih | group _ ih => exact ih

theorem spans_set_iff {s : CodeSet} {i j : Nat} :
    Spans w (.set s) i j ↔ j = i + 1 ∧ ∃ c, w[i]? = some c ∧ s.contains c = true := by
  constructor
  · rintro (⟨hc, hs⟩ | _)
    exact ⟨rfl, _, hc, hs⟩
  · rintro ⟨rfl, c, hc, hs⟩
    exact .set hc hs

theorem spans_look_iff {l : Look} {i j : Nat} :
    Spans w (.look l) i j ↔
      j = i ∧ i ≤ w.length ∧ l.holds (charBefore w i) w[i]? = true := by
  constructor
  · intro h
    cases h with
    | look hi hl => exact ⟨rfl, hi, hl⟩
  · rintro ⟨rfl, hi, hl⟩
    exact .look hi hl

theorem spans_seq_nil_iff {i j : Nat} : Spans w (.seq []) i j ↔ j = i ∧ i ≤ w.length := by
  constructor
  · intro h
    cases h with
    | seqNil hi => exact ⟨rfl, hi⟩
  · rintro ⟨rfl, hi⟩
    exact .seqNil hi

theorem spans_seq_cons_iff {r : Regex} {rs : List Regex} {i k : Nat} :
    Spans w (.seq (r :: rs)) i k ↔ ∃ j, Spans w r i j ∧ Spans w (.seq rs) j k := by
  constructor
  · intro h
    cases h with
    | seqCons hr hs => exact ⟨_, hr, hs⟩
  · rintro ⟨j, hr, hs⟩
    exact .seqCons hr hs

theorem not_spans_alt_nil {i j : Nat} : ¬Spans w (.alt []) i j := nofun

theorem spans_alt_cons_iff {r : Regex} {rs : List Regex} {i j : Nat} :
    Spans w (.alt (r :: rs)) i j ↔ Spans w r i j ∨ Spans w (.alt rs) i j := by
  constructor
  · intro h
    cases h with
    | altHere h => exact .inl h
    | altThere h => exact .inr h
  · exact fun h => h.elim .altHere .altThere

theorem spans_group_iff {r : Regex} {i j : Nat} : Spans w (.group r) i j ↔ Spans w r i j := by
  constructor
  · intro h
    cases h with
    | group h => exact h
  · exact .group

/-! ## Rounds -/

/-- So many steps of a relation, one after the other. -/
inductive Rounds (R : Nat → Nat → Prop) : Nat → Nat → Nat → Prop
  | done (i : Nat) : Rounds R 0 i i
  | more {n i j k : Nat} (first : R i j) (rest : Rounds R n j k) : Rounds R (n + 1) i k

namespace Rounds

variable {R : Nat → Nat → Prop} {m n i j k : Nat}

theorem append (h : Rounds R m i j) (h' : Rounds R n j k) : Rounds R (m + n) i k := by
  induction h with
  | done => rwa [Nat.zero_add]
  | more first _ ih => rw [Nat.add_right_comm]; exact .more first (ih h')

theorem split : ∀ {m : Nat} {i : Nat}, Rounds R (m + n) i k →
    ∃ j, Rounds R m i j ∧ Rounds R n j k
  | 0, i, h => ⟨i, .done i, Nat.zero_add n ▸ h⟩
  | m + 1, i, h => by
    rw [Nat.add_right_comm] at h
    cases h with
    | more first rest =>
      obtain ⟨j, hfirst, hrest⟩ := split rest
      exact ⟨j, .more first hfirst, hrest⟩

theorem le (forward : ∀ i j, R i j → i ≤ j) (h : Rounds R n i j) : i ≤ j := by
  induction h with
  | done => exact Nat.le_refl _
  | more first _ ih => exact Nat.le_trans (forward _ _ first) ih

/-- Rounds that stay where they are can be left out. -/
theorem shorten (forward : ∀ i j, R i j → i ≤ j) (h : Rounds R n i k) :
    ∃ m, m ≤ k - i ∧ Rounds R m i k := by
  induction h with
  | done i => exact ⟨0, Nat.zero_le _, .done i⟩
  | @more n i j k first rest ih =>
    obtain ⟨m, hm, hrounds⟩ := ih
    rcases Nat.eq_or_lt_of_le (forward i j first) with rfl | hlt
    · exact ⟨m, hm, hrounds⟩
    · have hle := hrounds.le forward
      exact ⟨m + 1, by omega, .more first hrounds⟩

/-- Where a round leads nowhere new no rounds do. -/
theorem closed {P : Nat → Prop} (hP : ∀ i j, P i → R i j → P j) (h : Rounds R n i j) (hi : P i) :
    P j := by
  induction h with
  | done => exact hi
  | more first _ ih => exact ih (hP _ _ hi first)

end Rounds

/-- Rounds of a match stay within the text. -/
theorem Rounds.end_le {r : Regex} {n i k : Nat} (h : Rounds (Spans w r) n i k)
    (hi : i ≤ w.length) : k ≤ w.length :=
  h.closed (P := (· ≤ w.length)) (fun _ _ _ hr => hr.bounds.2) hi

/-- A repetition is a number of rounds within its bounds. -/
theorem rounds_of_spans_rep {r : Regex} {least : Nat} {most : Option Nat} {greedy : Bool}
    {i k : Nat} (h : Spans w (.rep r least most greedy) i k) :
    i ≤ w.length ∧ ∃ n, least ≤ n ∧ (∀ m ∈ most, n ≤ m) ∧ Rounds (Spans w r) n i k := by
  generalize hx : Regex.rep r least most greedy = x at h
  induction h generalizing least most with
  | repDone hi =>
    cases hx
    exact ⟨hi, 0, Nat.le_refl _, fun _ _ => Nat.zero_le _, .done _⟩
  | repMore hm hr hs _ ih =>
    cases hx
    obtain ⟨hj, n, hleast, hmost, hrounds⟩ := ih rfl
    refine ⟨Nat.le_trans hr.bounds.1 hj, n + 1, by omega, ?_, .more hr hrounds⟩
    intro m hmem
    obtain rfl := Option.mem_def.mp hmem
    have hle := hmost (m - 1) rfl
    have hpos : m ≠ 0 := fun e => hm (e ▸ rfl)
    omega
  | _ => cases hx

theorem spans_rep_of_rounds {r : Regex} {greedy : Bool} {n i k : Nat}
    (h : Rounds (Spans w r) n i k) : ∀ {least : Nat} {most : Option Nat}, i ≤ w.length →
    least ≤ n → (∀ m ∈ most, n ≤ m) → Spans w (.rep r least most greedy) i k := by
  induction h with
  | done i =>
    intro least most hi hleast _
    obtain rfl := Nat.le_zero.mp hleast
    exact .repDone hi
  | @more n i j k first _ ih =>
    intro least most _ hleast hmost
    refine .repMore ?_ first (ih first.bounds.2 (by omega) ?_)
    · rintro rfl
      exact absurd (hmost 0 rfl) (Nat.not_succ_le_zero n)
    · intro m hm
      obtain ⟨m', hm', rfl⟩ := Option.map_eq_some_iff.mp hm
      have := hmost m' hm'
      omega

theorem spans_rep_iff {r : Regex} {least : Nat} {most : Option Nat} {greedy : Bool} {i k : Nat} :
    Spans w (.rep r least most greedy) i k ↔
      i ≤ w.length ∧ ∃ n, least ≤ n ∧ (∀ m ∈ most, n ≤ m) ∧ Rounds (Spans w r) n i k :=
  ⟨rounds_of_spans_rep, fun ⟨hi, _, hleast, hmost, h⟩ => spans_rep_of_rounds h hi hleast hmost⟩

/-! ## Sets of ends -/

/-- The second set has the positions to which the relation leads from one of the first. -/
def Leads (R : Nat → Nat → Prop) (p q : Positions) : Prop :=
  ∀ j, q.testBit j = true ↔ ∃ i, p.testBit i = true ∧ R i j

/-- All of these are positions of the text. -/
def Within (w : List Char) (p : Positions) : Prop := ∀ i, p.testBit i = true → i ≤ w.length

namespace Leads

variable {R S : Nat → Nat → Prop} {p q q' : Positions}

theorem congr (h : Leads R p q) (hRS : ∀ i j, p.testBit i = true → (R i j ↔ S i j)) :
    Leads S p q := by
  intro j
  rw [h j]
  exact exists_congr fun i => and_congr_right fun hi => hRS i j hi

theorem refl (p : Positions) : Leads (fun i j => j = i) p p := by
  intro j
  constructor
  · exact fun hj => ⟨j, hj, rfl⟩
  · rintro ⟨i, hi, rfl⟩
    exact hi

theorem trans (h : Leads R p q) (h' : Leads S q q') :
    Leads (fun i k => ∃ j, R i j ∧ S j k) p q' := by
  intro k
  rw [h' k]
  constructor
  · rintro ⟨j, hj, hS⟩
    obtain ⟨i, hi, hR⟩ := (h j).mp hj
    exact ⟨i, hi, j, hR, hS⟩
  · rintro ⟨i, hi, j, hR, hS⟩
    exact ⟨j, (h j).mpr ⟨i, hi, hR⟩, hS⟩

theorem union (h : Leads R p q) (h' : Leads S p q') :
    Leads (fun i j => R i j ∨ S i j) p (q ||| q') := by
  intro j
  rw [Nat.testBit_or, Bool.or_eq_true, h j, h' j]
  constructor
  · rintro (⟨i, hi, hR⟩ | ⟨i, hi, hS⟩)
    · exact ⟨i, hi, .inl hR⟩
    · exact ⟨i, hi, .inr hS⟩
  · rintro ⟨i, hi, hR | hS⟩
    · exact .inl ⟨i, hi, hR⟩
    · exact .inr ⟨i, hi, hS⟩

theorem within (h : Leads (Spans w r) p q) : Within w q := by
  intro j hj
  obtain ⟨i, -, hspans⟩ := (h j).mp hj
  exact hspans.bounds.2

end Leads

namespace Rounds

variable {R : Nat → Nat → Prop} {n i k : Nat}

theorem zero_iff : Rounds R 0 i k ↔ k = i := by
  constructor
  · intro h
    cases h
    rfl
  · rintro rfl
    exact .done _

theorem succ_iff : Rounds R (n + 1) i k ↔ ∃ j, R i j ∧ Rounds R n j k := by
  constructor
  · intro h
    cases h with
    | more first rest => exact ⟨_, first, rest⟩
  · rintro ⟨j, first, rest⟩
    exact .more first rest

end Rounds

section

variable {R : Nat → Nat → Prop} {step : Positions → Positions}

/-- If a round changes nothing no number of rounds does. -/
theorem Leads.rounds {p : Positions} (h : Leads R p p) : ∀ n, Leads (Rounds R n) p p
  | 0 => (Leads.refl p).congr fun _ _ _ => Rounds.zero_iff.symm
  | n + 1 => (h.trans (h.rounds n)).congr fun _ _ _ => Rounds.succ_iff.symm

/-- So many rounds, whether they are all computed or not. -/
theorem leads_exactly (hwithin : ∀ p q, Leads R p q → Within w q)
    (hstep : ∀ p, Within w p → Leads R p (step p)) (n : Nat) :
    ∀ p, Within w p → Leads (Rounds R n) p (Moves.exactly step n p) := by
  induction n with
  | zero => exact fun p _ => (Leads.refl p).congr fun _ _ _ => Rounds.zero_iff.symm
  | succ n ih =>
    intro p hp
    have hfirst := hstep p hp
    rw [Moves.exactly]
    split
    · next hsame =>
      rw [hsame] at hfirst
      exact hfirst.rounds (n + 1)
    · exact (hfirst.trans (ih _ (hwithin p _ hfirst))).congr fun _ _ _ => Rounds.succ_iff.symm

/-- At most so many rounds, whether they are all computed or not. -/
theorem leads_atMost (hwithin : ∀ p q, Leads R p q → Within w q)
    (hstep : ∀ p, Within w p → Leads R p (step p)) (n : Nat) :
    ∀ p, Within w p →
      Leads (fun i j => ∃ m, m ≤ n ∧ Rounds R m i j) p (Moves.atMost step n p) := by
  induction n with
  | zero =>
    refine fun p _ => (Leads.refl p).congr fun i j _ => ?_
    constructor
    · rintro rfl
      exact ⟨0, Nat.le_refl 0, .done _⟩
    · rintro ⟨m, hm, h⟩
      obtain rfl := Nat.le_zero.mp hm
      exact Rounds.zero_iff.mp h
  | succ n ih =>
    intro p hp
    have hfirst := hstep p hp
    have hunion := (Leads.refl p).union hfirst
    rw [Moves.atMost]
    split
    · next hsame =>
      -- Nothing new comes, and nothing new will.
      rw [hsame] at hunion
      intro j
      constructor
      · exact fun hj => ⟨j, hj, 0, Nat.zero_le _, .done j⟩
      · rintro ⟨i, hi, m, -, h⟩
        have hclosed (i j : Nat) (hi : p.testBit i = true) (hR : R i j) : p.testBit j = true :=
          (hunion j).mpr ⟨i, hi, .inr hR⟩
        exact h.closed hclosed hi
    · have hq : Within w (p ||| step p) := by
        intro i hi
        rw [Nat.testBit_or, Bool.or_eq_true] at hi
        exact hi.elim (hp i) (hwithin p _ hfirst i)
      refine (hunion.trans (ih _ hq)).congr fun i k _ => ?_
      constructor
      · rintro ⟨j, rfl | hR, m, hm, h⟩
        · exact ⟨m, Nat.le_succ_of_le hm, h⟩
        · exact ⟨m + 1, Nat.succ_le_succ hm, .more hR h⟩
      · rintro ⟨m, hm, h⟩
        cases h with
        | done => exact ⟨i, .inl rfl, 0, Nat.zero_le n, .done i⟩
        | more first rest => exact ⟨_, .inr first, _, Nat.le_of_succ_le_succ hm, rest⟩

end

/-! ## Expressions -/

/-- No repetition in the expression is asked for more often than it is allowed. -/
inductive Bounded : Regex → Prop
  | set (s : CodeSet) : Bounded (.set s)
  | look (l : Look) : Bounded (.look l)
  | seq {parts : List Regex} (inner : ∀ r ∈ parts, Bounded r) : Bounded (.seq parts)
  | alt {branches : List Regex} (inner : ∀ r ∈ branches, Bounded r) : Bounded (.alt branches)
  | rep {r : Regex} {least : Nat} {most : Option Nat} (greedy : Bool) (inner : Bounded r)
      (ordered : ∀ m ∈ most, least ≤ m) : Bounded (.rep r least most greedy)
  | group {r : Regex} (inner : Bounded r) : Bounded (.group r)

theorem leads_advance {s : CodeSet} {p : Positions} :
    Leads (Spans w (.set s)) p ((p &&& Positions.before s w) <<< 1) := by
  intro j
  rw [Nat.testBit_shiftLeft, Bool.and_eq_true, decide_eq_true_eq, Nat.testBit_and,
    Bool.and_eq_true, Positions.testBit_before]
  constructor
  · rintro ⟨hj, hp, hc⟩
    exact ⟨j - 1, hp, spans_set_iff.mpr ⟨by omega, hc⟩⟩
  · rintro ⟨i, hi, h⟩
    obtain ⟨rfl, hc⟩ := spans_set_iff.mp h
    exact ⟨Nat.le_add_left 1 i, hi, hc⟩

theorem leads_stay {l : Look} {p : Positions} :
    Leads (Spans w (.look l)) p (p &&& Positions.satisfying l w) := by
  intro j
  rw [Nat.testBit_and, Bool.and_eq_true, Positions.testBit_satisfying]
  constructor
  · rintro ⟨hp, hl⟩
    exact ⟨j, hp, spans_look_iff.mpr ⟨rfl, hl⟩⟩
  · rintro ⟨i, hi, h⟩
    obtain ⟨rfl, hl⟩ := spans_look_iff.mp h
    exact ⟨hi, hl⟩

theorem leads_endsInOrder {rs : List Regex}
    (h : ∀ r ∈ rs, ∀ p, Within w p → Leads (Spans w r) p ((movesIn w r).ends p)) :
    ∀ p, Within w p → Leads (Spans w (.seq rs)) p (Moves.endsInOrder (movesOfAll w rs) p) := by
  induction rs with
  | nil =>
    refine fun p hp => (Leads.refl p).congr fun i j hi => ?_
    rw [spans_seq_nil_iff]
    exact (and_iff_left (hp i hi)).symm
  | cons r rs ih =>
    intro p hp
    obtain ⟨hr, hrs⟩ := List.forall_mem_cons.mp h
    have hfirst := hr p hp
    have hboth := (hfirst.trans (ih hrs _ hfirst.within)).congr fun _ _ _ =>
      spans_seq_cons_iff.symm
    rw [movesOfAll, Moves.endsInOrder]
    split
    · next hnone =>
      -- The rest would start from nowhere.
      intro k
      rw [Nat.zero_testBit]
      refine ⟨nofun, ?_⟩
      rintro ⟨i, hi, h⟩
      obtain ⟨j, hj, -⟩ := spans_seq_cons_iff.mp h
      have hend := (hfirst j).mpr ⟨i, hi, hj⟩
      rw [hnone, Nat.zero_testBit] at hend
      exact hend
    · exact hboth

theorem leads_endsOfAny {rs : List Regex}
    (h : ∀ r ∈ rs, ∀ p, Within w p → Leads (Spans w r) p ((movesIn w r).ends p)) :
    ∀ p, Within w p → Leads (Spans w (.alt rs)) p (Moves.endsOfAny (movesOfAll w rs) p) := by
  induction rs with
  | nil =>
    intro p _ j
    rw [movesOfAll, Moves.endsOfAny, Nat.zero_testBit]
    refine ⟨nofun, ?_⟩
    rintro ⟨i, -, h⟩
    exact absurd h not_spans_alt_nil
  | cons r rs ih =>
    intro p hp
    obtain ⟨hr, hrs⟩ := List.forall_mem_cons.mp h
    exact ((hr p hp).union (ih hrs p hp)).congr fun _ _ _ => spans_alt_cons_iff.symm

/-- Where a repetition without an upper bound leads it leads in so many rounds more than it has to
    take as the text has characters. -/
theorem exists_rounds_iff {r : Regex} {least : Nat} {most : Option Nat}
    (ordered : ∀ m ∈ most, least ≤ m) {i k : Nat} (hi : i ≤ w.length) :
    (∃ n, least ≤ n ∧ (∀ m ∈ most, n ≤ m) ∧ Rounds (Spans w r) n i k) ↔
      ∃ j, Rounds (Spans w r) least i j ∧
        ∃ n, n ≤ most.elim (w.length + 1) (· - least) ∧ Rounds (Spans w r) n j k := by
  constructor
  · rintro ⟨n, hleast, hmost, h⟩
    obtain ⟨more, rfl⟩ := Nat.exists_eq_add_of_le hleast
    obtain ⟨j, hfirst, hrest⟩ := h.split
    refine ⟨j, hfirst, ?_⟩
    cases most with
    | none =>
      have hk : k ≤ w.length := h.end_le hi
      obtain ⟨m, hm, hshort⟩ := hrest.shorten fun _ _ hr => hr.bounds.1
      exact ⟨m, by simp only [Option.elim]; omega, hshort⟩
    | some most =>
      have := hmost most rfl
      exact ⟨more, by simp only [Option.elim]; omega, hrest⟩
  · rintro ⟨j, hfirst, n, hn, hrest⟩
    refine ⟨least + n, Nat.le_add_right _ _, ?_, hfirst.append hrest⟩
    rintro m rfl
    have := ordered m rfl
    simp only [Option.elim] at hn
    omega

theorem leads_rep {r : Regex} {least : Nat} {most : Option Nat} {greedy : Bool}
    (ordered : ∀ m ∈ most, least ≤ m)
    (h : ∀ p, Within w p → Leads (Spans w r) p ((movesIn w r).ends p)) {p : Positions}
    (hp : Within w p) :
    Leads (Spans w (.rep r least most greedy)) p
      ((movesIn w (.rep r least most greedy)).ends p) := by
  have hfirst := leads_exactly (fun _ _ => Leads.within) h least p hp
  have hwithin : Within w (Moves.exactly (movesIn w r).ends least p) := by
    intro j hj
    obtain ⟨i, hi, hrounds⟩ := (hfirst j).mp hj
    exact hrounds.end_le (hp i hi)
  have hrest := leads_atMost (fun _ _ => Leads.within) h
    (most.elim (w.length + 1) (· - least)) _ hwithin
  refine (hfirst.trans hrest).congr fun i k hi => ?_
  rw [spans_rep_iff, exists_rounds_iff ordered (hp i hi), and_iff_right (hp i hi)]

/-- The matcher computes the ends of the matches that start at one of the given positions. -/
theorem leads_ends {r : Regex} (hr : r.Bounded) : ∀ p, Within w p →
    Leads (Spans w r) p ((movesIn w r).ends p) := by
  induction hr with
  | set s => exact fun p _ => leads_advance
  | look l => exact fun p _ => leads_stay
  | seq _ ih => exact leads_endsInOrder ih
  | alt _ ih => exact leads_endsOfAny ih
  | rep _ _ ordered ih => exact fun p hp => leads_rep ordered ih hp
  | group _ ih => exact fun p hp => (ih p hp).congr fun _ _ _ => spans_group_iff.symm

/-- An expression occurs in a text just if it can match some part of it. -/
theorem occursIn_iff {r : Regex} (hr : r.Bounded) :
    r.occursIn w = true ↔ ∃ i j, Spans w r i j := by
  have hall : Within w (Positions.all w) := by
    intro i hi
    rwa [Positions.testBit_all, decide_eq_true_eq] at hi
  have hends := leads_ends hr _ hall
  rw [occursIn, bne_iff_ne]
  constructor
  · intro h
    obtain ⟨j, hj⟩ := Nat.exists_testBit_of_ne_zero h
    obtain ⟨i, -, hspans⟩ := (hends j).mp hj
    exact ⟨i, j, hspans⟩
  · rintro ⟨i, j, hspans⟩ hnone
    have hi : (Positions.all w).testBit i = true := by
      rw [Positions.testBit_all, decide_eq_true_eq]
      exact Nat.le_trans hspans.bounds.1 hspans.bounds.2
    have hj := (hends j).mpr ⟨i, hi, hspans⟩
    rw [hnone, Nat.zero_testBit] at hj
    cases hj

end EventQuery.Regex
