import EventQuery.Proofs.Query.Nesting
import EventQuery.Proofs.Query.WellFormed
import EventQuery.Proofs.Regex.Bounds
import Mathlib

/-!
# Matching by a pattern

A pattern says what its source says by itself, of a text as a whole (`Pattern.FullMatch`). It does
not matter which of several matches would be preferred: if one of them is the whole text, that one
is found, because the expression that is searched for has no others.

Every pattern of a statement that was read is of this kind, and a source that is no expression by
itself makes a statement wrong (`Query.matchingIsFull`).
-/

namespace EventQuery

/-! ## Patterns -/

/-- The expression can match exactly the whole of a text. -/
def Regex.MatchesWhole (r : Regex) (w : List Char) : Prop := Spans w r 0 w.length

/-- Between the signs for start and end there are no matches but that of the whole text. -/
theorem Regex.exists_spans_anchored_iff {r : Regex} {w : List Char} :
    (∃ i j, Spans w (.seq [.look .textStart, r, .look .textEnd]) i j) ↔ r.MatchesWhole w := by
  have hstart {i : Nat} (hi : i ≤ w.length) (h : (charBefore w i).isNone = true) : i = 0 := by
    cases i with
    | zero => rfl
    | succ i => simp [charBefore, List.getElem?_eq_getElem hi] at h
  constructor
  · rintro ⟨i, j, h⟩
    obtain ⟨i', hfirst, hrest⟩ := spans_seq_cons_iff.mp h
    obtain ⟨k, hr, hend⟩ := spans_seq_cons_iff.mp hrest
    obtain ⟨k', hlast, -⟩ := spans_seq_cons_iff.mp hend
    obtain ⟨rfl, hi, hbefore⟩ := spans_look_iff.mp hfirst
    obtain ⟨-, hk, hafter⟩ := spans_look_iff.mp hlast
    obtain rfl := hstart hi hbefore
    obtain rfl : k = w.length :=
      Nat.le_antisymm hk (List.getElem?_eq_none_iff.mp (Option.isNone_iff_eq_none.mp hafter))
    exact hr
  · intro h
    have hnone : (w[w.length]?).isNone = true := by simp
    exact ⟨0, w.length, .seqCons (.look (Nat.zero_le _) rfl) (.seqCons h
      (.seqCons (.look (Nat.le_refl _) hnone) (.seqNil (Nat.le_refl _))))⟩

namespace Pattern

/-- The pattern stands for the expression that its source is by itself: it matches a value just if
    that is a string which the expression can match as a whole. -/
structure FullMatch (p : Pattern) (r : Regex) : Prop where
  own : Regex.read p.source.toList = .ok r
  value : ∀ v, p.matchesValue v = true ↔ ∃ w, v = .string w ∧ r.MatchesWhole w.toList

theorem read_of_readWithin {limit : Nat} {s : List Char} {r : Regex}
    (h : readWithin limit s = .ok r) : Regex.read s = .ok r := by
  obtain ⟨r', hread, h⟩ := Regex.bind_eq_ok h
  dsimp only at h
  split at h
  · cases h
    exact hread
  · cases h

/-- What a source is compiled to stands for the source by itself. -/
theorem fullMatch_of_compile {limit : Nat} {source : String} {p : Pattern}
    (h : compile limit source = .ok p) : p.source = source ∧ ∃ r, p.FullMatch r := by
  obtain ⟨r, hown, h⟩ := Regex.bind_eq_ok h
  obtain ⟨anchored, hanchored, ⟨⟩⟩ := Regex.bind_eq_ok h
  have hread := read_of_readWithin hown
  have hreadAnchored := read_of_readWithin hanchored
  refine ⟨rfl, r, hread, fun v => ?_⟩
  have hsearch (w : String) :
      isMatch ⟨source, anchored⟩ w = true ↔ r.MatchesWhole w.toList := by
    rw [isMatch, Regex.occursIn_iff (Regex.bounded_read hreadAnchored),
      Regex.read_anchoredSource hread hreadAnchored, Regex.exists_spans_anchored_iff]
  cases v with
  | string w =>
    rw [matchesValue]
    simp [Value.toString?, hsearch]
  | _ => simp [matchesValue, Value.toString?]

/-- A source that is no expression by itself is refused for that, whatever it would be in a
    group. -/
theorem compile_of_read_error {limit : Nat} {source : String} {e : Regex.Error}
    (h : Regex.read source.toList = .error e) : compile limit source = .error e := by
  rw [compile, readWithin, h]
  rfl

end Pattern

/-! ## Conditions -/

namespace Expr

variable {P : Type}

/-- The matches by patterns in a condition: what is matched, and the pattern. -/
def matchings : Expr P → List (Expr P × Pattern)
  | compare left .matching (pattern p) => [(left, p)]
  | and left right | or left right => left.matchings ++ right.matchings
  | not inner => inner.matchings
  | _ => []

/-- All patterns of the condition say what their sources say by themselves. -/
def MatchesFully (e : Expr P) : Prop := ∀ m ∈ e.matchings, ∃ r, m.2.FullMatch r

theorem holds_matching_iff {left : Expr Path} {p : Pattern} {r : Regex} (h : p.FullMatch r)
    (event : Value) :
    ((compare left .matching (pattern p)).holds (Query.find event)).run = true ↔
      ∃ v ∈ (left.values (Query.find event) (left.holds (Query.find event))).run,
        ∃ w, v = .string w ∧ r.MatchesWhole w.toList := by
  rw [holds]
  generalize left.values (Query.find event) (left.holds (Query.find event)) = values
  change (if values.run.isEmpty then false else values.run.any p.matchesValue) = true ↔ _
  cases values.run with
  | nil => simp
  | cons v vs =>
    rw [List.isEmpty_cons, if_neg Bool.false_ne_true, List.any_eq_true]
    exact exists_congr fun v => and_congr_right fun _ => h.value v

theorem IsSide.matchings_eq {Good : P → Prop} {e : Expr P} (h : e.IsSide Good) :
    e.matchings = [] := by
  cases h <;> rfl

end Expr

namespace Query

open Statement

theorem Connective.matchesFully_join {c : Connective} {left right : Expr Path}
    (hleft : left.MatchesFully) (hright : right.MatchesFully) :
    (c.join left right).MatchesFully := by
  cases c <;> exact fun m hm => (List.mem_append.mp hm).elim (hleft m) (hright m)

/-- What has been read of a part before, if anything, has no other patterns. -/
def Part.LeftMatchesFully : Part → Prop
  | behind _ left => left.MatchesFully
  | term | chain _ => True

theorem Connective.leftMatchesFully_member (c : Connective) : c.member.LeftMatchesFully := by
  cases c <;> trivial

namespace Reader

variable {patternSize : Nat} {s place rest : List Char} {left e : Expr Path} {source : String}

theorem pattern_eq_ok (h : pattern patternSize s = .ok e rest) :
    ∃ source p r, (slashedPattern <|> quotedString) s = .ok source rest ∧ e = .pattern p ∧
      p.source = source ∧ p.FullMatch r := by
  obtain ⟨source, mid, hsource, h⟩ := Outcome.andThen_eq_ok.mp h
  cases hcompile : Pattern.compile patternSize source with
  | error e => simp [hcompile] at h
  | ok p =>
    simp only [hcompile] at h
    cases h
    obtain ⟨hp, r, hr⟩ := Pattern.fullMatch_of_compile hcompile
    exact ⟨source, p, r, hsource, rfl, hp, hr⟩

/-- A source that is no expression by itself makes the query wrong at the place where it starts. -/
theorem pattern_of_read_error {error : Regex.Error}
    (hsource : (slashedPattern <|> quotedString) s = .ok source rest)
    (herror : Regex.read source.toList = .error error) :
    pattern patternSize s = .failed ⟨s, none, some error.message⟩ := by
  rw [pattern, hsource, Outcome.andThen_ok, Pattern.compile_of_read_error herror]

/-- A match is written at the start of a text: something to be matched, the sign, and at a place
    behind it the source of a pattern between slashes or in quotes. -/
structure WritesMatching (s : List Char) (left : Expr Path) (place : List Char) (source : String) :
    Prop where
  sign : ∃ mid, padded operand s = .ok left mid ∧ padded comparisonSign mid = .ok .matching place
  source : ∃ rest, (slashedPattern <|> quotedString) place = .ok source rest

namespace WritesMatching

theorem dropWhile_eq (h : WritesMatching s left place source) :
    place.dropWhile isBlank = place := by
  obtain ⟨mid, -, hsign⟩ := h.sign
  obtain ⟨behind, -, rfl⟩ := padded_eq_ok hsign
  exact List.dropWhile_idempotent _ _

/-- Behind the sign nothing but a pattern is read. -/
theorem comparison_eq (h : WritesMatching s left place source) :
    comparison patternSize s = (do
      let right ← committed (Reader.expecting "regular expression" (padded (pattern patternSize)))
      return .compare left .matching right : Reader (Expr Path)) place := by
  obtain ⟨mid, hleft, hsign⟩ := h.sign
  rw [comparison, bind_apply, expecting_of_ok hleft, Outcome.andThen_ok]
  change (optional (padded comparisonSign) mid).andThen _ = _
  rw [optional_of_ok hsign]
  rfl

theorem fullMatch_of_comparison (h : WritesMatching s left place source)
    (hread : comparison patternSize s = .ok e rest) :
    ∃ p r, e = .compare left .matching (.pattern p) ∧ p.source = source ∧ p.FullMatch r := by
  rw [h.comparison_eq] at hread
  obtain ⟨right, mid, hright, ⟨⟩⟩ := bind_eq_ok.mp hread
  obtain ⟨behind, hpattern, -⟩ := padded_eq_ok (expecting_eq_ok.mp (committed_eq_ok.mp hright))
  rw [h.dropWhile_eq] at hpattern
  obtain ⟨source', p, r, hsource', rfl, hp, hr⟩ := pattern_eq_ok hpattern
  obtain ⟨rest', hsource⟩ := h.source
  cases hsource.symm.trans hsource'
  exact ⟨p, r, rfl, hp, hr⟩

theorem comparison_of_read_error {error : Regex.Error} (h : WritesMatching s left place source)
    (herror : Regex.read source.toList = .error error) :
    comparison patternSize s =
      .failed ⟨place, some "regular expression", some error.message⟩ := by
  obtain ⟨rest', hsource⟩ := h.source
  have hpattern : pattern patternSize place = .failed ⟨place, none, some error.message⟩ :=
    pattern_of_read_error hsource herror
  have hpadded : padded (pattern patternSize) place = .failed ⟨place, none, some error.message⟩ := by
    rw [padded, bind_apply, blanks, Outcome.andThen_ok, bind_apply, h.dropWhile_eq, hpattern,
      Outcome.andThen_failed]
  rw [h.comparison_eq, bind_apply, committed, Reader.expecting, hpadded]
  rfl

end WritesMatching

theorem gives_comparison_matchesFully (patternSize : Nat) :
    (comparison patternSize).Gives Expr.MatchesFully := by
  have hside {e : Expr Path} (he : e.IsSide (· ≠ [])) : e.MatchesFully := by
    rw [Expr.MatchesFully, he.matchings_eq]
    exact List.forall_mem_nil _
  refine (gives_operand.padded.expecting _).bind fun left hleft => .after fun sign => ?_
  cases sign with
  | none => exact .pure (hside hleft)
  | some op =>
    cases op with
    | matching =>
      have hpattern : (pattern patternSize).Gives fun e => ∃ p r, e = .pattern p ∧ p.FullMatch r :=
        .of_ok fun s e rest h => by
          obtain ⟨_, p, r, -, he, -, hr⟩ := pattern_eq_ok h
          exact ⟨p, r, he, hr⟩
      refine (hpattern.padded.expecting _).committed.bind fun e he => .pure ?_
      obtain ⟨p, r, rfl, hr⟩ := he
      exact List.forall_mem_singleton.mpr ⟨r, hr⟩
    | eq | ne | lt | le | gt | ge => exact .after fun right => .pure (List.forall_mem_nil _)

end Reader

open Reader

theorem Derives.matchesFully {patternSize depth : Nat} {part : Part} {s rest : List Char}
    {e : Expr Path} (h : Derives patternSize part s e rest depth) :
    part.LeftMatchesFully → e.MatchesFully := by
  induction h with
  | comparison _ _ hread => exact fun _ => (gives_comparison_matchesFully patternSize).ok hread
  | not _ _ ih => exact fun _ => ih trivial
  | group _ _ _ _ ih => exact fun _ => ih trivial
  | chain _ _ ihfirst ihmore => exact fun _ => ihmore (ihfirst (Connective.leftMatchesFully_member _))
  | done => exact fun hleft => hleft
  | more _ _ _ _ ihright ihmore =>
    exact fun hleft => ihmore (Connective.matchesFully_join hleft
      (ihright (Connective.leftMatchesFully_member _)))

/-! ## Statements -/

/-- The condition of a statement starts with a comparison: that is where the text has got to behind
    the word for the clause, with neither a negation nor a parenthesis. -/
structure StartsWithComparison (text s : List Char) : Prop where
  start : (do let _ ← beforeCondition; padded (keyword "where")) text = .ok () s
  bare : (padded negationSign s).Refused ∧ (padded (char '(') s).Refused

theorem condition_of_failed {limits : QueryLimits} {text s : List Char} {f : Fault}
    (h : StartsWithComparison text s) (hfailed : comparison limits.patternSize s = .failed f) :
    condition limits s = .failed f := by
  have hterm : term limits.patternSize limits.nesting s = .failed f := by
    rw [← hfailed]
    cases limits.nesting <;> exact termOver_of_comparison h.bare.1 h.bare.2
  have hchain {connect : Expr Path → Expr Path → Expr Path} {sign : Reader Unit}
      {r : Reader (Expr Path)} (hr : r s = .failed f) : chain connect sign r s = .failed f := by
    rw [chain, bind_apply, hr, Outcome.andThen_failed]
  exact hchain (hchain hterm)

theorem statement_of_failed {limits : QueryLimits} {text s : List Char} {f : Fault}
    (h : StartsWithComparison text s) (hfailed : comparison limits.patternSize s = .failed f) :
    Reader.statement limits text = .failed f := by
  obtain ⟨front, mid, hfront, hword⟩ := bind_eq_ok.mp h.start
  have hclause : clause "where" (condition limits) mid = .failed f := by
    refine optional_of_failed ?_
    rw [bind_apply, hword, Outcome.andThen_ok, committed, condition_of_failed h hfailed]
  rw [statement_eq, bind_apply, hfront, Outcome.andThen_ok, bind_apply, hclause]
  rfl

/-- Matching by a pattern is matching the whole of a string with what the pattern says by
    itself. -/
structure MatchingIsFull (limits : QueryLimits) : Prop where
  /-- Every match in a statement that was read holds on an event just if there is a string on its
      left that the source of the pattern, read by itself, can match as a whole. -/
  holds : ∀ text statement, Statement.read limits text = .ok statement →
    ∀ e ∈ statement.condition, ∀ left p, (left, p) ∈ e.matchings → ∃ r, p.FullMatch r ∧
      ∀ event, ((Expr.compare left .matching (.pattern p)).holds (find event)).run = true ↔
        ∃ v ∈ (left.values (find event) (left.holds (find event))).run,
          ∃ w, v = .string w ∧ r.MatchesWhole w.toList
  /-- The source is the one that is written, between slashes or in quotes. -/
  source : ∀ s left place source, WritesMatching s left place source →
    ∀ e rest, comparison limits.patternSize s = .ok e rest →
      ∃ p r, e = .compare left .matching (.pattern p) ∧ p.source = source ∧ p.FullMatch r
  /-- One that is no expression by itself makes the statement wrong. -/
  refused : ∀ s left place source, WritesMatching s left place source →
    ∀ error, Regex.read source.toList = .error error →
      comparison limits.patternSize s =
          .failed ⟨place, some "regular expression", some error.message⟩ ∧
        ∀ text, StartsWithComparison text.toList s → Statement.read limits text = .error
          (Fault.report text.toList ⟨place, some "regular expression", some error.message⟩)

/-- No source gets out of the group that it is put into, whatever is in it. -/
theorem matchingIsFull (limits : QueryLimits) : MatchingIsFull limits where
  holds text statement hread e he left p hp := by
    obtain ⟨-, hderivable⟩ := (gives_wellFormed limits).ok (Statement.read_eq_ok.mp hread)
    obtain ⟨_, _, _, -, hderives⟩ := hderivable e he
    obtain ⟨r, hr⟩ := hderives.matchesFully trivial (left, p) hp
    exact ⟨r, hr, Expr.holds_matching_iff hr⟩
  source s left place source hwrites e rest hread := hwrites.fullMatch_of_comparison hread
  refused s left place source hwrites error herror := by
    have hfailed : comparison limits.patternSize s =
        .failed ⟨place, some "regular expression", some error.message⟩ :=
      hwrites.comparison_of_read_error herror
    refine ⟨hfailed, fun text hstarts => ?_⟩
    rw [Statement.read]
    simp only [statement_of_failed hstarts hfailed]

/-- The preferred match of the first pattern is not the whole text, but another one is. -/
theorem writes_alternatives :
    WritesMatching "'ab'=~/a|a+b/".toList (.literal (.string "ab")) "/a|a+b/".toList "a|a+b" where
  sign := ⟨"=~/a|a+b/".toList, by cbv, by cbv⟩
  source := ⟨[], by cbv⟩

theorem comparison_alternatives : comparison 0x100000 "'ab'=~/a|a+b/".toList =
    .ok (.compare (.literal (.string "ab")) .matching (.pattern (patternOf "a|a+b"))) [] := by
  have hpattern : pattern 0x100000 "/a|a+b/".toList = .ok (.pattern (patternOf "a|a+b")) [] := by
    have hsource : (slashedPattern <|> quotedString) "/a|a+b/".toList = .ok "a|a+b" [] := by cbv
    rw [pattern, hsource, Outcome.andThen_ok, compile_patternOf (by decide +kernel)]
  have hpadded : padded (pattern 0x100000) "/a|a+b/".toList =
      .ok (.pattern (patternOf "a|a+b")) [] := by
    rw [padded, bind_apply, blanks, Outcome.andThen_ok, bind_apply,
      writes_alternatives.dropWhile_eq, hpattern]
    rfl
  rw [writes_alternatives.comparison_eq, bind_apply,
    committed_of_ok (expecting_of_ok hpadded), Outcome.andThen_ok, pure_apply]

/-- In a group the parentheses of this source would be balanced. -/
theorem writes_unbalanced :
    WritesMatching "'x'=~/a)|(?:b/".toList (.literal (.string "x")) "/a)|(?:b/".toList
      "a)|(?:b" where
  sign := ⟨"=~/a)|(?:b/".toList, by cbv, by cbv⟩
  source := ⟨[], by cbv⟩

theorem startsWithComparison_unbalanced :
    StartsWithComparison "select * where 'x'=~/a)|(?:b/".toList "'x'=~/a)|(?:b/".toList where
  start := by cbv
  bare := ⟨⟨⟨"'x'=~/a)|(?:b/".toList, none, none⟩, by cbv⟩,
    ⟨"'x'=~/a)|(?:b/".toList, none, none⟩, by cbv⟩

theorem matchingIsFull_alternatives :
    (∃ r, (patternOf "x+").FullMatch r ∧
      Statement.read ⟨0x100000, 3⟩ readingsText = .ok readingsStatement) ∧
    (∃ r, (patternOf "a|a+b").FullMatch r ∧ r.MatchesWhole "ab".toList ∧
      ¬r.MatchesWhole "abc".toList) ∧
    (Regex.read (Pattern.anchoredSource "a)|(?:b".toList)).isOk = true ∧
    Statement.read ⟨0x100000, 3⟩ "select * where 'x'=~/a)|(?:b/" = .error
      (Fault.report "select * where 'x'=~/a)|(?:b/".toList ⟨"/a)|(?:b/".toList,
        some "regular expression", some Regex.Error.groupUnopened.message⟩) := by
  obtain ⟨hholds, hsource, hrefused⟩ := matchingIsFull ⟨0x100000, 3⟩
  refine ⟨?_, ?_, by decide +kernel, ?_⟩
  · have hread := rendering_readingsText.read_eq
    obtain ⟨r, hr, -⟩ := hholds _ _ hread _ rfl _ _ (List.mem_singleton.mpr rfl)
    exact ⟨r, hr, hread⟩
  · obtain ⟨p, r, heq, -, hr⟩ := hsource _ _ _ _ writes_alternatives _ _ comparison_alternatives
    cases heq
    have hwhole (w : String) : (patternOf "a|a+b").matchesValue (.string w) = true ↔
        r.MatchesWhole w.toList := by
      rw [hr.value]
      simp
    exact ⟨r, hr, (hwhole _).mp (by decide +kernel), mt (hwhole _).mpr (by decide +kernel)⟩
  · exact (hrefused _ _ _ _ writes_unbalanced _ (by cbv)).2 _ startsWithComparison_unbalanced

end Query

end EventQuery
