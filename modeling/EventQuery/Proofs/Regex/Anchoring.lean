import EventQuery.Proofs.Regex.ProlongedClasses
import EventQuery.Regex.Pattern

/-!
# A source between the signs for start and end

The text that a pattern matches with is its source in a group between `^` and `$`. While the reader
goes through the source it does there what it would do without the group, with one frame more below
its own (`Reader.step_within`, `Reader.run_within`). A source that is read to its end by itself has
closed all its groups, so the parenthesis behind it closes the outer one, and whatever flags the
source has set end there. What cannot happen to an expression of its own cannot happen here: no
parenthesis of the source closes the group, and a comment that runs on over the closing leaves the
group open, which is an error. So an anchored source is read as start, source and end, or not at all
(`Ast.read_anchoredSource`).
-/

namespace EventQuery.Regex

/-! ## One more frame -/

/-- The state with another group open outside of all others. -/
def ReaderState.within (outer : GroupFrame) (st : ReaderState) : ReaderState :=
  { st with frames := st.frames ++ [outer] }

namespace ReaderState

variable {outer : GroupFrame} {st st₁ : ReaderState}

/-- Whatever closes a group of its own does not touch the one outside. -/
theorem within_closeGroup (h : st.closeGroup = .ok st₁) :
    (st.within outer).closeGroup = .ok (st₁.within outer) := by
  obtain ⟨verbose, names, frames, branches⟩ := st
  cases frames with
  | nil => cases h
  | cons frame frames => cases h; rfl

theorem within_repeated {least : Nat} {most : Option Nat} {greedy : Bool}
    (h : st.repeated least most greedy = .ok st₁) :
    (st.within outer).repeated least most greedy = .ok (st₁.within outer) := by
  obtain ⟨verbose, names, frames, done, parts⟩ := st
  unfold repeated at h ⊢
  split at h
  · cases h
  · cases h
  · cases h
  · next hempty hflags heq =>
    cases h
    change parts = _ at heq
    subst heq
    simp only [within]

end ReaderState

/-- The second answer is the first one with the group outside, and what it leaves is prolonged. -/
def Encloses (outer : GroupFrame) (r r' : Except Error (ReaderState × List Char)) : Prop :=
  ∀ st rest, r = .ok (st, rest) → ∃ rest', r' = .ok (st.within outer, rest') ∧ Prolongs rest rest'

namespace Encloses

variable {α : Type} {outer : GroupFrame}

theorem error (e : Error) (r' : Except Error (ReaderState × List Char)) :
    Encloses outer (.error e) r' :=
  fun _ _ h => nomatch h

theorem ok {rest rest' : List Char} (h : Prolongs rest rest') (st : ReaderState) :
    Encloses outer (.ok (st, rest)) (.ok (st.within outer, rest')) := by
  rintro _ _ ⟨⟩
  exact ⟨rest', rfl, h⟩

/-- After a lexeme. -/
theorem bind {r r' : Except Error (α × List Char)}
    {next next' : α × List Char → Except Error (ReaderState × List Char)} (hr : Keeps r r')
    (hn : ∀ a rest rest', Prolongs rest rest' → Encloses outer (next (a, rest)) (next' (a, rest'))) :
    Encloses outer (r >>= next) (r' >>= next') := by
  cases r with
  | error e => exact error e _
  | ok p =>
    obtain ⟨rest', rfl, hrest⟩ := hr p.1 p.2 rfl
    exact hn p.1 p.2 rest' hrest

/-- After a change of the state that reads nothing. -/
theorem after {r r' : Except Error ReaderState}
    {next next' : ReaderState → Except Error (ReaderState × List Char)}
    (hr : ∀ st, r = .ok st → r' = .ok (st.within outer))
    (hn : ∀ st, Encloses outer (next st) (next' (st.within outer))) :
    Encloses outer (r >>= next) (r' >>= next') := by
  cases r with
  | error e => exact error e _
  | ok st =>
    rw [hr st rfl]
    exact hn st

end Encloses

namespace Reader

variable {outer : GroupFrame} {st : ReaderState} {s s' : List Char}

/-! ## Steps -/

theorem encloses_namedGroup (h : Prolongs s s') :
    Encloses outer (namedGroup st s) (namedGroup (st.within outer) s') := by
  refine .bind (Lexeme.keeps_groupName h) fun name rest rest' hrest => ?_
  change Encloses outer (if st.names.contains name then _ else _)
    (if st.names.contains name then _ else _)
  split_ifs
  · exact .error _ _
  · exact .ok hrest _

theorem encloses_flagged (h : Prolongs s s') :
    Encloses outer (flagged st s) (flagged (st.within outer) s') := by
  unfold flagged
  cases hflags : Lexeme.flags [] s with
  | error e => exact .error e _
  | ok found =>
    obtain ⟨items, last, rest⟩ := found
    obtain ⟨rest', hflags', hrest⟩ := Lexeme.keeps_flags h items last rest hflags
    rw [hflags']
    change Encloses outer (if last = ':' then _ else if items.isEmpty then _ else _)
      (if last = ':' then _ else if items.isEmpty then _ else _)
    split_ifs
    · exact .ok hrest _
    · exact .error _ _
    · exact .ok hrest _

theorem openParen_named {rest : List Char}
    (h : Lexeme.skipBlanks st.verbose s = '?' :: 'P' :: '<' :: rest) :
    openParen st s = namedGroup st rest := by
  unfold openParen
  rw [h]
  rfl

theorem openParen_angle {rest : List Char} (h : Lexeme.skipBlanks st.verbose s = '?' :: '<' :: rest)
    (hequal : rest.head? ≠ some '=') (hbang : rest.head? ≠ some '!') :
    openParen st s = namedGroup st rest := by
  unfold openParen
  rw [h]
  split
  case h_8 hangle _ heq => cases heq; exact (hangle _ rfl).elim
  all_goals simp_all

theorem openParen_flags {c : Char} {rest : List Char}
    (h : Lexeme.skipBlanks st.verbose s = '?' :: c :: rest) (hequal : c ≠ '=') (hbang : c ≠ '!')
    (hangle : c ≠ '<') (hname : c = 'P' → rest.head? ≠ some '<') :
    openParen st s = flagged st (c :: rest) := by
  unfold openParen
  rw [h]
  split <;> simp_all

theorem openParen_plain (h : (Lexeme.skipBlanks st.verbose s).head? ≠ some '?') :
    openParen st s = .ok (st.openGroup .capture st.verbose, Lexeme.skipBlanks st.verbose s) := by
  unfold openParen
  split <;> simp_all

/-- What follows a question mark decides about the kind of group. -/
theorem encloses_openParen_question {t t' : List Char}
    (hs : Lexeme.skipBlanks st.verbose s = '?' :: t)
    (hs' : Lexeme.skipBlanks (st.within outer).verbose s' = '?' :: t') (h : Prolongs t t') :
    Encloses outer (openParen st s) (openParen (st.within outer) s') := by
  cases t with
  | nil =>
    have hunclosed : openParen st s = .error .groupUnclosed := by simp [openParen, hs]
    rw [hunclosed]
    exact .error _ _
  | cons c rest =>
    obtain ⟨rest', rfl, hrest⟩ := h.of_cons
    by_cases hlook : c = '=' ∨ c = '!'
    · have hrefused : openParen st s = .error .lookAround := by
        rcases hlook with rfl | rfl <;> simp [openParen, hs]
      rw [hrefused]
      exact .error _ _
    obtain ⟨hequal, hbang⟩ := not_or.mp hlook
    by_cases hangle : c = '<'
    · subst hangle
      by_cases hbehind : rest.head? = some '=' ∨ rest.head? = some '!'
      · have hrefused : openParen st s = .error .lookAround := by
          rcases hbehind with hhead | hhead
          all_goals obtain ⟨u, rfl⟩ := List.head?_eq_some_iff.mp hhead
          all_goals simp [openParen, hs]
        rw [hrefused]
        exact .error _ _
      · obtain ⟨hequal, hbang⟩ := not_or.mp hbehind
        rw [openParen_angle hs hequal hbang, openParen_angle hs'
          (mt (hrest.head?_iff (by decide)).mp hequal) (mt (hrest.head?_iff (by decide)).mp hbang)]
        exact encloses_namedGroup hrest
    by_cases hname : c = 'P' ∧ rest.head? = some '<'
    · obtain ⟨rfl, hhead⟩ := hname
      obtain ⟨u, rfl⟩ := List.head?_eq_some_iff.mp hhead
      obtain ⟨u', rfl, hu⟩ := hrest.of_cons
      rw [openParen_named hs, openParen_named hs']
      exact encloses_namedGroup hu
    · rw [openParen_flags hs hequal hbang hangle (not_and.mp hname), openParen_flags hs' hequal hbang
        hangle fun hc => mt (hrest.head?_iff (by decide)).mp (not_and.mp hname hc)]
      exact encloses_flagged h

theorem encloses_openParen (h : Prolongs s s') :
    Encloses outer (openParen st s) (openParen (st.within outer) s') := by
  have hskip := h.skipBlanks st.verbose
  by_cases hquestion : (Lexeme.skipBlanks st.verbose s).head? = some '?'
  · obtain ⟨t, ht⟩ := List.head?_eq_some_iff.mp hquestion
    rw [ht] at hskip
    obtain ⟨t', ht', hafter⟩ := hskip.of_cons
    exact encloses_openParen_question ht ht' hafter
  · have hother : (Lexeme.skipBlanks (st.within outer).verbose s').head? ≠ some '?' :=
      mt (hskip.head?_iff (by decide)).mp hquestion
    rw [openParen_plain hquestion, openParen_plain hother]
    exact .ok hskip _

theorem encloses_repetition {least : Nat} {most : Option Nat} (h : Prolongs s s') :
    Encloses outer (repetition st least most s) (repetition (st.within outer) least most s') := by
  obtain ⟨hgreedy, hrest⟩ := Lexeme.prolongs_greed h
  unfold repetition
  dsimp only
  rw [hgreedy]
  exact .after (fun _ => ReaderState.within_repeated) fun st => .ok hrest st

/-- A step within the source is the same step with one frame more. -/
theorem step_within {c : Char} (h : Prolongs s s') :
    Encloses outer (step st c s) (step (st.within outer) c s') := by
  unfold step
  split
  · exact encloses_openParen h
  · exact .after (fun _ => ReaderState.within_closeGroup) fun st => .ok h st
  · exact .ok h _
  · exact .bind (ClassReader.keeps_bracketed h) fun part _ _ hrest => .ok hrest (st.push part)
  · exact encloses_repetition h
  · exact encloses_repetition h
  · exact encloses_repetition h
  · refine .after (fun _ => ReaderState.within_repeated) fun _ => ?_
    refine .bind (Lexeme.keeps_bounds h) fun bounds _ _ hrest => ?_
    exact .after (fun _ => ReaderState.within_repeated) fun st => .ok hrest st
  · exact .bind (Lexeme.keeps_primitive h) fun p _ _ hrest => .ok hrest (st.push p.toAst)

/-! ## Runs -/

theorem run_nil (h : Lexeme.skipBlanks st.verbose s = []) : run st s = .ok st := by
  rw [run]
  split
  · rfl
  · next heq => rw [h] at heq; cases heq

theorem run_step {c : Char} {after rest : List Char} {st₁ : ReaderState}
    (h : Lexeme.skipBlanks st.verbose s = c :: after) (hstep : step st c after = .ok (st₁, rest)) :
    run st s = run st₁ rest := by
  conv_lhs => rw [run]
  split
  · next heq => rw [h] at heq; cases heq
  · next heq =>
    cases h.symm.trans heq
    split
    · next heq => cases hstep.symm.trans heq
    · next heq => cases hstep.symm.trans heq; rfl

/-- A whole source is read within the group as it is read by itself, up to the closing. -/
theorem run_within {fin : ReaderState} (h : Prolongs s s') (hrun : run st s = .ok fin) :
    ∃ u, run (st.within outer) s' = run (fin.within outer) u ∧
      Prolongs [] (Lexeme.skipBlanks fin.verbose u) := by
  fun_induction run st s generalizing s' with
  | case1 st s hblanks =>
    cases hrun
    have hskip := h.skipBlanks fin.verbose
    rw [hblanks] at hskip
    exact ⟨s', rfl, hskip⟩
  | case2 => cases hrun
  | case3 st s c after hblanks st₁ rest hstep ih =>
    have hskip := h.skipBlanks st.verbose
    rw [hblanks] at hskip
    obtain ⟨after', hblanks', hafter⟩ := hskip.of_cons
    obtain ⟨rest', hstep', hrest⟩ := step_within hafter _ _ hstep
    have hnext : run (st.within outer) s' = run (st₁.within outer) rest' :=
      run_step hblanks' hstep'
    rw [hnext]
    exact ih hrest hrun

end Reader

/-! ## The anchored source -/

/-- The group that a source is put into. -/
def anchor : GroupFrame := ⟨.plain [], false, ⟨[], [.assertion .startLine]⟩⟩

/-- A source in the group between the signs for start and end. -/
def anchoredAst (ast : Ast) : Ast :=
  .concat [.assertion .startLine, .group (.plain []) ast, .assertion .endLine]

namespace Ast

theorem read_eq_ok {s : List Char} {ast : Ast} (h : Ast.read s = .ok ast) :
    ∃ st, Reader.run {} s = .ok st ∧ st.frames = [] ∧ st.branches.toAst = ast := by
  obtain ⟨⟨verbose, names, frames, branches⟩, hrun, h⟩ := bind_eq_ok h
  cases frames with
  | cons frame frames => cases h
  | nil =>
    change (if maxDepth < branches.toAst.depth then _ else _) = _ at h
    split_ifs at h
    cases h
    exact ⟨_, hrun, rfl, rfl⟩

theorem run_anchoredSource (s : List Char) :
    Reader.run {} (Pattern.anchoredSource s) =
      Reader.run (({} : ReaderState).within anchor) (s ++ closing) := by
  rw [Pattern.anchoredSource, List.append_assoc]
  rw [Reader.run_step rfl rfl]
  rw [Reader.run_step rfl rfl]
  rfl

/-- The closing that is still there closes the group of the source. -/
theorem run_closing {st fin : ReaderState} {u : List Char} (hframes : st.frames = [])
    (hclosing : Lexeme.skipBlanks st.verbose u = closing)
    (hrun : Reader.run (st.within anchor) u = .ok fin) :
    fin.branches.toAst = anchoredAst st.branches.toAst := by
  have hparen : Lexeme.skipBlanks (st.within anchor).verbose u = closing := hclosing
  obtain ⟨verbose, names, frames, branches⟩ := st
  obtain rfl : frames = [] := hframes
  rw [Reader.run_step hparen rfl, Reader.run_step rfl rfl, Reader.run_nil rfl] at hrun
  cases hrun
  rfl

/-- If a source and the anchored source are both expressions, the second one is the first in its
    group and the signs for start and end. -/
theorem read_anchoredSource {s : List Char} {ast anchored : Ast} (h : Ast.read s = .ok ast)
    (hanchored : Ast.read (Pattern.anchoredSource s) = .ok anchored) :
    anchored = anchoredAst ast := by
  obtain ⟨st, hrun, hframes, rfl⟩ := read_eq_ok h
  obtain ⟨fin, hrun', hframes', rfl⟩ := read_eq_ok hanchored
  rw [run_anchoredSource] at hrun'
  obtain ⟨u, hwithin, hend⟩ := Reader.run_within (.behind s) hrun
  rw [hwithin] at hrun'
  generalize hclosing : Lexeme.skipBlanks st.verbose u = t at hend
  cases hend with
  | taken =>
    -- A comment goes on to the end, and the group stays open.
    have hopen : Reader.run (st.within anchor) u = .ok (st.within anchor) :=
      Reader.run_nil hclosing
    cases hopen.symm.trans hrun'
    exact absurd hframes' (List.append_ne_nil_of_right_ne_nil _ (List.cons_ne_nil _ _))
  | behind => exact run_closing hframes hclosing hrun'

end Ast

theorem read_eq_ok {s : List Char} {r : Regex} (h : read s = .ok r) :
    ∃ ast f, Ast.read s = .ok ast ∧ Meaning.ofAst {} ast = .ok (r, f) := by
  obtain ⟨ast, hast, h⟩ := bind_eq_ok h
  obtain ⟨⟨r, f⟩, hmeaning, ⟨⟩⟩ := bind_eq_ok h
  exact ⟨ast, f, hast, hmeaning⟩

theorem ofList_cons {f f₁ f₂ : Flags} {part : Ast} {parts : List Ast} {r : Regex} {rs : List Regex}
    (h : Meaning.ofAst f part = .ok (r, f₁)) (hs : Meaning.ofList f₁ parts = .ok (rs, f₂)) :
    Meaning.ofList f (part :: parts) = .ok (r :: rs, f₂) := by
  rw [Meaning.ofList, h]
  change (Meaning.ofList f₁ parts >>= _) = _
  rw [hs]
  rfl

/-- The flags at the start are in force at both signs, whatever the source does with them. -/
theorem ofAst_anchoredAst {ast : Ast} {r : Regex} {f : Flags}
    (h : Meaning.ofAst {} ast = .ok (r, f)) :
    Meaning.ofAst {} (anchoredAst ast) =
      .ok (.seq [.look .textStart, r, .look .textEnd], {}) := by
  have hgroup : Meaning.ofAst {} (.group (.plain []) ast) = .ok (r, {}) := by
    rw [Meaning.ofAst]
    change (Meaning.ofAst {} ast >>= _) = _
    rw [h]
    rfl
  have hparts : Meaning.ofList {} [.assertion .startLine, .group (.plain []) ast,
      .assertion .endLine] = .ok ([.look .textStart, r, .look .textEnd], {}) :=
    ofList_cons rfl (ofList_cons hgroup rfl)
  rw [anchoredAst, Meaning.ofAst, hparts]
  rfl

/-- What an anchored source stands for: the source, from the start of the text to its end. -/
theorem read_anchoredSource {s : List Char} {r anchored : Regex} (h : read s = .ok r)
    (hanchored : read (Pattern.anchoredSource s) = .ok anchored) :
    anchored = .seq [.look .textStart, r, .look .textEnd] := by
  obtain ⟨ast, f, hast, hmeaning⟩ := read_eq_ok h
  obtain ⟨ast', f', hast', hmeaning'⟩ := read_eq_ok hanchored
  obtain rfl := Ast.read_anchoredSource hast hast'
  rw [ofAst_anchoredAst hmeaning] at hmeaning'
  cases hmeaning'
  rfl

end EventQuery.Regex
