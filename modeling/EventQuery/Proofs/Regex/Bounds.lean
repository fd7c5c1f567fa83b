import EventQuery.Proofs.Regex.Anchoring
import EventQuery.Proofs.Regex.Matching

/-!
# Bounds of repetitions

The reader of a counted repetition refuses an upper bound below the lower one, and the signs for
repetition have none. So every expression that is read has its bounds in order, and the matcher can
be trusted with it.
-/

namespace EventQuery.Regex

/-- What the answer gives has the property. -/
def Delivers {α : Type} (P : α → Prop) (r : Except Error (α × List Char)) : Prop :=
  ∀ a rest, r = .ok (a, rest) → P a

namespace Delivers

variable {α β : Type} {P : α → Prop} {Q : β → Prop}

theorem error (e : Error) : Delivers P (.error e) := fun _ _ h => nomatch h

theorem ok {a : α} (h : P a) (rest : List Char) : Delivers P (.ok (a, rest)) := by
  rintro _ _ ⟨⟩
  exact h

theorem bind {r : Except Error (α × List Char)}
    {next : α × List Char → Except Error (β × List Char)} (hr : Delivers P r)
    (hn : ∀ a rest, P a → Delivers Q (next (a, rest))) : Delivers Q (r >>= next) := by
  intro b out h
  obtain ⟨⟨a, rest⟩, ha, hb⟩ := bind_eq_ok h
  exact hn a rest (hr a rest ha) b out hb

theorem after {r : Except Error α} {next : α → Except Error (β × List Char)}
    (hn : ∀ a, r = .ok a → Delivers Q (next a)) : Delivers Q (r >>= next) := by
  intro b out h
  obtain ⟨a, ha, hb⟩ := bind_eq_ok h
  exact hn a ha b out hb

end Delivers

/-- No repetition in the written expression is asked for more often than it is allowed. -/
inductive Ast.Bounded : Ast → Prop
  | empty : Bounded .empty
  | flags (items : List FlagItem) : Bounded (.flags items)
  | literal (l : Literal) : Bounded (.literal l)
  | dot : Bounded .dot
  | assertion (kind : Assertion) : Bounded (.assertion kind)
  | shorthand (kind : Shorthand) (negated : Bool) : Bounded (.shorthand kind negated)
  | property (query : PropertyQuery) (negated : Bool) : Bounded (.property query negated)
  | bracketed (negated : Bool) (body : ClassSet) : Bounded (.bracketed negated body)
  | repetition {body : Ast} {least : Nat} {most : Option Nat} (greedy : Bool) (inner : Bounded body)
      (ordered : ∀ m ∈ most, least ≤ m) : Bounded (.repetition body least most greedy)
  | group (kind : GroupKind) {body : Ast} (inner : Bounded body) : Bounded (.group kind body)
  | alternation {branches : List Ast} (inner : ∀ a ∈ branches, Bounded a) :
      Bounded (.alternation branches)
  | concat {parts : List Ast} (inner : ∀ a ∈ parts, Bounded a) : Bounded (.concat parts)

/-! ## The reader -/

/-- Everything read of a group so far has its bounds in order. -/
structure Branches.Bounded (b : Branches) : Prop where
  done : ∀ a ∈ b.done, a.Bounded
  parts : ∀ a ∈ b.parts, a.Bounded

namespace Branches

variable {b : Branches}

theorem bounded_empty : Bounded {} := ⟨nofun, nofun⟩

theorem Bounded.push (h : b.Bounded) {part : Ast} (hpart : part.Bounded) : (b.push part).Bounded :=
  ⟨h.done, List.forall_mem_cons.mpr ⟨hpart, h.parts⟩⟩

theorem bounded_sequence {parts : List Ast} (h : ∀ a ∈ parts, a.Bounded) :
    (sequence parts).Bounded := by
  match parts with
  | [] => exact .empty
  | [part] => exact h part (List.mem_singleton_self part)
  | first :: second :: rest => exact .concat fun a ha => h a (List.mem_reverse.mp ha)

theorem Bounded.bar (h : b.Bounded) : b.bar.Bounded :=
  ⟨List.forall_mem_cons.mpr ⟨bounded_sequence h.parts, h.done⟩, nofun⟩

theorem Bounded.toAst (h : b.Bounded) : b.toAst.Bounded := by
  have hlast := bounded_sequence h.parts
  unfold Branches.toAst
  split
  · exact hlast
  · refine .alternation fun a ha => ?_
    exact List.forall_mem_cons.mpr ⟨hlast, h.done⟩ a (List.mem_reverse.mp ha)

end Branches

/-- The same of all groups that are open. -/
structure ReaderState.Bounded (st : ReaderState) : Prop where
  branches : st.branches.Bounded
  frames : ∀ frame ∈ st.frames, frame.outside.Bounded

namespace ReaderState

variable {st st₁ : ReaderState}

theorem Bounded.push (h : st.Bounded) {part : Ast} (hpart : part.Bounded) :
    (st.push part).Bounded :=
  ⟨h.branches.push hpart, h.frames⟩

theorem Bounded.openGroup (h : st.Bounded) (kind : GroupKind) (verbose : Bool) :
    (st.openGroup kind verbose).Bounded :=
  ⟨Branches.bounded_empty, List.forall_mem_cons.mpr ⟨h.branches, h.frames⟩⟩

theorem Bounded.closeGroup (h : st.Bounded) (hclose : st.closeGroup = .ok st₁) : st₁.Bounded := by
  obtain ⟨verbose, names, frames, branches⟩ := st
  cases frames with
  | nil => cases hclose
  | cons frame frames =>
    cases hclose
    obtain ⟨hframe, hframes⟩ := List.forall_mem_cons.mp h.frames
    exact ⟨hframe.push (.group _ h.branches.toAst), hframes⟩

theorem Bounded.repeated (h : st.Bounded) {least : Nat} {most : Option Nat} {greedy : Bool}
    (ordered : ∀ m ∈ most, least ≤ m) (hrepeated : st.repeated least most greedy = .ok st₁) :
    st₁.Bounded := by
  unfold ReaderState.repeated at hrepeated
  split at hrepeated
  · cases hrepeated
  · cases hrepeated
  · cases hrepeated
  · next part parts _ _ heq =>
    cases hrepeated
    have hparts := h.branches.parts
    rw [heq] at hparts
    obtain ⟨hpart, hbefore⟩ := List.forall_mem_cons.mp hparts
    have hnew : (Ast.repetition part least most greedy).Bounded := .repetition greedy hpart ordered
    exact ⟨⟨h.branches.done, List.forall_mem_cons.mpr ⟨hnew, hbefore⟩⟩, h.frames⟩

end ReaderState

namespace Lexeme

/-- An upper bound below the lower one is refused. -/
theorem delivers_bounds {verbose : Bool} {s : List Char} :
    Delivers (fun b => ∀ m ∈ b.2.1, b.1 ≤ m) (bounds verbose s) := by
  unfold bounds
  split
  · exact .error _
  · refine .after fun found _ => ?_
    dsimp only
    split
    · split
      · exact .error _
      · next hany =>
        refine .ok (fun m hm => ?_) _
        simp only [Option.any_eq_true, not_exists, not_and] at hany
        exact Nat.le_of_not_lt fun hlt => hany m hm (decide_eq_true hlt)
    · exact .error _

end Lexeme

namespace Reader

variable {st : ReaderState} {s : List Char}

theorem delivers_namedGroup (h : st.Bounded) :
    Delivers ReaderState.Bounded (namedGroup st s) := by
  refine .after fun found _ => ?_
  dsimp only
  split
  · exact .error _
  · have hnamed : ReaderState.Bounded { st with names := found.1 :: st.names } :=
      ⟨h.branches, h.frames⟩
    exact .ok (hnamed.openGroup _ _) _

theorem delivers_flagged (h : st.Bounded) : Delivers ReaderState.Bounded (flagged st s) := by
  refine .after fun found _ => ?_
  dsimp only
  split
  · exact .ok (h.openGroup _ _) _
  · split
    · exact .error _
    · have hset (verbose : Bool) : ReaderState.Bounded { st with verbose } :=
        ⟨h.branches, h.frames⟩
      exact .ok ((hset _).push (.flags _)) _

theorem delivers_openParen (h : st.Bounded) : Delivers ReaderState.Bounded (openParen st s) := by
  unfold openParen
  split
  all_goals first
    | exact .error _
    | exact delivers_namedGroup h
    | exact delivers_flagged h
    | exact .ok (h.openGroup _ _) _

theorem delivers_repetition (h : st.Bounded) {least : Nat} {most : Option Nat}
    (ordered : ∀ m ∈ most, least ≤ m) :
    Delivers ReaderState.Bounded (repetition st least most s) :=
  .after fun _ hrepeated => .ok (h.repeated ordered hrepeated) _

theorem bounded_primitive (p : Lexeme.Primitive) : p.toAst.Bounded := by
  cases p <;> constructor

/-- A step keeps the bounds in order. -/
theorem delivers_step (h : st.Bounded) {c : Char} :
    Delivers ReaderState.Bounded (step st c s) := by
  unfold step
  split
  · exact delivers_openParen h
  · exact .after fun _ hclose => .ok (h.closeGroup hclose) _
  · exact .ok ⟨h.branches.bar, h.frames⟩ _
  · refine .bind (P := Ast.Bounded) ?_ fun part _ hpart => .ok (h.push hpart) _
    exact .after fun _ _ => .after fun _ _ => .ok (.bracketed _ _) _
  · exact delivers_repetition h (by simp)
  · exact delivers_repetition h (by simp)
  · exact delivers_repetition h (by simp)
  · refine .after fun _ _ => .bind Lexeme.delivers_bounds fun bounds _ ordered => ?_
    exact .after fun _ hrepeated => .ok (h.repeated ordered hrepeated) _
  · exact .after fun p _ => .ok (h.push (bounded_primitive p.1)) _

theorem bounded_run {fin : ReaderState} (h : st.Bounded) (hrun : run st s = .ok fin) :
    fin.Bounded := by
  fun_induction run st s with
  | case1 => cases hrun; exact h
  | case2 => cases hrun
  | case3 st s c after hblanks st₁ rest hstep ih => exact ih (delivers_step h _ _ hstep) hrun

end Reader

theorem Ast.bounded_read {s : List Char} {ast : Ast} (h : Ast.read s = .ok ast) : ast.Bounded := by
  obtain ⟨st, hrun, -, rfl⟩ := Ast.read_eq_ok h
  have hstart : ReaderState.Bounded {} :=
    ⟨Branches.bounded_empty, fun _ h => absurd h List.not_mem_nil⟩
  exact (Reader.bounded_run hstart hrun).branches.toAst

/-! ## The meaning -/

theorem bounded_literal {f : Flags} {l : Literal} {r : Regex} (h : Meaning.literal f l = .ok r) :
    r.Bounded := by
  unfold Meaning.literal at h
  dsimp only at h
  split_ifs at h
  cases h
  exact .set _

theorem bounded_dot {f : Flags} {r : Regex} (h : Meaning.dot f = .ok r) : r.Bounded := by
  unfold Meaning.dot at h
  split_ifs at h
  all_goals cases h
  all_goals exact .set _

theorem bounded_ofList {f f' : Flags} {parts : List Ast} {rs : List Regex}
    (hparts : ∀ a ∈ parts, ∀ (f f' : Flags) (r : Regex), Meaning.ofAst f a = .ok (r, f') → r.Bounded)
    (h : Meaning.ofList f parts = .ok (rs, f')) : ∀ r ∈ rs, r.Bounded := by
  induction parts generalizing f f' rs with
  | nil =>
    cases h
    nofun
  | cons part parts ih =>
    obtain ⟨hpart, hrest⟩ := List.forall_mem_cons.mp hparts
    rw [Meaning.ofList] at h
    obtain ⟨⟨r, f₁⟩, hr, h⟩ := bind_eq_ok h
    obtain ⟨⟨rs, f₂⟩, hrs, ⟨⟩⟩ := bind_eq_ok h
    exact List.forall_mem_cons.mpr ⟨hpart _ _ _ hr, ih hrest hrs⟩

/-- What an expression stands for has the bounds of what was written. -/
theorem bounded_ofAst {ast : Ast} (hast : ast.Bounded) : ∀ (f f' : Flags) (r : Regex),
    Meaning.ofAst f ast = .ok (r, f') → r.Bounded := by
  induction hast with
  | empty => rintro f _ _ ⟨⟩; exact .seq nofun
  | flags items => rintro f _ _ ⟨⟩; exact .seq nofun
  | assertion kind => rintro f _ _ ⟨⟩; exact .look _
  | literal l =>
    intro f f' r h
    rw [Meaning.ofAst] at h
    obtain ⟨set, hset, ⟨⟩⟩ := bind_eq_ok h
    exact bounded_literal hset
  | dot =>
    intro f f' r h
    rw [Meaning.ofAst] at h
    obtain ⟨set, hset, ⟨⟩⟩ := bind_eq_ok h
    exact bounded_dot hset
  | shorthand kind negated =>
    intro f f' r h
    rw [Meaning.ofAst] at h
    obtain ⟨set, -, ⟨⟩⟩ := bind_eq_ok h
    exact .set set
  | property query negated =>
    intro f f' r h
    rw [Meaning.ofAst] at h
    obtain ⟨set, -, ⟨⟩⟩ := bind_eq_ok h
    exact .set set
  | bracketed negated body =>
    intro f f' r h
    rw [Meaning.ofAst] at h
    obtain ⟨inner, -, h⟩ := bind_eq_ok h
    obtain ⟨set, -, ⟨⟩⟩ := bind_eq_ok h
    exact .set set
  | repetition greedy _ ordered ih =>
    intro f f' r h
    rw [Meaning.ofAst] at h
    obtain ⟨⟨body, f₁⟩, hbody, ⟨⟩⟩ := bind_eq_ok h
    exact .rep _ (ih _ _ _ hbody) ordered
  | group kind _ ih =>
    intro f f' r h
    cases kind with
    | capture =>
      rw [Meaning.ofAst] at h
      obtain ⟨⟨body, f₁⟩, hbody, ⟨⟩⟩ := bind_eq_ok h
      exact .group (ih _ _ _ hbody)
    | plain items =>
      rw [Meaning.ofAst] at h
      obtain ⟨⟨body, f₁⟩, hbody, ⟨⟩⟩ := bind_eq_ok h
      exact ih _ _ _ hbody
  | alternation _ ih =>
    intro f f' r h
    rw [Meaning.ofAst] at h
    obtain ⟨⟨rs, f₁⟩, hrs, ⟨⟩⟩ := bind_eq_ok h
    exact .alt (bounded_ofList ih hrs)
  | concat _ ih =>
    intro f f' r h
    rw [Meaning.ofAst] at h
    obtain ⟨⟨rs, f₁⟩, hrs, ⟨⟩⟩ := bind_eq_ok h
    exact .seq (bounded_ofList ih hrs)

/-- Every expression that a text stands for has its bounds in order. -/
theorem bounded_read {s : List Char} {r : Regex} (h : read s = .ok r) : r.Bounded := by
  obtain ⟨ast, f, hast, hmeaning⟩ := read_eq_ok h
  exact bounded_ofAst (Ast.bounded_read hast) _ _ _ hmeaning

end EventQuery.Regex
