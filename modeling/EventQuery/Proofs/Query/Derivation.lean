import EventQuery.Proofs.Query.Inversion

/-!
# How a condition is read

A derivation records how a condition was read from a text: which sign was found where, which
readers refused before that, and how many negations and parentheses were open at once at most. It
knows nothing of a limit to these. Whatever is read under some limit has a derivation that keeps it
(`derives_of_read`), and a derivation in turn says what comes of the text under every limit
(`Derives.needsDepth`): the same condition where the limit is kept, and a fault for the nesting
where it is not, since the reader goes the same way up to the first sign that is one too many.
-/

namespace EventQuery.Query

open Reader

/-- The connectives of conditions. -/
inductive Connective where
  | and
  | or
deriving DecidableEq, Repr

/-- What is read of a condition at a time. -/
inductive Part where
  /-- A negation, a condition in parentheses, or a comparison. -/
  | term
  /-- Conditions with one connective between them. -/
  | chain (c : Connective)
  /-- What stands behind the first conditions of a chain, given what these have been read as. -/
  | behind (c : Connective) (left : Expr Path)

namespace Connective

/-- The condition that the connective makes of two. -/
def join : Connective → Expr Path → Expr Path → Expr Path
  | and => .and
  | or => .or

/-- The reader of its word or its sign. -/
def reader : Connective → Reader Unit
  | and => connective "and" "&&"
  | or => connective "or" "||"

/-- What it stands between. -/
def member : Connective → Part
  | and => .term
  | or => .chain .and

/-- The reader of what it stands between, given that of a term. -/
def memberReader (r : Reader (Expr Path)) : Connective → Reader (Expr Path)
  | and => r
  | or => chain .and (connective "and" "&&") r

/-- One more member of a chain, with the connective in front of it. -/
def next (c : Connective) (r : Reader (Expr Path)) : Reader (Expr Path) := do
  padded c.reader
  committed (c.memberReader r)

end Connective

/-- The reader of a part, given that of a term. -/
def Part.reader (r : Reader (Expr Path)) : Part → Reader (Expr Path)
  | term => r
  | chain c => Reader.chain c.join c.reader (c.memberReader r)
  | behind c left => do
    let more ← many (c.next r)
    return more.foldl c.join left

theorem Connective.reader_member (r : Reader (Expr Path)) (c : Connective) :
    c.member.reader r = c.memberReader r := by
  cases c <;> rfl

/-- The part is read from the start of a text as a condition, with the rest of the text left over,
    and so many negations and parentheses are open at once on the way. -/
inductive Derives (patternSize : Nat) : Part → List Char → Expr Path → List Char → Nat → Prop
  | comparison {s rest : List Char} {e : Expr Path} (hnot : (padded negationSign s).Refused)
    (hopen : (padded (char '(') s).Refused) (h : comparison patternSize s = .ok e rest) :
    Derives patternSize .term s e rest 0
  | not {s mid rest : List Char} {e : Expr Path} {depth : Nat}
    (hnot : padded negationSign s = .ok () mid)
    (h : Derives patternSize .term mid e rest depth) :
    Derives patternSize .term s (.not e) rest (depth + 1)
  | group {s mid mid' rest : List Char} {e : Expr Path} {depth : Nat}
    (hnot : (padded negationSign s).Refused) (hopen : padded (char '(') s = .ok () mid)
    (h : Derives patternSize (.chain .or) mid e mid' depth)
    (hclose : padded (char ')') mid' = .ok () rest) :
    Derives patternSize .term s e rest (depth + 1)
  | chain {c : Connective} {s mid rest : List Char} {first e : Expr Path} {depth depth' : Nat}
    (hfirst : Derives patternSize c.member s first mid depth)
    (hmore : Derives patternSize (.behind c first) mid e rest depth') :
    Derives patternSize (.chain c) s e rest (max depth depth')
  | done {c : Connective} {left : Expr Path} {s : List Char}
    (hstop : (padded c.reader s).Refused) : Derives patternSize (.behind c left) s left s 0
  | more {c : Connective} {left right e : Expr Path} {s mid mid' rest : List Char}
    {depth depth' : Nat} (hsign : padded c.reader s = .ok () mid)
    (hright : Derives patternSize c.member mid right mid' depth)
    (hshorter : mid'.length < s.length)
    (hmore : Derives patternSize (.behind c (c.join left right)) mid' e rest depth') :
    Derives patternSize (.behind c left) s e rest (max depth depth')

/-! ## Limits -/

section

variable {α β : Type}

/-- Reading came to a halt because too much was open. -/
def Outcome.TooDeep (o : Outcome α) : Prop :=
  ∃ place, o = .failed ⟨place, some "shallower nesting", none⟩

/-- Under every limit that is not below a depth the reader gives the same, and under every other one
    it comes to a halt because of it. -/
structure NeedsDepth (r : Nat → Reader α) (s : List Char) (a : α) (rest : List Char)
    (depth : Nat) : Prop where
  enough : ∀ n, depth ≤ n → r n s = .ok a rest
  short : ∀ n, n < depth → (r n s).TooDeep

namespace Outcome.TooDeep

variable {r : Reader α} {s : List Char}

theorem bind {next : α → Reader β} (h : (r s).TooDeep) : ((r >>= next) s).TooDeep := by
  obtain ⟨place, h⟩ := h
  exact ⟨place, by rw [bind_apply, h, andThen_failed]⟩

theorem committed (h : (r s).TooDeep) : (committed r s).TooDeep := by
  obtain ⟨place, h⟩ := h
  exact ⟨place, by rw [Reader.committed, h]⟩

theorem optional (h : (r s).TooDeep) : (optional r s).TooDeep := by
  obtain ⟨place, h⟩ := h
  exact ⟨place, by rw [Reader.optional, h]⟩

theorem many (h : (r s).TooDeep) : (many r s).TooDeep := by
  obtain ⟨place, h⟩ := h
  exact ⟨place, by rw [Reader.many, h]⟩

end Outcome.TooDeep

namespace NeedsDepth

variable {r : Nat → Reader α} {s mid rest : List Char} {a : α} {depth depth' : Nat}

/-- What does not depend on the limit needs no depth. -/
theorem of_ok {r : Reader α} (h : r s = .ok a rest) : NeedsDepth (fun _ => r) s a rest 0 where
  enough _ _ := h
  short _ hn := absurd hn (Nat.not_lt_zero _)

/-- Of two readers one after the other the one that needs more decides. -/
theorem bind {next : Nat → α → Reader β} {b : β} (h : NeedsDepth r s a mid depth)
    (hnext : NeedsDepth (fun n => next n a) mid b rest depth') :
    NeedsDepth (fun n => r n >>= next n) s b rest (max depth depth') where
  enough n hn := by
    obtain ⟨hfirst, hsecond⟩ := Nat.max_le.mp hn
    rw [bind_apply, h.enough n hfirst, Outcome.andThen_ok, hnext.enough n hsecond]
  short n hn := by
    rcases Nat.lt_or_ge n depth with hlt | hge
    · exact (h.short n hlt).bind
    · have hlt : n < depth' := by omega
      obtain ⟨place, hnext⟩ := hnext.short n hlt
      exact ⟨place, by rw [bind_apply, h.enough n hge, Outcome.andThen_ok, hnext]⟩

theorem committed (h : NeedsDepth r s a rest depth) :
    NeedsDepth (fun n => committed (r n)) s a rest depth where
  enough n hn := committed_of_ok (h.enough n hn)
  short n hn := (h.short n hn).committed

theorem optional (h : NeedsDepth r s a rest depth) :
    NeedsDepth (fun n => optional (r n)) s (some a) rest depth where
  enough n hn := optional_of_ok (h.enough n hn)
  short n hn := (h.short n hn).optional

/-- In front of what needs no depth. -/
theorem bind_ok {next : Nat → α → Reader β} {b : β} (h : NeedsDepth r s a mid depth)
    (hnext : NeedsDepth (fun n => next n a) mid b rest 0) :
    NeedsDepth (fun n => r n >>= next n) s b rest depth :=
  Nat.max_zero depth ▸ h.bind hnext

/-- Behind what needs no depth. -/
theorem ok_bind {r : Reader α} {next : Nat → α → Reader β} {b : β} (h : r s = .ok a mid)
    (hnext : NeedsDepth (fun n => next n a) mid b rest depth) :
    NeedsDepth (fun n => r >>= next n) s b rest depth :=
  Nat.zero_max depth ▸ (of_ok h).bind hnext

end NeedsDepth

end

/-! ## Terms -/

section

variable {patternSize : Nat} {inner : Option (Reader (Expr Path))} {s mid rest : List Char}
  {e : Expr Path}

theorem termOver_of_negation (h : padded negationSign s = .ok () mid) :
    termOver patternSize inner s = nested inner negation mid := by
  rw [termOver, bind_apply, optional_of_ok h]
  rfl

theorem termOver_of_group (hnot : (padded negationSign s).Refused)
    (hopen : padded (char '(') s = .ok () mid) :
    termOver patternSize inner s = nested inner group mid := by
  rw [termOver, bind_apply, optional_of_refused hnot]
  change (Reader.optional (padded (char '(')) s).andThen _ = _
  rw [optional_of_ok hopen]
  rfl

theorem termOver_of_comparison (hnot : (padded negationSign s).Refused)
    (hopen : (padded (char '(') s).Refused) :
    termOver patternSize inner s = comparison patternSize s := by
  rw [termOver, bind_apply, optional_of_refused hnot]
  change (Reader.optional (padded (char '(')) s).andThen _ = _
  rw [optional_of_refused hopen]
  rfl

/-- A term that was read begins with the sign of negation, or else with a parenthesis, or else it is
    a comparison. -/
theorem termOver_cases (h : termOver patternSize inner s = .ok e rest) :
    (∃ mid, padded negationSign s = .ok () mid ∧ nested inner negation mid = .ok e rest) ∨
    ((padded negationSign s).Refused ∧
      ∃ mid, padded (char '(') s = .ok () mid ∧ nested inner group mid = .ok e rest) ∨
    ((padded negationSign s).Refused ∧ (padded (char '(') s).Refused ∧
      comparison patternSize s = .ok e rest) := by
  cases hnot : padded negationSign s with
  | ok u mid => exact .inl ⟨mid, rfl, termOver_of_negation hnot ▸ h⟩
  | failed f =>
    rw [termOver, bind_apply, optional_of_failed hnot] at h
    exact nomatch h
  | refused f =>
    cases hopen : padded (char '(') s with
    | ok u mid => exact .inr (.inl ⟨⟨f, rfl⟩, mid, rfl, termOver_of_group ⟨f, hnot⟩ hopen ▸ h⟩)
    | failed g =>
      rw [termOver, bind_apply, optional_of_refused ⟨f, hnot⟩] at h
      change (Reader.optional (padded (char '(')) s).andThen _ = _ at h
      rw [optional_of_failed hopen] at h
      exact nomatch h
    | refused g =>
      exact .inr (.inr ⟨⟨f, rfl⟩, ⟨g, rfl⟩, termOver_of_comparison ⟨f, hnot⟩ ⟨g, hopen⟩ ▸ h⟩)

theorem nested_eq_ok {α β : Type} {inner : Option (Reader α)} {read : Reader α → Reader β} {b : β}
    (h : nested inner read s = .ok b rest) : ∃ r, inner = some r ∧ read r s = .ok b rest := by
  cases inner with
  | none => exact nomatch h
  | some r => exact ⟨r, rfl, h⟩

end

/-! ## What is read has a derivation -/

section

variable {patternSize limit : Nat} {r : Reader (Expr Path)}

/-- Whatever the reader reads of the part has a derivation within the limit. -/
def DerivesWithin (patternSize limit : Nat) (part : Part) (r : Reader (Expr Path)) : Prop :=
  ∀ s e rest, r s = .ok e rest → ∃ depth ≤ limit, Derives patternSize part s e rest depth

/-- Induction is on what is read behind the first members; they are connected from the left. -/
theorem derives_behind {c : Connective}
    (h : DerivesWithin patternSize limit c.member (c.memberReader r)) {s : List Char}
    {es : List (Expr Path)} {rest : List Char} (hread : many (c.next r) s = .ok es rest)
    (left : Expr Path) :
    ∃ depth ≤ limit, Derives patternSize (.behind c left) s (es.foldl c.join left) rest depth := by
  fun_induction many (c.next r) s generalizing es left with
  | case1 s right mid' hnext hshorter ih =>
    obtain ⟨⟨⟩, mid, hsign, hmember⟩ := bind_eq_ok.mp hnext
    obtain ⟨depth, hdepth, hright⟩ := h mid right mid' (committed_eq_ok.mp hmember)
    obtain ⟨more, hmany, rfl⟩ := Outcome.map_eq_ok.mp hread
    obtain ⟨depth', hdepth', hmore⟩ := ih hmany (c.join left right)
    exact ⟨max depth depth', Nat.max_le.mpr ⟨hdepth, hdepth'⟩, .more hsign hright hshorter hmore⟩
  | case2 => exact nomatch hread
  | case3 s f hnext =>
    -- A member is committed to, so only the connective in front of it can have refused.
    cases hread
    exact ⟨0, Nat.zero_le _, .done (refused_of_bind_committed ⟨f, hnext⟩)⟩
  | case4 s f => exact nomatch hread

theorem derives_chain {c : Connective}
    (h : DerivesWithin patternSize limit c.member (c.memberReader r)) :
    DerivesWithin patternSize limit (.chain c) (Part.reader r (.chain c)) := by
  intro s e rest hread
  obtain ⟨first, mid, hfirst, hread⟩ := bind_eq_ok.mp hread
  obtain ⟨more, hmore, rfl⟩ := map_eq_ok.mp hread
  obtain ⟨depth, hdepth, hfirst⟩ := h s first mid hfirst
  obtain ⟨depth', hdepth', hmore⟩ := derives_behind h hmore first
  exact ⟨max depth depth', Nat.max_le.mpr ⟨hdepth, hdepth'⟩, .chain hfirst hmore⟩

theorem derives_connected (h : DerivesWithin patternSize limit .term r) :
    DerivesWithin patternSize limit (.chain .or) (connected r) :=
  derives_chain (c := .or) (derives_chain (c := .and) h)

theorem derives_termOver {inner : Option (Reader (Expr Path))}
    (h : ∀ r ∈ inner, ∃ n < limit, DerivesWithin patternSize n .term r) :
    DerivesWithin patternSize limit .term (termOver patternSize inner) := by
  intro s e rest hread
  obtain ⟨mid, hnot, hread⟩ | ⟨hnot, mid, hopen, hread⟩ | ⟨hnot, hopen, hread⟩ :=
    termOver_cases hread
  · obtain ⟨r, hr, hread⟩ := nested_eq_ok hread
    obtain ⟨n, hn, hr⟩ := h r hr
    obtain ⟨e, he, rfl⟩ := map_eq_ok.mp hread
    obtain ⟨depth, hdepth, he⟩ := hr mid e rest (committed_eq_ok.mp he)
    exact ⟨depth + 1, Nat.lt_of_le_of_lt hdepth hn, .not hnot he⟩
  · obtain ⟨r, hr, hread⟩ := nested_eq_ok hread
    obtain ⟨n, hn, hr⟩ := h r hr
    obtain ⟨e', mid', he, hread⟩ := bind_eq_ok.mp hread
    obtain ⟨⟨⟩, rest', hclose, hpure⟩ := bind_eq_ok.mp hread
    cases hpure
    obtain ⟨depth, hdepth, he⟩ := derives_connected hr mid e mid' (committed_eq_ok.mp he)
    exact ⟨depth + 1, Nat.lt_of_le_of_lt hdepth hn,
      .group hnot hopen he (expecting_eq_ok.mp (committed_eq_ok.mp hclose))⟩
  · exact ⟨0, Nat.zero_le _, .comparison hnot hopen hread⟩

/-- Induction is on the limit, each level of which is read by the reader of the one below it. -/
theorem derives_term (patternSize limit : Nat) :
    DerivesWithin patternSize limit .term (term patternSize limit) := by
  induction limit with
  | zero => exact derives_termOver fun r hr => nomatch hr
  | succ limit ih =>
    refine derives_termOver fun r hr => ⟨limit, Nat.lt_succ_self limit, ?_⟩
    exact Option.mem_some.mp hr ▸ ih

theorem derives_of_read {limits : QueryLimits} {s rest : List Char} {e : Expr Path}
    (h : condition limits s = .ok e rest) :
    ∃ depth ≤ limits.nesting, Derives limits.patternSize (.chain .or) s e rest depth :=
  derives_connected (derives_term _ _) s e rest h

end

/-! ## What comes of a derivation under a limit -/

section

variable {patternSize depth : Nat} {s mid rest : List Char} {e : Expr Path}

/-- What stands one level further in needs one level more. -/
theorem NeedsDepth.nested (read : Reader (Expr Path) → Reader (Expr Path))
    (h : NeedsDepth (fun n => read (term patternSize n)) mid e rest depth)
    (hread : ∀ inner, termOver patternSize inner s = Reader.nested inner read mid) :
    NeedsDepth (fun n => term patternSize n) s e rest (depth + 1) where
  enough n hn := by
    cases n with
    | zero => exact absurd hn (Nat.not_succ_le_zero depth)
    | succ n => exact (hread _).trans (h.enough n (Nat.le_of_succ_le_succ hn))
  short n hn := by
    cases n with
    | zero => exact ⟨mid, hread none⟩
    | succ n =>
      obtain ⟨place, hshort⟩ := h.short n (Nat.lt_of_succ_lt_succ hn)
      exact ⟨place, (hread _).trans hshort⟩

theorem NeedsDepth.of_comparison (hnot : (padded negationSign s).Refused)
    (hopen : (padded (char '(') s).Refused) (h : comparison patternSize s = .ok e rest) :
    NeedsDepth (fun n => term patternSize n) s e rest 0 where
  enough n _ := by
    cases n with
    | zero => exact (termOver_of_comparison hnot hopen).trans h
    | succ n => exact (termOver_of_comparison hnot hopen).trans h
  short n hn := absurd hn (Nat.not_lt_zero n)

/-- Behind one more member of a chain it goes on as if that had been one of the first. -/
theorem Part.reader_behind_of_next {r : Reader (Expr Path)} {c : Connective}
    {left right : Expr Path} (h : c.next r s = .ok right mid) (hshorter : mid.length < s.length) :
    (Part.behind c left).reader r s = (Part.behind c (c.join left right)).reader r mid := by
  change (many (c.next r) s).andThen _ = (many (c.next r) mid).andThen _
  rw [many, h]
  simp only [if_pos hshorter]
  cases many (c.next r) mid <;> rfl

theorem Derives.needsDepth {part : Part} (h : Derives patternSize part s e rest depth) :
    NeedsDepth (fun n => part.reader (term patternSize n)) s e rest depth := by
  induction h with
  | comparison hnot hopen h => exact .of_comparison hnot hopen h
  | not hnot h ih =>
    refine NeedsDepth.nested Reader.negation ?_ fun inner => termOver_of_negation hnot
    exact ih.committed.bind_ok (.of_ok rfl)
  | group hnot hopen h hclose ih =>
    refine NeedsDepth.nested Reader.group ?_ fun inner => termOver_of_group hnot hopen
    refine ih.committed.bind_ok (.ok_bind (committed_of_ok (expecting_of_ok hclose)) (.of_ok rfl))
  | @chain c s mid rest first e depth depth' hfirst hmore ihfirst ihmore =>
    rw [funext fun n => c.reader_member (term patternSize n)] at ihfirst
    exact ihfirst.bind ihmore
  | @done c left s hstop =>
    refine ⟨fun n _ => ?_, fun n hn => absurd hn (Nat.not_lt_zero n)⟩
    have hnext : (c.next (term patternSize n) s).Refused := refused_bind hstop
    change (many (c.next (term patternSize n)) s).andThen _ = _
    rw [many_of_refused hnext]
    rfl
  | @more c left right e s mid mid' rest depth depth' hsign hright hshorter hmore ihright ihmore =>
    rw [funext fun n => c.reader_member (term patternSize n)] at ihright
    have hnext : NeedsDepth (fun n => c.next (term patternSize n)) s right mid' depth :=
      .ok_bind hsign ihright.committed
    refine ⟨fun n hn => ?_, fun n hn => ?_⟩
    · obtain ⟨hfirst, hsecond⟩ := Nat.max_le.mp hn
      rw [Part.reader_behind_of_next (hnext.enough n hfirst) hshorter]
      exact ihmore.enough n hsecond
    · -- The member is read first: if it goes too deep, nothing behind it matters.
      rcases Nat.lt_or_ge n depth with hlt | hge
      · exact ((hnext.short n hlt).many).bind
      · have hlt : n < depth' := by omega
        obtain ⟨place, hshort⟩ := ihmore.short n hlt
        exact ⟨place, (Part.reader_behind_of_next (hnext.enough n hge) hshorter).trans hshort⟩

end

end EventQuery.Query
