import EventQuery.Query

/-!
# What readers give

A property of what is read is a property of every value that a reader may give, whatever text it was
given (`Reader.Gives`). It goes through the ways of putting readers together: what is read after a
value may rely on the property of that value, and choices, labels and blanks change nothing.

From this a select list that was read has no path without a segment (`Query.path_ne_nil_of_read`).
-/

namespace EventQuery.Query

variable {α β : Type}

namespace Outcome

/-- What was read, if something was, has the property. -/
def Gives (P : α → Prop) : Outcome α → Prop
  | ok a _ => P a
  | refused _ | failed _ => True

theorem Gives.andThen {P : α → Prop} {Q : β → Prop} {o : Outcome α}
    {next : α → List Char → Outcome β} (ho : o.Gives P)
    (hn : ∀ a rest, P a → (next a rest).Gives Q) : (o.andThen next).Gives Q :=
  match o, ho with
  | ok a rest, ha => hn a rest ha
  | refused _, _ | failed _, _ => trivial

end Outcome

namespace Reader

/-- Whatever the reader gives has the property. -/
def Gives (r : Reader α) (P : α → Prop) : Prop := ∀ s, (r s).Gives P

namespace Gives

variable {r q : Reader α} {P : α → Prop} {Q : β → Prop}

theorem any (r : Reader α) : r.Gives fun _ => True := by
  intro s
  cases r s <;> trivial

theorem pure {a : α} (h : P a) : (Pure.pure a : Reader α).Gives P := fun _ => h

theorem bind {next : α → Reader β} (hr : r.Gives P) (hn : ∀ a, P a → (next a).Gives Q) :
    (r >>= next).Gives Q := fun s => (hr s).andThen fun a rest ha => hn a ha rest

/-- A reader gives what comes last in it, whatever was read before. -/
theorem after {next : α → Reader β} (hn : ∀ a, (next a).Gives Q) : (r >>= next).Gives Q :=
  (any r).bind fun a _ => hn a

theorem orElse (hr : r.Gives P) (hq : q.Gives P) : (r <|> q).Gives P := by
  intro s
  have hrs := hr s
  have hqs := hq s
  show (Reader.orElse r (fun _ => q) s).Gives P
  unfold Reader.orElse
  dsimp only
  cases hre : r s with
  | ok a rest => rwa [hre] at hrs
  | failed f => trivial
  | refused f =>
    cases hqe : q s with
    | ok a rest => rwa [hqe] at hqs
    | refused g | failed g => trivial

theorem of_ok (h : ∀ s a rest, r s = .ok a rest → P a) : r.Gives P := by
  intro s
  cases hrs : r s with
  | ok a rest => exact h s a rest hrs
  | refused f | failed f => trivial

theorem ok {s rest : List Char} {a : α} (hr : r.Gives P) (h : r s = .ok a rest) : P a := by
  have hrs := hr s
  rwa [h] at hrs

theorem map {g : α → β} (hr : r.Gives P) (hg : ∀ a, P a → Q (g a)) : (g <$> r).Gives Q :=
  hr.bind fun a ha => pure (hg a ha)

theorem firstOf {rs : List (Reader α)} (h : ∀ r ∈ rs, r.Gives P) : (firstOf rs).Gives P := by
  induction rs with
  | nil => exact fun _ => trivial
  | cons r rs ih =>
    have hr := h r List.mem_cons_self
    cases rs with
    | nil => exact hr
    | cons q rs => exact orElse hr (ih fun r' hr' => h r' (List.mem_cons_of_mem r hr'))

theorem optional (hr : r.Gives P) : (optional r).Gives fun o => ∀ a ∈ o, P a := by
  intro s
  have hrs := hr s
  unfold Reader.optional
  cases hre : r s with
  | ok a rest =>
    rw [hre] at hrs
    exact fun b hb => Option.mem_some.mp hb ▸ hrs
  | refused f => exact fun b hb => nomatch hb
  | failed f => trivial

theorem committed (hr : r.Gives P) : (committed r).Gives P := by
  intro s
  have hrs := hr s
  unfold Reader.committed
  cases hre : r s with
  | ok a rest => rwa [hre] at hrs
  | refused f | failed f => trivial

theorem expecting (label : String) (hr : r.Gives P) : (expecting label r).Gives P := by
  intro s
  have hrs := hr s
  unfold Reader.expecting
  cases hre : r s with
  | ok a rest => rwa [hre] at hrs
  | refused f | failed f => trivial

/-- All things that are read one after the other have the property that each of them has. -/
theorem many (hr : r.Gives P) : Reader.Gives (many r) fun as => ∀ a ∈ as, P a := by
  intro s
  fun_induction Reader.many r s with
  | case1 s a rest hre _ ih =>
    have ha : P a := by
      have hrs := hr s
      rwa [hre] at hrs
    cases hmany : Reader.many r rest with
    | ok as rest' =>
      rw [hmany] at ih
      exact List.forall_mem_cons.mpr ⟨ha, ih⟩
    | refused f | failed f => trivial
  | case2 | case4 => trivial
  | case3 => exact fun a ha => nomatch ha

theorem separated (separator : Reader Unit) (hr : r.Gives P) :
    (separated separator r).Gives fun as => ∀ a ∈ as, P a :=
  hr.bind fun _ ha => (many (after fun _ => hr)).bind fun _ hmore =>
    pure (List.forall_mem_cons.mpr ⟨ha, hmore⟩)

theorem padded (hr : r.Gives P) : (padded r).Gives P :=
  after fun _ => hr.bind fun _ ha => after fun _ => pure ha

end Gives

/-! ## Select lists -/

theorem pathOf_ne_nil (root : String) (brackets : List Segment) : pathOf root brackets ≠ [] := by
  unfold pathOf
  split
  · next h => exact h.2
  · exact List.cons_ne_nil _ _

theorem gives_path : path.Gives fun p => p ≠ [] :=
  .after fun root => .after fun brackets => .pure (pathOf_ne_nil root brackets)

/-- The path of the entry, if it has one, has a segment. -/
def HasSegment (item : SelectItem Path) : Prop := ∀ p ∈ item.path?, p ≠ []

theorem gives_selectItem : selectItem.Gives HasSegment := by
  refine gives_path.bind fun p hp => .after fun name => .pure ?_
  intro p' hp'
  cases hp'
  exact hp

theorem gives_selectList : selectList.Gives fun items => ∀ item ∈ items, HasSegment item := by
  refine .orElse (.after fun _ => .pure ?_)
    (.separated _ (gives_selectItem.padded.expecting _).committed)
  intro item hitem p hp
  cases List.mem_singleton.mp hitem
  cases hp

theorem gives_statement (limits : QueryLimits) :
    (statement limits).Gives fun s => ∀ item ∈ s.select, HasSegment item := by
  refine .after fun _ => (gives_selectList.expecting _).committed.bind fun select hselect => ?_
  exact .after fun _ => .after fun _ => .after fun _ => .after fun _ => .after fun _ =>
    .after fun _ => .pure hselect

end Reader

end EventQuery.Query

namespace EventQuery

/-- In a query that was read every path of the select list has a segment. -/
theorem Query.path_ne_nil_of_read {limits : QueryLimits} {id text : String} {q : Query}
    (h : Query.read limits id text = .ok q) {p : Path} {name : Option String}
    (hp : .path p name ∈ q.statement.select) : p ≠ [] := by
  obtain ⟨statement, hread, rfl⟩ := Query.read_eq_ok.mp h
  have hgives := Query.Reader.gives_statement limits text.toList
  rw [Statement.read_eq_ok.mp hread] at hgives
  exact hgives _ hp p rfl

end EventQuery
