import EventQuery.Proofs.Query.Lexical

/-!
# What a reader must have done

From what a reader gave one gets back what its parts gave. There is one lemma for each way of
putting readers together, and each is about success alone: what a text was taken for is decided by
the parts that read it, and of the parts that were tried before it is only known that they refused.
-/

namespace EventQuery.Query

variable {α β : Type}

theorem Outcome.andThen_eq_ok {o : Outcome α} {next : α → List Char → Outcome β} {b : β}
    {rest : List Char} :
    o.andThen next = .ok b rest ↔ ∃ a mid, o = .ok a mid ∧ next a mid = .ok b rest := by
  cases o <;> simp

theorem Outcome.map_eq_ok {o : Outcome α} {g : α → β} {b : β} {rest : List Char} :
    o.map g = .ok b rest ↔ ∃ a, o = .ok a rest ∧ g a = b := by
  cases o <;> simp [and_comm]

namespace Reader

variable {r q : Reader α} {next : α → Reader β} {a : α} {b : β} {s rest : List Char}

theorem bind_eq_ok :
    (r >>= next) s = .ok b rest ↔ ∃ a mid, r s = .ok a mid ∧ next a mid = .ok b rest :=
  Outcome.andThen_eq_ok

theorem map_eq_ok {g : α → β} :
    (g <$> r) s = .ok b rest ↔ ∃ a, r s = .ok a rest ∧ g a = b := by
  rw [map_apply, Outcome.andThen_eq_ok]
  constructor
  · rintro ⟨a, mid, hr, h⟩
    cases h
    exact ⟨a, hr, rfl⟩
  · rintro ⟨a, hr, rfl⟩
    exact ⟨a, rest, hr, rfl⟩

/-! ## Choices -/

theorem orElse_eq_ok (h : (r <|> q) s = .ok a rest) : r s = .ok a rest ∨ q s = .ok a rest := by
  change Reader.orElse r (fun _ => q) s = .ok a rest at h
  unfold Reader.orElse at h
  cases hr : r s with
  | ok b mid =>
    rw [hr] at h
    exact .inl h
  | failed f => simp [hr] at h
  | refused f =>
    cases hq : q s with
    | ok b mid =>
      simp only [hr, hq] at h
      exact .inr h
    | refused g | failed g => simp [hr, hq] at h

theorem firstOf_eq_ok {rs : List (Reader α)} (h : firstOf rs s = .ok a rest) :
    ∃ r ∈ rs, r s = .ok a rest := by
  induction rs with
  | nil => exact nomatch h
  | cons r rs ih =>
    cases rs with
    | nil => exact ⟨r, List.mem_cons_self, h⟩
    | cons q rs =>
      obtain h | h := orElse_eq_ok h
      · exact ⟨r, List.mem_cons_self, h⟩
      · obtain ⟨r', hr', h⟩ := ih h
        exact ⟨r', List.mem_cons_of_mem r hr', h⟩

/-- What may be missing is there, or it was refused and nothing was read. -/
theorem optional_eq_ok {o : Option α} (h : optional r s = .ok o rest) :
    (o = none ∧ rest = s ∧ (r s).Refused) ∨ ∃ a, o = some a ∧ r s = .ok a rest := by
  unfold optional at h
  cases hr : r s with
  | ok a mid =>
    simp only [hr] at h
    cases h
    exact .inr ⟨a, rfl, rfl⟩
  | refused f =>
    simp only [hr] at h
    cases h
    exact .inl ⟨rfl, rfl, f, rfl⟩
  | failed f => simp [hr] at h

theorem optional_of_failed {f : Fault} (h : r s = .failed f) : optional r s = .failed f := by
  rw [optional, h]

/-! ## Other faults and other forms -/

theorem committed_ne_refused (r : Reader α) (s : List Char) (f : Fault) :
    committed r s ≠ .refused f := by
  unfold committed
  cases r s <;> simp

/-- In front of a reader that does not refuse, it is the first one that refuses. -/
theorem refused_of_bind_committed {first : Reader β}
    (h : ((do let _ ← first; committed r) s).Refused) : (first s).Refused := by
  obtain ⟨f, h⟩ := h
  rw [bind_apply] at h
  cases hfirst : first s with
  | ok b mid =>
    rw [hfirst, Outcome.andThen_ok] at h
    exact absurd h (committed_ne_refused r mid f)
  | refused g => exact ⟨g, rfl⟩
  | failed g => exact nomatch hfirst ▸ h

theorem committed_eq_ok : committed r s = .ok a rest ↔ r s = .ok a rest := by
  unfold committed
  cases r s <;> simp

theorem expecting_eq_ok {label : String} : expecting label r s = .ok a rest ↔ r s = .ok a rest := by
  unfold expecting
  cases r s <;> simp

theorem refine_eq_ok {form : α → Except String β} (h : refine r form s = .ok b rest) :
    ∃ a, r s = .ok a rest ∧ form a = .ok b := by
  obtain ⟨a, mid, hr, h⟩ := Outcome.andThen_eq_ok.mp h
  cases hform : form a with
  | error detail => simp [hform] at h
  | ok c =>
    simp only [hform] at h
    cases h
    exact ⟨a, hr, hform⟩

theorem verify_eq_ok {p : α → Bool} (h : verify r p s = .ok a rest) :
    r s = .ok a rest ∧ p a = true := by
  obtain ⟨b, mid, hr, h⟩ := Outcome.andThen_eq_ok.mp h
  cases hp : p b with
  | false => simp [hp] at h
  | true =>
    simp only [hp, if_true] at h
    cases h
    exact ⟨hr, hp⟩

/-- Blanks around what is read belong to nothing. -/
theorem padded_eq_ok (h : padded r s = .ok a rest) :
    ∃ mid, r (s.dropWhile isBlank) = .ok a mid ∧ rest = mid.dropWhile isBlank := by
  obtain ⟨_, _, hblanks, h⟩ := bind_eq_ok.mp h
  cases hblanks
  obtain ⟨b, mid, hr, h⟩ := bind_eq_ok.mp h
  obtain ⟨_, _, hblanks, h⟩ := bind_eq_ok.mp h
  cases hblanks
  cases h
  exact ⟨mid, hr, rfl⟩

/-! ## Characters -/

theorem satisfying_eq_ok {p : Char → Bool} {c : Char} (h : satisfying p s = .ok c rest) :
    s = c :: rest ∧ p c = true := by
  cases s with
  | nil => cases h
  | cons d s =>
    rw [satisfying] at h
    split at h
    · next hd =>
      cases h
      exact ⟨rfl, hd⟩
    · cases h

theorem char_eq_ok {c : Char} {u : Unit} (h : char c s = .ok u rest) : s = c :: rest := by
  obtain ⟨d, mid, hd, hpure⟩ := bind_eq_ok.mp h
  cases hpure
  obtain ⟨rfl, hc⟩ := satisfying_eq_ok hd
  rw [beq_iff_eq.mp hc]

theorem notFollowedBy_eq_ok {p : Char → Bool} {u : Unit} (h : notFollowedBy p s = .ok u rest) :
    rest = s ∧ Stops p s := by
  cases s with
  | nil =>
    cases h
    exact ⟨rfl, stops_nil p⟩
  | cons c s =>
    rw [notFollowedBy] at h
    split at h
    · cases h
    · next hc =>
      cases h
      exact ⟨rfl, stops_cons.mpr (Bool.not_eq_true _ ▸ hc)⟩

theorem exactly_eq_ok {same : Char → Char → Bool} {text : List Char} {u : Unit}
    (h : exactly same text s = .ok u rest) :
    ∃ start, s = start ++ rest ∧ List.Forall₂ (fun a c => same a c = true) text start := by
  rw [exactly_eq] at h
  cases hstrip : strip? same text s with
  | none => exact nomatch hstrip ▸ h
  | some behind =>
    rw [hstrip, Option.elim_some] at h
    cases h
    exact strip?_eq_some_iff.mp hstrip

theorem symbol_eq_ok {text : String} {u : Unit} (h : symbol text s = .ok u rest) :
    s = text.toList ++ rest := by
  obtain ⟨start, rfl, hstart⟩ := exactly_eq_ok h
  simp only [beq_iff_eq, List.forall₂_eq_eq_eq] at hstart
  rw [hstart]

/-- A keyword is a whole word, with the letters it is known by. -/
theorem keyword_eq_ok {word : String} {u : Unit} (h : keyword word s = .ok u rest) :
    ∃ letters, s = letters ++ rest ∧ letters.map Char.toLower = word.toList.map Char.toLower ∧
      Stops isWordChar rest := by
  obtain ⟨_, mid, hexactly, hend⟩ := bind_eq_ok.mp h
  obtain ⟨rfl, hstops⟩ := notFollowedBy_eq_ok hend
  obtain ⟨letters, rfl, hletters⟩ := exactly_eq_ok hexactly
  exact ⟨letters, rfl, (forall₂_sameLetter_iff.mp hletters).symm, hstops⟩

theorem identifier_eq_ok {word : String} (h : identifier s = .ok word rest) :
    ∃ n : Name, word = n.text ∧ s = n.letters ++ rest ∧ Stops isWordChar rest := by
  obtain ⟨letters, hverify, rfl⟩ := map_eq_ok.mp h
  obtain ⟨hread, hfree⟩ := verify_eq_ok hverify
  obtain ⟨first, mid, hfirst, hnext⟩ := bind_eq_ok.mp hread
  obtain ⟨more, hmore, rfl⟩ := map_eq_ok.mp hnext
  cases hmore
  obtain ⟨rfl, hstart⟩ := satisfying_eq_ok hfirst
  refine ⟨⟨first, mid.takeWhile isWordChar, hstart, fun c hc => List.mem_takeWhile_imp hc, ?_⟩, rfl,
    ?_, stops_dropWhile isWordChar mid⟩
  · simpa using hfree
  · rw [Name.letters, List.cons_append, List.takeWhile_append_dropWhile]

end Reader
end EventQuery.Query
