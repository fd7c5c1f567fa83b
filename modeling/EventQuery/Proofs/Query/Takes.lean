import EventQuery.Proofs.Query.Grammar
import EventQuery.Proofs.Query.Lexical

/-!
# Readers on tokens

What a reader does is said in tokens: it takes some of them in front of others (`Takes`), or it
refuses at them (`Refuses`). Both hold however the tokens are laid out, so that blanks and the
characters of a token play no part once the readers of single tokens are done with. There is one
lemma for each way of putting readers together.

A reader stops, and an optional clause is passed over, because of the token that comes next. What it
may be is said by the keywords and signs that it is one of (`Led`).
-/

namespace EventQuery.Query

/-! ## Tokens in a text -/

theorem LaidOut.dropWhile {ts : List Token} {text : List Char} (h : LaidOut ts text) :
    LaidOut ts (text.dropWhile Reader.isBlank) := by
  cases ts with
  | nil => exact (List.dropWhile_idempotent _ _).trans h
  | cons t ts =>
    obtain ⟨rest, hrest, h⟩ := h
    exact ⟨rest, (List.dropWhile_idempotent _ _).trans hrest, h⟩

/-- What comes next in a text is a blank or the start of the first token. -/
theorem LaidOut.stops {p : Char → Bool} {ts : List Token} {text : List Char} (h : LaidOut ts text)
    (hblank : ∀ c, Reader.isBlank c = true → p c = false)
    (hts : ∀ t ∈ ts.head?, ∀ c, t.Starts c → p c = false) : Stops p text := by
  cases text with
  | nil => exact stops_nil p
  | cons c text =>
    rw [stops_cons]
    by_cases hc : Reader.isBlank c = true
    · exact hblank c hc
    · cases ts with
      | nil => simp [LaidOut, hc] at h
      | cons t ts =>
        obtain ⟨rest, hrest, -⟩ := h
        obtain ⟨d, ds, htext, hd⟩ := t.text_eq_cons
        rw [List.dropWhile_cons_of_neg hc, htext] at hrest
        injection hrest with hcd
        exact hts t rfl c (hcd ▸ hd)

/-- The first token, if there is one, is one of some keywords or one of some signs. -/
def Led (words : List String) (signs : List Sign) (ts : List Token) : Prop :=
  ∀ t ∈ ts.head?, (∃ word ∈ words, t.Is word) ∨ ∃ s ∈ signs, t = .sign s

theorem led_nil (words : List String) (signs : List Sign) : Led words signs [] :=
  fun _ ht => nomatch ht

theorem led_keyword {words : List String} {signs : List Sign} {word : String} {t : Token}
    (ht : t.Is word) (hword : word ∈ words) (ts : List Token) : Led words signs (t :: ts) := by
  rintro u ⟨⟩
  exact .inl ⟨word, hword, ht⟩

theorem led_connects {words : List String} {signs : List Sign} {word : String} {s : Sign}
    {t : Token} (ht : t.Connects word s) (hword : word ∈ words) (hs : s ∈ signs)
    (ts : List Token) : Led words signs (t :: ts) := by
  rintro u ⟨⟩
  exact ht.imp (fun ht => ⟨word, hword, ht⟩) fun ht => ⟨s, hs, ht⟩

theorem led_sign (words : List String) {signs : List Sign} {s : Sign} (hs : s ∈ signs)
    (ts : List Token) : Led words signs (.sign s :: ts) := by
  rintro u ⟨⟩
  exact .inr ⟨s, hs, rfl⟩

theorem Led.mono {words words' : List String} {signs signs' : List Sign} {ts : List Token}
    (h : Led words signs ts) (hwords : words ⊆ words') (hsigns : signs ⊆ signs') :
    Led words' signs' ts := by
  intro t ht
  obtain ⟨word, hword, his⟩ | ⟨s, hs, rfl⟩ := h t ht
  · exact .inl ⟨word, hwords hword, his⟩
  · exact .inr ⟨s, hsigns hs, rfl⟩

namespace Reader

variable {α β : Type} {r q : Reader α} {next : α → Reader β} {a : α} {b : β} {t : Token}
  {ts us after : List Token}

/-- The reader takes some tokens if certain others come after them. -/
def Takes (r : Reader α) (a : α) (ts after : List Token) : Prop :=
  ∀ text, LaidOut (ts ++ after) text →
    ∃ rest, r text = .ok a rest ∧ LaidOut after rest ∧ rest.length + ts.length ≤ text.length

/-- The reader takes some tokens and the blanks behind them, and nothing is left. -/
def Finishes (r : Reader α) (a : α) (ts : List Token) : Prop :=
  ∀ text, LaidOut ts text → r text = .ok a []

/-- The reader refuses at some tokens. -/
def Refuses (r : Reader α) (ts : List Token) : Prop :=
  ∀ text, LaidOut ts text → (r text).Refused

/-- The reader takes the text of one token. -/
def Reads (r : Reader α) (a : α) (t : Token) (after : List Token) : Prop :=
  ∀ rest, (t.isWord = true → Stops isWordChar rest) → LaidOut after rest →
    r (t.text ++ rest) = .ok a rest

/-- The reader refuses at the text of one token. -/
def Shuns (r : Reader α) (t : Token) : Prop :=
  ∀ rest, (t.isWord = true → Stops isWordChar rest) → (r (t.text ++ rest)).Refused

/-! ## One reader after the other -/

theorem takes_pure (a : α) (after : List Token) : Takes (pure a) a [] after :=
  fun text h => ⟨text, rfl, h, Nat.le_refl _⟩

theorem Takes.bind (h : Takes r a ts (us ++ after)) (hnext : Takes (next a) b us after) :
    Takes (r >>= next) b (ts ++ us) after := by
  intro text htext
  rw [List.append_assoc] at htext
  obtain ⟨rest, hr, hrest, hlt⟩ := h text htext
  obtain ⟨behind, hn, hbehind, hlt'⟩ := hnext rest hrest
  refine ⟨behind, by rw [bind_apply, hr, Outcome.andThen_ok, hn], hbehind, ?_⟩
  rw [List.length_append]
  omega

/-- The second reader takes nothing. -/
theorem Takes.bind_nil (h : Takes r a ts after) (hnext : Takes (next a) b [] after) :
    Takes (r >>= next) b ts after := by
  rw [← List.append_nil ts]
  exact Takes.bind h hnext

theorem Takes.map (h : Takes r a ts after) (g : α → β) : Takes (g <$> r) (g a) ts after := by
  intro text htext
  obtain ⟨rest, hr, hrest⟩ := h text htext
  exact ⟨rest, by rw [map_apply, hr, Outcome.andThen_ok], hrest⟩

theorem Takes.bind_pure (h : Takes r a ts after) (g : α → β) :
    Takes (do let x ← r; return g x) (g a) ts after := h.map g

theorem Takes.committed (h : Takes r a ts after) : Takes (committed r) a ts after := by
  intro text htext
  obtain ⟨rest, hr, hrest⟩ := h text htext
  exact ⟨rest, committed_of_ok hr, hrest⟩

theorem Takes.expecting (h : Takes r a ts after) (label : String) :
    Takes (expecting label r) a ts after := by
  intro text htext
  obtain ⟨rest, hr, hrest⟩ := h text htext
  exact ⟨rest, expecting_of_ok hr, hrest⟩

theorem Takes.finishes (h : Takes r a ts us) (hnext : Finishes (next a) b us) :
    Finishes (r >>= next) b (ts ++ us) := by
  intro text htext
  obtain ⟨rest, hr, hrest, -⟩ := h text htext
  rw [bind_apply, hr, Outcome.andThen_ok, hnext rest hrest]

/-- The second reader takes nothing but blanks. -/
theorem Takes.finishes_nil (h : Takes r a ts []) (hnext : Finishes (next a) b []) :
    Finishes (r >>= next) b ts := by
  rw [← List.append_nil ts]
  exact h.finishes hnext

theorem finishes_blanks (b : β) : Finishes (do blanks; return b) b [] := by
  intro text htext
  have hblank : text.dropWhile isBlank = [] := htext
  rw [bind_apply, blanks, hblank]
  rfl

theorem Refuses.bind (h : Refuses r ts) : Refuses (r >>= next) ts :=
  fun text htext => refused_bind (h text htext)

/-! ## Choices and repetition -/

theorem Takes.orElse (h : Takes r a ts after) : Takes (r <|> q) a ts after := by
  intro text htext
  obtain ⟨rest, hr, hrest⟩ := h text htext
  exact ⟨rest, orElse_of_ok hr, hrest⟩

theorem Refuses.orElse_takes (h : Refuses r (ts ++ after)) (hq : Takes q a ts after) :
    Takes (r <|> q) a ts after := by
  intro text htext
  obtain ⟨rest, hr, hrest⟩ := hq text htext
  exact ⟨rest, orElse_of_refused (h text htext) hr, hrest⟩

theorem Takes.optional (h : Takes r a ts after) : Takes (optional r) (some a) ts after := by
  intro text htext
  obtain ⟨rest, hr, hrest⟩ := h text htext
  exact ⟨rest, optional_of_ok hr, hrest⟩

theorem Refuses.optional (h : Refuses r after) : Takes (optional r) none [] after :=
  fun text htext => ⟨text, optional_of_refused (h text htext), htext, Nat.le_refl _⟩

theorem Refuses.optional_bind {next : Option α → Reader β} (h : Refuses r (ts ++ after))
    (hnext : Takes (next none) b ts after) : Takes (Reader.optional r >>= next) b ts after :=
  Takes.bind h.optional hnext

theorem Refuses.many (h : Refuses r after) : Takes (many r) [] [] after :=
  fun text htext => ⟨text, many_of_refused (h text htext), htext, Nat.le_refl _⟩

theorem Takes.many {as : List α} (h : Takes r a ts (us ++ after)) (hne : ts ≠ [])
    (hmore : Takes (many r) as us after) : Takes (many r) (a :: as) (ts ++ us) after := by
  intro text htext
  rw [List.append_assoc] at htext
  obtain ⟨rest, hr, hrest, hlt⟩ := h text htext
  obtain ⟨behind, hm, hbehind, hlt'⟩ := hmore rest hrest
  have hpos := List.length_pos_iff.mpr hne
  refine ⟨behind, many_of_ok hr (by omega) hm, hbehind, ?_⟩
  rw [List.length_append]
  omega

/-! ## Single tokens -/

theorem takes_padded_bind (h : Reads r a t (us ++ after)) (hnext : Takes (next a) b us after) :
    Takes (padded (r >>= next)) b (t :: us) after := by
  rintro text ⟨rest, hrest, hword, htext⟩
  obtain ⟨behind, hn, hbehind, hlt⟩ := hnext rest htext
  refine ⟨behind.dropWhile isBlank, ?_, hbehind.dropWhile, ?_⟩
  · simp [padded, blanks, hrest, h rest hword htext, hn]
  · obtain ⟨c, cs, hc, -⟩ := t.text_eq_cons
    have hdrop := congrArg List.length hrest
    have htextLe := (List.dropWhile_suffix isBlank (l := text)).length_le
    have hbehindLe := (List.dropWhile_suffix isBlank (l := behind)).length_le
    rw [hc, List.length_append, List.length_cons] at hdrop
    rw [List.length_cons]
    omega

theorem Reads.takes (h : Reads r a t after) : Takes (padded r) a [t] after := by
  have hpure : r = r >>= pure := by
    funext s
    rw [bind_apply]
    cases r s <;> rfl
  rw [hpure]
  exact takes_padded_bind h (takes_pure a after)

theorem refuses_padded (hnil : (r []).Refused) (h : ∀ t ∈ ts.head?, Shuns r t) :
    Refuses (padded r) ts := by
  intro text htext
  rw [padded, bind_apply, blanks, Outcome.andThen_ok]
  refine refused_bind ?_
  cases ts with
  | nil =>
    have hblank : text.dropWhile isBlank = [] := htext
    rwa [hblank]
  | cons t ts =>
    obtain ⟨rest, hrest, hword, -⟩ := htext
    rw [hrest]
    exact h t rfl rest hword

theorem Shuns.refuses (h : Shuns r t) (hnil : (r []).Refused) (ts : List Token) :
    Refuses (padded r) (t :: ts) := by
  refine refuses_padded hnil ?_
  rintro u ⟨⟩
  exact h

theorem Reads.map (h : Reads r a t after) (g : α → β) : Reads (g <$> r) (g a) t after := by
  intro rest hword hrest
  rw [map_apply, h rest hword hrest, Outcome.andThen_ok]

theorem Shuns.map (h : Shuns r t) (g : α → β) : Shuns (g <$> r) t :=
  fun rest hword => refused_map (h rest hword)

theorem Shuns.bind (h : Shuns r t) : Shuns (r >>= next) t :=
  fun rest hword => refused_bind (h rest hword)

theorem Reads.orElse (h : Reads r a t after) : Reads (r <|> q) a t after :=
  fun rest hword hrest => orElse_of_ok (h rest hword hrest)

theorem Shuns.orElse_reads (h : Shuns r t) (hq : Reads q a t after) : Reads (r <|> q) a t after :=
  fun rest hword hrest => orElse_of_refused (h rest hword) (hq rest hword hrest)

theorem Reads.firstOf (h : Reads r a t after) (more : List (Reader α)) :
    Reads (firstOf (r :: more)) a t after :=
  fun rest hword hrest => firstOf_of_ok (h rest hword hrest) more

theorem Shuns.firstOf {more : List (Reader α)} (h : Shuns r t)
    (hmore : Reads (firstOf more) a t after) : Reads (Reader.firstOf (r :: more)) a t after :=
  fun rest hword hrest => firstOf_of_refused (h rest hword) (hmore rest hword hrest)

theorem Shuns.orElse (h : Shuns r t) (hq : Shuns q t) : Shuns (r <|> q) t :=
  fun rest hword => refused_orElse (h rest hword) (hq rest hword)

end Reader
end EventQuery.Query
