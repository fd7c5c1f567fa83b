import EventQuery.Proofs.Query.Inversion
import EventQuery.Proofs.Query.Openings

/-!
# Marks on the way through a text

From one place to another a text goes over some marks (`Spans`). Here are the parts of a condition
that open and close nothing (`Quietly`): characters without a meaning of their own, blanks, words
other than `not`, and texts in quotes. Words are looked at as a whole, for one may begin like `not`,
and so are texts in quotes, in which no character means anything.
-/

namespace EventQuery.Query

/-! ## From place to place -/

/-- From one place to another a text goes over some marks, up to a rest. -/
def Spans (p : Place) (s : List Char) (ms : List Mark) (p' : Place) (rest : List Char) : Prop :=
  ∃ text, s = text ++ rest ∧ marks p text rest = ms ∧ text.foldl Place.next p = p'

/-- Outside strings and patterns. -/
def Place.Bare (p : Place) : Prop := p = .between ∨ p = .word

/-- The marks neither open nor close anything. -/
def Others (ms : List Mark) : Prop := ∀ m ∈ ms, m = .other

theorem others_nil : Others [] := fun _ hm => nomatch hm

theorem Others.append {ms ns : List Mark} (h : Others ms) (h' : Others ns) : Others (ms ++ ns) :=
  fun m hm => (List.mem_append.mp hm).elim (h m) (h' m)

theorem others_toList {m : Option Mark} (h : ∀ x ∈ m, x = .other) : Others m.toList :=
  fun x hx => h x (Option.mem_toList.mp hx)

namespace Spans

variable {p p' p'' : Place} {s mid rest : List Char} {ms ns : List Mark}

theorem refl (p : Place) (s : List Char) : Spans p s [] p s := ⟨[], rfl, rfl, rfl⟩

theorem trans (h : Spans p s ms p' mid) (h' : Spans p' mid ns p'' rest) :
    Spans p s (ms ++ ns) p'' rest := by
  obtain ⟨a, rfl, rfl, rfl⟩ := h
  obtain ⟨b, rfl, rfl, rfl⟩ := h'
  refine ⟨a ++ b, (List.append_assoc a b rest).symm, ?_, List.foldl_append⟩
  exact marks_append p a b rest

theorem char (p : Place) (c : Char) (rest : List Char) :
    Spans p (c :: rest) (p.mark? c rest).toList (p.next c) rest :=
  ⟨[c], rfl, List.append_nil _, rfl⟩

/-- Where no word goes on it makes no difference whether there was one. -/
theorem of_stops (h : Spans .between s ms p' rest) (hs : Stops isWordChar s) :
    ∃ p'', (p'' = p' ∨ p'' = .word ∧ rest = s) ∧ Spans .word s ms p'' rest := by
  obtain ⟨text, rfl, rfl, rfl⟩ := h
  cases text with
  | nil => exact ⟨.word, .inr ⟨rfl, rfl⟩, refl .word rest⟩
  | cons c text =>
    have hc : isWordChar c = false := stops_cons.mp hs
    have hnext : Place.word.next c = Place.between.next c := rfl
    have hmark : Place.word.mark? c (text ++ rest) = Place.between.mark? c (text ++ rest) := by
      simp only [Place.mark?, hc, Bool.false_eq_true, if_false]
    refine ⟨_, .inl rfl, c :: text, rfl, ?_, rfl⟩
    rw [marks, marks, hnext, hmark]

end Spans

/-! ## Characters and words -/

/-- The character is neither the start of a negation nor a parenthesis nor a quote. -/
def isOrdinary (c : Char) : Bool :=
  !(c.toLower == 'n' || c == '(' || c == ')' || c == '!' || isQuote c)

section

variable {p : Place} {c : Char} {rest : List Char}

theorem isQuote_eq_false_of_ordinary (h : isOrdinary c = true) : isQuote c = false := by
  by_contra hquote
  simp [isOrdinary, hquote] at h

theorem isOrdinary_of_isDigit (h : c.isDigit = true) : isOrdinary c = true := by
  have hsign (d : Char) (hd : d.isDigit = false) : (c == d) = false := beq_eq_false_of_kind h hd
  have hlower : (c.toLower == 'n') = false := by
    rw [beq_eq_false_iff_ne]
    intro heq
    have hletter : c.toLower.isAlpha = true := heq ▸ rfl
    have halpha := isAlpha_iff.mp (isAlpha_of_isAlpha_toLower hletter)
    have hdigit : 48 ≤ c.toNat ∧ c.toNat ≤ 57 := Char.isDigit_iff_toNat.mp h
    omega
  rw [isOrdinary, isQuote, hlower, hsign '(' rfl, hsign ')' rfl, hsign '!' rfl, hsign '\'' rfl,
    hsign '"' rfl, hsign '/' rfl]
  rfl

theorem signMark?_of_ordinary (h : isOrdinary c = true) : ∀ m ∈ signMark? c rest, m = .other := by
  simp only [isOrdinary, Bool.not_eq_true', Bool.or_eq_false_iff, beq_eq_false_iff_ne] at h
  obtain ⟨⟨⟨⟨-, hopen⟩, hclose⟩, hnot⟩, -⟩ := h
  intro m hm
  have hother : signMark? c rest = if Reader.isBlank c then none else some .other := by
    simp only [signMark?, hopen, hclose, hnot, false_and, if_false]
  rw [hother, Option.mem_def] at hm
  split at hm
  · exact nomatch hm
  · exact (Option.some.inj hm).symm

theorem isNot_cons_eq_false (h : c.toLower ≠ 'n') (more : List Char) :
    isNot (c :: more) = false := by
  rw [isNot, beq_eq_false_iff_ne]
  intro heq
  exact h (List.cons.inj heq).1

theorem mark?_of_ordinary (h : isOrdinary c = true) : ∀ m ∈ p.mark? c rest, m = .other := by
  have hlower : c.toLower ≠ 'n' := by
    rintro heq
    simp [isOrdinary, heq] at h
  intro m hm
  cases p with
  | quoted _ | escaped _ => exact nomatch hm
  | word =>
    rw [Place.mark?] at hm
    split at hm
    · exact nomatch hm
    · exact signMark?_of_ordinary h m hm
  | between =>
    rw [Place.mark?, isNot_cons_eq_false hlower] at hm
    split at hm
    · exact (Option.some.inj hm).symm
    · exact signMark?_of_ordinary h m hm

theorem bare_next_of_ordinary (h : isOrdinary c = true) (hp : p.Bare) : (p.next c).Bare := by
  obtain rfl | rfl := hp <;>
  · simp only [Place.next, isQuote_eq_false_of_ordinary h]
    split
    · exact .inr rfl
    · exact .inl rfl

/-- Between words every character is marked but a blank. -/
theorem mark?_between_ne_none (h : Reader.isBlank c = false) :
    Place.between.mark? c rest ≠ none := by
  rw [Place.mark?, signMark?, h]
  split
  · exact Option.some_ne_none _
  · simp only [Bool.false_eq_true, if_false]
    split_ifs <;> exact Option.some_ne_none _

end

/-- A word goes on without marks. -/
theorem spans_letters {letters : List Char} (h : ∀ c ∈ letters, isWordChar c = true)
    (rest : List Char) : Spans .word (letters ++ rest) [] .word rest := by
  refine ⟨letters, rfl, ?_, ?_⟩
  · induction letters with
    | nil => rfl
    | cons c letters ih =>
      obtain ⟨hc, hletters⟩ := List.forall_mem_cons.mp h
      rw [marks, Place.mark?, if_pos hc, Place.next, if_pos hc, ih hletters]
      rfl
  · induction letters with
    | nil => rfl
    | cons c letters ih =>
      obtain ⟨hc, hletters⟩ := List.forall_mem_cons.mp h
      rw [List.foldl_cons, Place.next, if_pos hc, ih hletters]

/-- The letters of a keyword, in whatever case, are those of a word. -/
theorem isWordChar_of_spells {word : String} {letters : List Char} (hword : word ∈ keywords)
    (h : letters.map Char.toLower = word.toList.map Char.toLower) :
    ∀ c ∈ letters, isWordChar c = true := by
  intro c hc
  obtain ⟨d, hd, hdc⟩ := List.mem_map.mp (h ▸ List.mem_map_of_mem hc)
  have halpha := Keyword.isAlpha_of_mem_keywords word hword d hd
  exact isWordChar_of_isAlpha (isAlpha_of_isAlpha_toLower (hdc ▸ halpha.2.symm ▸ halpha.1))

theorem isNot_eq_false_of_spells {word : String} {letters : List Char} (hword : word ∈ keywords)
    (hnot : word ≠ "not") (h : letters.map Char.toLower = word.toList.map Char.toLower) :
    isNot letters = false := by
  rw [isNot, h, beq_eq_false_iff_ne]
  intro heq
  exact hnot (Keyword.eq_of_map_toLower word hword "not" (by decide) heq)

/-- No identifier is the word for negation. -/
theorem Name.isNot_eq_false (n : Name) : isNot n.letters = false := by
  rw [isNot, beq_eq_false_iff_ne]
  intro heq
  have hreserved : isReserved n.letters = true :=
    List.any_eq_true.mpr ⟨"not", by decide, beq_iff_eq.mpr heq.symm⟩
  exact absurd (hreserved.symm.trans n.free) (by decide)

/-- A word as a whole opens a negation, or nothing. -/
theorem spans_word {letters rest : List Char} (hne : letters ≠ [])
    (h : ∀ c ∈ letters, isWordChar c = true) (hrest : Stops isWordChar rest) :
    Spans .between (letters ++ rest) [if isNot letters then .opens .negation else .other] .word
      rest := by
  obtain ⟨c, letters, rfl⟩ := List.exists_cons_of_ne_nil hne
  obtain ⟨hc, hletters⟩ := List.forall_mem_cons.mp h
  have hfirst := Spans.char .between c (letters ++ rest)
  have htake : (letters ++ rest).takeWhile isWordChar = letters := by
    rw [List.takeWhile_append_of_pos hletters, Reader.takeWhile_of_stops hrest, List.append_nil]
  rw [Place.mark?, if_pos hc, htake, Place.next, if_pos hc] at hfirst
  exact hfirst.trans (spans_letters hletters rest)

/-! ## Texts that open nothing -/

/-- A text goes over marks that neither open nor close anything, and does not end in quotes. -/
def Quietly (p : Place) (s : List Char) (ms : List Mark) (rest : List Char) : Prop :=
  Others ms ∧ ∃ p' : Place, p'.Bare ∧ Spans p s ms p' rest

section

variable {p : Place} {s mid rest : List Char} {ms : List Mark}

theorem Quietly.refl (hp : p.Bare) (s : List Char) : Quietly p s [] s :=
  ⟨others_nil, p, hp, .refl p s⟩

theorem Quietly.trans (h : Quietly p s ms mid)
    (h' : ∀ p' : Place, p'.Bare → ∃ ns, Quietly p' mid ns rest) :
    ∃ ns, Quietly p s (ms ++ ns) rest := by
  obtain ⟨hms, p', hp', hfirst⟩ := h
  obtain ⟨ns, hns, p'', hp'', hsecond⟩ := h' p' hp'
  exact ⟨ns, hms.append hns, p'', hp'', hfirst.trans hsecond⟩

theorem quietly_char {c : Char} (hp : p.Bare) (h : isOrdinary c = true) (rest : List Char) :
    Quietly p (c :: rest) (p.mark? c rest).toList rest :=
  ⟨others_toList (mark?_of_ordinary h), p.next c, bare_next_of_ordinary h hp, .char p c rest⟩

theorem quietly_ordinary {text : List Char} (h : ∀ c ∈ text, isOrdinary c = true) (hp : p.Bare)
    (rest : List Char) : ∃ ms, Quietly p (text ++ rest) ms rest := by
  induction text generalizing p with
  | nil => exact ⟨[], .refl hp rest⟩
  | cons c text ih =>
    obtain ⟨hc, htext⟩ := List.forall_mem_cons.mp h
    obtain ⟨ms, hms⟩ := (quietly_char hp hc (text ++ rest)).trans fun p' hp' => ih htext hp'
    exact ⟨_, hms⟩

/-- A character that is neither part of a word nor a quote is marked for itself. -/
theorem spans_sign {c : Char} (hp : p.Bare) (hword : isWordChar c = false)
    (hquote : isQuote c = false) (rest : List Char) :
    Spans p (c :: rest) (signMark? c rest).toList .between rest := by
  have hchar := Spans.char p c rest
  obtain rfl | rfl := hp <;> simpa [Place.mark?, Place.next, hword, hquote] using hchar

/-- Blanks are not marked, and behind them no word goes on. -/
theorem spans_blanks (hp : p.Bare) (s : List Char) :
    ∃ p' : Place, (p' = .between ∨ p' = p ∧ s.dropWhile Reader.isBlank = s) ∧
      Spans p s [] p' (s.dropWhile Reader.isBlank) := by
  induction s generalizing p with
  | nil => exact ⟨p, .inr ⟨rfl, rfl⟩, .refl p []⟩
  | cons c s ih =>
    by_cases hc : Reader.isBlank c = true
    · have hkind : isWordChar c = false ∧ isQuote c = false := by
        simp only [Reader.isBlank, Bool.or_eq_true, beq_iff_eq] at hc
        rcases hc with ((rfl | rfl) | rfl) | rfl <;> decide
      have hblank := spans_sign hp hkind.1 hkind.2 s
      rw [signMark?, if_pos hc] at hblank
      obtain ⟨p', hp', hspans⟩ := ih (.inl rfl)
      rw [List.dropWhile_cons_of_pos hc]
      exact ⟨p', .inl (hp'.elim id And.left), hblank.trans hspans⟩
    · rw [List.dropWhile_cons_of_neg hc]
      exact ⟨p, .inr ⟨rfl, rfl⟩, .refl p _⟩

theorem bare_of_blanks {p' : Place} {same : Prop} (hp : p.Bare)
    (hp' : p' = .between ∨ p' = p ∧ same) : p'.Bare :=
  hp'.elim .inl fun h => h.1 ▸ hp

/-- The sign for a difference is not the start of a negation. -/
theorem quietly_unequal (hp : p.Bare) (rest : List Char) :
    Quietly p ("!=".toList ++ rest) [.other, .other] rest := by
  have hfirst := spans_sign hp (by decide) (by decide : isQuote '!' = false) ('=' :: rest)
  have hsecond := spans_sign (.inl rfl) (by decide) (by decide : isQuote '=' = false) rest
  exact ⟨by simp [Others], .between, .inl rfl, hfirst.trans hsecond⟩

/-- A word that is not the one for negation shows as one thing. -/
theorem quietly_first_word {letters : List Char} (hne : letters ≠ [])
    (h : ∀ c ∈ letters, isWordChar c = true) (hnot : isNot letters = false)
    (hrest : Stops isWordChar rest) : Quietly .between (letters ++ rest) [.other] rest := by
  have hspans := spans_word hne h hrest
  rw [hnot, if_neg Bool.false_ne_true] at hspans
  exact ⟨fun m hm => List.mem_singleton.mp hm, .word, .inr rfl, hspans⟩

/-- It opens nothing where it stands behind another word either. -/
theorem quietly_word {letters : List Char} (h : ∀ c ∈ letters, isWordChar c = true)
    (hnot : isNot letters = false) (hrest : Stops isWordChar rest) (hp : p.Bare) :
    ∃ ms, Quietly p (letters ++ rest) ms rest := by
  by_cases hne : letters = []
  · subst hne
    exact ⟨[], .refl hp rest⟩
  · obtain rfl | rfl := hp
    · exact ⟨_, quietly_first_word hne h hnot hrest⟩
    · exact ⟨[], others_nil, .word, .inr rfl, spans_letters h rest⟩

/-- A text in quotes shows as one thing, given that the first quote behind the opening one that is
    not escaped is the closing one. -/
theorem quietly_quotation {q : Char} (hq : isQuote q = true) (hp : p.Bare)
    (h : Spans (.quoted q) s [] .between rest) : Quietly p (q :: s) [.other] rest := by
  have hkind : isWordChar q = false ∧ Reader.isBlank q = false ∧ q ≠ '(' ∧ q ≠ ')' ∧ q ≠ '!' := by
    simp only [isQuote, Bool.or_eq_true, beq_iff_eq] at hq
    rcases hq with (rfl | rfl) | rfl <;> decide
  obtain ⟨hword, hblank, hopen, hclose, hnot⟩ := hkind
  have hchar : Spans p (q :: s) [.other] (.quoted q) s := by
    have hchar := Spans.char p q s
    obtain rfl | rfl := hp <;>
      simpa [Place.mark?, Place.next, hword, hq, signMark?, hblank, hopen, hclose, hnot] using hchar
  exact ⟨fun m hm => List.mem_singleton.mp hm, .between, .inl rfl, hchar.trans h⟩

end

/-! ## Quoted texts -/

theorem ne_backslash_of_isQuote {q : Char} (h : isQuote q = true) : q ≠ '\\' := by
  rintro rfl
  exact absurd h (by decide)

section

open Reader

variable {q : Char} {s rest body : List Char}

theorem spans_escape (q c : Char) (s : List Char) :
    Spans (.quoted q) ('\\' :: c :: s) [] (.quoted q) s :=
  ⟨['\\', c], rfl, rfl, rfl⟩

theorem spans_in_quotes {c : Char} (hc : c ≠ '\\') (hq : c ≠ q) (s : List Char) :
    Spans (.quoted q) (c :: s) [] (.quoted q) s :=
  ⟨[c], rfl, rfl, by simp [Place.next, hc, hq]⟩

theorem spans_quote (hq : q ≠ '\\') (s : List Char) : Spans (.quoted q) (q :: s) [] .between s :=
  ⟨[q], rfl, rfl, by simp [Place.next, hq]⟩

/-- Both readers of quoted texts treat the backslash first. -/
theorem ne_backslash {c : Char} (hlast : c = '\\' → s = [] → False)
    (hescape : ∀ d more, c = '\\' → s = d :: more → False) : c ≠ '\\' := by
  intro hc
  cases s with
  | nil => exact hlast hc rfl
  | cons d more => exact hescape d more hc rfl

theorem spans_quotedBody (hq : q ≠ '\\') (h : quotedBody q s = .ok body rest) :
    Spans (.quoted q) s [] .between rest := by
  fun_induction quotedBody q s generalizing body with
  | case1 => exact nomatch h
  | case2 => exact nomatch h
  | case3 c s ih =>
    obtain ⟨body, hread, -⟩ := Outcome.map_eq_ok.mp h
    exact (spans_escape q c s).trans (ih hread)
  | case4 s =>
    cases h
    exact spans_quote hq _
  | case5 c s hlast hescape hc ih =>
    obtain ⟨body, hread, -⟩ := Outcome.map_eq_ok.mp h
    exact (spans_in_quotes (ne_backslash hlast hescape) hc s).trans (ih hread)

/-- A string is read up to the quote that closes it. -/
theorem quotedString_eq_ok {text : String} (h : quotedString s = .ok text rest) :
    ∃ q mid, s = q :: mid ∧ isQuote q = true ∧ Spans (.quoted q) mid [] .between rest := by
  obtain ⟨q, mid, hopen, hread⟩ := bind_eq_ok.mp h
  obtain ⟨rfl, hq⟩ := satisfying_eq_ok hopen
  obtain ⟨body, hbody, -⟩ := map_eq_ok.mp hread
  have hquote : isQuote q = true := by simp only [isQuote, hq, Bool.true_or]
  exact ⟨q, mid, rfl, hquote, spans_quotedBody (ne_backslash_of_isQuote hquote) hbody⟩

theorem spans_slashedBody (h : slashedBody s = .ok body rest) :
    Spans (.quoted '/') s [] .between rest := by
  fun_induction slashedBody s generalizing body with
  | case1 => exact nomatch h
  | case2 => exact nomatch h
  | case3 c s ih =>
    obtain ⟨body, hread, -⟩ := Outcome.map_eq_ok.mp h
    exact (spans_escape '/' c s).trans (ih hread)
  | case4 s =>
    cases h
    exact spans_quote (by decide) _
  | case5 c s hlast hescape hc ih =>
    obtain ⟨body, hread, -⟩ := Outcome.map_eq_ok.mp h
    exact (spans_in_quotes (ne_backslash hlast hescape) hc s).trans (ih hread)

end

end EventQuery.Query
