import EventQuery.Proofs.Query.Takes

/-!
# Readers of single tokens

The reader of each kind of token takes it, and refuses at the tokens that may stand in its place.
-/

namespace EventQuery.Query

theorem isDigit_eq_false_of_isAlpha {c : Char} (h : c.isAlpha = true) : c.isDigit = false := by
  have hrange := isAlpha_iff.mp h
  rw [← Bool.not_eq_true, Char.isDigit_iff_toNat]
  change ¬ (48 ≤ c.toNat ∧ c.toNat ≤ 57)
  omega

/-- Neither words nor numbers start like the others. -/
theorem isNumberStart_eq_false {c : Char} (h : isWordStart c = true) : isNumberStart c = false := by
  have hminus : (c == '-') = false := beq_eq_false_of_kind h (by decide)
  rw [isWordStart, Bool.or_eq_true, beq_iff_eq] at h
  obtain h | rfl := h
  · rw [isNumberStart, hminus, isDigit_eq_false_of_isAlpha h, Bool.or_self]
  · rfl

namespace Token

theorem Is.eq {t : Token} {word word' : String} (h : t.Is word) (h' : t.Is word') :
    word = word' := by
  cases t with
  | keyword k => exact h.symm.trans h'
  | _ => exact h.elim

theorem Is.isAlpha {t : Token} {word : String} {c : Char} (h : t.Is word) (hc : t.Starts c) :
    c.isAlpha = true ∧ c.toLower ≠ 'e' := by
  cases t with
  | keyword k => exact hc.2
  | _ => exact h.elim

end Token

theorem OperandToken.starts {e : Expr Path} {t : Token} {c : Char} (h : OperandToken e t)
    (hc : t.Starts c) : isOperandStart c = true := by
  obtain hc | ⟨s, rfl, -⟩ := hc.kind
  · exact hc
  · cases h with
    | yes ht | no ht | null ht => exact ht.elim
    | path hp => cases hp

theorem PathToken.starts {p : Path} {t : Token} {c : Char} (h : PathToken p t) (hc : t.Starts c) :
    isWordStart c = true := by
  cases h with
  | displayed | field | within => exact hc.2

/-- Behind a number neither a keyword nor a sign goes on with it. -/
theorem Led.stops_number {words : List String} {signs : List Sign} {after : List Token}
    {rest : List Char} (h : Led words signs after) (hrest : LaidOut after rest) :
    Stops Reader.isNumberPart rest := by
  refine hrest.stops ?_ ?_
  · intro c hc
    simp only [Reader.isBlank, Bool.or_eq_true, beq_iff_eq] at hc
    rcases hc with ((rfl | rfl) | rfl) | rfl <;> rfl
  · intro t ht c hc
    obtain ⟨word, -, his⟩ | ⟨s, -, rfl⟩ := h t ht
    · obtain ⟨halpha, hne⟩ := his.isAlpha hc
      have hpoint : c ≠ '.' := ne_of_kind halpha (by decide)
      have hsmall : c ≠ 'e' := by
        rintro rfl
        exact hne rfl
      have hcapital : c ≠ 'E' := by
        rintro rfl
        exact hne rfl
      simp [Reader.isNumberPart, isDigit_eq_false_of_isAlpha halpha, hpoint, hsmall, hcapital]
    · obtain rfl := hc
      cases s <;> rfl

namespace Reader

variable {words : List String} {signs : List Sign} {after : List Token} {t : Token}

/-! ## Keywords -/

theorem reads_keyword {word : String} (ht : t.Is word) (after : List Token) :
    Reads (keyword word) () t after := by
  intro rest hword _
  cases t with
  | keyword k =>
    obtain rfl := ht
    exact keyword_append k (hword rfl)
  | _ => exact ht.elim

theorem takes_keyword {word : String} (ht : t.Is word) (after : List Token) :
    Takes (padded (keyword word)) () [t] after :=
  (reads_keyword ht after).takes

/-- No identifier is taken for a reserved word, nor one of them for another. -/
theorem shuns_keyword {word : String} (hword : word ∈ reservedWords) (ht : ¬ t.Is word) :
    Shuns (keyword word) t := by
  have hknown : word ∈ keywords := List.mem_cons_of_mem _ hword
  have hname (n : Name) : n.letters.map Char.toLower ≠ word.toList.map Char.toLower := by
    intro heq
    have hfree := List.any_eq_false.mp n.free word hword
    exact hfree (beq_iff_eq.mpr heq.symm)
  have hother {rest : List Char} (h : ∀ c, t.Starts c → c.isAlpha = false) :
      (keyword word (t.text ++ rest)).Refused := by
    obtain ⟨c, cs, htext, hc⟩ := t.text_eq_cons
    rw [htext, List.cons_append]
    exact refused_keyword_of_stops hknown (stops_cons.mpr (h c hc))
  intro rest hrest
  cases t with
  | keyword k =>
    refine refused_keyword hknown (fun c hc => ?_) (hrest rfl) fun heq => ht ?_
    · exact isWordChar_of_isAlpha (k.isAlpha_of_mem_letters hc)
    · exact Keyword.eq_of_map_toLower k.word k.known word hknown (k.spells.symm.trans heq)
  | name n =>
    exact refused_keyword hknown (fun c => n.isWordChar_of_mem_letters) (hrest rfl) (hname n)
  | path root first more =>
    rw [Token.text, List.append_assoc, List.flatMap_cons, segmentText_eq]
    refine refused_keyword hknown (fun c => root.isWordChar_of_mem_letters) ?_ (hname root)
    exact stops_cons.mpr (by decide)
  | number i =>
    refine hother fun c hc => ?_
    by_contra halpha
    have hword : isWordStart c = true := by simp [isWordStart, Bool.not_eq_false _ ▸ halpha]
    exact absurd hc (by simp [Token.Starts, isNumberStart_eq_false hword])
  | quoted q s =>
    refine hother fun c hc => ?_
    obtain rfl := hc
    cases q <;> rfl
  | sign s =>
    refine hother fun c hc => ?_
    obtain rfl := hc
    cases s <;> rfl

theorem refuses_keyword {word : String} (h : Led words signs after) (hword : word ∈ reservedWords)
    (hne : word ∉ words) : Refuses (padded (keyword word)) after := by
  refine refuses_padded ?_ fun t ht => shuns_keyword hword fun his => ?_
  · exact refused_keyword_of_stops (List.mem_cons_of_mem _ hword) (stops_nil _)
  · obtain ⟨word', hword', his'⟩ | ⟨s, -, rfl⟩ := h t ht
    · exact hne (his.eq his' ▸ hword')
    · exact his

/-! ## Signs -/

theorem shuns_of_starts {α : Type} {r : Reader α} {p : Char → Bool}
    (hr : ∀ s, Stops p s → (r s).Refused) (h : ∀ c, t.Starts c → p c = false) : Shuns r t := by
  intro rest _
  obtain ⟨c, cs, htext, hc⟩ := t.text_eq_cons
  rw [htext, List.cons_append]
  exact hr _ (stops_cons.mpr (h c hc))

/-- What comes next neither starts with a letter the reader looks for nor with one of its signs. -/
theorem refuses_of_led {α : Type} {r : Reader α} {p : Char → Bool} (h : Led words signs after)
    (hr : ∀ s, Stops p s → (r s).Refused) (halpha : ∀ c, c.isAlpha = true → p c = false)
    (hsigns : ∀ s ∈ signs, p s.lead = false) : Refuses (padded r) after := by
  refine refuses_padded (hr [] (stops_nil p)) fun t ht => shuns_of_starts hr fun c hc => ?_
  obtain ⟨word, -, his⟩ | ⟨s, hs, rfl⟩ := h t ht
  · exact halpha c (his.isAlpha hc).1
  · obtain rfl := hc
    exact hsigns s hs

theorem reads_char {s : Sign} {c : Char} (hs : s.text.toList = [c]) (after : List Token) :
    Reads (char c) () (.sign s) after := by
  intro rest _ _
  rw [Token.text, hs]
  exact char_cons c

theorem shuns_char {c : Char} (h : ∀ d, t.Starts d → d ≠ c) : Shuns (char c) t :=
  shuns_of_starts (fun _ => refused_char) fun d hd => beq_eq_false_iff_ne.mpr (h d hd)

theorem reads_symbol (s : Sign) (after : List Token) : Reads (symbol s.text) () (.sign s) after :=
  fun _ _ _ => symbol_append s.text

theorem reads_connective {word : String} {s : Sign} (hword : word ∈ reservedWords)
    (ht : t.Connects word s) (after : List Token) : Reads (connective word s.text) () t after := by
  obtain ht | rfl := ht
  · exact (reads_keyword ht after).orElse
  · exact (shuns_keyword hword id).orElse_reads (reads_symbol s after)

theorem refuses_connective {word : String} {s : Sign} (h : Led words signs after)
    (hword : word ∈ reservedWords) (hne : word ∉ words) {c : Char} {cs : List Char}
    (hs : s.text.toList = c :: cs) (hc : c.isAlpha = false) (hsigns : ∀ s ∈ signs, s.lead ≠ c) :
    Refuses (padded (connective word s.text)) after := by
  have hsymbol (text : List Char) : Stops (· == c) text → (symbol s.text text).Refused :=
    refused_symbol hs
  refine refuses_padded ?_ fun t ht => ?_
  · refine refused_orElse ?_ (hsymbol [] (stops_nil _))
    exact refused_keyword_of_stops (List.mem_cons_of_mem _ hword) (stops_nil _)
  · obtain ⟨word', hword', his⟩ | ⟨s', hs', rfl⟩ := h t ht
    · refine .orElse (shuns_keyword hword fun his' => hne (his'.eq his ▸ hword')) ?_
      exact shuns_of_starts hsymbol fun d hd => beq_eq_false_of_kind (his.isAlpha hd).1 hc
    · refine .orElse (shuns_keyword hword id) ?_
      refine shuns_of_starts hsymbol fun d hd => beq_eq_false_iff_ne.mpr ?_
      obtain rfl := hd
      exact hsigns s' hs'

theorem reads_negationSign (ht : t.Connects "not" .not)
    (hafter : ∀ u ∈ after.head?, ∀ c, u.Starts c → c ≠ '=') : Reads negationSign () t after := by
  obtain ht | rfl := ht
  · exact (reads_keyword ht after).orElse
  · refine (shuns_keyword (by decide) id).orElse_reads fun rest _ hrest => ?_
    have hstops : Stops (· == '=') rest := by
      refine hrest.stops ?_ fun u hu c hc => beq_eq_false_iff_ne.mpr (hafter u hu c hc)
      intro c hc
      exact beq_eq_false_of_kind hc (by decide)
    have htext : (Token.sign .not).text ++ rest = '!' :: rest := rfl
    rw [htext, bind_apply, char_cons, Outcome.andThen_ok, notFollowedBy_of_stops hstops]

theorem shuns_negationSign (ht : ¬ t.Is "not") (hstart : ∀ c, t.Starts c → c ≠ '!') :
    Shuns negationSign t :=
  (shuns_keyword (by decide) ht).orElse (shuns_char hstart).bind

theorem reads_comparisonSign {s : Sign} {op : Comparison} (hs : s.comparison? = some op)
    (hafter : ∀ u ∈ after.head?, ∀ c, u.Starts c → c ≠ '=' ∧ c ≠ '~') :
    Reads comparisonSign op (.sign s) after := by
  intro rest _ hrest
  refine comparisonSign_append hs (hrest.stops ?_ ?_)
  · intro c hc
    simp [ne_of_kind (d := '=') hc (by decide), ne_of_kind (d := '~') hc (by decide)]
  · intro u hu c hc
    simp [hafter u hu c hc]

theorem refuses_comparisonSign (h : Led words signs after)
    (hsigns : ∀ s ∈ signs, isComparisonStart s.lead = false) :
    Refuses (padded comparisonSign) after := by
  refine refuses_of_led h (fun _ => refused_comparisonSign) (fun c hc => ?_) hsigns
  simp [isComparisonStart, ne_of_kind (d := '=') hc (by decide),
    ne_of_kind (d := '!') hc (by decide), ne_of_kind (d := '<') hc (by decide),
    ne_of_kind (d := '>') hc (by decide)]

/-! ## Names, paths, numbers and quoted texts -/

theorem reads_identifier (n : Name) (after : List Token) :
    Reads identifier n.text (.name n) after :=
  fun _ hword _ => identifier_append n (hword rfl)

theorem reads_path {p : Path} (hp : PathToken p t) (after : List Token) : Reads path p t after := by
  intro rest hword hrest
  have hbracket : Stops (· == '[') rest := by
    refine hrest.stops (fun c hc => ?_) fun u _ c hc => ?_
    · exact beq_eq_false_of_kind hc (by decide)
    · exact beq_eq_false_iff_ne.mpr (hc.ne (by decide) (by rintro ⟨⟩ <;> decide))
  cases hp with
  | displayed first more =>
    rw [Token.text, List.append_assoc, path_append Name.root (first :: more) hbracket nofun]
    rfl
  | field n =>
    rw [Token.text]
    refine (path_append n [] hbracket fun _ => hword rfl).trans ?_
    simp [pathOf]
  | within n hn first more =>
    rw [Token.text, List.append_assoc, path_append n (first :: more) hbracket nofun, pathOf,
      if_neg fun h => hn h.1]

theorem reads_natural (n : UInt64) (h : Led words signs after) :
    Reads natural n (.number n.toNat) after :=
  fun _ _ hrest =>
    natural_append n ((h.stops_number hrest).mono fun c hc => by simp_all [isNumberPart])

theorem reads_number (i : Int64) (h : Led words signs after) :
    Reads number (.int i) (.number i.toInt) after :=
  fun _ _ hrest => number_append i (h.stops_number hrest)

theorem reads_quotedString (q : Quote) (s : String) (after : List Token) :
    Reads quotedString s (.quoted q s) after :=
  fun _ _ _ => quotedString_append q s

theorem reads_constant {word : String} (ht : t.Is word) (e : Expr Path) (after : List Token) :
    Reads (constant word e) e t after := by
  intro rest hword hrest
  rw [constant, bind_apply, reads_keyword ht after rest hword hrest]
  rfl

/-- What is not a constant is tried as a number, in quotes and as a path, in this order. -/
theorem reads_operand_of_not_constant {e : Expr Path}
    (ht : ∀ word ∈ ["true", "false", "null"], ¬ t.Is word)
    (h : Reads (firstOf [(fun n => .literal (.number n)) <$> number,
      (fun s => .literal (.string s)) <$> quotedString, Expr.path <$> path]) e t after) :
    Reads operand e t after := by
  refine (shuns_keyword (by decide) (ht "true" (by simp))).bind.firstOf ?_
  refine (shuns_keyword (by decide) (ht "false" (by simp))).bind.firstOf ?_
  exact (shuns_keyword (by decide) (ht "null" (by simp))).bind.firstOf h

theorem reads_operand {e : Expr Path} (he : OperandToken e t) (h : Led words signs after) :
    Reads operand e t after := by
  have hother {word word' : String} (ht : t.Is word) (hne : word ≠ word') : ¬ t.Is word' :=
    fun ht' => hne (ht.eq ht')
  cases he with
  | yes ht => exact (reads_constant ht _ after).firstOf _
  | no ht =>
    refine (shuns_keyword (by decide) (hother ht (by decide))).bind.firstOf ?_
    exact (reads_constant ht _ after).firstOf _
  | null ht =>
    refine (shuns_keyword (by decide) (hother ht (by decide))).bind.firstOf ?_
    refine (shuns_keyword (by decide) (hother ht (by decide))).bind.firstOf ?_
    exact (reads_constant ht _ after).firstOf _
  | integer i =>
    refine reads_operand_of_not_constant (fun _ _ => id) ?_
    exact ((reads_number i h).map _).firstOf _
  | string q s =>
    refine reads_operand_of_not_constant (fun _ _ => id) ?_
    have hnumber : Shuns number (.quoted q s) := by
      refine shuns_of_starts (fun _ => refused_number) ?_
      rintro c rfl
      cases q <;> rfl
    exact (hnumber.map _).firstOf (((reads_quotedString q s after).map _).firstOf _)
  | path hp =>
    refine reads_operand_of_not_constant (fun _ _ his => by cases hp <;> exact his) ?_
    have hnumber : Shuns number t := shuns_of_starts (fun _ => refused_number) fun c hc =>
      isNumberStart_eq_false (hp.starts hc)
    have hquoted : Shuns quotedString t :=
      shuns_of_starts (fun _ => refused_quotedString) fun c hc => by
        have hstart := hp.starts hc
        rw [beq_eq_false_of_kind hstart (by decide), beq_eq_false_of_kind hstart (by decide),
          Bool.or_self]
    exact (hnumber.map _).firstOf ((hquoted.map _).firstOf ((reads_path hp after).map _))

/-- A pattern in quotes. -/
theorem reads_pattern {patternSize : Nat} {source : String} {p : Pattern}
    (hp : Pattern.compile patternSize source = .ok p) (q : Quote) (after : List Token) :
    Reads (pattern patternSize) (.pattern p) (.quoted q source) after := by
  intro rest _ _
  have hslash : (slashedPattern (q.around source ++ rest)).Refused :=
    refused_bind (refused_char (stops_cons.mpr (by cases q <;> rfl)))
  rw [pattern, Token.text, orElse_of_refused hslash (quotedString_append q source),
    Outcome.andThen_ok, hp]

end Reader

end EventQuery.Query
