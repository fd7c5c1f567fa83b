import EventQuery.Proofs.Query.Spans

/-!
# Readers that open nothing

The readers of what comparisons and connectives are made of go over no mark that opens or closes
anything (`Reader.Quiet`), wherever they start outside quotes. A comparison moreover goes over one
mark at least (`Reader.Shown`), which is where the negations in front of it end. There is one lemma
for each way of putting readers together.
-/

namespace EventQuery.Query.Reader

/-- What the reader reads opens nothing, wherever it stands outside quotes. -/
def Quiet {α : Type} (r : Reader α) : Prop :=
  ∀ s a rest, r s = .ok a rest → ∀ p : Place, p.Bare → ∃ ms, Quietly p s ms rest

/-- What the reader reads between words shows, though it opens nothing. -/
def Shown {α : Type} (r : Reader α) : Prop :=
  ∀ s a rest, r s = .ok a rest → ∃ ms, ms ≠ [] ∧ Quietly .between s ms rest

variable {α β : Type} {r q : Reader α} {next : α → Reader β}

namespace Quiet

theorem pure (a : α) : Quiet (Pure.pure a) := by
  intro s b rest h p hp
  cases h
  exact ⟨[], .refl hp s⟩

theorem bind (hr : r.Quiet) (hnext : ∀ a, (next a).Quiet) : (r >>= next).Quiet := by
  intro s b rest h p hp
  obtain ⟨a, mid, hread, h⟩ := bind_eq_ok.mp h
  obtain ⟨ms, hms⟩ := hr s a mid hread p hp
  obtain ⟨ns, hns⟩ := hms.trans fun p' hp' => hnext a mid b rest h p' hp'
  exact ⟨ms ++ ns, hns⟩

theorem map (g : α → β) (hr : r.Quiet) : (g <$> r).Quiet := by
  intro s b rest h p hp
  obtain ⟨a, hread, -⟩ := map_eq_ok.mp h
  exact hr s a rest hread p hp

theorem orElse (hr : r.Quiet) (hq : q.Quiet) : (r <|> q).Quiet := by
  intro s a rest h p hp
  obtain h | h := orElse_eq_ok h
  · exact hr s a rest h p hp
  · exact hq s a rest h p hp

theorem firstOf {rs : List (Reader α)} (h : ∀ r ∈ rs, r.Quiet) : (firstOf rs).Quiet := by
  intro s a rest hread p hp
  obtain ⟨r, hr, hread⟩ := firstOf_eq_ok hread
  exact h r hr s a rest hread p hp

theorem optional (hr : r.Quiet) : (optional r).Quiet := by
  intro s o rest h p hp
  obtain ⟨-, rfl, -⟩ | ⟨a, -, h⟩ := optional_eq_ok h
  · exact ⟨[], .refl hp rest⟩
  · exact hr s a rest h p hp

theorem committed (hr : r.Quiet) : (committed r).Quiet := fun s a rest h =>
  hr s a rest (committed_eq_ok.mp h)

theorem expecting (label : String) (hr : r.Quiet) : (expecting label r).Quiet :=
  fun s a rest h => hr s a rest (expecting_eq_ok.mp h)

theorem refine {form : α → Except String β} (hr : r.Quiet) : (refine r form).Quiet := by
  intro s b rest h p hp
  obtain ⟨a, h, -⟩ := refine_eq_ok h
  exact hr s a rest h p hp

theorem many (hr : r.Quiet) : Quiet (many r) := by
  intro s as rest h p hp
  fun_induction Reader.many r s generalizing as p with
  | case1 s a mid hread _ ih =>
    obtain ⟨more, hmany, -⟩ := Outcome.map_eq_ok.mp h
    obtain ⟨ms, hms⟩ := hr s a mid hread p hp
    obtain ⟨ns, hns⟩ := hms.trans fun p' hp' => ih more hmany p' hp'
    exact ⟨ms ++ ns, hns⟩
  | case2 => exact nomatch h
  | case3 =>
    cases h
    exact ⟨[], .refl hp _⟩
  | case4 => exact nomatch h

theorem blanks : Quiet Reader.blanks := by
  intro s u rest h p hp
  cases h
  obtain ⟨p', hp', hspans⟩ := spans_blanks hp s
  exact ⟨[], others_nil, p', bare_of_blanks hp hp', hspans⟩

theorem padded (hr : r.Quiet) : (padded r).Quiet :=
  blanks.bind fun _ => hr.bind fun a => blanks.bind fun _ => pure a

theorem satisfying {kind : Char → Bool} (h : ∀ c, kind c = true → isOrdinary c = true) :
    (satisfying kind).Quiet := by
  intro s c rest hread p hp
  obtain ⟨rfl, hc⟩ := satisfying_eq_ok hread
  exact ⟨_, quietly_char hp (h c hc) rest⟩

theorem char {c : Char} (h : isOrdinary c = true) : (char c).Quiet :=
  (satisfying fun d hd => (beq_iff_eq (a := d) (b := c)).mp hd ▸ h).bind fun _ => pure ()

theorem symbol {text : String} (h : ∀ c ∈ text.toList, isOrdinary c = true) :
    (symbol text).Quiet := by
  intro s u rest hread p hp
  obtain rfl := symbol_eq_ok hread
  exact quietly_ordinary h hp rest

theorem takeWhile {kind : Char → Bool} (h : ∀ c, kind c = true → isOrdinary c = true) :
    (takeWhile kind).Quiet := by
  intro s cs rest hread p hp
  cases hread
  have hcs : ∀ c ∈ s.takeWhile kind, isOrdinary c = true := fun c hc =>
    h c (List.mem_takeWhile_imp hc)
  have hspans := quietly_ordinary hcs hp (s.dropWhile kind)
  rwa [List.takeWhile_append_dropWhile] at hspans

theorem digits : Quiet digits :=
  (satisfying fun _ => isOrdinary_of_isDigit).bind fun _ =>
    (takeWhile fun _ => isOrdinary_of_isDigit).bind fun _ => pure _

theorem minus : Quiet minus := (optional (char (by decide))).bind fun _ => pure _

theorem integer : Quiet integer :=
  refine (minus.bind fun _ => digits.bind fun _ => pure _)

theorem fraction : Quiet fraction := (char (by decide)).bind fun _ => digits

theorem exponent : Quiet exponent := by
  have hletter : ∀ c : Char, (c == 'e' || c == 'E') = true → isOrdinary c = true := by
    intro c hc
    rw [Bool.or_eq_true, beq_iff_eq, beq_iff_eq] at hc
    obtain rfl | rfl := hc <;> decide
  have hsign : ∀ c : Char, (c == '+' || c == '-') = true → isOrdinary c = true := by
    intro c hc
    rw [Bool.or_eq_true, beq_iff_eq, beq_iff_eq] at hc
    obtain rfl | rfl := hc <;> decide
  exact (satisfying hletter).bind fun _ => (optional (satisfying hsign)).bind fun _ =>
    digits.bind fun _ => pure _

theorem number : Quiet number :=
  minus.bind fun _ => digits.bind fun _ => fraction.optional.bind fun _ =>
    exponent.optional.bind fun _ => pure _

/-! ### Quotes -/

theorem quotedString : Quiet quotedString := by
  intro s text rest h p hp
  obtain ⟨q, mid, rfl, hquote, hbody⟩ := quotedString_eq_ok h
  exact ⟨_, quietly_quotation hquote hp hbody⟩

theorem slashedPattern : Quiet slashedPattern := by
  intro s text rest h p hp
  obtain ⟨u, mid, hopen, hread⟩ := bind_eq_ok.mp h
  obtain rfl := char_eq_ok hopen
  obtain ⟨body, hbody, -⟩ := map_eq_ok.mp hread
  exact ⟨_, quietly_quotation (by decide) hp (spans_slashedBody hbody)⟩

theorem pattern (patternSize : Nat) : (pattern patternSize).Quiet := by
  intro s e rest h p hp
  obtain ⟨source, mid, hread, h⟩ := Outcome.andThen_eq_ok.mp h
  cases hcompile : Pattern.compile patternSize source with
  | error e => simp [hcompile] at h
  | ok compiled =>
    simp only [hcompile] at h
    cases h
    exact (slashedPattern.orElse quotedString) s source rest hread p hp

/-! ### Words -/

/-- A keyword other than the one for negation. -/
theorem keyword {word : String} (hword : word ∈ keywords) (hnot : word ≠ "not") :
    (keyword word).Quiet := by
  intro s u rest h p hp
  obtain ⟨letters, rfl, hspells, hrest⟩ := keyword_eq_ok h
  exact quietly_word (isWordChar_of_spells hword hspells)
    (isNot_eq_false_of_spells hword hnot hspells) hrest hp

theorem identifier : Quiet identifier := by
  intro s word rest h p hp
  obtain ⟨n, -, rfl, hrest⟩ := identifier_eq_ok h
  exact quietly_word (fun c => n.isWordChar_of_mem_letters) n.isNot_eq_false hrest hp

/-! ### Paths and operands -/

theorem bracket : Quiet bracket := by
  have hstem : Quiet stem := (padded (char (by decide))).bind fun _ =>
    (quotedString.expecting _).committed.bind fun _ => pure _
  have hwildcard : Quiet wildcard := (char (by decide)).bind fun _ => pure _
  have hsegment : Quiet segment := by
    refine firstOf ?_
    simp only [List.forall_mem_cons, List.not_mem_nil, false_implies, implies_true, and_true]
    exact ⟨quotedString.map _, hwildcard, hstem, integer.map _⟩
  exact (char (by decide)).bind fun _ => (hsegment.padded.expecting _).committed.bind fun _ =>
    ((char (by decide)).expecting _).committed.bind fun _ => pure _

theorem path : Quiet path := identifier.bind fun _ => bracket.many.bind fun _ => pure _

theorem operand : Quiet operand := by
  have hconstant {word : String} (e : Expr Path) (hword : word ∈ keywords) (hnot : word ≠ "not") :
      (constant word e).Quiet := (keyword hword hnot).bind fun _ => pure e
  refine firstOf ?_
  simp only [List.forall_mem_cons, List.not_mem_nil, false_implies, implies_true, and_true]
  exact ⟨hconstant _ (by decide) (by decide), hconstant _ (by decide) (by decide),
    hconstant _ (by decide) (by decide), number.map _, quotedString.map _, path.map _⟩

theorem comparisonSign : Quiet comparisonSign := by
  refine firstOf fun r hr => ?_
  obtain ⟨⟨text, op⟩, hsign, rfl⟩ := List.mem_map.mp hr
  refine Quiet.bind ?_ fun _ => pure op
  by_cases hne : text = "!="
  · subst hne
    intro s u rest h p hp
    obtain rfl := symbol_eq_ok h
    exact ⟨_, quietly_unequal hp rest⟩
  · have hall : comparisonSigns.all (fun sign => sign.1 == "!=" || sign.1.toList.all isOrdinary) =
        true := by
      decide +kernel
    have hordinary := List.all_eq_true.mp hall _ hsign
    rw [Bool.or_eq_true, beq_iff_eq] at hordinary
    exact symbol (List.all_eq_true.mp (hordinary.resolve_left hne))

end Quiet

/-! ### What an operand begins with -/

namespace Shown

theorem bind (hr : r.Shown) (hnext : ∀ a, (next a).Quiet) : (r >>= next).Shown := by
  intro s b rest h
  obtain ⟨a, mid, hread, h⟩ := bind_eq_ok.mp h
  obtain ⟨ms, hne, hms⟩ := hr s a mid hread
  obtain ⟨ns, hns⟩ := hms.trans fun p' hp' => hnext a mid b rest h p' hp'
  exact ⟨ms ++ ns, List.append_ne_nil_of_left_ne_nil hne ns, hns⟩

theorem map (g : α → β) (hr : r.Shown) : (g <$> r).Shown := by
  intro s b rest h
  obtain ⟨a, hread, -⟩ := map_eq_ok.mp h
  exact hr s a rest hread

theorem firstOf {rs : List (Reader α)} (h : ∀ r ∈ rs, r.Shown) : (firstOf rs).Shown := by
  intro s a rest hread
  obtain ⟨r, hr, hread⟩ := firstOf_eq_ok hread
  exact h r hr s a rest hread

theorem expecting (label : String) (hr : r.Shown) : (expecting label r).Shown :=
  fun s a rest h => hr s a rest (expecting_eq_ok.mp h)

theorem padded (hr : r.Shown) : (padded r).Shown := by
  intro s a rest h
  obtain ⟨mid, hread, rfl⟩ := padded_eq_ok h
  obtain ⟨p', hbetween, hblanks⟩ := spans_blanks (.inl rfl) s
  obtain rfl : p' = .between := hbetween.elim id And.left
  obtain ⟨ms, hne, hms, p', hp', hspans⟩ := hr _ a mid hread
  obtain ⟨p'', hp'', hbehind⟩ := spans_blanks hp' mid
  refine ⟨ms, hne, hms, p'', bare_of_blanks hp' hp'', ?_⟩
  have hall := (hblanks.trans hspans).trans hbehind
  rwa [List.nil_append, List.append_nil] at hall

theorem satisfying {kind : Char → Bool} (h : ∀ c, kind c = true → isOrdinary c = true)
    (hblank : ∀ c, kind c = true → isBlank c = false) : (satisfying kind).Shown := by
  intro s c rest hread
  obtain ⟨rfl, hc⟩ := satisfying_eq_ok hread
  have hmark : Place.between.mark? c rest ≠ none := mark?_between_ne_none (hblank c hc)
  refine ⟨_, ?_, quietly_char (.inl rfl) (h c hc) rest⟩
  rwa [ne_eq, Option.toList_eq_nil_iff]

theorem digits : Shown digits := by
  have hblank : ∀ c : Char, c.isDigit = true → isBlank c = false := by
    intro c hc
    have hne (d : Char) (hd : d.isDigit = false) : (c == d) = false := beq_eq_false_of_kind hc hd
    rw [isBlank, hne ' ' rfl, hne '\t' rfl, hne '\r' rfl, hne '\n' rfl]
    rfl
  exact (satisfying (fun _ => isOrdinary_of_isDigit) hblank).bind fun _ =>
    (Quiet.takeWhile fun _ => isOrdinary_of_isDigit).bind fun _ => .pure _

/-- Where the sign is missing, what comes behind it shows. -/
theorem minus_bind {next : Bool → Reader α} (hshown : ∀ b, (next b).Shown)
    (hquiet : ∀ b, (next b).Quiet) : (minus >>= next).Shown := by
  intro s a rest h
  obtain ⟨negative, mid, hminus, hread⟩ := bind_eq_ok.mp h
  obtain ⟨sign, hsign, -⟩ := map_eq_ok.mp hminus
  obtain ⟨-, rfl, -⟩ | ⟨u, -, hchar⟩ := optional_eq_ok hsign
  · exact hshown negative mid a rest hread
  · have hminus : Shown (char '-') :=
      (satisfying (by simp [isOrdinary, isQuote]) (by simp [isBlank])).bind fun _ => .pure ()
    exact (hminus.bind fun _ => hquiet negative) s a rest (bind_eq_ok.mpr ⟨u, mid, hchar, hread⟩)

theorem number : Shown number :=
  minus_bind
    (fun _ => digits.bind fun _ => Quiet.fraction.optional.bind fun _ =>
      Quiet.exponent.optional.bind fun _ => .pure _)
    fun _ => Quiet.digits.bind fun _ => Quiet.fraction.optional.bind fun _ =>
      Quiet.exponent.optional.bind fun _ => .pure _

theorem quotedString : Shown quotedString := by
  intro s text rest h
  obtain ⟨q, mid, rfl, hquote, hbody⟩ := quotedString_eq_ok h
  exact ⟨_, List.cons_ne_nil _ _, quietly_quotation hquote (.inl rfl) hbody⟩

theorem keyword {word : String} (hword : word ∈ keywords) (hnot : word ≠ "not") :
    (keyword word).Shown := by
  intro s u rest h
  obtain ⟨letters, rfl, hspells, hrest⟩ := keyword_eq_ok h
  have hne : letters ≠ [] := by
    rintro rfl
    exact Keyword.toList_ne_nil word hword (List.map_eq_nil_iff.mp hspells.symm)
  exact ⟨_, List.cons_ne_nil _ _, quietly_first_word hne (isWordChar_of_spells hword hspells)
    (isNot_eq_false_of_spells hword hnot hspells) hrest⟩

theorem identifier : Shown identifier := by
  intro s word rest h
  obtain ⟨n, -, rfl, hrest⟩ := identifier_eq_ok h
  exact ⟨_, List.cons_ne_nil _ _, quietly_first_word (List.cons_ne_nil _ _)
    (fun c => n.isWordChar_of_mem_letters) n.isNot_eq_false hrest⟩

theorem operand : Shown operand := by
  have hconstant {word : String} (e : Expr Path) (hword : word ∈ keywords) (hnot : word ≠ "not") :
      (constant word e).Shown := (keyword hword hnot).bind fun _ => .pure e
  refine firstOf ?_
  simp only [List.forall_mem_cons, List.not_mem_nil, false_implies, implies_true, and_true]
  exact ⟨hconstant _ (by decide) (by decide), hconstant _ (by decide) (by decide),
    hconstant _ (by decide) (by decide), number.map _, quotedString.map _,
    (identifier.bind fun _ => Quiet.bracket.many.bind fun _ => .pure _).map _⟩

theorem comparison (patternSize : Nat) : (comparison patternSize).Shown := by
  refine (operand.padded.expecting _).bind fun left => ?_
  refine Quiet.comparisonSign.padded.optional.bind fun sign => ?_
  have hright : (committed (Reader.expecting "operand" (Reader.padded Reader.operand))).Quiet :=
    (Quiet.operand.padded.expecting _).committed
  cases sign with
  | none => exact .pure left
  | some op =>
    cases op with
    | matching => exact ((Quiet.pattern _).padded.expecting _).committed.bind fun _ => .pure _
    | eq | ne | lt | le | gt | ge => exact hright.bind fun _ => .pure _

end Shown
end EventQuery.Query.Reader
