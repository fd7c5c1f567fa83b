import EventQuery.Proofs.Query.Token
import Mathlib.Data.List.Forall2

/-!
# Reading the text of a token

Every token is read back from its text by the reader for it, whatever comes next as long as it does
not go on with the token: a word stops at what is not part of words (`identifier_append`,
`keyword_append`), a number at what is neither a digit nor part of a fraction or an exponent
(`number_append`), and a quoted text at its own quote (`quotedString_append`). A path stops where no
bracket is opened (`path_append`).
-/

namespace EventQuery.Query

/-- Nothing was read, and something else may be tried. -/
def Outcome.Refused {α : Type} (o : Outcome α) : Prop := ∃ f, o = .refused f

namespace Reader

variable {α β : Type} {r q : Reader α} {a : α} {p : Char → Bool} {s rest : List Char}

/-! ## Choices -/

theorem orElse_of_ok (h : r s = .ok a rest) : (r <|> q) s = .ok a rest := by
  change Reader.orElse r (fun _ => q) s = _
  rw [Reader.orElse, h]

theorem orElse_of_refused (h : (r s).Refused) (hq : q s = .ok a rest) :
    (r <|> q) s = .ok a rest := by
  obtain ⟨f, hf⟩ := h
  change Reader.orElse r (fun _ => q) s = _
  rw [Reader.orElse, hf]
  simp only [hq]

theorem refused_orElse (h : (r s).Refused) (hq : (q s).Refused) : ((r <|> q) s).Refused := by
  obtain ⟨f, hf⟩ := h
  obtain ⟨g, hg⟩ := hq
  refine ⟨f.merge g, ?_⟩
  change Reader.orElse r (fun _ => q) s = _
  rw [Reader.orElse, hf]
  simp only [hg]

theorem firstOf_of_ok (h : r s = .ok a rest) (more : List (Reader α)) :
    firstOf (r :: more) s = .ok a rest := by
  cases more with
  | nil => exact h
  | cons q more => exact orElse_of_ok h

theorem firstOf_of_refused {more : List (Reader α)} (h : (r s).Refused)
    (hmore : firstOf more s = .ok a rest) : firstOf (r :: more) s = .ok a rest := by
  cases more with
  | nil => exact nomatch hmore
  | cons q more => exact orElse_of_refused h hmore

theorem refused_firstOf {rs : List (Reader α)} (h : ∀ r ∈ rs, (r s).Refused) :
    (firstOf rs s).Refused := by
  induction rs with
  | nil => exact ⟨_, rfl⟩
  | cons r rs ih =>
    have hr := h r List.mem_cons_self
    cases rs with
    | nil => exact hr
    | cons q rs => exact refused_orElse hr (ih fun r' hr' => h r' (List.mem_cons_of_mem r hr'))

theorem optional_of_ok (h : r s = .ok a rest) : optional r s = .ok (some a) rest := by
  rw [optional, h]

theorem optional_of_refused (h : (r s).Refused) : optional r s = .ok none s := by
  obtain ⟨f, hf⟩ := h
  rw [optional, hf]

theorem committed_of_ok (h : r s = .ok a rest) : committed r s = .ok a rest := by
  rw [committed, h]

theorem expecting_of_ok {label : String} (h : r s = .ok a rest) :
    expecting label r s = .ok a rest := by
  rw [expecting, h]

theorem many_of_refused (h : (r s).Refused) : many r s = .ok [] s := by
  obtain ⟨f, hf⟩ := h
  rw [many, hf]

theorem many_of_ok {as : List α} {behind : List Char} (h : r s = .ok a rest)
    (hlt : rest.length < s.length) (hmore : many r rest = .ok as behind) :
    many r s = .ok (a :: as) behind := by
  rw [many, h]
  simp only [if_pos hlt, hmore, Outcome.map_ok]

theorem refused_bind {next : α → Reader β} (h : (r s).Refused) : ((r >>= next) s).Refused := by
  obtain ⟨f, hf⟩ := h
  exact ⟨f, by rw [bind_apply, hf, Outcome.andThen_refused]⟩

theorem map_apply (g : α → β) (r : Reader α) (s : List Char) :
    (g <$> r) s = (r s).andThen fun a rest => .ok (g a) rest := rfl

theorem refused_map {g : α → β} (h : (r s).Refused) : ((g <$> r) s).Refused := by
  obtain ⟨f, hf⟩ := h
  exact ⟨f, by rw [map_apply, hf, Outcome.andThen_refused]⟩

/-! ## Characters -/

theorem satisfying_cons {c : Char} (h : p c = true) : satisfying p (c :: s) = .ok c s := by
  rw [satisfying, if_pos h]

theorem refused_satisfying (h : Stops p s) : (satisfying p s).Refused := by
  cases s with
  | nil => exact ⟨_, rfl⟩
  | cons c s =>
    have hc : ¬ p c = true := by simp [h c rfl]
    exact ⟨_, by rw [satisfying, if_neg hc]⟩

theorem char_cons (c : Char) : char c (c :: s) = .ok () s := by
  simp [char, satisfying_cons]

theorem refused_char {c : Char} (h : Stops (· == c) s) : (char c s).Refused :=
  refused_bind (refused_satisfying h)

theorem notFollowedBy_of_stops (h : Stops p s) : notFollowedBy p s = .ok () s := by
  cases s with
  | nil => rfl
  | cons c s =>
    have hc : ¬ p c = true := by simp [h c rfl]
    rw [notFollowedBy, if_neg hc]

theorem takeWhile_of_stops (h : Stops p s) : s.takeWhile p = [] := by
  cases s with
  | nil => rfl
  | cons c s => simp [stops_cons.mp h]

theorem dropWhile_of_stops (h : Stops p s) : s.dropWhile p = s := by
  cases s with
  | nil => rfl
  | cons c s => simp [stops_cons.mp h]

theorem takeWhile_append {cs : List Char} (h : ∀ c ∈ cs, p c = true) (hrest : Stops p rest) :
    takeWhile p (cs ++ rest) = .ok cs rest := by
  rw [takeWhile, List.takeWhile_append_of_pos h, List.dropWhile_append_of_pos h,
    takeWhile_of_stops hrest, dropWhile_of_stops hrest, List.append_nil]

theorem takeWhile1_append {cs : List Char} (hne : cs ≠ []) (h : ∀ c ∈ cs, p c = true)
    (hrest : Stops p rest) : takeWhile1 p (cs ++ rest) = .ok cs rest := by
  obtain ⟨c, cs, rfl⟩ := List.exists_cons_of_ne_nil hne
  obtain ⟨hc, hcs⟩ := List.forall_mem_cons.mp h
  simp [takeWhile1, satisfying_cons hc, takeWhile_append hcs hrest]

theorem padded_of_ok (hs : Stops isBlank s) (h : r s = .ok a rest) (hrest : Stops isBlank rest) :
    padded r s = .ok a rest := by
  simp [padded, blanks, dropWhile_of_stops hs, h, dropWhile_of_stops hrest]

theorem refused_padded (hs : Stops isBlank s) (h : (r s).Refused) : (padded r s).Refused := by
  rw [padded, bind_apply, blanks, dropWhile_of_stops hs, Outcome.andThen_ok]
  exact refused_bind h

/-- What is left of a text behind another one, compared by `same`. -/
def strip? (same : Char → Char → Bool) : List Char → List Char → Option (List Char)
  | [], s => some s
  | _ :: _, [] => none
  | a :: text, c :: s => if same a c then strip? same text s else none

theorem exactly_eq (same : Char → Char → Bool) (text s : List Char) :
    exactly same text s =
      (strip? same text s).elim (.refused ⟨s, none, none⟩) fun rest => .ok () rest := by
  have hstrip : strip? same text s =
      if s.length < text.length || !(text.zip s).all (fun pair => same pair.1 pair.2) then none
      else some (s.drop text.length) := by
    induction text generalizing s with
    | nil => simp [strip?]
    | cons a text ih =>
      cases s with
      | nil => simp [strip?]
      | cons c s =>
        rw [strip?, ih]
        have hlength : (c :: s).length < (a :: text).length ↔ s.length < text.length := by simp
        by_cases hc : same a c = true
        · simp only [hc, hlength, List.zip_cons_cons, List.all_cons, Bool.true_and, if_true]
          rfl
        · simp [hc]
  rw [hstrip]
  change (if s.length < text.length || !(text.zip s).all (fun pair => same pair.1 pair.2) then _
    else _) = _
  split <;> rfl

theorem strip?_eq_some_iff {same : Char → Char → Bool} {text s rest : List Char} :
    strip? same text s = some rest ↔
      ∃ start, s = start ++ rest ∧ List.Forall₂ (fun a c => same a c = true) text start := by
  constructor
  · intro h
    induction text generalizing s with
    | nil => exact ⟨[], Option.some.inj h, .nil⟩
    | cons a text ih =>
      cases s with
      | nil => exact nomatch h
      | cons c s =>
        rw [strip?] at h
        split at h
        · next hc =>
          obtain ⟨start, rfl, hstart⟩ := ih h
          exact ⟨c :: start, rfl, .cons hc hstart⟩
        · exact nomatch h
  · rintro ⟨start, rfl, h⟩
    induction h with
    | nil => rfl
    | cons hc _ ih => rw [List.cons_append, strip?, if_pos hc, ih]

theorem refused_exactly {same : Char → Char → Bool} {text : List Char}
    (h : strip? same text s = none) : (exactly same text s).Refused :=
  ⟨_, by rw [exactly_eq, h, Option.elim_none]⟩

/-! ## Keywords and identifiers -/

theorem forall₂_sameLetter_iff {word letters : List Char} :
    List.Forall₂ (fun a c => sameLetter a c = true) word letters ↔
      word.map Char.toLower = letters.map Char.toLower := by
  simp only [sameLetter, beq_iff_eq, ← List.forall₂_eq_eq_eq, List.forall₂_map_left_iff,
    List.forall₂_map_right_iff]

theorem keyword_append (k : Keyword) (hrest : Stops isWordChar rest) :
    keyword k.word (k.letters ++ rest) = .ok () rest := by
  have hstrip : strip? sameLetter k.word.toList (k.letters ++ rest) = some rest :=
    strip?_eq_some_iff.mpr ⟨k.letters, rfl, forall₂_sameLetter_iff.mpr k.spells.symm⟩
  rw [keyword, bind_apply, exactly_eq, hstrip]
  exact notFollowedBy_of_stops hrest

/-- A keyword is not found where another word stands, even if that one begins like it. -/
theorem refused_keyword {word : String} {letters : List Char} (hword : word ∈ keywords)
    (hletters : ∀ c ∈ letters, isWordChar c = true) (hrest : Stops isWordChar rest)
    (hne : letters.map Char.toLower ≠ word.toList.map Char.toLower) :
    (keyword word (letters ++ rest)).Refused := by
  rw [keyword, bind_apply, exactly_eq]
  cases hstrip : strip? sameLetter word.toList (letters ++ rest) with
  | none => exact ⟨_, rfl⟩
  | some behind =>
    obtain ⟨start, hsplit, hstart⟩ := strip?_eq_some_iff.mp hstrip
    rw [forall₂_sameLetter_iff] at hstart
    have hstartChars : ∀ c ∈ start, isWordChar c = true := fun c hc => by
      have hlower : c.toLower ∈ word.toList.map Char.toLower :=
        hstart ▸ List.mem_map_of_mem hc
      obtain ⟨d, hd, hdc⟩ := List.mem_map.mp hlower
      have halpha := Keyword.isAlpha_of_mem_keywords word hword d hd
      exact isWordChar_of_isAlpha (isAlpha_of_isAlpha_toLower (hdc ▸ halpha.2.symm ▸ halpha.1))
    -- If what follows did not go on with the word, the letters would be those of the keyword.
    by_cases hbehind : Stops isWordChar behind
    · have htake := takeWhile_append hletters hrest
      rw [hsplit, takeWhile_append hstartChars hbehind] at htake
      injection htake with hstartEq
      exact absurd (hstartEq ▸ hstart.symm) hne
    · cases behind with
      | nil => exact absurd (fun c hc => nomatch hc) hbehind
      | cons c behind =>
        have hc : isWordChar c = true := by simpa [Stops] using hbehind
        exact ⟨_, by rw [Option.elim_some, Outcome.andThen_ok, notFollowedBy, if_pos hc]⟩

theorem refused_keyword_of_stops {word : String} (hword : word ∈ keywords)
    (h : Stops Char.isAlpha s) : (keyword word s).Refused := by
  refine refused_bind (refused_exactly ?_)
  obtain ⟨a, more, ha⟩ := List.exists_cons_of_ne_nil (Keyword.toList_ne_nil word hword)
  have halpha := Keyword.isAlpha_of_mem_keywords word hword a (ha ▸ List.mem_cons_self)
  cases s with
  | nil => rw [ha, strip?]
  | cons c s =>
    have hc : ¬ sameLetter a c = true := fun hsame => by
      rw [sameLetter, beq_iff_eq, halpha.2] at hsame
      have hletter := isAlpha_of_isAlpha_toLower (hsame ▸ halpha.1)
      simp [h c rfl] at hletter
    rw [ha, strip?, if_neg hc]

theorem identifier_append (n : Name) (hrest : Stops isWordChar rest) :
    identifier (n.letters ++ rest) = .ok n.text rest := by
  have hfree : isReserved (n.first :: n.more) = false := n.free
  simp [identifier, verify, Name.letters, Name.text, satisfying_cons n.starts,
    takeWhile_append n.continues hrest, hfree]

/-! ## Numbers -/

theorem digits_append (n : Nat) (hrest : Stops Char.isDigit rest) :
    digits (Nat.toDigits 10 n ++ rest) = .ok (Nat.toDigits 10 n) rest :=
  takeWhile1_append Nat.toDigits_ne_nil (fun _ => Text.isDigit_of_mem_toDigits) hrest

theorem natOf_toDigits (n : Nat) : natOf (Nat.toDigits 10 n) = n := Text.foldl_toDigits n

theorem minus_append (i : Int) :
    minus (Path.indexText i ++ rest) =
      .ok (decide (i < 0)) (Nat.toDigits 10 i.natAbs ++ rest) := by
  by_cases hi : i < 0
  · rw [Path.indexText, if_pos hi, List.cons_append, minus, bind_apply,
      optional_of_ok (char_cons '-')]
    simp [hi]
  · have hsign : Stops (· == '-') (Nat.toDigits 10 i.natAbs ++ rest) := by
      obtain ⟨d, ds, hd, hdigit⟩ := Text.toDigits_eq_cons i.natAbs
      rintro c hc
      rw [hd, List.cons_append, List.head?_cons, Option.mem_some_iff] at hc
      by_contra hminus
      rw [Bool.not_eq_false, beq_iff_eq, ← hc] at hminus
      rw [hminus] at hdigit
      exact absurd hdigit (by decide)
    rw [Path.indexText, if_neg hi, minus, bind_apply, optional_of_refused (refused_char hsign)]
    simp [hi]

theorem intOf_toDigits (i : Int) : intOf (decide (i < 0)) (Nat.toDigits 10 i.natAbs) = i := by
  rw [intOf, natOf_toDigits]
  by_cases hi : i < 0
  · rw [if_pos (decide_eq_true hi)]
    omega
  · rw [if_neg (by simp [hi])]
    omega

theorem toInt64_toInt (i : Int64) : toInt64 i.toInt = .ok i := by
  have hlow := Int64.minValue_le_toInt i
  have hhigh := Int64.toInt_le i
  rw [toInt64, if_neg (by omega), if_neg (by omega), Int64.ofInt_toInt]

theorem integer_append (i : Int64) (hrest : Stops Char.isDigit rest) :
    integer (Path.indexText i.toInt ++ rest) = .ok i rest := by
  simp [integer, refine, minus_append, digits_append _ hrest, intOf_toDigits, toInt64_toInt]

theorem natural_append (n : UInt64) (hrest : Stops Char.isDigit rest) :
    natural (Path.indexText n.toNat ++ rest) = .ok n rest := by
  have hsize : n.toNat < UInt64.size := n.toNat_lt_size
  have htext : Path.indexText n.toNat = Nat.toDigits 10 n.toNat := by
    rw [Path.indexText, if_neg (by omega), Int.natAbs_natCast]
  simp [htext, natural, refine, digits_append _ hrest, natOf_toDigits, hsize]

/-- What a number may go on with. -/
def isNumberPart (c : Char) : Bool := c.isDigit || c == '.' || c == 'e' || c == 'E'

theorem number_append (i : Int64) (hrest : Stops isNumberPart rest) :
    number (Path.indexText i.toInt ++ rest) = .ok (.int i) rest := by
  have hdigit : Stops Char.isDigit rest := hrest.mono fun c hc => by simp_all [isNumberPart]
  have hpoint : (fraction rest).Refused :=
    refused_bind (refused_char (hrest.mono fun c hc => by simp_all [isNumberPart]))
  have hexponent : (exponent rest).Refused :=
    refused_bind (refused_satisfying (hrest.mono fun c hc => by simp_all [isNumberPart]))
  simp [number, minus_append, digits_append _ hdigit, optional_of_refused hpoint,
    optional_of_refused hexponent, numberOf, intOf_toDigits, toInt64_toInt]

theorem refused_number (h : Stops isNumberStart s) : (number s).Refused := by
  have hminus : (char '-' s).Refused :=
    refused_char (h.mono fun c hc => by simp_all [isNumberStart])
  have hdigits : (digits s).Refused :=
    refused_bind (refused_satisfying (h.mono fun c hc => by simp_all [isNumberStart]))
  rw [number, minus]
  simp only [bind_apply, optional_of_refused hminus, Outcome.andThen_ok, pure_apply]
  exact refused_bind hdigits

/-! ## Quoted texts -/

theorem quotedBody_append (q : Quote) (cs : List Char) :
    quotedBody q.mark (cs.flatMap q.escaped ++ q.mark :: rest) = .ok cs rest := by
  have hmark : q.mark ≠ '\\' := by cases q <;> decide
  have hunescaped : ∀ c, c = '\\' ∨ c = q.mark → unescaped c = c := by
    rintro c (rfl | rfl)
    · rfl
    · cases q <;> rfl
  induction cs with
  | nil =>
    simp only [List.flatMap_nil, List.nil_append]
    rw [quotedBody]
    · simp
    · simp [hmark]
    · simp [hmark]
  | cons c cs ih =>
    rw [List.flatMap_cons, List.append_assoc, Quote.escaped]
    by_cases hc : c = '\\' ∨ c = q.mark
    · rw [if_pos hc, List.cons_append, List.cons_append, List.nil_append, quotedBody, ih,
        Outcome.map_ok, hunescaped c hc]
    · rw [not_or] at hc
      rw [if_neg (by simp [hc]), List.cons_append, List.nil_append, quotedBody]
      · rw [if_neg hc.2, ih, Outcome.map_ok]
      · simp [hc.1]
      · simp [hc.1]

theorem quotedString_append (q : Quote) (text : String) :
    quotedString (q.around text ++ rest) = .ok text rest := by
  have hopen : (q.mark == '\'' || q.mark == '"') = true := by cases q <;> rfl
  rw [Quote.around, List.cons_append, List.cons_append, List.append_assoc, quotedString,
    bind_apply, satisfying_cons hopen]
  simp [quotedBody_append]

theorem refused_quotedString (h : Stops (fun c => c == '\'' || c == '"') s) :
    (quotedString s).Refused :=
  refused_bind (refused_satisfying h)

/-! ## Paths -/

/-- What stands between the brackets of a segment. -/
def insideBrackets : Segment → List Char
  | .key name => Quote.single.around name
  | .index i => Path.indexText i.toInt
  | .wildcard => ['*']
  | .stem start => '^' :: Quote.single.around start

theorem segmentText_eq (segment : Segment) :
    Path.segmentText segment = '[' :: insideBrackets segment ++ [']'] := by
  cases segment <;> simp [Path.segmentText, insideBrackets, Quote.around_single]

theorem stops_indexText {i : Int} (h : ∀ c, isNumberStart c = true → p c = false) :
    Stops p (Path.indexText i ++ s) := by
  obtain ⟨c, cs, hc, hstart⟩ := indexText_eq_cons i
  rw [hc, List.cons_append, stops_cons]
  exact h c hstart

theorem stops_insideBrackets (seg : Segment) : Stops isBlank (insideBrackets seg ++ s) := by
  cases seg with
  | key name => exact stops_cons.mpr rfl
  | wildcard => exact stops_cons.mpr rfl
  | stem start => exact stops_cons.mpr rfl
  | index i => exact stops_indexText fun c hc => Token.Starts.isBlank_eq_false (t := .number 0) hc

theorem segment_append (seg : Segment) :
    segment (insideBrackets seg ++ ']' :: rest) = .ok seg (']' :: rest) := by
  cases seg with
  | key name =>
    refine firstOf_of_ok ?_ _
    rw [insideBrackets, map_apply, quotedString_append, Outcome.andThen_ok]
  | wildcard =>
    refine firstOf_of_refused (refused_map (refused_quotedString (stops_cons.mpr rfl))) ?_
    refine firstOf_of_ok ?_ _
    simp [insideBrackets, wildcard, char_cons]
  | stem start =>
    refine firstOf_of_refused (refused_map (refused_quotedString (stops_cons.mpr rfl))) ?_
    refine firstOf_of_refused (refused_bind (refused_char (stops_cons.mpr rfl))) ?_
    refine firstOf_of_ok ?_ _
    have hsign : padded (char '^') ('^' :: (Quote.single.around start ++ ']' :: rest)) =
        .ok () (Quote.single.around start ++ ']' :: rest) :=
      padded_of_ok (stops_cons.mpr rfl) (char_cons '^') (stops_cons.mpr rfl)
    have hstart : quotedString (Quote.single.around start ++ ']' :: rest) =
        .ok start (']' :: rest) := quotedString_append .single start
    rw [insideBrackets, List.cons_append, stem, bind_apply, hsign, Outcome.andThen_ok, bind_apply,
      committed_of_ok (expecting_of_ok hstart)]
    rfl
  | index i =>
    have hlead (d : Char) (hd : isNumberStart d = false) :
        Stops (· == d) (insideBrackets (.index i) ++ ']' :: rest) :=
      stops_indexText fun c hc => beq_eq_false_of_kind hc hd
    have hquote : Stops (fun c => c == '\'' || c == '"')
        (insideBrackets (.index i) ++ ']' :: rest) :=
      stops_indexText fun c hc => by
        rw [beq_eq_false_of_kind hc (by decide), beq_eq_false_of_kind hc (by decide), Bool.or_self]
    have hsign : (padded (char '^') (insideBrackets (.index i) ++ ']' :: rest)).Refused :=
      refused_padded (stops_insideBrackets (.index i)) (refused_char (hlead '^' (by decide)))
    refine firstOf_of_refused (refused_map (refused_quotedString hquote)) ?_
    refine firstOf_of_refused (refused_bind (refused_char (hlead '*' (by decide)))) ?_
    refine firstOf_of_refused (refused_bind hsign) ?_
    rw [firstOf, insideBrackets, map_apply, integer_append i (stops_cons.mpr rfl),
      Outcome.andThen_ok]

theorem bracket_append (seg : Segment) :
    bracket (Path.segmentText seg ++ rest) = .ok seg rest := by
  have hinside : padded segment (insideBrackets seg ++ ']' :: rest) = .ok seg (']' :: rest) :=
    padded_of_ok (stops_insideBrackets seg) (segment_append seg) (stops_cons.mpr rfl)
  rw [segmentText_eq, List.append_assoc, List.cons_append, bracket, bind_apply, char_cons,
    Outcome.andThen_ok, List.singleton_append, bind_apply,
    committed_of_ok (expecting_of_ok hinside), Outcome.andThen_ok, bind_apply,
    committed_of_ok (expecting_of_ok (char_cons ']'))]
  rfl

theorem brackets_append (segs : List Segment) (hrest : Stops (· == '[') rest) :
    many bracket (segs.flatMap Path.segmentText ++ rest) = .ok segs rest := by
  induction segs with
  | nil => exact many_of_refused (refused_bind (refused_char hrest))
  | cons seg segs ih =>
    rw [List.flatMap_cons, List.append_assoc]
    refine many_of_ok (bracket_append seg) ?_ ih
    simp only [segmentText_eq seg, List.length_append, List.length_cons, List.cons_append]
    omega

theorem path_append (n : Name) (segs : List Segment) (hrest : Stops (· == '[') rest)
    (hword : segs = [] → Stops isWordChar rest) :
    path (n.letters ++ (segs.flatMap Path.segmentText ++ rest)) =
      .ok (pathOf n.text segs) rest := by
  have hname : Stops isWordChar (segs.flatMap Path.segmentText ++ rest) := by
    cases segs with
    | nil => exact hword rfl
    | cons seg segs =>
      rw [List.flatMap_cons, segmentText_eq]
      exact stops_cons.mpr (by decide)
  have hbrackets := brackets_append segs hrest
  rw [path, bind_apply, identifier_append n hname, Outcome.andThen_ok]
  change (many bracket _).andThen _ = _
  rw [hbrackets]
  rfl

/-! ## Signs -/

theorem symbol_append (text : String) : symbol text (text.toList ++ rest) = .ok () rest := by
  have hstrip : strip? (· == ·) text.toList (text.toList ++ rest) = some rest :=
    strip?_eq_some_iff.mpr ⟨_, rfl, List.forall₂_same.mpr fun c _ => beq_self_eq_true c⟩
  rw [symbol, exactly_eq, hstrip, Option.elim_some]

theorem refused_symbol {text : String} {c : Char} {cs : List Char} (htext : text.toList = c :: cs)
    (h : Stops (· == c) s) : (symbol text s).Refused := by
  refine refused_exactly ?_
  rw [htext]
  cases s with
  | nil => rfl
  | cons d s =>
    have hd : ¬ (c == d) = true := by
      rw [BEq.comm, stops_cons.mp h]
      exact Bool.false_ne_true
    rw [strip?, if_neg hd]

/-- The first of some signs that a text starts with, and what is left behind it. -/
def signAt? : List (String × α) → List Char → Option (α × List Char)
  | [], _ => none
  | (text, a) :: signs, s =>
    match strip? (· == ·) text.toList s with
    | some rest => some (a, rest)
    | none => signAt? signs s

theorem firstOf_symbols {signs : List (String × α)} (h : signAt? signs s = some (a, rest)) :
    firstOf (signs.map fun (text, a) => do symbol text; return a) s = .ok a rest := by
  induction signs with
  | nil => exact nomatch h
  | cons sign signs ih =>
    obtain ⟨text, b⟩ := sign
    rw [signAt?] at h
    cases hstrip : strip? (· == ·) text.toList s with
    | none =>
      rw [hstrip] at h
      exact firstOf_of_refused (refused_bind (refused_exactly hstrip)) (ih h)
    | some behind =>
      rw [hstrip] at h
      obtain ⟨rfl, rfl⟩ := Prod.mk.inj (Option.some.inj h)
      refine firstOf_of_ok ?_ _
      change (symbol text s).andThen _ = _
      rw [symbol, exactly_eq, hstrip]
      rfl

/-- A sign of comparison is read whole, though another may be its start. -/
theorem comparisonSign_append {sign : Sign} {op : Comparison} (hop : sign.comparison? = some op)
    (hrest : Stops (fun c => c == '=' || c == '~') rest) :
    comparisonSign (sign.text.toList ++ rest) = .ok op rest := by
  refine firstOf_symbols ?_
  cases rest with
  | nil => cases sign <;> cases hop <;> rfl
  | cons c rest =>
    have hc := stops_cons.mp hrest
    rw [Bool.or_eq_false_iff, beq_eq_false_iff_ne, beq_eq_false_iff_ne] at hc
    cases sign <;> cases hop <;>
      simp [comparisonSigns, signAt?, strip?, Sign.text, hc.1.symm, hc.2.symm]

/-- What a sign of comparison may start with. -/
def isComparisonStart (c : Char) : Bool := c == '=' || c == '!' || c == '<' || c == '>'

theorem refused_comparisonSign (h : Stops isComparisonStart s) : (comparisonSign s).Refused := by
  have hlead : ∀ sign ∈ comparisonSigns, ∃ c cs,
      sign.1.toList = c :: cs ∧ isComparisonStart c = true := by
    simp [comparisonSigns, isComparisonStart]
  refine refused_firstOf fun r hr => ?_
  obtain ⟨sign, hsign, rfl⟩ := List.mem_map.mp hr
  obtain ⟨c, cs, htext, hc⟩ := hlead sign hsign
  refine refused_bind (refused_symbol htext (h.mono fun d hd => ?_))
  rw [beq_eq_false_iff_ne]
  rintro rfl
  exact absurd hc (by simp [hd])

end Reader
end EventQuery.Query
