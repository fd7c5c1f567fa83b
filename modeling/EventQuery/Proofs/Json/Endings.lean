import EventQuery.Proofs.Json.ReadBack

/-!
# Where a written part ends

Two texts that begin with a written part each, and go on in some other way, are the same only if the
parts are and what follows is. A string ends at its own closing quote. A number ends at the first
character that may follow a document (`append_inj_of_ends`), none of which stands in a numeral. The
parts of a list and of an object are told from its closing bracket, so that the items of two lists
can be compared one after the other (`Writer.itemsText_of_text`), and so can the fields of two
objects (`Writer.fieldsText_of_text`).

A double is told from every integer by what stands in it: a point or an exponent
(`Writer.exists_mem_floatText`).
-/

namespace EventQuery.Json

/-- What may follow a document begins with one of these. -/
def isEnd (c : Char) : Bool := c == ',' || c == ']' || c == '\x7d'

theorem isEnd_of_isDigit {c : Char} (h : c.isDigit = true) : isEnd c = false := by
  by_contra hend
  simp only [isEnd, Bool.not_eq_false, Bool.or_eq_true, beq_iff_eq] at hend
  rcases hend with (rfl | rfl) | rfl <;> exact absurd h (by decide)

variable {as bs rest rest' : List Char}

/-- Where a text without such a character is followed by one, it ends there. -/
theorem Ends.split_append (hrest : Ends rest) (ha : ∀ c ∈ as, isEnd c = false) :
    (as ++ rest).takeWhile (!isEnd ·) = as ∧ (as ++ rest).dropWhile (!isEnd ·) = rest := by
  have hgo : ∀ c ∈ as, (!isEnd c) = true := fun c hc => by rw [ha c hc]; rfl
  have hstop : rest.takeWhile (!isEnd ·) = [] ∧ rest.dropWhile (!isEnd ·) = rest := by
    cases hrest <;> exact ⟨rfl, rfl⟩
  rw [List.takeWhile_append_of_pos hgo, List.dropWhile_append_of_pos hgo, hstop.1, hstop.2,
    List.append_nil]
  exact ⟨rfl, rfl⟩

theorem append_inj_of_ends (ha : ∀ c ∈ as, isEnd c = false) (hb : ∀ c ∈ bs, isEnd c = false)
    (hrest : Ends rest) (hrest' : Ends rest') (h : as ++ rest = bs ++ rest') :
    as = bs ∧ rest = rest' := by
  obtain ⟨hbefore, hafter⟩ := hrest.split_append ha
  obtain ⟨hbefore', hafter'⟩ := hrest'.split_append hb
  rw [h] at hbefore hafter
  exact ⟨hbefore.symm.trans hbefore', hafter.symm.trans hafter'⟩

namespace Writer

/-- A string is known by its text, and so is what follows it. -/
theorem stringText_append_inj {s t : String} {rest rest' : List Char}
    (h : stringText s ++ rest = stringText t ++ rest') : s = t ∧ rest = rest' := by
  simp only [stringText, List.cons_append, List.append_assoc, List.nil_append] at h
  have hread := congrArg Reader.string (List.cons.inj h).2
  rw [Reader.string_append, Reader.string_append] at hread
  cases hread
  exact ⟨rfl, rfl⟩

/-- The texts of lists are those of their items, in brackets. -/
theorem itemsText_of_text : ∀ {js js' : List Json} {rest rest' : List Char},
    text (.array js) ++ rest = text (.array js') ++ rest' →
    itemsText js ++ ']' :: rest = itemsText js' ++ ']' :: rest'
  | [], [], _, _, h => (List.cons.inj h).2
  | [], j :: _, _, _, h => by
    obtain ⟨c, cs, hc, hstart⟩ := text_eq_cons j
    simp only [text, hc] at h
    obtain rfl : ']' = c := (List.cons.inj (List.cons.inj h).2).1
    exact absurd hstart (by decide)
  | j :: _, [], _, _, h => by
    obtain ⟨c, cs, hc, hstart⟩ := text_eq_cons j
    simp only [text, hc] at h
    obtain rfl : c = ']' := (List.cons.inj (List.cons.inj h).2).1
    exact absurd hstart (by decide)
  | _ :: _, _ :: _, _, _, h => by
    simp only [text, List.cons_append, List.append_assoc, List.nil_append] at h
    simp only [itemsText, List.cons_append, List.append_assoc]
    exact congrArg (',' :: ·) (List.cons.inj h).2

/-- The texts of objects are those of their fields, in braces. -/
theorem fieldsText_of_text : ∀ {fs fs' : List (String × Json)} {rest rest' : List Char},
    text (.object fs) ++ rest = text (.object fs') ++ rest' →
    fieldsText fs ++ '\x7d' :: rest = fieldsText fs' ++ '\x7d' :: rest'
  | [], [], _, _, h => (List.cons.inj h).2
  | [], (_, _) :: _, _, _, h => absurd (List.cons.inj (List.cons.inj h).2).1 (by decide)
  | (_, _) :: _, [], _, _, h => absurd (List.cons.inj (List.cons.inj h).2).1 (by decide)
  | (_, _) :: _, (_, _) :: _, _, _, h => by
    simp only [text, List.cons_append, List.append_assoc, List.nil_append] at h
    simp only [fieldsText, List.cons_append, List.append_assoc]
    exact congrArg (',' :: ·) (List.cons.inj h).2

/-! ## Numerals -/

theorem digit_or_sign_of_mem_intText {i : Int} {c : Char} (h : c ∈ intText i) :
    c = '-' ∨ c.isDigit = true := by
  unfold intText at h
  split at h
  · exact (List.mem_cons.mp h).imp_right Text.isDigit_of_mem_toDigits
  · exact .inr (Text.isDigit_of_mem_toDigits h)

variable {digits : List Char}

theorem isEnd_of_mem_positional (h : ∀ c ∈ digits, c.isDigit = true) (leading : Int) :
    ∀ c ∈ Layout.positional digits leading, isEnd c = false := by
  have hdigits : ∀ c ∈ digits, isEnd c = false := fun c hc => isEnd_of_isDigit (h c hc)
  have hzeros : ∀ n, ∀ c ∈ List.replicate n '0', isEnd c = false := by
    intro n c hc
    rw [List.eq_of_mem_replicate hc]
    rfl
  unfold Layout.positional
  split
  · simp only [List.forall_mem_append, List.forall_mem_cons]
    exact ⟨⟨⟨rfl, rfl, nofun⟩, hzeros _⟩, hdigits⟩
  · simp only [List.forall_mem_append, List.forall_mem_cons]
    refine ⟨⟨fun c hc => hdigits c (List.mem_of_mem_take hc), hzeros _⟩, rfl, ?_⟩
    split
    · exact List.forall_mem_singleton.mpr rfl
    · exact fun c hc => hdigits c (List.mem_of_mem_drop hc)

theorem isEnd_of_mem_scientific (h : ∀ c ∈ digits, c.isDigit = true) (plusSign : Bool)
    (leading : Int) : ∀ c ∈ Layout.scientific plusSign digits leading, isEnd c = false := by
  have hdigits : ∀ c ∈ digits, isEnd c = false := fun c hc => isEnd_of_isDigit (h c hc)
  have hexponent : ∀ c ∈ Nat.toDigits 10 leading.natAbs, isEnd c = false :=
    fun c hc => isEnd_of_isDigit (Text.isDigit_of_mem_toDigits hc)
  unfold Layout.scientific
  simp only [List.forall_mem_append, List.forall_mem_cons]
  refine ⟨⟨?_, rfl, ?_⟩, hexponent⟩
  · split
    · exact nofun
    · exact hdigits
    · obtain ⟨hd, hds⟩ := List.forall_mem_cons.mp hdigits
      exact List.forall_mem_cons.mpr ⟨hd, List.forall_mem_cons.mpr ⟨rfl, hds⟩⟩
  · split
    · exact List.forall_mem_singleton.mpr rfl
    · split
      · exact List.forall_mem_singleton.mpr rfl
      · exact nofun

theorem point_mem_positional (digits : List Char) (leading : Int) :
    '.' ∈ Layout.positional digits leading := by
  unfold Layout.positional
  split <;> simp

theorem e_mem_scientific (plusSign : Bool) (digits : List Char) (leading : Int) :
    'e' ∈ Layout.scientific plusSign digits leading := by
  simp [Layout.scientific]

/-- A magnitude is written without a character that may follow it. -/
theorem isEnd_of_mem_magnitudeText (l : Layout) (x : Binary64) :
    ∀ c ∈ l.magnitudeText x, isEnd c = false := by
  have hdigits : ∀ c ∈ Nat.toDigits 10 (x.shortest l.tie).digits, c.isDigit = true :=
    fun _ => Text.isDigit_of_mem_toDigits
  unfold Layout.magnitudeText
  split
  · simp only [List.forall_mem_cons]
    exact ⟨rfl, rfl, rfl, nofun⟩
  · simp only
    split
    · exact isEnd_of_mem_positional hdigits _
    · exact isEnd_of_mem_scientific hdigits _ _

/-- A magnitude is written with a point or an exponent. -/
theorem exists_mem_magnitudeText (l : Layout) (x : Binary64) :
    ∃ c ∈ l.magnitudeText x, c ≠ '-' ∧ c.isDigit = false := by
  unfold Layout.magnitudeText
  split
  · exact ⟨'.', by decide⟩
  · simp only
    split
    · exact ⟨'.', point_mem_positional _ _, by decide⟩
    · exact ⟨'e', e_mem_scientific _ _ _, by decide⟩

theorem isEnd_of_mem_floatText (x : Binary64) : ∀ c ∈ floatText x, isEnd c = false := by
  have hmagnitude := isEnd_of_mem_magnitudeText Layout.document x
  unfold floatText Layout.finiteText
  split
  · exact List.forall_mem_cons.mpr ⟨rfl, hmagnitude⟩
  · exact hmagnitude

theorem exists_mem_floatText (x : Binary64) :
    ∃ c ∈ floatText x, c ≠ '-' ∧ c.isDigit = false := by
  obtain ⟨c, hc, hpoint⟩ := exists_mem_magnitudeText Layout.document x
  refine ⟨c, ?_, hpoint⟩
  unfold floatText Layout.finiteText
  split
  · exact List.mem_cons_of_mem _ hc
  · exact hc

/-- The zeros are told apart by their signs. -/
theorem floatText_ne_of_isNegative {x y : Binary64} (hx : x.magnitude = 0) (hy : y.magnitude = 0)
    (h : x.isNegative ≠ y.isNegative) : floatText x ≠ floatText y := by
  have htext : ∀ {z : Binary64}, z.magnitude = 0 → Layout.document.magnitudeText z =
      ['0', '.', '0'] := fun hz => if_pos (decide_eq_true hz)
  rw [floatText, floatText, Layout.finiteText, Layout.finiteText, htext hx, htext hy]
  cases hnx : x.isNegative <;> cases hny : y.isNegative <;> simp_all

end Writer
end EventQuery.Json
