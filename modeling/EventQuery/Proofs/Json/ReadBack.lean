import EventQuery.Json.Reader
import EventQuery.Proofs.Json.Writing

/-!
# Reading what was written

A document that was written is read back, whatever may follow it in a text
(`Reader.takesBack_values`): every reader takes just the text of its part and leaves the rest. A
string ends at its own closing quote, because a quote inside it is escaped (`stringBody_append`); a
number ends where no digit, point or exponent goes on with it (`Ends`); the items of a list and the
fields of an object come one after the other with nothing but commas between them.

Left out are doubles, whose digits are another matter. Names have to be distinct, since of two
fields with one name a reader keeps one, and containers may be nested only as deep as the reader
goes (`Readable`).
-/

namespace EventQuery.Json

/-- What may follow the text of a document. -/
inductive Ends : List Char → Prop
  | text : Ends []
  | item (s : List Char) : Ends (',' :: s)
  | list (s : List Char) : Ends (']' :: s)
  | object (s : List Char) : Ends ('\x7d' :: s)

/-- A document that a reader takes back which may have so many containers open at once. -/
inductive Readable : Nat → Json → Prop
  | null {depth : Nat} : Readable depth .null
  | bool {depth : Nat} (b : Bool) : Readable depth (.bool b)
  | natural {depth : Nat} (n : UInt64) : Readable depth (.number (.natural n))
  | negative {depth : Nat} {i : Int64} (sign : i.toInt < 0) :
      Readable depth (.number (.negative i))
  | string {depth : Nat} (s : String) : Readable depth (.string s)
  | array {depth : Nat} {items : List Json} (inner : ∀ j ∈ items, Readable depth j) :
      Readable (depth + 1) (.array items)
  | object {depth : Nat} {fields : List (String × Json)} (distinct : (Record.keys fields).Nodup)
      (inner : ∀ field ∈ fields, Readable depth field.2) : Readable (depth + 1) (.object fields)

/-- The reader takes the text of the document and no more, whatever may follow. -/
def ItemReader.TakesBack (item : ItemReader Json) (j : Json) : Prop :=
  ∀ rest, Ends rest → item.read (Writer.text j ++ rest) = .ok j rest

namespace Reader

open Writer

variable {c : Char} {s rest : List Char}

/-! ## Strings -/

theorem stringBody_of_escape (h : escape s = .ok c rest) :
    stringBody ('\\' :: s) = (stringBody rest).map (c :: ·) := by
  rw [stringBody]
  split
  · next heq => rw [h] at heq; cases heq
  · next heq =>
    rw [h] at heq
    cases heq
    rfl

theorem stringBody_of_plain (hquote : c ≠ '"') (hescape : c ≠ '\\') (hcontrol : ¬c.toNat < 0x20) :
    stringBody (c :: s) = (stringBody s).map (c :: ·) := by
  rw [stringBody]
  · exact if_neg hcontrol
  · exact hquote
  · exact hescape

theorem fourHexDigits_eq {a b c d : Char} {w x y z : Nat} (ha : hexDigit? a = some w)
    (hb : hexDigit? b = some x) (hc : hexDigit? c = some y) (hd : hexDigit? d = some z)
    (rest : List Char) :
    fourHexDigits (a :: b :: c :: d :: rest) = .ok (((w * 16 + x) * 16 + y) * 16 + z) rest := by
  have hbytes : ¬Text.byteLength ((a :: b :: c :: d :: rest).take 4) < 4 := by
    have := a.utf8Size_pos
    have := b.utf8Size_pos
    have := c.utf8Size_pos
    have := d.utf8Size_pos
    simp only [List.take_succ_cons, List.take_zero, Text.byteLength_cons, Text.byteLength_nil]
    omega
  simp only [fourHexDigits, if_neg hbytes, ha, hb, hc, hd]

theorem hexDigit?_digitChar : ∀ n < 16, hexDigit? (Nat.digitChar n) = some n := by decide

/-- The escape by code point of a control character. -/
theorem escape_control (h : c.toNat < 0x20) (rest : List Char) :
    escape ('u' :: '0' :: '0' :: Nat.digitChar (c.toNat / 16) :: Nat.digitChar (c.toNat % 16) ::
      rest) = .ok c rest := by
  have hdigits := fourHexDigits_eq (a := '0') (b := '0') (w := 0) (x := 0) rfl rfl
    (hexDigit?_digitChar (c.toNat / 16) (by omega)) (hexDigit?_digitChar (c.toNat % 16) (by omega))
    rest
  rw [show ((0 * 16 + 0) * 16 + c.toNat / 16) * 16 + c.toNat % 16 = c.toNat by omega] at hdigits
  simp only [escape, unicodeEscape, hdigits, Read.andThen_ok]
  rw [if_neg (by omega), if_pos (by omega), Char.ofNat_toNat]

/-- One character is read back from the way it is written in a string. -/
theorem stringBody_escapedChar (c : Char) (s : List Char) :
    stringBody (escapedChar c ++ s) = (stringBody s).map (c :: ·) := by
  unfold escapedChar
  split_ifs with hquote hslash hb hf hn hr ht hcontrol
  · subst hquote
    exact stringBody_of_escape rfl
  · subst hslash
    exact stringBody_of_escape rfl
  · obtain rfl : c = '\x08' := Char.toNat_inj.mp hb
    exact stringBody_of_escape rfl
  · obtain rfl : c = '\x0C' := Char.toNat_inj.mp hf
    exact stringBody_of_escape rfl
  · subst hn
    exact stringBody_of_escape rfl
  · subst hr
    exact stringBody_of_escape rfl
  · subst ht
    exact stringBody_of_escape rfl
  · exact stringBody_of_escape (escape_control hcontrol s)
  · exact stringBody_of_plain hquote hslash hcontrol

/-- A string is read back up to its closing quote. -/
theorem stringBody_append (cs rest : List Char) :
    stringBody (cs.flatMap escapedChar ++ '"' :: rest) = .ok cs rest := by
  induction cs with
  | nil => rw [List.flatMap_nil, List.nil_append, stringBody]
  | cons c cs ih =>
    rw [List.flatMap_cons, List.append_assoc, stringBody_escapedChar, ih, Read.map_ok]

theorem string_append (name : String) (rest : List Char) :
    string (name.toList.flatMap escapedChar ++ '"' :: rest) = .ok name rest := by
  rw [string, stringBody_append, Read.map_ok, String.ofList_toList]

/-! ## Numbers -/

theorem natOf_toDigits (n : Nat) : natOf (Nat.toDigits 10 n) = n := Text.foldl_toDigits n

theorem digits_append (n : Nat) (hrest : Ends rest) :
    digits (Nat.toDigits 10 n ++ rest) = (Nat.toDigits 10 n, rest) := by
  have hdigits : ∀ c ∈ Nat.toDigits 10 n, c.isDigit = true := fun _ => Text.isDigit_of_mem_toDigits
  have hstop : rest.takeWhile Char.isDigit = [] ∧ rest.dropWhile Char.isDigit = rest := by
    cases hrest <;> exact ⟨rfl, rfl⟩
  rw [digits, List.takeWhile_append_of_pos hdigits, List.dropWhile_append_of_pos hdigits, hstop.1,
    hstop.2, List.append_nil]

/-- All digits are taken, a zero in front of none. -/
theorem number_append (negative : Bool) (n : Nat) (hrest : Ends rest) :
    number negative (Nat.toDigits 10 n ++ rest) = fromWhole negative (Nat.toDigits 10 n) rest := by
  have hdigits := digits_append n hrest
  obtain ⟨d, ds, hd, hdigit⟩ := Text.toDigits_eq_cons n
  rcases Nat.eq_zero_or_pos n with rfl | hpos
  · cases hrest <;> rfl
  · have hfirst := Text.head?_toDigits_ne hpos
    rw [hd] at hfirst hdigits ⊢
    rw [List.cons_append] at hdigits ⊢
    rw [number]
    · simp only [hdigit, if_true, hdigits]
    · exact fun h => hfirst (congrArg some h)

theorem fromWhole_natural (n : UInt64) (hrest : Ends rest) :
    fromWhole false (Nat.toDigits 10 n.toNat) rest = .ok (.natural n) rest := by
  have hsize : n.toNat < UInt64.size := n.toNat_lt_size
  cases hrest <;> simp [fromWhole, natOf_toDigits, hsize]

theorem fromWhole_negative {i : Int64} (hi : i.toInt < 0) (hrest : Ends rest) :
    fromWhole true (Nat.toDigits 10 i.toInt.natAbs) rest = .ok (.negative i) rest := by
  have hvalue : -(i.toInt.natAbs : Int) = i.toInt := by omega
  have hmin := Int64.minValue_le_toInt i
  have hrange : i.toInt.natAbs ≠ 0 ∧ Int64.minValue.toInt ≤ -(i.toInt.natAbs : Int) := by omega
  have hinteger : ∀ ds, natOf ds ≠ 0 ∧ Int64.minValue.toInt ≤ -(natOf ds : Int) →
      fromWhole true ds rest = .ok (.negative (Int64.ofInt (-(natOf ds : Int)))) rest := by
    intro ds h
    cases hrest <;> exact if_pos h
  rw [hinteger _ (by rwa [natOf_toDigits]), natOf_toDigits, hvalue, Int64.ofInt_toInt]

/-! ## What comes next -/

theorem isSpace_eq_false (h : isStart c = true) : isSpace c = false := by
  by_contra hspace
  simp only [isSpace, Bool.not_eq_false, Bool.or_eq_true, beq_iff_eq] at hspace
  rcases hspace with ((rfl | rfl) | rfl) | rfl <;> exact absurd h (by decide)

theorem skipSpace_of_isStart (h : isStart c = true) : skipSpace (c :: s) = c :: s :=
  List.dropWhile_cons_of_neg (by rw [isSpace_eq_false h]; exact Bool.false_ne_true)

theorem nextItem_first (j : Json) (rest : List Char) :
    nextItem true (text j ++ rest) = .ok (some (text j ++ rest)) := by
  obtain ⟨c, cs, hc, hstart⟩ := text_eq_cons j
  rw [hc, List.cons_append, nextItem, skipSpace_of_isStart hstart]
  split
  · next heq => cases heq
  · next heq =>
    cases heq
    exact absurd hstart (by decide)
  · next heq => cases heq; rfl
  · rfl

theorem nextItem_comma (j : Json) (rest : List Char) :
    nextItem false (',' :: (text j ++ rest)) = .ok (some (text j ++ rest)) := by
  obtain ⟨c, cs, hc, hstart⟩ := text_eq_cons j
  have hcomma : ∀ s, skipSpace (',' :: s) = ',' :: s := fun _ => rfl
  rw [hc, List.cons_append, nextItem, hcomma]
  simp only [skipSpace_of_isStart hstart, Bool.false_eq_true, if_false]
  split
  · next heq => cases heq
  · next heq =>
    cases heq
    exact absurd hstart (by decide)
  · rfl

/-! ## Containers -/

variable {item : ItemReader Json} {first : Bool} {start : List Char}

theorem items_of_none (h : nextItem first s = .ok none) :
    items item first s = (closeList s).result [] := by
  rw [items]
  split
  · next heq => rw [h] at heq; cases heq
  · rfl
  · next heq => rw [h] at heq; cases heq

theorem items_of_some {j : Json} (h : nextItem first s = .ok (some start))
    (hi : item.read start = .ok j rest) :
    items item first s = (items item false rest).map (j :: ·) := by
  rw [items]
  split
  · next heq => rw [h] at heq; cases heq
  · next heq => rw [h] at heq; cases heq
  · next heq =>
    rw [h] at heq
    cases heq
    split
    · next heq => rw [hi] at heq; cases heq
    · next heq =>
      rw [hi] at heq
      cases heq
      rfl

theorem ends_itemsText (js : List Json) (rest : List Char) :
    Ends (itemsText js ++ ']' :: rest) := by
  cases js with
  | nil => exact .list rest
  | cons j js => exact .item _

/-- The items behind the first one are read back up to the end of the list. -/
theorem items_append (js : List Json) (h : ∀ j ∈ js, item.TakesBack j) (rest : List Char) :
    items item false (itemsText js ++ ']' :: rest) = .ok js rest := by
  induction js with
  | nil => exact items_of_none rfl
  | cons j js ih =>
    obtain ⟨hj, hjs⟩ := List.forall_mem_cons.mp h
    rw [itemsText, List.cons_append, List.cons_append, List.append_assoc]
    rw [items_of_some (nextItem_comma j _) (hj _ (ends_itemsText js rest)), ih hjs, Read.map_ok]

theorem items_text (j : Json) (js : List Json) (h : ∀ i ∈ j :: js, item.TakesBack i)
    (rest : List Char) :
    items item true (text j ++ (itemsText js ++ ']' :: rest)) = .ok (j :: js) rest := by
  obtain ⟨hj, hjs⟩ := List.forall_mem_cons.mp h
  rw [items_of_some (nextItem_first j _) (hj _ (ends_itemsText js rest)), items_append js hjs,
    Read.map_ok]

theorem fields_of_none (h : nextField first s = .ok none) :
    fields item first s = (closeObject s).result [] := by
  rw [fields]
  split
  · next heq => rw [h] at heq; cases heq
  · rfl
  · next heq => rw [h] at heq; cases heq

theorem fields_of_some {f : String × Json} (h : nextField first s = .ok (some start))
    (hf : field item start = .ok f rest) :
    fields item first s = (fields item false rest).map (f :: ·) := by
  rw [fields]
  split
  · next heq => rw [h] at heq; cases heq
  · next heq => rw [h] at heq; cases heq
  · next heq =>
    rw [h] at heq
    cases heq
    split
    · next heq => rw [hf] at heq; cases heq
    · next heq =>
      rw [hf] at heq
      cases heq
      rfl

/-- A name, its colon and its value are read back. -/
theorem field_append {j : Json} (h : item.TakesBack j) (name : String) (hrest : Ends rest) :
    field item (name.toList.flatMap escapedChar ++ '"' :: ':' :: (text j ++ rest)) =
      .ok (name, j) rest := by
  rw [field, string_append, Read.andThen_ok]
  show (Read.ok () (text j ++ rest)).andThen _ = _
  rw [Read.andThen_ok, h _ hrest, Read.map_ok]

theorem ends_fieldsText (fs : List (String × Json)) (rest : List Char) :
    Ends (fieldsText fs ++ '\x7d' :: rest) := by
  cases fs with
  | nil => exact .object rest
  | cons f fs => exact .item _

/-- The fields behind the first one are read back up to the end of the object. -/
theorem fields_append (fs : List (String × Json)) (h : ∀ f ∈ fs, item.TakesBack f.2)
    (rest : List Char) : fields item false (fieldsText fs ++ '\x7d' :: rest) = .ok fs rest := by
  induction fs with
  | nil => exact fields_of_none rfl
  | cons f fs ih =>
    obtain ⟨name, j⟩ := f
    obtain ⟨hj, hfs⟩ := List.forall_mem_cons.mp h
    simp only [fieldsText, stringText, List.cons_append, List.append_assoc, List.nil_append]
    rw [fields_of_some rfl (field_append hj name (ends_fieldsText fs rest)), ih hfs, Read.map_ok]

theorem fields_text (name : String) (j : Json) (fs : List (String × Json))
    (h : ∀ f ∈ (name, j) :: fs, item.TakesBack f.2) (rest : List Char) :
    fields item true
      (stringText name ++ ':' :: (text j ++ (fieldsText fs ++ '\x7d' :: rest))) =
      .ok ((name, j) :: fs) rest := by
  obtain ⟨hj, hfs⟩ := List.forall_mem_cons.mp h
  simp only [stringText, List.cons_append, List.append_assoc, List.nil_append]
  rw [fields_of_some rfl (field_append hj name (ends_fieldsText fs rest)), fields_append fs hfs,
    Read.map_ok]

/-! ## Documents -/

theorem valueOver_of_isDigit {inner : Option (ItemReader Json)} (h : c.isDigit = true) :
    valueOver inner (c :: s) = (number false (c :: s)).map .number := by
  rw [valueOver, skipSpace_of_isStart (isStart_of_isDigit h)]
  split
  case h_1 heq => cases heq
  case h_9 heq =>
    cases heq
    exact if_pos h
  all_goals
    next heq =>
      cases heq
      exact absurd h (by decide)

theorem valueOver_natural {inner : Option (ItemReader Json)} (hrest : Ends rest) (n : UInt64) :
    valueOver inner (Nat.toDigits 10 n.toNat ++ rest) = .ok (.number (.natural n)) rest := by
  have hnumber := number_append false n.toNat hrest
  obtain ⟨d, ds, hd, hdigit⟩ := Text.toDigits_eq_cons n.toNat
  rw [fromWhole_natural n hrest] at hnumber
  rw [hd, List.cons_append] at hnumber ⊢
  rw [valueOver_of_isDigit hdigit, hnumber, Read.map_ok]

theorem valueOver_negative {inner : Option (ItemReader Json)} (hrest : Ends rest) {i : Int64}
    (hi : i.toInt < 0) :
    valueOver inner (intText i.toInt ++ rest) = .ok (.number (.negative i)) rest := by
  have hnumber := number_append true i.toInt.natAbs hrest
  rw [fromWhole_negative hi hrest] at hnumber
  rw [intText, if_pos hi, List.cons_append]
  show (number true (Nat.toDigits 10 i.toInt.natAbs ++ rest)).map Json.number = _
  rw [hnumber, Read.map_ok]

/-- A document without containers needs no room for them. -/
theorem takesBack_of_leaf {j : Json} (depth : Nat)
    (h : ∀ inner rest, Ends rest → valueOver inner (text j ++ rest) = .ok j rest) :
    (values depth).TakesBack j := by
  cases depth with
  | zero => exact h none
  | succ depth => exact h (some (values depth))

/-- A document is taken back by every reader with room for its containers. -/
theorem takesBack_values {depth : Nat} {j : Json} (h : Readable depth j) :
    (values depth).TakesBack j := by
  induction h with
  | null =>
    refine takesBack_of_leaf _ fun inner rest _ => ?_
    rw [text]
    rfl
  | bool b =>
    refine takesBack_of_leaf _ fun inner rest _ => ?_
    rw [text]
    cases b <;> rfl
  | natural n =>
    refine takesBack_of_leaf _ fun inner rest hrest => ?_
    rw [text]
    exact valueOver_natural hrest n
  | negative sign =>
    refine takesBack_of_leaf _ fun inner rest hrest => ?_
    rw [text]
    exact valueOver_negative hrest sign
  | string s =>
    refine takesBack_of_leaf _ fun inner rest _ => ?_
    rw [text, stringText, List.append_assoc, List.singleton_append]
    show (string (s.toList.flatMap escapedChar ++ '"' :: rest)).map Json.string = _
    rw [string_append, Read.map_ok]
  | @array depth js inner ih =>
    intro rest hrest
    cases js with
    | nil =>
      rw [text]
      show (items (values depth) true (']' :: rest)).map Json.array = _
      rw [items_of_none rfl]
      rfl
    | cons j js =>
      simp only [text, List.cons_append, List.append_assoc, List.nil_append]
      show (items (values depth) true (text j ++ (itemsText js ++ ']' :: rest))).map Json.array = _
      rw [items_text j js ih, Read.map_ok]
  | @object depth fs distinct inner ih =>
    intro rest hrest
    cases fs with
    | nil =>
      rw [text]
      show (fields (values depth) true ('\x7d' :: rest)).map _ = _
      rw [fields_of_none rfl]
      rfl
    | cons f fs =>
      obtain ⟨name, j⟩ := f
      simp only [text, List.cons_append, List.append_assoc, List.nil_append]
      show (fields (values depth) true (stringText name ++
        ':' :: (text j ++ (fieldsText fs ++ '\x7d' :: rest)))).map _ = _
      rw [fields_text name j fs ih, Read.map_ok, Record.ofList_of_nodup distinct]

end Reader

/-- A text that holds a written document and nothing else is read as that document. -/
theorem read_render {j : Json} (h : Readable Reader.maxDepth j) : read j.render = .ok j := by
  have hread := Reader.takesBack_values h [] .text
  rw [List.append_nil] at hread
  rw [read, render, String.toList_ofList]
  simp only [Reader.value, hread]
  rfl

end EventQuery.Json
