import EventQuery.Proofs.Json.Writing
import EventQuery.Proofs.Text.Utf8
import EventQuery.Sampling.Sampler

/-!
# What is hashed

The bytes that a bucket is found by are read back in one way only. The salt and each value end at
the first 0xff, which is no byte of a text, and a key without a value is a zero, which no text of a
value starts with, since such a text starts like a document (`Json.Writer.text_eq_cons`). So nothing
can pass from the salt to a value or from one value to the next, and a key that the event lacks is
told apart from every value (`StickyKey.bytes_injective`).
-/

namespace EventQuery.StickyKey

open Json.Writer (isStart)

variable {rest rest' : List UInt8}

/-- What there is for a key is the text of a value, if it is anything. -/
def OfValue (value : Option String) : Prop := ∀ text ∈ value, ∃ v : Value, v.render = text

/-- The texts of a sticky key are those of values. -/
def OfValues (k : StickyKey) : Prop := ∀ value ∈ k.values, OfValue value

theorem ofValues_ofEvent (c : SampleClause) (event : Value) : (ofEvent c event).OfValues := by
  intro value hvalue text htext
  obtain ⟨key, -, rfl⟩ := List.mem_map.mp hvalue
  obtain ⟨v, -, hv⟩ := Option.map_eq_some_iff.mp htext
  exact ⟨v, hv⟩

/-- The first end is the end of what was written in front of it. -/
theorem append_end_inj : ∀ {as bs : List UInt8}, 0xff ∉ as → 0xff ∉ bs →
    as ++ 0xff :: rest = bs ++ 0xff :: rest' → as = bs ∧ rest = rest'
  | [], [], _, _, h => ⟨rfl, (List.cons.inj h).2⟩
  | [], b :: bs, _, hb, h => absurd ((List.cons.inj h).1 ▸ List.mem_cons_self) hb
  | a :: as, [], ha, _, h => absurd ((List.cons.inj h).1 ▸ List.mem_cons_self) ha
  | a :: as, b :: bs, ha, hb, h => by
    obtain ⟨rfl, hmore⟩ := List.cons.inj h
    obtain ⟨rfl, hrest⟩ := append_end_inj (fun hm => ha (List.mem_cons_of_mem _ hm))
      (fun hm => hb (List.mem_cons_of_mem _ hm)) hmore
    exact ⟨rfl, hrest⟩

/-- A text and what follows its end are known by the bytes. -/
theorem textBytes_append_inj {s t : String} (h : textBytes s ++ rest = textBytes t ++ rest') :
    s = t ∧ rest = rest' := by
  rw [textBytes, textBytes, List.append_assoc, List.append_assoc] at h
  obtain ⟨hbytes, hrest⟩ :=
    append_end_inj (Text.ff_notMem_toUTF8 s) (Text.ff_notMem_toUTF8 t) h
  exact ⟨Text.toUTF8_inj.mp hbytes, hrest⟩

theorem ne_zero_of_isStart {c : Char} (h : isStart c = true) :
    c.toNat < 128 ∧ UInt8.ofNat c.toNat ≠ 0 := by
  simp only [isStart, Bool.or_eq_true, beq_iff_eq] at h
  obtain ((((((rfl | rfl) | rfl) | rfl) | rfl) | rfl) | rfl) | hdigit := h
  case inr =>
    have hle : 48 ≤ c.toNat ∧ c.toNat ≤ 57 := Char.isDigit_iff_toNat.mp hdigit
    refine ⟨by omega, fun hzero => ?_⟩
    have hcode : (UInt8.ofNat c.toNat).toNat = 0 := congrArg UInt8.toNat hzero
    rw [UInt8.toNat_ofNat_of_lt' (Nat.lt_of_le_of_lt hle.2 (by decide))] at hcode
    omega
  all_goals decide

/-- The text of a value does not start with the byte of a key without a value. -/
theorem textBytes_render (v : Value) : ∃ b bs, textBytes v.render = b :: bs ∧ b ≠ 0 := by
  obtain ⟨c, cs, hc, hstart⟩ := Json.Writer.text_eq_cons v.toJson
  obtain ⟨hascii, hne⟩ := ne_zero_of_isStart hstart
  have hbytes : textBytes v.render =
      UInt8.ofNat c.toNat :: (cs.flatMap String.utf8EncodeChar ++ [0xff]) := by
    rw [textBytes, Value.render, Json.render, hc, Text.toUTF8_eq_cons hascii, List.cons_append]
  exact ⟨_, _, hbytes, hne⟩

/-- What there is for a key, and what follows it, are known by the bytes. -/
theorem valueBytes_append_inj {value value' : Option String} (hv : OfValue value)
    (hv' : OfValue value') (h : valueBytes value ++ rest = valueBytes value' ++ rest') :
    value = value' ∧ rest = rest' := by
  cases value with
  | none =>
    cases value' with
    | none => exact ⟨rfl, (List.cons.inj h).2⟩
    | some text =>
      obtain ⟨v, rfl⟩ := hv' text rfl
      obtain ⟨b, bs, hb, hne⟩ := textBytes_render v
      rw [valueBytes, valueBytes, hb] at h
      exact absurd (List.cons.inj h).1.symm hne
  | some text =>
    cases value' with
    | none =>
      obtain ⟨v, rfl⟩ := hv text rfl
      obtain ⟨b, bs, hb, hne⟩ := textBytes_render v
      rw [valueBytes, valueBytes, hb] at h
      exact absurd (List.cons.inj h).1 hne
    | some text' =>
      obtain ⟨rfl, hrest⟩ := textBytes_append_inj h
      exact ⟨rfl, hrest⟩

theorem valueBytes_ne_nil (value : Option String) : valueBytes value ≠ [] := by
  cases value with
  | none => exact List.cons_ne_nil _ _
  | some text => exact List.append_ne_nil_of_right_ne_nil _ (List.cons_ne_nil _ _)

/-- The values are known by their bytes, one key at a time. -/
theorem flatMap_valueBytes_inj : ∀ {values values' : List (Option String)},
    (∀ value ∈ values, OfValue value) → (∀ value ∈ values', OfValue value) →
    values.flatMap valueBytes = values'.flatMap valueBytes → values = values'
  | [], [], _, _, _ => rfl
  | [], value :: _, _, _, h =>
    absurd (List.append_eq_nil_iff.mp h.symm).1 (valueBytes_ne_nil value)
  | value :: _, [], _, _, h => absurd (List.append_eq_nil_iff.mp h).1 (valueBytes_ne_nil value)
  | value :: values, value' :: values', hv, hv', h => by
    obtain ⟨hfirst, hmore⟩ := List.forall_mem_cons.mp hv
    obtain ⟨hfirst', hmore'⟩ := List.forall_mem_cons.mp hv'
    rw [List.flatMap_cons, List.flatMap_cons] at h
    obtain ⟨rfl, hrest⟩ := valueBytes_append_inj hfirst hfirst' h
    rw [flatMap_valueBytes_inj hmore hmore' hrest]

/-- The bytes that are hashed are an encoding: where the texts are those of values, two salts, of
    which a missing one counts as empty, and two lists of texts with gaps give the same bytes only
    if they are the same, gap for gap and text for text. -/
theorem bytes_injective {salt salt' : Option String} {values values' : List (Option String)}
    (hv : OfValues ⟨salt.getD "", values⟩) (hv' : OfValues ⟨salt'.getD "", values'⟩) :
    bytes ⟨salt.getD "", values⟩ = bytes ⟨salt'.getD "", values'⟩ ↔
      salt.getD "" = salt'.getD "" ∧ values = values' := by
  constructor
  · intro h
    obtain ⟨hsalt, hvalues⟩ := textBytes_append_inj h
    exact ⟨hsalt, flatMap_valueBytes_inj hv hv' hvalues⟩
  · rintro ⟨hsalt, rfl⟩
    rw [hsalt]

/-- A clause whose salt ends in the byte of a missing key. -/
def zeroSalted : SampleClause := ⟨.sticky, 1, ["user", "unit"], some "s\x00", none⟩

/-- The clause with the salt cut short by that byte. -/
def cutSalted : SampleClause := ⟨.sticky, 1, ["user", "unit"], some "s", none⟩

/-- A zero at the end of a salt is not taken for a missing key, nor is a null: different bytes are
    hashed of two events that lack one of the keys each and have a null under the other. -/
theorem bytes_ne_of_gaps :
    (ofEvent zeroSalted (.object [("unit", .null)])).OfValues ∧
    (ofEvent cutSalted (.object [("user", .null)])).OfValues ∧
    (ofEvent zeroSalted (.object [("unit", .null)])).bytes ≠
      (ofEvent cutSalted (.object [("user", .null)])).bytes := by
  have hfirst := ofValues_ofEvent zeroSalted (.object [("unit", .null)])
  have hsecond := ofValues_ofEvent cutSalted (.object [("user", .null)])
  refine ⟨hfirst, hsecond, fun h => ?_⟩
  exact absurd ((bytes_injective hfirst hsecond).mp h).1 (by decide)

end EventQuery.StickyKey
