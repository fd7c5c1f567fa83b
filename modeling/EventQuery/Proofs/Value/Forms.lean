import EventQuery.Proofs.Json.Endings
import EventQuery.Proofs.Value.Comparison
import EventQuery.Value.Document

/-!
# Equal values and their texts

Equal values need not be written alike: an integer equals a double, one zero the other, and an
object the same one with its fields in another order. Nothing else tells equal values apart. Two of
them are in the *same form* (`Value.SameForm`) if their numbers are, place by place, both integers
or both doubles of one sign, and their objects have the fields in one order. Equal values in the
same form are one value (`Agrees.eq_of_sameForm`), and in different forms their texts are different
(`Agrees.formInText`), so that the form is just what a text adds to a value that is known up to
equality (`render_eq_iff`).

The texts are taken apart from the left, each part up to its end. Numbers that are equal and written
alike are in the same form, because a double has a point or an exponent in its text and an integer
has neither, and because the text of a zero has its sign; and where the names of two objects come in
the same order so do the values that agree.
-/

namespace EventQuery

namespace Binary64

/-- A double is known by its sign and its magnitude. -/
theorem eq_of_magnitude {x y : Binary64} (hsign : x.isNegative = y.isNegative)
    (h : x.magnitude = y.magnitude) : x = y := by
  have hx := x.bits.toNat_lt_size
  have hy := y.bits.toNat_lt_size
  have hsize : UInt64.size = 2 * signBit := rfl
  have hpos : 0 < signBit := by decide
  rw [isNegative, isNegative, decide_eq_decide] at hsign
  have hbits : x.bits.toNat = y.bits.toNat := by
    rw [magnitude, magnitude] at h
    rcases Nat.lt_or_ge x.bits.toNat signBit with hlow | hhigh
    · have hlow' : y.bits.toNat < signBit := by omega
      rwa [Nat.mod_eq_of_lt hlow, Nat.mod_eq_of_lt hlow'] at h
    · have hhigh' := hsign.mp hhigh
      rw [Nat.mod_eq_sub_mod hhigh, Nat.mod_eq_sub_mod hhigh', Nat.mod_eq_of_lt (by omega),
        Nat.mod_eq_of_lt (by omega)] at h
      omega
  exact congrArg mk (UInt64.toNat_inj.mp hbits)

theorem place_eq_of_scaled_eq {x y : Binary64} (h : x.scaled = y.scaled) : x.place = y.place := by
  have hlt := scaled_lt_scaled_iff x y
  have hgt := scaled_lt_scaled_iff y x
  omega

/-- Doubles of one value have one magnitude, and where their signs differ they are the zeros. -/
theorem magnitude_of_scaled_eq {x y : Binary64} (h : x.scaled = y.scaled) :
    x.magnitude = y.magnitude ∧ (x.isNegative ≠ y.isNegative → x.magnitude = 0) := by
  have hplace := place_eq_of_scaled_eq h
  rw [place, place] at hplace
  refine ⟨?_, fun hsign => ?_⟩
  · split at hplace <;> split at hplace <;> omega
  · split at hplace <;> split at hplace <;> first | omega | simp_all

end Binary64

/-! ## Numbers -/

namespace Number

/-- Both numbers are integers, or both are doubles of one sign. -/
inductive SameForm : Number → Number → Prop
  | int (i j : Int64) : SameForm (int i) (int j)
  | float {x y : Binary64} (sign : x.isNegative = y.isNegative) : SameForm (float x) (float y)

variable {a b : Number} {n : Int}

theorem scaled_of_units {x : Binary64} (h : units? (float x) = some n) : x.scaled = n := by
  rw [units?] at h
  split at h
  · cases h
  · exact Option.some.inj h

/-- Equal numbers in the same form are one number. -/
theorem eq_of_sameForm (ha : a.units? = some n) (hb : b.units? = some n) (h : a.SameForm b) :
    a = b := by
  cases h with
  | int i j =>
    have hunit : (Binary64.unitsInOne : Int) ≠ 0 := by decide +kernel
    have hvalue := (Option.some.inj ha).trans (Option.some.inj hb).symm
    exact congrArg int (Int64.toInt_inj.mp (Int.eq_of_mul_eq_mul_right hunit hvalue))
  | @float x y sign =>
    have hvalue := (scaled_of_units ha).trans (scaled_of_units hb).symm
    exact congrArg float
      (Binary64.eq_of_magnitude sign (Binary64.magnitude_of_scaled_eq hvalue).1)

/-! ## The texts of numbers -/

open Json.Writer

/-- The text of a number in a document. -/
def documentText (a : Number) : List Char := text a.toJson

theorem digit_or_sign_of_mem_documentText {i : Int64} {c : Char}
    (h : c ∈ documentText (int i)) : c = '-' ∨ c.isDigit = true := by
  rw [documentText, toJson, text] at h
  split at h
  · exact .inr (Text.isDigit_of_mem_toDigits h)
  · exact digit_or_sign_of_mem_intText h

theorem documentText_float (x : Binary64) :
    documentText (float x) = if x.isFinite then floatText x else nullText := by
  rw [documentText, toJson]
  split
  · next h => rw [text, numeralText, if_pos h]
  · rw [text]

/-- The text of a double is never one of digits and a sign alone. -/
theorem exists_mem_documentText (x : Binary64) :
    ∃ c ∈ documentText (float x), c ≠ '-' ∧ c.isDigit = false := by
  rw [documentText_float]
  split
  · exact exists_mem_floatText x
  · exact ⟨'n', by decide⟩

theorem isEnd_of_mem_documentText (a : Number) : ∀ c ∈ a.documentText, Json.isEnd c = false := by
  cases a with
  | int i =>
    intro c hc
    rcases digit_or_sign_of_mem_documentText hc with rfl | hdigit
    · rfl
    · exact Json.isEnd_of_isDigit hdigit
  | float x =>
    rw [documentText_float]
    split
    · exact isEnd_of_mem_floatText x
    · simp only [nullText, List.forall_mem_cons]
      exact ⟨rfl, rfl, rfl, rfl, nofun⟩

/-- An integer and a double are never written alike. -/
theorem documentText_ne (i : Int64) (x : Binary64) :
    documentText (int i) ≠ documentText (float x) := by
  intro h
  obtain ⟨c, hc, hsign, hdigit⟩ := exists_mem_documentText x
  rw [← h] at hc
  rcases digit_or_sign_of_mem_documentText hc with rfl | hdigit'
  · exact hsign rfl
  · rw [hdigit] at hdigit'
    cases hdigit'

/-- The text of a number tells the form that it is in from those of its equals. -/
theorem sameForm_of_text (ha : a.units? = some n) (hb : b.units? = some n)
    (h : a.documentText = b.documentText) : a.SameForm b := by
  cases a with
  | int i =>
    cases b with
    | int j => exact .int i j
    | float y => exact absurd h (documentText_ne i y)
  | float x =>
    cases b with
    | int j => exact absurd h.symm (documentText_ne j x)
    | float y =>
      have hvalue := (scaled_of_units ha).trans (scaled_of_units hb).symm
      obtain ⟨hmagnitude, hzero⟩ := Binary64.magnitude_of_scaled_eq hvalue
      -- Doubles of one value and different signs are the zeros, whose texts show their signs.
      by_contra hform
      have hsign : x.isNegative ≠ y.isNegative := fun hsign => hform (.float hsign)
      have hx := hzero hsign
      have hy := hmagnitude.symm.trans hx
      have hfinite : ∀ {z : Binary64}, z.magnitude = 0 → z.isFinite = true := fun hz =>
        decide_eq_true (by rw [hz]; decide)
      rw [documentText_float, documentText_float, if_pos (hfinite hx), if_pos (hfinite hy)] at h
      exact floatText_ne_of_isNegative hx hy hsign h

end Number

/-! ## Values -/

namespace Value

open Json (Ends)
open Json.Writer

/-- Nothing that equality overlooks tells the values apart: numbers are in the same form, and fields
    in the same order. -/
inductive SameForm : Value → Value → Prop
  | null : SameForm null null
  | bool (a b : Bool) : SameForm (bool a) (bool b)
  | number {a b : Number} (form : a.SameForm b) : SameForm (number a) (number b)
  | string (s t : String) : SameForm (string s) (string t)
  | list {as bs : List Value}
      (items : ∀ (n : Nat) v w, as[n]? = some v → bs[n]? = some w → SameForm v w) :
      SameForm (list as) (list bs)
  | object {as bs : List (String × Value)} (names : Record.keys as = Record.keys bs)
      (values : ∀ name v w, Record.get? as name = some v → Record.get? bs name = some w →
        SameForm v w) : SameForm (object as) (object bs)

/-- Every value is in the form that it is in. -/
theorem SameForm.refl {v : Value} (hv : v.Storable) : v.SameForm v := by
  induction hv with
  | null => exact .null
  | bool b => exact .bool b b
  | number n =>
    cases n with
    | int i => exact .number (.int i i)
    | float x => exact .number (.float rfl)
  | string s => exact .string s s
  | list size inner ih =>
    refine .list fun n v w hv hw => ?_
    rw [hv] at hw
    cases hw
    exact ih v (List.mem_of_getElem? hv)
  | object distinct inner ih =>
    refine .object rfl fun name v w hv hw => ?_
    rw [hv] at hw
    cases hw
    exact ih _ (Record.mem_of_get? hv)

/-- The text of the first value, whatever may follow it, is that of the second one only if both are
    in the same form. -/
def FormInText (v w : Value) : Prop := ∀ rest rest', Ends rest → Ends rest' →
  text v.toJson ++ rest = text w.toJson ++ rest' → v.SameForm w ∧ rest = rest'

/-- Item by item, where the lists are equally long. -/
theorem formInText_items : ∀ {as bs : List Value} {rest rest' : List Char},
    as.length = bs.length →
    (∀ (n : Nat) v w, as[n]? = some v → bs[n]? = some w → FormInText v w) →
    itemsText (toItems as) ++ ']' :: rest = itemsText (toItems bs) ++ ']' :: rest' →
    (∀ (n : Nat) v w, as[n]? = some v → bs[n]? = some w → v.SameForm w) ∧ rest = rest'
  | [], [], _, _, _, _, h => ⟨nofun, (List.cons.inj h).2⟩
  | v :: as, w :: bs, rest, rest', hsize, hitems, h => by
    simp only [toItems, itemsText, List.cons_append, List.append_assoc] at h
    obtain ⟨hfirst, hmore⟩ := hitems 0 v w rfl rfl _ _ (Json.Reader.ends_itemsText _ rest)
      (Json.Reader.ends_itemsText _ rest') (List.cons.inj h).2
    obtain ⟨hforms, hrest⟩ := formInText_items (Nat.succ.inj hsize)
      (fun n x y hx hy => hitems (n + 1) x y hx hy) hmore
    refine ⟨fun n x y hx hy => ?_, hrest⟩
    cases n with
    | zero =>
      cases hx
      cases hy
      exact hfirst
    | succ n => exact hforms n x y hx hy

/-- Field by field: the text of an object tells the order of its names. -/
theorem formInText_fields : ∀ {as bs : List (String × Value)} {rest rest' : List Char},
    (∀ f ∈ as, ∀ g ∈ bs, f.1 = g.1 → FormInText f.2 g.2) →
    fieldsText (toFields as) ++ '\x7d' :: rest = fieldsText (toFields bs) ++ '\x7d' :: rest' →
    Record.keys as = Record.keys bs ∧
      (∀ name v w, Record.get? as name = some v → Record.get? bs name = some w → v.SameForm w) ∧
      rest = rest'
  | [], [], _, _, _, h => ⟨rfl, nofun, (List.cons.inj h).2⟩
  | [], (_, _) :: _, _, _, _, h => absurd (List.cons.inj h).1 (by decide)
  | (_, _) :: _, [], _, _, _, h => absurd (List.cons.inj h).1 (by decide)
  | (name, v) :: as, (name', w) :: bs, rest, rest', hfields, h => by
    simp only [toFields, fieldsText, List.cons_append, List.append_assoc] at h
    -- The texts begin with one name, and under it both objects have values that are compared.
    obtain ⟨rfl, hvalue⟩ := stringText_append_inj (List.cons.inj h).2
    obtain ⟨hfirst, hmore⟩ := hfields _ List.mem_cons_self _ List.mem_cons_self rfl _ _
      (Json.Reader.ends_fieldsText _ rest) (Json.Reader.ends_fieldsText _ rest')
      (List.cons.inj hvalue).2
    obtain ⟨hnames, hforms, hrest⟩ := formInText_fields (fun f hf g hg =>
      hfields f (List.mem_cons_of_mem _ hf) g (List.mem_cons_of_mem _ hg)) hmore
    refine ⟨congrArg (name :: ·) hnames, fun next x y hx hy => ?_, hrest⟩
    rw [Record.get?_cons] at hx hy
    split at hx
    · next hname =>
      rw [if_pos hname] at hy
      cases hx
      cases hy
      exact hfirst
    · next hname =>
      rw [if_neg hname] at hy
      exact hforms next x y hx hy

namespace Agrees

variable {v w : Value}

/-- Equal values in the same form are one value. -/
theorem eq_of_sameForm (h : v.Agrees w) (hv : v.Storable) (hf : v.SameForm w) : v = w := by
  induction h with
  | null | bool _ | string _ => rfl
  | number left right =>
    cases hf with
    | number form => exact congrArg Value.number (Number.eq_of_sameForm left right form)
  | @list as bs size items ih =>
    cases hv with
    | list _ inner =>
      cases hf with
      | list forms =>
        refine congrArg Value.list (List.ext_getElem size fun n ha hb => ?_)
        have hx := List.getElem?_eq_getElem ha
        have hy := List.getElem?_eq_getElem hb
        exact ih n _ _ hx hy (inner _ (List.getElem_mem ha)) (forms n _ _ hx hy)
  | @object as bs names values ih =>
    cases hv with
    | object distinct inner =>
      cases hf with
      | object order forms =>
        refine congrArg Value.object (Record.ext_get? order distinct fun name => ?_)
        cases hx : Record.get? as name with
        | none =>
          rw [Record.get?_eq_none, order] at hx
          exact (Record.get?_eq_none.mpr hx).symm
        | some x =>
          obtain ⟨y, hy⟩ := Record.exists_get?_of_perm names hx
          rw [hy, ih name x y hx hy (inner _ (Record.mem_of_get? hx)) (forms name x y hx hy)]

/-- A text tells the form of a value from those of its equals. -/
theorem formInText (h : v.Agrees w) (hv : v.Storable) (hw : w.Storable) : FormInText v w := by
  induction h with
  | null => exact fun rest rest' _ _ h => ⟨.null, List.append_cancel_left h⟩
  | bool b => exact fun rest rest' _ _ h => ⟨.bool b b, List.append_cancel_left h⟩
  | string s => exact fun rest rest' _ _ h => ⟨.string s s, List.append_cancel_left h⟩
  | @number a b n left right =>
    intro rest rest' hrest hrest' h
    obtain ⟨htext, hmore⟩ := Json.append_inj_of_ends a.isEnd_of_mem_documentText
      b.isEnd_of_mem_documentText hrest hrest' h
    exact ⟨.number (Number.sameForm_of_text left right htext), hmore⟩
  | @list as bs size items ih =>
    intro rest rest' _ _ h
    cases hv with
    | list _ inner =>
      cases hw with
      | list _ inner' =>
        obtain ⟨hforms, hmore⟩ := formInText_items size (fun n x y hx hy =>
          ih n x y hx hy (inner x (List.mem_of_getElem? hx)) (inner' y (List.mem_of_getElem? hy)))
          (itemsText_of_text h)
        exact ⟨.list hforms, hmore⟩
  | @object as bs names values ih =>
    intro rest rest' _ _ h
    cases hv with
    | object distinct inner =>
      cases hw with
      | object distinct' inner' =>
        -- Agreement knows fields by name only, and where they stand is read off the texts.
        have hknown : ∀ f ∈ as, ∀ g ∈ bs, f.1 = g.1 → FormInText f.2 g.2 := by
          rintro ⟨name, x⟩ hf ⟨name', y⟩ hg rfl
          exact ih name x y ((Record.get?_eq_some_iff distinct).mpr hf)
            ((Record.get?_eq_some_iff distinct').mpr hg) (inner _ hf) (inner' _ hg)
        obtain ⟨hnames, hforms, hmore⟩ := formInText_fields hknown (fieldsText_of_text h)
        exact ⟨.object hnames hforms, hmore⟩

end Agrees

/-- Equal values have one text just if they are in the same form. -/
theorem render_eq_iff {v w : Value} (hv : v.Storable) (hw : w.Storable) (h : v.equal w = true) :
    v.render = w.render ↔ v.SameForm w := by
  have hagrees := (equal_iff hv w).mp h
  constructor
  · intro htext
    have hchars := congrArg String.toList htext
    rw [render, render, Json.render, Json.render, String.toList_ofList, String.toList_ofList]
      at hchars
    exact (hagrees.formInText hv hw [] [] .text .text (congrArg (· ++ []) hchars)).1
  · intro hform
    rw [hagrees.eq_of_sameForm hv hform]

end Value
end EventQuery
