import EventQuery.Proofs.Number.Order
import EventQuery.Query.Evaluation
import Mathlib.Data.List.Perm.Subperm

/-!
# Comparing values

Two values agree if they are of one kind and stand for the same (`Value.Agrees`): numbers for one
number whatever their form, lists for the same items in the same order, objects for the same fields
in any order. The computed equality is this relation (`Value.equal_iff`), which is an equivalence
but for NaN.

Only numbers, strings and truth values have an order, each among themselves (`Value.Ordered`), and
it is a total one. What agrees with a value takes its place in every comparison, since the order of
numbers is that of what they stand for. The main statement puts the operators together
(`Comparison.coherent`).
-/

namespace EventQuery
namespace Value

/-- Both values stand for the same. -/
inductive Agrees : Value → Value → Prop
  | null : Agrees null null
  | bool (b : Bool) : Agrees (bool b) (bool b)
  | number {a b : Number} {n : Int} (left : a.units? = some n) (right : b.units? = some n) :
      Agrees (number a) (number b)
  | string (s : String) : Agrees (string s) (string s)
  | list {as bs : List Value} (size : as.length = bs.length)
      (items : ∀ (n : Nat) v w, as[n]? = some v → bs[n]? = some w → Agrees v w) :
      Agrees (list as) (list bs)
  | object {as bs : List (String × Value)} (names : (Record.keys as).Perm (Record.keys bs))
      (values : ∀ name v w, Record.get? as name = some v → Record.get? bs name = some w →
        Agrees v w) : Agrees (object as) (object bs)

/-- No number in the value is NaN. -/
inductive NaNFree : Value → Prop
  | null : NaNFree null
  | bool (b : Bool) : NaNFree (bool b)
  | number {n : Number} (numeric : n.isNaN = false) : NaNFree (number n)
  | string (s : String) : NaNFree (string s)
  | list {items : List Value} (inner : ∀ v ∈ items, NaNFree v) : NaNFree (list items)
  | object {fields : List (String × Value)} (inner : ∀ field ∈ fields, NaNFree field.2) :
      NaNFree (object fields)

/-- Two values that have an order. -/
inductive Ordered : Value → Value → Prop
  | numbers {a b : Number} (left : a.isNaN = false) (right : b.isNaN = false) :
      Ordered (number a) (number b)
  | strings (a b : String) : Ordered (string a) (string b)
  | bools (a b : Bool) : Ordered (bool a) (bool b)

/-! ## Equality -/

theorem equalItems_iff : ∀ {as bs : List Value}, equalItems as bs = true ↔
    as.length = bs.length ∧ ∀ (n : Nat) v w, as[n]? = some v → bs[n]? = some w → v.equal w = true
  | [], [] => by simp [equalItems]
  | [], _ :: _ => by simp [equalItems]
  | _ :: _, [] => by simp [equalItems]
  | a :: as, b :: bs => by
    rw [equalItems, Bool.and_eq_true, equalItems_iff, List.length_cons, List.length_cons,
      Nat.add_right_cancel_iff]
    constructor
    · rintro ⟨hfirst, hsize, hrest⟩
      refine ⟨hsize, ?_⟩
      intro n v w hv hw
      cases n with
      | zero =>
        cases hv
        cases hw
        exact hfirst
      | succ n => exact hrest n v w hv hw
    · rintro ⟨hsize, h⟩
      exact ⟨h 0 a b rfl rfl, hsize, fun n v w hv hw => h (n + 1) v w hv hw⟩

theorem includedFields_iff {bs : List (String × Value)} : ∀ {as : List (String × Value)},
    includedFields as bs = true ↔
      ∀ field ∈ as, ∃ w, Record.get? bs field.1 = some w ∧ field.2.equal w = true
  | [] => by simp [includedFields]
  | (name, a) :: rest => by
    rw [includedFields, Bool.and_eq_true, includedFields_iff, List.forall_mem_cons]
    refine and_congr_left fun _ => ?_
    cases Record.get? bs name <;> simp

/-- Objects are equal if they have the same names, and equal values under each. -/
theorem equal_object_iff {as bs : List (String × Value)} (hd : (Record.keys as).Nodup) :
    (object as).equal (object bs) = true ↔ (Record.keys as).Perm (Record.keys bs) ∧
      ∀ name v w, Record.get? as name = some v → Record.get? bs name = some w →
        v.equal w = true := by
  rw [equal, Bool.and_eq_true, beq_iff_eq, includedFields_iff]
  constructor
  · rintro ⟨hsize, hincluded⟩
    have hsub : Record.keys as ⊆ Record.keys bs := by
      intro name hname
      obtain ⟨field, hfield, rfl⟩ := List.mem_map.mp hname
      obtain ⟨w, hw, -⟩ := hincluded field hfield
      exact Record.mem_keys_of_mem (Record.mem_of_get? hw)
    refine ⟨(hd.subperm hsub).perm_of_length_le ?_, ?_⟩
    · rw [Record.keys, Record.keys, List.length_map, List.length_map]
      exact hsize.ge
    · intro name v w hv hw
      obtain ⟨w', hw', hequal⟩ := hincluded (name, v) (Record.mem_of_get? hv)
      rw [hw] at hw'
      cases hw'
      exact hequal
  · rintro ⟨hnames, hvalues⟩
    refine ⟨by simpa [Record.keys] using hnames.length_eq, ?_⟩
    rintro ⟨name, v⟩ hfield
    have hv := (Record.get?_eq_some_iff hd).mpr hfield
    obtain ⟨w, hw⟩ := Record.exists_get?_of_perm hnames hv
    exact ⟨w, hw, hvalues name v w hv hw⟩

theorem equal_number_iff {a b : Number} :
    (number a).equal (number b) = true ↔ ∃ n, a.units? = some n ∧ b.units? = some n := by
  rw [equal, Number.equal, beq_iff_eq, Number.compare?_eq_some_iff]
  simp only [Int.compare_eq_eq]
  constructor
  · rintro ⟨n, m, ha, hb, rfl⟩
    exact ⟨n, ha, hb⟩
  · rintro ⟨n, ha, hb⟩
    exact ⟨n, n, ha, hb, rfl⟩

/-- Equality is agreement. -/
theorem equal_iff {v : Value} (hv : v.Storable) (w : Value) : v.equal w = true ↔ v.Agrees w := by
  induction hv generalizing w with
  | null =>
    cases w with
    | null => exact iff_of_true rfl .null
    | bool _ | number _ | string _ | list _ | object _ => exact iff_of_false nofun nofun
  | bool a =>
    cases w with
    | bool b =>
      rw [equal, beq_iff_eq]
      exact ⟨fun h => h ▸ .bool a, fun h => by cases h; rfl⟩
    | null | number _ | string _ | list _ | object _ => exact iff_of_false nofun nofun
  | number a =>
    cases w with
    | number b =>
      rw [equal_number_iff]
      constructor
      · rintro ⟨n, ha, hb⟩
        exact .number ha hb
      · intro h
        cases h with
        | number ha hb => exact ⟨_, ha, hb⟩
    | null | bool _ | string _ | list _ | object _ => exact iff_of_false nofun nofun
  | string a =>
    cases w with
    | string b =>
      rw [equal, beq_iff_eq]
      exact ⟨fun h => h ▸ .string a, fun h => by cases h; rfl⟩
    | null | bool _ | number _ | list _ | object _ => exact iff_of_false nofun nofun
  | @list as size inner ih =>
    cases w with
    | list bs =>
      rw [equal, equalItems_iff]
      constructor
      · rintro ⟨hsize, hitems⟩
        exact .list hsize fun n v w hv hw =>
          (ih v (List.mem_of_getElem? hv) w).mp (hitems n v w hv hw)
      · intro h
        cases h with
        | list hsize hitems =>
          exact ⟨hsize, fun n v w hv hw =>
            (ih v (List.mem_of_getElem? hv) w).mpr (hitems n v w hv hw)⟩
    | null | bool _ | number _ | string _ | object _ => exact iff_of_false nofun nofun
  | @object as distinct inner ih =>
    cases w with
    | object bs =>
      rw [equal_object_iff distinct]
      constructor
      · rintro ⟨hnames, hvalues⟩
        exact .object hnames fun name v w hv hw =>
          (ih (name, v) (Record.mem_of_get? hv) w).mp (hvalues name v w hv hw)
      · intro h
        cases h with
        | object hnames hvalues =>
          exact ⟨hnames, fun name v w hv hw =>
            (ih (name, v) (Record.mem_of_get? hv) w).mpr (hvalues name v w hv hw)⟩
    | null | bool _ | number _ | string _ | list _ => exact iff_of_false nofun nofun

namespace Agrees

theorem refl {v : Value} (hv : v.Storable) (hn : v.NaNFree) : Agrees v v := by
  induction hv with
  | null => exact .null
  | bool b => exact .bool b
  | number n =>
    cases hn with
    | number numeric =>
      obtain ⟨u, hu⟩ := Option.isSome_iff_exists.mp ((n.isSome_units?).trans (by rw [numeric]; rfl))
      exact .number hu hu
  | string s => exact .string s
  | list size inner ih =>
    cases hn with
    | list numeric =>
      refine .list rfl fun n v w hv hw => ?_
      rw [hv] at hw
      cases hw
      have hmem := List.mem_of_getElem? hv
      exact ih v hmem (numeric v hmem)
  | object distinct inner ih =>
    cases hn with
    | object numeric =>
      refine .object (.refl _) fun name v w hv hw => ?_
      rw [hv] at hw
      cases hw
      have hmem := Record.mem_of_get? hv
      exact ih (name, v) hmem (numeric (name, v) hmem)

theorem symm {v w : Value} (h : Agrees v w) : Agrees w v := by
  induction h with
  | null => exact .null
  | bool b => exact .bool b
  | number left right => exact .number right left
  | string s => exact .string s
  | list size items ih => exact .list size.symm fun n v w hv hw => ih n w v hw hv
  | object names values ih =>
    exact .object names.symm fun name v w hv hw => ih name w v hw hv

theorem trans {u v w : Value} (h : Agrees u v) (h' : Agrees v w) : Agrees u w := by
  induction h generalizing w with
  | null | bool b | string s => exact h'
  | number left right =>
    cases h' with
    | number left' right' =>
      rw [right] at left'
      cases left'
      exact .number left right'
  | @list as bs size items ih =>
    cases h' with
    | list size' items' =>
      refine .list (size.trans size') fun n x z hx hz => ?_
      -- The list in the middle is as long, so it has an item there.
      obtain ⟨hlt, -⟩ := List.getElem?_eq_some_iff.mp hx
      have hy : bs[n]? = some bs[n] := List.getElem?_eq_getElem (size ▸ hlt)
      exact ih n x _ hx hy (items' n _ z hy hz)
  | object names values ih =>
    cases h' with
    | object names' values' =>
      refine .object (names.trans names') fun name x z hx hz => ?_
      obtain ⟨y, hy⟩ := Record.exists_get?_of_perm names hx
      exact ih name x y hx hy (values' name y z hy hz)

end Agrees

/-! ## Order -/

/-- What agrees with a value has its place in the order, on either side. -/
theorem compare?_congr {v v' : Value} (h : v.Agrees v') (w : Value) :
    v.compare? w = v'.compare? w ∧ w.compare? v = w.compare? v' := by
  cases h with
  | null | bool b | string s => exact ⟨rfl, rfl⟩
  | number left right =>
    cases w with
    | number c => simp only [compare?, Number.compare?_eq, left, right, and_self]
    | null | bool _ | string _ | list _ | object _ => exact ⟨rfl, rfl⟩
  | list size items | object names values => cases w <;> exact ⟨rfl, rfl⟩

/-- A comparison orders just the values that have an order. -/
theorem isSome_compare?_iff (v w : Value) : (v.compare? w).isSome = true ↔ v.Ordered w := by
  constructor
  · intro h
    cases v with
    | number a =>
      cases w with
      | number b =>
        rw [compare?, Number.isSome_compare?, Bool.and_eq_true, Bool.not_eq_true',
          Bool.not_eq_true'] at h
        exact .numbers h.1 h.2
      | null | bool _ | string _ | list _ | object _ => cases h
    | string a =>
      cases w with
      | string b => exact .strings a b
      | null | bool _ | number _ | list _ | object _ => cases h
    | bool a =>
      cases w with
      | bool b => exact .bools a b
      | null | number _ | string _ | list _ | object _ => cases h
    | null | list _ | object _ => cases w <;> cases h
  · intro h
    cases h with
    | numbers left right => rw [compare?, Number.isSome_compare?, left, right]; rfl
    | strings a b | bools a b => rfl

theorem ordered_of_compare? {v w : Value} {o : Ordering} (h : v.compare? w = some o) :
    v.Ordered w := (isSome_compare?_iff v w).mp (Option.isSome_iff_exists.mpr ⟨o, h⟩)

theorem compare?_eq_none {v w : Value} (h : ¬v.Ordered w) : v.compare? w = none := by
  rw [← Option.not_isSome_iff_eq_none, isSome_compare?_iff]
  exact h

theorem compare?_swap (v w : Value) : w.compare? v = (v.compare? w).map Ordering.swap := by
  cases v with
  | number a =>
    cases w with
    | number b => exact Number.compare?_swap a b
    | null | bool _ | string _ | list _ | object _ => rfl
  | string a =>
    cases w with
    | string b => exact congrArg some Std.OrientedCmp.eq_swap
    | null | bool _ | number _ | list _ | object _ => rfl
  | bool a =>
    cases w with
    | bool b => exact congrArg some Std.OrientedCmp.eq_swap
    | null | number _ | string _ | list _ | object _ => rfl
  | null | list _ | object _ => cases w <;> rfl

theorem compare?_lt_trans {u v w : Value} (h : u.compare? v = some .lt)
    (h' : v.compare? w = some .lt) : u.compare? w = some .lt := by
  cases ordered_of_compare? h with
  | @numbers a b =>
    cases ordered_of_compare? h' with
    | @numbers _ c =>
      obtain ⟨l, m, hl, hm, hlm⟩ := Number.compare?_eq_some_iff.mp h
      obtain ⟨m', n, hm', hn, hmn⟩ := Number.compare?_eq_some_iff.mp h'
      rw [hm] at hm'
      cases hm'
      exact Number.compare?_eq_some_iff.mpr ⟨l, n, hl, hn, Std.TransCmp.lt_trans hlm hmn⟩
  | strings a b =>
    cases ordered_of_compare? h' with
    | strings _ c =>
      exact congrArg some (Std.TransCmp.lt_trans (Option.some.inj h) (Option.some.inj h'))
  | bools a b =>
    cases ordered_of_compare? h' with
    | bools _ c =>
      exact congrArg some (Std.TransCmp.lt_trans (Option.some.inj h) (Option.some.inj h'))

/-- Of two values that have an order, neither is less if they are equal and only then. -/
theorem equal_eq_compare? {v w : Value} (h : v.Ordered w) :
    v.equal w = (v.compare? w == some .eq) := by
  cases h with
  | numbers left right => rfl
  | strings a b => simp [equal, compare?, Bool.beq_eq_decide_eq]
  | bools a b => simp [equal, compare?, Bool.beq_eq_decide_eq]

end Value

/-! ## The operators -/

namespace Comparison

open Value (equal_iff compare?_congr equal_eq_compare? compare?_swap compare?_eq_none)

variable {u v w : Value}

/-- What agrees with a value can take its place in a comparison. -/
theorem holds_congr (hu : u.Storable) (hv : v.Storable) (hw : w.Storable) (h : u.Agrees v)
    (op : Comparison) : op.holds u w = op.holds v w ∧ op.holds w u = op.holds w v := by
  have hleft : u.equal w = v.equal w := by
    rw [Bool.eq_iff_iff, equal_iff hu, equal_iff hv]
    exact ⟨h.symm.trans, h.trans⟩
  have hright : w.equal u = w.equal v := by
    rw [Bool.eq_iff_iff, equal_iff hw, equal_iff hw]
    exact ⟨fun hwu => hwu.trans h, fun hwv => hwv.trans h.symm⟩
  obtain ⟨horder, horder'⟩ := compare?_congr h w
  cases op with
  | eq => exact ⟨hleft, hright⟩
  | ne => exact ⟨congrArg (!·) hleft, congrArg (!·) hright⟩
  | lt | le | gt | ge => simp only [holds, horder, horder', and_self]
  | matching => exact ⟨rfl, rfl⟩

/-- Of two values that have an order one is less, or they are equal, or the other is less. -/
theorem existsUnique_holds (h : v.Ordered w) :
    ∃! op, op ∈ [lt, eq, gt] ∧ op.holds v w = true := by
  obtain ⟨o, ho⟩ := Option.isSome_iff_exists.mp ((Value.isSome_compare?_iff v w).mpr h)
  have hlt : lt.holds v w = (some o == some .lt) := by rw [holds, ho]
  have heq : eq.holds v w = (some o == some .eq) := by rw [holds, equal_eq_compare? h, ho]
  have hgt : gt.holds v w = (some o == some .gt) := by rw [holds, ho]
  have hcases : ∀ op, (op ∈ [lt, eq, gt] ∧ op.holds v w = true) ↔
      (op = lt ∧ o = .lt) ∨ (op = eq ∧ o = .eq) ∨ (op = gt ∧ o = .gt) := by
    intro op
    cases op <;> simp [hlt, heq, hgt]
  simp only [hcases]
  cases o with
  | lt => exact ⟨lt, by simp, by simp⟩
  | eq => exact ⟨eq, by simp, by simp⟩
  | gt => exact ⟨gt, by simp, by simp⟩

theorem holds_of_not_ordered (h : ¬v.Ordered w) : lt.holds v w = false ∧ le.holds v w = false ∧
    gt.holds v w = false ∧ ge.holds v w = false := by
  simp [holds, compare?_eq_none h]

theorem lt_holds_iff_gt (v w : Value) : lt.holds v w = gt.holds w v := by
  rw [holds, holds, compare?_swap v w]
  cases v.compare? w with
  | none => rfl
  | some o => cases o <;> rfl

/-- A NaN satisfies no comparison with a number but that it is different. -/
theorem holds_of_isNaN {a b : Number} (h : a.isNaN = true ∨ b.isNaN = true) {op : Comparison}
    (hop : op ≠ ne) : op.holds (.number a) (.number b) = false := by
  have hnone : a.compare? b = none := by
    rw [← Option.isNone_iff_eq_none, ← Option.not_isSome, a.isSome_compare? b]
    rcases h with h | h <;> simp [h]
  cases op with
  | eq => simp [holds, Value.equal, Number.equal, hnone]
  | ne => exact absurd rfl hop
  | lt | le | gt | ge => simp [holds, Value.compare?, hnone]
  | matching => rfl

/-- The comparisons of values fit together. Equality is agreement, an equivalence where there is no
    NaN, and what is equal can be exchanged in every comparison. Of two values that have an order
    just one is less or they are equal, and the other operators say what they should of it; values
    without an order satisfy none of them. -/
theorem coherent (hu : u.Storable) (hv : v.Storable) (hw : w.Storable) :
    (eq.holds v w = true ↔ v.Agrees w) ∧
    (v.NaNFree → eq.holds v v = true) ∧
    eq.holds v w = eq.holds w v ∧
    (eq.holds u v = true → eq.holds v w = true → eq.holds u w = true) ∧
    ne.holds v w = !eq.holds v w ∧
    (eq.holds u v = true → ∀ op : Comparison,
      op.holds u w = op.holds v w ∧ op.holds w u = op.holds w v) ∧
    (v.Ordered w → (∃! op, op ∈ [lt, eq, gt] ∧ op.holds v w = true) ∧
      le.holds v w = (lt.holds v w || eq.holds v w) ∧
      ge.holds v w = (gt.holds v w || eq.holds v w)) ∧
    (lt.holds u v = true → lt.holds v w = true → lt.holds u w = true) ∧
    lt.holds v w = gt.holds w v ∧
    (¬v.Ordered w → lt.holds v w = false ∧ le.holds v w = false ∧
      gt.holds v w = false ∧ ge.holds v w = false) ∧
    ∀ a b : Number, a.isNaN = true ∨ b.isNaN = true → ∀ op, op ≠ ne →
      op.holds (.number a) (.number b) = false := by
  refine ⟨equal_iff hv w, ?_, ?_, ?_, rfl, ?_, ?_, ?_, lt_holds_iff_gt v w, holds_of_not_ordered,
    fun a b h op => holds_of_isNaN h⟩
  · intro hn
    exact (equal_iff hv v).mpr (.refl hv hn)
  · show v.equal w = w.equal v
    rw [Bool.eq_iff_iff, equal_iff hv, equal_iff hw]
    exact ⟨.symm, .symm⟩
  · intro huv hvw
    exact (equal_iff hu w).mpr (((equal_iff hu v).mp huv).trans ((equal_iff hv w).mp hvw))
  · intro huv op
    exact holds_congr hu hv hw ((equal_iff hu v).mp huv) op
  · intro h
    refine ⟨existsUnique_holds h, ?_, ?_⟩
    · rw [holds, holds, holds, equal_eq_compare? h]
    · rw [holds, holds, holds, equal_eq_compare? h]
  · intro huv hvw
    rw [holds, beq_iff_eq] at huv hvw ⊢
    exact Value.compare?_lt_trans huv hvw

/-- The first integer that is not a double, with its neighbour in both forms. -/
def largeInteger : Int64 := Int64.ofInt 9007199254740993

/-- An object with the integer below `largeInteger`. -/
def integerReading : Value :=
  .object [("unit", .null), ("value", .list [.int (largeInteger - 1)])]

/-- An object with the same number as a double, and its fields the other way round. -/
def floatReading : Value :=
  .object [("value", .list [.float (Binary64.ofInt 9007199254740992)]), ("unit", .null)]

/-- An object with `largeInteger`, whose nearest double is the number of the others. -/
def nextReading : Value := .object [("value", .list [.int largeInteger]), ("unit", .null)]

theorem storable_reading (n : Number) : (Value.list [.number n]).Storable := by
  have hsize : (1 : Int) ≤ Int64.maxValue.toInt := by decide
  exact .list hsize (by simp [Value.Storable.number])

theorem coherent_of_readings :
    integerReading.Storable ∧ floatReading.Storable ∧ nextReading.Storable ∧
    eq.holds integerReading floatReading = true ∧ ne.holds integerReading nextReading = true ∧
    ne.holds floatReading nextReading = true := by
  have hinteger : integerReading.Storable := by
    refine .object (by decide) ?_
    simp [Value.int, Value.Storable.null, storable_reading]
  have hfloat : floatReading.Storable := by
    refine .object (by decide) ?_
    simp [Value.float, Value.Storable.null, storable_reading]
  have hnext : nextReading.Storable := by
    refine .object (by decide) ?_
    simp [Value.int, Value.Storable.null, storable_reading]
  have hsame : eq.holds integerReading floatReading = true := by decide +kernel
  have hother : ne.holds integerReading nextReading = true := by decide +kernel
  -- The double takes the place of the integer.
  have hcongr := (coherent hinteger hfloat hnext).2.2.2.2.2.1 hsame ne
  exact ⟨hinteger, hfloat, hnext, hsame, hother, hcongr.1.symm.trans hother⟩

end Comparison
end EventQuery
