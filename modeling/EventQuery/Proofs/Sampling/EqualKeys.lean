import EventQuery.Proofs.Sampling.HashInput
import EventQuery.Proofs.Sampling.Thresholds
import EventQuery.Proofs.Value.Forms

/-!
# Equal keys

A clause that goes by its keys is meant to treat equal keys alike. It goes by their texts, and those
tell more than equality asks: from events with equal values under every key the same bytes are
hashed just if the values are in the same form (`StickyKey.bytes_eq_iff_sameForm`), and then either
both events are admitted or none is (`Sampler.admits_of_equal_keys`).

Equal keys in different forms may part. An integer and the double that it equals, one zero and the
other, and an object and the same one in another order are each found on both sides of a threshold
(`Sampler.admits_ne_of_equalPairs`).
-/

namespace EventQuery

namespace Value

theorem Storable.get? {v u : Value} {name : String} (hv : v.Storable) (h : v.get? name = some u) :
    u.Storable := by
  obtain ⟨fields, hfields, hu⟩ := Option.bind_eq_some_iff.mp h
  cases hv with
  | object distinct inner =>
    cases hfields
    exact inner _ (Record.mem_of_get? hu)
  | null | bool _ | number _ | string _ | list _ _ => cases hfields

end Value

/-- Under each of its keys the events have values that are so related, or both have none. -/
def SampleClause.KeysRelated (c : SampleClause) (related : Value → Value → Prop)
    (event event' : Value) : Prop :=
  ∀ key ∈ c.keys, Option.Rel related (event.get? key) (event'.get? key)

variable {c : SampleClause} {event event' : Value}

namespace StickyKey

/-- The same bytes are hashed of two events just if the values under each key have the same text,
    or are missing from both. -/
theorem bytes_ofEvent_eq_iff : (ofEvent c event).bytes = (ofEvent c event').bytes ↔
    ∀ key ∈ c.keys, (event.get? key).map Value.render = (event'.get? key).map Value.render := by
  rw [← List.map_inj_left]
  constructor
  · intro h
    exact flatMap_valueBytes_inj (ofValues_ofEvent c event) (ofValues_ofEvent c event')
      (textBytes_append_inj h).2
  · intro h
    rw [ofEvent, ofEvent, h]

/-- Equal keys give the same bytes just if they are in the same form. -/
theorem bytes_eq_iff_sameForm (he : event.Storable) (he' : event'.Storable)
    (h : c.KeysRelated (fun v w => v.equal w = true) event event') :
    (ofEvent c event).bytes = (ofEvent c event').bytes ↔
      c.KeysRelated Value.SameForm event event' := by
  rw [bytes_ofEvent_eq_iff]
  refine forall₂_congr fun key hkey => ?_
  have hrelated := h key hkey
  generalize hv : event.get? key = value, hw : event'.get? key = value' at hrelated ⊢
  cases hrelated with
  | none => exact iff_of_true rfl .none
  | @some v w hequal =>
    rw [Option.map_some, Option.map_some, Option.some.injEq,
      Value.render_eq_iff (he.get? hv) (he'.get? hw) hequal]
    constructor
    · exact .some
    · intro hform
      cases hform with
      | some hform => exact hform

end StickyKey

namespace Sampler

/-- Events with equal values under every key of a clause are found by the same bytes just if the
    values are in the same form, and in that case either both are admitted or none is, whatever
    else they hold and whatever is drawn. -/
theorem admits_of_equal_keys (s : Sampler) (hs : c.strategy = .sticky) (he : event.Storable)
    (he' : event'.Storable) (h : c.KeysRelated (fun v w => v.equal w = true) event event') :
    ((StickyKey.ofEvent c event).bytes = (StickyKey.ofEvent c event').bytes ↔
      c.KeysRelated Value.SameForm event event') ∧
    (c.KeysRelated Value.SameForm event event' → ∃ answer, ∀ d d',
      (s.admits (some c) event).run d = (answer, d) ∧
      (s.admits (some c) event').run d' = (answer, d')) := by
  have hbytes := StickyKey.bytes_eq_iff_sameForm he he' h
  refine ⟨hbytes, fun hform => ⟨_, fun d d' => ⟨run_admits_of_sticky s c event d hs, ?_⟩⟩⟩
  have hbucket : (StickyKey.ofEvent c event').bucket (s.buckets c) =
      (StickyKey.ofEvent c event).bucket (s.buckets c) := by
    rw [StickyKey.bucket, StickyKey.bucket, hbytes.mpr hform]
  rw [run_admits_of_sticky s c event' d' hs, hbucket]

/-- A clause that admits one of two buckets. -/
def halved (keys : List String) : SampleClause := ⟨.sticky, 1, keys, some "e", some 2⟩

/-- An event with a reading, under a key that has a double in it. -/
def deviceEvent (reading : Value) : Value :=
  .object [("reading", reading), ("k", .list [.string "device", .float (Binary64.ofInt 7)])]

theorem storable_deviceEvent {reading : Value} (h : reading.Storable) :
    (deviceEvent reading).Storable := by
  have hkey : (Value.list [.string "device", .float (Binary64.ofInt 7)]).Storable := by
    refine .list (by decide) ?_
    simp only [List.forall_mem_cons]
    exact ⟨.string _, .number _, nofun⟩
  have hnames : ["reading", "k"].Nodup := by decide
  refine .object hnames ?_
  simp only [List.forall_mem_cons]
  exact ⟨h, hkey, nofun⟩

/-- Two readings of one device are treated alike, the key that they both lack notwithstanding. -/
theorem admits_of_equal_devices :
    (deviceEvent .null).Storable ∧ (deviceEvent (.bool true)).Storable ∧
    (halved ["k", "site"]).KeysRelated (fun v w => v.equal w = true) (deviceEvent .null)
      (deviceEvent (.bool true)) ∧
    (halved ["k", "site"]).KeysRelated Value.SameForm (deviceEvent .null)
      (deviceEvent (.bool true)) ∧
    ∃ answer, ∀ d d',
      ((ofFactor 10000).admits (some (halved ["k", "site"])) (deviceEvent .null)).run d =
        (answer, d) ∧
      ((ofFactor 10000).admits (some (halved ["k", "site"])) (deviceEvent (.bool true))).run d' =
        (answer, d') := by
  have hnull := storable_deviceEvent .null
  have htrue := storable_deviceEvent (.bool true)
  have hkey : (deviceEvent .null).get? "k" =
      some (.list [.string "device", .float (Binary64.ofInt 7)]) := rfl
  have hequal : (halved ["k", "site"]).KeysRelated (fun v w => v.equal w = true)
      (deviceEvent .null) (deviceEvent (.bool true)) := by
    refine List.forall_mem_cons.mpr ⟨.some ?_, List.forall_mem_singleton.mpr .none⟩
    decide +kernel
  have hform : (halved ["k", "site"]).KeysRelated Value.SameForm (deviceEvent .null)
      (deviceEvent (.bool true)) :=
    List.forall_mem_cons.mpr
      ⟨.some (.refl (hnull.get? hkey)), List.forall_mem_singleton.mpr .none⟩
  exact ⟨hnull, htrue, hequal, hform,
    (admits_of_equal_keys (ofFactor 10000) rfl hnull htrue hequal).2 hform⟩

/-- An event with a value under the key. -/
def keyed (v : Value) : Value := .object [("k", v)]

/-- Pairs of equal values in different forms. -/
def equalPairs : List (Value × Value) := [
  (.int 1, .float (Binary64.ofInt 1)),
  (.float (Binary64.zero false), .float (Binary64.zero true)),
  (.object [("a", .int 1), ("b", .int 2)], .object [("b", .int 2), ("a", .int 1)])]

theorem storable_equalPairs : ∀ pair ∈ equalPairs, pair.1.Storable ∧ pair.2.Storable := by
  simp only [equalPairs, List.forall_mem_cons]
  refine ⟨⟨.number _, .number _⟩, ⟨.number _, .number _⟩, ⟨?_, ?_⟩, nofun⟩
  all_goals
    refine .object (by decide) ?_
    simp only [List.forall_mem_cons]
    exact ⟨.number _, .number _, nofun⟩

/-- The salt and the text of the value, with their ends. -/
theorem bytes_keyed (v : Value) : (StickyKey.ofEvent (halved ["k"]) (keyed v)).bytes =
    101 :: 0xff :: ((Json.Writer.text v.toJson).flatMap String.utf8EncodeChar ++ [0xff]) := by
  have hvalue : (keyed v).get? "k" = some v := rfl
  have hsalt : (halved ["k"]).salt.getD "" = "e" := rfl
  have hkeys : (halved ["k"]).keys = ["k"] := rfl
  rw [StickyKey.bytes, StickyKey.ofEvent, hkeys, List.map_singleton, hvalue, hsalt]
  simp only [Option.map_some, List.flatMap_singleton, StickyKey.valueBytes, StickyKey.textBytes,
    Text.toList_toUTF8, Value.render, Json.render, String.toList_ofList]
  rfl

/-- Of each pair one is found in the bucket that is admitted, and the other is not. -/
theorem bucket_equalPairs : ∀ pair ∈ equalPairs,
    decide ((StickyKey.ofEvent (halved ["k"]) (keyed pair.1)).bucket 2 < 1) ≠
      decide ((StickyKey.ofEvent (halved ["k"]) (keyed pair.2)).bucket 2 < 1) := by
  simp only [StickyKey.bucket, bytes_keyed]
  decide +kernel

/-- Equal keys in different forms part: of two events with nothing but equal values under the one
    key of the clause one is admitted and the other is not, whatever is drawn. -/
theorem admits_ne_of_equalPairs : ∀ pair ∈ equalPairs,
    (keyed pair.1).Storable ∧ (keyed pair.2).Storable ∧
    (halved ["k"]).KeysRelated (fun v w => v.equal w = true) (keyed pair.1) (keyed pair.2) ∧
    ∀ d d', (((ofFactor 10000).admits (some (halved ["k"])) (keyed pair.1)).run d).1 ≠
      (((ofFactor 10000).admits (some (halved ["k"])) (keyed pair.2)).run d').1 := by
  have hequal : ∀ pair ∈ equalPairs, pair.1.equal pair.2 = true := by decide +kernel
  have hkeyed : ∀ {v : Value}, v.Storable → (keyed v).Storable := fun hv =>
    .object (List.pairwise_singleton _ _) (List.forall_mem_singleton.mpr hv)
  intro pair hpair
  obtain ⟨hfirst, hsecond⟩ := storable_equalPairs pair hpair
  refine ⟨hkeyed hfirst, hkeyed hsecond,
    List.forall_mem_singleton.mpr (.some (hequal pair hpair)), fun d d' => ?_⟩
  rw [run_admits_of_sticky _ _ _ _ rfl, run_admits_of_sticky _ _ _ _ rfl]
  exact bucket_equalPairs pair hpair

/-- So equality of the keys is not enough for two events to be treated alike. -/
theorem not_admits_of_equal_keys : ¬∀ (s : Sampler) (c : SampleClause) (event event' : Value),
    c.strategy = .sticky → event.Storable → event'.Storable →
    c.KeysRelated (fun v w => v.equal w = true) event event' →
    ∀ d d', ((s.admits (some c) event).run d).1 = ((s.admits (some c) event').run d').1 := by
  intro h
  have hpair : (Value.int 1, Value.float (Binary64.ofInt 1)) ∈ equalPairs := List.mem_cons_self
  obtain ⟨hfirst, hsecond, hkeys, hne⟩ := admits_ne_of_equalPairs _ hpair
  let draws : Draws := ⟨fun _ => 0, 0⟩
  exact hne draws draws (h (ofFactor 10000) (halved ["k"]) _ _ rfl hfirst hsecond hkeys draws draws)

end Sampler
end EventQuery
