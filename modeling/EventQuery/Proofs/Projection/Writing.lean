import EventQuery.Projection
import EventQuery.Proofs.Path.Matches

/-!
# Writing matches into a projection

Overlapping paths meet in the builder: a branch may be replaced by a whole value later on, and a
write below a whole value is dropped. Neither loses anything, because of three facts that every
write preserves.

* The projection is a piece of the event (`PieceOf`): it is rebuilt from the event along keys, and a
  whole value in it is what the event has there. That a name belongs to one key is needed here, so
  that two writes of one name are about one part.
* What has been written is covered (`Covers`): its names lead into a whole value, at their end or
  before.
* Nothing else is there (`reach?_write`): a chain of names that can be followed lies on the way to
  something written, or below it.
-/

namespace EventQuery
namespace Projection

@[simp] theorem write_nil (p : Projection) (v : Value) : p.write [] v = .whole v := by
  cases p <;> rfl

/-- Writing into a branch is writing into what it has under the first name. -/
theorem write_branch (fields : List (String × Projection)) (name : String) (names : List String)
    (v : Value) :
    (branch fields).write (name :: names) v =
      .branch (Record.insert fields name
        (((Record.get? fields name).getD .empty).write names v)) := by
  cases names with
  | nil => rw [write_nil, write]
  | cons next names => rw [write]

/-! ## The value of a projection -/

theorem keys_toFields (fields : List (String × Projection)) :
    Record.keys (toFields fields) = Record.keys fields := by
  induction fields with
  | nil => rfl
  | cons field rest ih => exact congrArg (field.1 :: ·) ih

theorem get?_toFields (fields : List (String × Projection)) (name : String) :
    Record.get? (toFields fields) name = (Record.get? fields name).map toValue := by
  induction fields with
  | nil => rfl
  | cons field rest ih =>
    obtain ⟨k, p⟩ := field
    rw [toFields, Record.get?_cons, Record.get?_cons, ih]
    split <;> rfl

theorem get?_toValue_branch (fields : List (String × Projection)) (name : String) :
    (branch fields).toValue.get? name = (Record.get? fields name).map toValue :=
  get?_toFields fields name

/-! ## What has been written -/

/-- The names lead into a whole value of the projection. -/
def Covers : Projection → List String → Prop
  | .whole _, _ => True
  | .branch _, [] => False
  | .branch fields, name :: names =>
    ∃ p, Record.get? fields name = some p ∧ p.Covers names

theorem covers_whole (w : Value) : ∀ names : List String, (whole w).Covers names
  | [] | _ :: _ => trivial

theorem covers_write : ∀ (names : List String) (p : Projection) (v : Value),
    (p.write names v).Covers names
  | [], p, v => by
    rw [write_nil]
    exact covers_whole v []
  | name :: names, .whole w, v => trivial
  | name :: names, .branch fields, v => by
    rw [write_branch]
    exact ⟨_, by rw [Record.get?_insert, if_pos rfl], covers_write names _ v⟩

/-- What is covered stays so, whatever is written. -/
theorem Covers.write {p : Projection} {names : List String} (h : p.Covers names)
    (others : List String) (v : Value) : (p.write others v).Covers names := by
  induction others generalizing p names with
  | nil =>
    rw [write_nil]
    exact covers_whole v names
  | cons other others ih =>
    cases p with
    | whole w => exact covers_whole w names
    | branch fields =>
      cases names with
      | nil => cases h
      | cons name names =>
        obtain ⟨q, hq, hcov⟩ := h
        rw [write_branch]
        by_cases heq : other = name
        · subst heq
          refine ⟨_, by rw [Record.get?_insert, if_pos rfl], ?_⟩
          rw [hq]
          exact ih hcov
        · exact ⟨q, by rw [Record.get?_insert, if_neg heq, hq], hcov⟩

section

variable {α : Type} {names : α → List String} {value : α → Value}

theorem Covers.foldl_write {p : Projection} {chain : List String} (h : p.Covers chain) :
    ∀ as : List α, (as.foldl (fun p a => p.write (names a) (value a)) p).Covers chain := by
  intro as
  induction as generalizing p with
  | nil => exact h
  | cons a as ih => exact ih (h.write (names a) (value a))

/-- Whatever is written, one thing after the other, is covered in the end. -/
theorem covers_foldl_write {as : List α} {a : α} (h : a ∈ as) (p : Projection) :
    (as.foldl (fun p a => p.write (names a) (value a)) p).Covers (names a) := by
  obtain ⟨before, after, rfl⟩ := List.append_of_mem h
  rw [List.foldl_append, List.foldl_cons]
  exact (covers_write (names a) _ (value a)).foldl_write after

end

theorem covers_foldl_insert {found : List Match} {m : Match} (h : m ∈ found) (p : Projection) :
    (found.foldl insert p).Covers m.names := covers_foldl_write h p

/-! ## Nothing else -/

theorem reach?_empty {names : List String} (h : (Projection.empty.toValue.reach? names).isSome) :
    names = [] := by
  cases names with
  | nil => rfl
  | cons name names =>
    rw [Value.reach?_cons, Projection.empty, get?_toValue_branch] at h
    cases h

/-- A chain of names that a write has made lies on the way to what was written, or below it. -/
theorem reach?_write : ∀ (names : List String) {p : Projection} {v : Value} {chain : List String},
    ((p.write names v).toValue.reach? chain).isSome →
      (p.toValue.reach? chain).isSome ∨ chain <+: names ∨ names <+: chain
  | [], _, _, _, _ => Or.inr (Or.inr List.nil_prefix)
  | name :: names, .whole w, _, _, h => Or.inl h
  | name :: names, .branch fields, _, [], _ => Or.inl rfl
  | name :: names, .branch fields, v, step :: chain, h => by
    rw [write_branch, Value.reach?_cons, get?_toValue_branch, Record.get?_insert] at h
    rw [Value.reach?_cons, get?_toValue_branch]
    by_cases heq : name = step
    · subst heq
      rw [if_pos rfl] at h
      rcases reach?_write names h with hold | hpre | hpre
      · cases hget : Record.get? fields name with
        | some q => rw [hget] at hold; exact Or.inl hold
        | none =>
          -- Only the empty chain leads into what was not there before.
          rw [hget] at hold
          rw [reach?_empty hold]
          exact Or.inr (Or.inl ⟨names, rfl⟩)
      · exact Or.inr (Or.inl (List.cons_prefix_cons.mpr ⟨rfl, hpre⟩))
      · exact Or.inr (Or.inr (List.cons_prefix_cons.mpr ⟨rfl, hpre⟩))
    · rw [if_neg heq] at h
      exact Or.inl h

theorem reach?_foldl_insert (found : List Match) {p : Projection} {chain : List String}
    (h : ((found.foldl insert p).toValue.reach? chain).isSome) :
    (p.toValue.reach? chain).isSome ∨
      ∃ m ∈ found, chain <+: m.names ∨ m.names <+: chain := by
  induction found generalizing p with
  | nil => exact Or.inl h
  | cons m found ih =>
    rcases ih h with hold | ⟨m', hm', hpre⟩
    · rcases reach?_write m.names hold with hold | hpre
      · exact Or.inl hold
      · exact Or.inr ⟨m, List.mem_cons_self, hpre⟩
    · exact Or.inr ⟨m', List.mem_cons_of_mem m hm', hpre⟩

/-! ## A piece of the event -/

/-- The projection is rebuilt from the value along keys of the given kind. -/
inductive PieceOf (K : Key → Prop) : Projection → Value → Prop
  | whole (v : Value) : PieceOf K (.whole v) v
  | branch {fields : List (String × Projection)} {v : Value}
      (distinct : (Record.keys fields).Nodup)
      (keys : ∀ name ∈ Record.keys fields, ∃ k u, K k ∧ k.fieldName = name ∧ v.part? k = some u)
      (inner : ∀ k p u, Record.get? fields k.fieldName = some p → v.part? k = some u →
        PieceOf K p u) : PieceOf K (.branch fields) v

namespace PieceOf

variable {K : Key → Prop}

theorem empty (v : Value) : PieceOf K .empty v :=
  .branch List.nodup_nil (fun _ h => nomatch h) fun _ _ _ h => nomatch h

/-- Writing what the value has at some keys gives a piece of the value again. -/
theorem write : ∀ {ks : List Key} {p : Projection} {v w : Value}, PieceOf K p v →
    (∀ k ∈ ks, K k) → v.at? ks = some w → PieceOf K (p.write (ks.map Key.fieldName) w) v
  | [], p, v, w, _, _, hw => by
    cases hw
    rw [List.map_nil, write_nil]
    exact .whole v
  | k :: ks, .whole u, _, _, h, _, _ => h
  | k :: ks, .branch fields, v, w, .branch distinct keys inner, hK, hw => by
    rw [Value.at?_cons] at hw
    obtain ⟨u, hu, hw⟩ := Option.bind_eq_some_iff.mp hw
    have hinner : PieceOf K ((Record.get? fields k.fieldName).getD .empty) u := by
      cases hget : Record.get? fields k.fieldName with
      | some p => exact inner k p u hget hu
      | none => exact .empty u
    have hnew := hinner.write (fun l hl => hK l (List.mem_cons_of_mem k hl)) hw
    rw [List.map_cons, write_branch]
    refine .branch (Record.nodup_keys_insert distinct _ _) ?_ ?_
    · intro name hname
      rw [Record.keys_insert] at hname
      split at hname
      · exact keys name hname
      · rcases List.mem_append.mp hname with hold | hlast
        · exact keys name hold
        · exact ⟨k, u, hK k List.mem_cons_self, (List.mem_singleton.mp hlast).symm, hu⟩
    · intro l p x hp hx
      rw [Record.get?_insert] at hp
      split at hp
      · next heq =>
        -- The name is that of the key just written, so it is this key.
        obtain rfl := Value.key_of_fieldName hu hx heq
        rw [hu] at hx
        cases hx
        cases hp
        exact hnew
      · exact inner l p x hp hx

/-- So does writing several things, one after the other. -/
theorem foldl_write {α : Type} {names : α → List String} {value : α → Value} {v : Value} :
    ∀ (as : List α) {p : Projection},
      (∀ a ∈ as, ∃ ks : List Key, ks.map Key.fieldName = names a ∧ (∀ k ∈ ks, K k) ∧
        v.at? ks = some (value a)) → PieceOf K p v →
        PieceOf K (as.foldl (fun p a => p.write (names a) (value a)) p) v
  | [], _, _, hp => hp
  | a :: as, p, h, hp => by
    obtain ⟨⟨ks, hnames, hK, hw⟩, hrest⟩ := List.forall_mem_cons.mp h
    rw [List.foldl_cons, ← hnames]
    exact foldl_write as hrest (hp.write hK hw)

theorem foldl_insert {event : Value} (found : List Match) {p : Projection}
    (h : ∀ m ∈ found, m.Within event ∧ ∀ k ∈ m.path, K k) (hp : PieceOf K p event) :
    PieceOf K (found.foldl insert p) event :=
  foldl_write found (fun m hm => ⟨m.path, rfl, (h m hm).2, (h m hm).1⟩) hp

/-- A piece of a storable value is storable. -/
theorem storable {p : Projection} {v : Value} (h : PieceOf K p v) (hv : v.Storable) :
    p.toValue.Storable := by
  induction h with
  | whole v => exact hv
  | @branch fields v distinct keys inner ih =>
    refine .object (by rwa [keys_toFields]) ?_
    rintro ⟨name, w⟩ hmem
    have hget := (Record.get?_eq_some_iff (by rwa [keys_toFields])).mpr hmem
    rw [get?_toFields] at hget
    obtain ⟨p, hp, rfl⟩ := Option.map_eq_some_iff.mp hget
    obtain ⟨k, u, -, rfl, hu⟩ := keys name (Record.mem_keys_of_mem (Record.mem_of_get? hp))
    exact ih k p u hp hu (hv.part hu)

/-- Where a piece covers some keys, they lead in its value to what they lead to in the event. -/
theorem follow?_toValue : ∀ {ks : List Key} {p : Projection} {v w : Value}, PieceOf K p v →
    p.Covers (ks.map Key.fieldName) → v.at? ks = some w → p.toValue.follow? ks = some w
  | ks, .whole _, _, _, .whole v, _, hw => Value.follow?_of_at? hw
  | [], .branch fields, v, w, _, hcov, _ => nomatch hcov
  | k :: ks, .branch fields, v, w, .branch _ _ inner, hcov, hw => by
    rw [Value.at?_cons] at hw
    obtain ⟨u, hu, hw⟩ := Option.bind_eq_some_iff.mp hw
    obtain ⟨p, hp, hcov⟩ := hcov
    rw [Value.follow?_cons, toValue, Value.read?_object, get?_toFields, hp]
    exact follow?_toValue (inner k p u hp hu) hcov hw

end PieceOf
end Projection
end EventQuery
