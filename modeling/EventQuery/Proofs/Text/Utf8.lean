import Mathlib.Tactic.Common

/-!
# The bytes of a text

The bytes of a text are those of its characters one after the other (`toList_toUTF8`), and no two
texts have the same (`toUTF8_inj`). The byte 0xff belongs to no text at all (`ff_notMem_toUTF8`),
and an ASCII character has one byte, its code (`toUTF8_eq_cons`).
-/

namespace EventQuery.Text

theorem toList_loop_eq (bytes : ByteArray) (i : Nat) (before : List UInt8) :
    ByteArray.toList.loop bytes i before = before.reverse ++ bytes.data.toList.drop i := by
  fun_induction ByteArray.toList.loop bytes i before with
  | case1 i before hi ih =>
    have hlength : i < bytes.data.toList.length := hi
    have hget : bytes.get! i = bytes.data.toList[i] := by
      rw [ByteArray.get!, getElem!_pos bytes.data i hi, Array.getElem_toList]
    rw [ih, List.drop_eq_getElem_cons hlength, hget, List.reverse_cons, List.append_assoc]
    rfl
  | case2 i before hi =>
    have hlength : bytes.data.toList.length ≤ i := Nat.le_of_not_lt hi
    rw [List.drop_eq_nil_of_le hlength, List.append_nil]

theorem toList_eq_data (bytes : ByteArray) : bytes.toList = bytes.data.toList :=
  toList_loop_eq bytes 0 []

/-- The bytes of a text are those of its characters. -/
theorem toList_toUTF8 (s : String) :
    s.toUTF8.toList = s.toList.flatMap String.utf8EncodeChar := by
  rw [toList_eq_data]
  calc s.toByteArray.data.toList
      = s.toList.utf8Encode.data.toList := by rw [String.utf8Encode_toList]
    _ = _ := List.toList_data_toByteArray

/-- A text is known by its bytes. -/
theorem toUTF8_inj {s t : String} : s.toUTF8.toList = t.toUTF8.toList ↔ s = t := by
  refine ⟨fun h => ?_, fun h => h ▸ rfl⟩
  rw [toList_eq_data, toList_eq_data, Array.toList_inj] at h
  exact String.toByteArray_inj.mp (ByteArray.ext h)

/-- Every byte of a character is a field of at most seven bits behind the mark of its place. -/
theorem toNat_lt_of_mem_utf8EncodeChar {c : Char} {b : UInt8}
    (h : b ∈ String.utf8EncodeChar c) : b.toNat < 0xf8 := by
  have hfield : ∀ n < 0xf8, (UInt8.ofNat n).toNat < 0xf8 := by
    intro n hn
    rwa [UInt8.toNat_ofNat_of_lt' (Nat.lt_trans hn (by decide))]
  unfold String.utf8EncodeChar at h
  dsimp only at h
  split_ifs at h <;> simp only [List.mem_cons, List.not_mem_nil, or_false] at h
  · exact h ▸ hfield _ (by omega)
  · rcases h with rfl | rfl <;> exact hfield _ (by omega)
  · rcases h with rfl | rfl | rfl <;> exact hfield _ (by omega)
  · rcases h with rfl | rfl | rfl | rfl <;> exact hfield _ (by omega)

/-- The byte 0xff belongs to no text. -/
theorem ff_notMem_toUTF8 (s : String) : 0xff ∉ s.toUTF8.toList := by
  rw [toList_toUTF8, List.mem_flatMap]
  rintro ⟨c, -, hc⟩
  exact absurd (toNat_lt_of_mem_utf8EncodeChar hc) (by decide)

/-- A text that starts with an ASCII character starts with its byte. -/
theorem toUTF8_eq_cons {c : Char} {cs : List Char} (h : c.toNat < 128) :
    (String.ofList (c :: cs)).toUTF8.toList =
      UInt8.ofNat c.toNat :: cs.flatMap String.utf8EncodeChar := by
  have hbyte : String.utf8EncodeChar c = [UInt8.ofNat c.toNat] := by
    unfold String.utf8EncodeChar
    exact if_pos (Nat.le_of_lt_succ h)
  rw [toList_toUTF8, String.toList_ofList, List.flatMap_cons, hbyte, List.singleton_append]

end EventQuery.Text
