import EventQuery.Proofs.Query.Suffixes
import EventQuery.Proofs.Query.Token

/-!
# Where a query is at fault

A text that cannot be read is at fault at a character boundary of it, in front of a character that
is not white space or at its end, and the error names what stands there
(`SyntaxError.PointsInto`). The fault has a suffix of the text (`Reader.Within`), so the bytes in
front of it are those of what the suffix leaves of the text, and no difference of lengths is cut
off at zero.
-/

namespace EventQuery

/-! ## Sizes and boundaries -/

namespace Text

theorem byteLength_eq_utf8ByteSize (cs : List Char) :
    byteLength cs = (String.ofList cs).utf8ByteSize := by
  induction cs with
  | nil => rfl
  | cons c cs ih =>
    rw [byteLength_cons, ih, String.ofList_cons, String.utf8ByteSize_append,
      String.utf8ByteSize_singleton]

theorem byteLength_toList (text : String) : byteLength text.toList = text.utf8ByteSize := by
  rw [byteLength_eq_utf8ByteSize, String.ofList_toList]

theorem byteLength_le_of_suffix {a b : List Char} (h : a <:+ b) : byteLength a ≤ byteLength b := by
  obtain ⟨front, rfl⟩ := h
  rw [byteLength_append]
  exact Nat.le_add_left _ _

theorem trimStart_suffix (cs : List Char) : trimStart cs <:+ cs := List.dropWhile_suffix _

end Text

namespace Query

/-! ## What stands at a place -/

/-- What a text starts with, as an error names it. -/
inductive Named : List Char → String → Prop
  | ending : Named [] "end of input"
  /-- The whole of a word is named. -/
  | word {word rest : List Char} (hne : word ≠ []) (hword : ∀ c ∈ word, isWordChar c = true)
      (hrest : Stops isWordChar rest) : Named (word ++ rest) ("'" ++ String.ofList word ++ "'")
  | character {c : Char} (hc : isWordChar c = false) (rest : List Char) :
      Named (c :: rest) ("'" ++ String.ofList [c] ++ "'")

theorem ofList_quoted (cs : List Char) :
    String.ofList ('\'' :: cs ++ ['\'']) = "'" ++ String.ofList cs ++ "'" := by
  rw [String.ofList_append, String.ofList_cons]
  rfl

theorem named_describe (s : List Char) : Named s (describe s) := by
  cases s with
  | nil => exact .ending
  | cons c rest =>
    simp only [describe]
    rw [ofList_quoted]
    cases hc : isWordChar c with
    | false => exact .character hc rest
    | true =>
      have hall : ∀ d ∈ c :: rest.takeWhile isWordChar, isWordChar d = true :=
        List.forall_mem_cons.mpr ⟨hc, fun d hd => List.mem_takeWhile_imp hd⟩
      have hnamed := Named.word (List.cons_ne_nil _ _) hall (stops_dropWhile isWordChar rest)
      rwa [List.cons_append, List.takeWhile_append_dropWhile] at hnamed

end Query

open Query

/-! ## Errors of a text -/

/-- An error points to a place in a text and names what stands there. -/
structure SyntaxError.PointsInto (e : SyntaxError) (text : String) : Prop where
  inside : e.position ≤ text.utf8ByteSize
  boundary : String.Pos.Raw.IsValid text ⟨e.position⟩
  found : ∃ before after : String, text = before ++ after ∧ before.utf8ByteSize = e.position ∧
    Stops Text.isWhiteSpace after.toList ∧ Named after.toList e.found

/-- The bytes in front of a fault and those behind it are all that there are. -/
theorem Query.Fault.position_add {f : Fault} {s : List Char} (h : f.rest <:+ s) :
    (f.report s).position + Text.byteLength (Text.trimStart f.rest) = Text.byteLength s :=
  Nat.sub_add_cancel (Text.byteLength_le_of_suffix ((Text.trimStart_suffix f.rest).trans h))

theorem Query.Fault.pointsInto_report {f : Fault} {text : String} (h : f.rest <:+ text.toList) :
    (f.report text.toList).PointsInto text := by
  obtain ⟨before, hbefore⟩ := (Text.trimStart_suffix f.rest).trans h
  have htext : text = String.ofList before ++ String.ofList (Text.trimStart f.rest) := by
    rw [← String.ofList_append, hbefore, String.ofList_toList]
  have hposition : (String.ofList before).utf8ByteSize = (f.report text.toList).position := by
    have hlength := congrArg Text.byteLength hbefore
    rw [Text.byteLength_append, ← f.position_add h] at hlength
    rw [← Text.byteLength_eq_utf8ByteSize]
    exact Nat.add_right_cancel hlength
  refine ⟨?_, ?_, String.ofList before, String.ofList (Text.trimStart f.rest), htext, hposition, ?_⟩
  · have hsum := f.position_add h
    rw [Text.byteLength_toList] at hsum
    exact hsum ▸ Nat.le_add_right _ _
  · rw [String.Pos.Raw.isValid_iff_exists_append]
    exact ⟨_, _, htext, congrArg String.Pos.Raw.mk hposition.symm⟩
  · rw [String.toList_ofList]
    exact ⟨stops_dropWhile _ _, named_describe _⟩

/-- How the reading of a text ends: with a statement and nothing left of the text, or else with an
    error at the place where the statement came to a halt. -/
inductive Statement.Ends (limits : QueryLimits) (text : String) :
    Except SyntaxError Statement → Prop
  | whole {statement : Statement} (h : Reader.statement limits text.toList = .ok statement []) :
      Ends limits text (.ok statement)
  | halted {f : Fault} (hpart : ∀ statement, Reader.statement limits text.toList ≠ .ok statement [])
      (hrest : f.rest = (Reader.statement limits text.toList).rest)
      (hsuffix : f.rest <:+ text.toList)
      (hbytes : (f.report text.toList).position + Text.byteLength (Text.trimStart f.rest) =
        Text.byteLength text.toList)
      (hinto : (f.report text.toList).PointsInto text) :
      Ends limits text (.error (f.report text.toList))

theorem Statement.ends_halted {limits : QueryLimits} {text : String} {f : Fault}
    (hpart : ∀ statement, Reader.statement limits text.toList ≠ .ok statement [])
    (hrest : f.rest = (Reader.statement limits text.toList).rest) :
    Ends limits text (.error (f.report text.toList)) := by
  have hsuffix : f.rest <:+ text.toList :=
    hrest ▸ Reader.within_statement limits text.toList List.suffix_rfl
  exact .halted hpart hrest hsuffix (f.position_add hsuffix) (Fault.pointsInto_report hsuffix)

/-- Every text is a statement as a whole, or it is at fault at a place in it; and no reader of the
    grammar leaves the text. -/
theorem Statement.read_within (limits : QueryLimits) (text : String) :
    Ends limits text (Statement.read limits text) ∧
      Reader.GrammarWithin limits text.toList := by
  refine ⟨?_, Reader.grammarWithin limits text.toList⟩
  unfold Statement.read
  dsimp only
  cases hread : Reader.statement limits text.toList with
  | refused f =>
    have hpart : ∀ st, Reader.statement limits text.toList ≠ .ok st [] := by simp [hread]
    exact ends_halted hpart (by rw [hread]; rfl)
  | failed f =>
    have hpart : ∀ st, Reader.statement limits text.toList ≠ .ok st [] := by simp [hread]
    exact ends_halted hpart (by rw [hread]; rfl)
  | ok statement rest =>
    cases rest with
    | nil => exact .whole hread
    | cons c rest =>
      have hpart : ∀ st, Reader.statement limits text.toList ≠ .ok st [] := by simp [hread]
      exact ends_halted hpart (by rw [hread]; rfl)

end EventQuery
