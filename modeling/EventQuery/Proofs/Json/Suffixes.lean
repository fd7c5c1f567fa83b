import EventQuery.Sampling.Decoder
import Mathlib.Tactic.Common

/-!
# What is left of a document

A reader of documents takes the start of a text: what it leaves is a suffix of what it was given.
All lemmas have the same form. The reader is at a suffix of some text, and if it reads anything it
leaves a suffix of that text (`Read.Within`), so that one text stands for the whole way back to the
start of the document. For a clause of a query this is `SampleClause.within_decoder`.
-/

namespace EventQuery.Json

variable {α β : Type} {s t rest : List Char} {c : Char}

theorem suffix_of_cons (h : c :: s <:+ t) : s <:+ t := (List.suffix_cons c s).trans h

namespace Read

/-- If anything was read, a suffix of the text is left. -/
def Within (t : List Char) : Read α → Prop
  | ok _ rest => rest <:+ t
  | error _ => True

@[simp] theorem within_ok {a : α} : (ok a rest).Within t ↔ rest <:+ t := Iff.rfl

@[simp] theorem within_error {f : Fault} : (error f : Read α).Within t := trivial

namespace Within

theorem suffix {r : Read α} (h : r.Within t) {a : α} (e : r = ok a rest) : rest <:+ t := by
  subst e
  exact h

theorem map {r : Read α} (h : r.Within t) (g : α → β) : (r.map g).Within t :=
  match r, h with
  | ok _ _, h => h
  | error _, _ => trivial

theorem andThen {r : Read α} {next : α → List Char → Read β} (hr : r.Within t)
    (hn : ∀ a rest, rest <:+ t → (next a rest).Within t) : (r.andThen next).Within t :=
  match r, hr with
  | ok a rest, h => hn a rest h
  | error _, _ => trivial

end Within
end Read

namespace Reader

/-! ## Blanks and words -/

theorem skipSpace_suffix (h : s <:+ t) : skipSpace s <:+ t := (List.dropWhile_suffix _).trans h

theorem suffix_of_skipSpace (h : s <:+ t) (e : skipSpace s = c :: rest) : rest <:+ t :=
  suffix_of_cons (e ▸ skipSpace_suffix h)

theorem within_word (expected : List Char) (h : s <:+ t) : (word expected s).Within t := by
  fun_induction word expected s with
  | case1 s => exact h
  | case2 | case4 => trivial
  | case3 e es s ih => exact ih (suffix_of_cons h)

/-! ## Numbers -/

theorem digits_suffix (h : s <:+ t) : (digits s).2 <:+ t := (List.dropWhile_suffix _).trans h

theorem within_finiteFloat {negative : Bool} {ds : Nat} {exponent : Int} (h : s <:+ t) :
    (finiteFloat negative ds exponent s).Within t := by
  unfold finiteFloat
  dsimp only
  split
  · exact h
  · trivial

theorem within_exponentDigits {negative positive : Bool} {significand : Nat} {scale : Int}
    (h : s <:+ t) : (exponentDigits negative significand scale positive s).Within t := by
  have hd := digits_suffix h
  unfold exponentDigits
  split
  · trivial
  · split
    · trivial
    · dsimp only
      split
      · split
        · trivial
        · exact hd
      · exact within_finiteFloat hd

theorem within_exponentPart {negative : Bool} {significand : Nat} {scale : Int} (h : s <:+ t) :
    (exponentPart negative significand scale s).Within t := by
  unfold exponentPart
  split
  · exact within_exponentDigits (suffix_of_cons h)
  · exact within_exponentDigits (suffix_of_cons h)
  · exact within_exponentDigits h

theorem within_fromWhole {negative : Bool} {whole : List Char} (h : s <:+ t) :
    (fromWhole negative whole s).Within t := by
  unfold fromWhole
  split
  · next s =>
    have hd := digits_suffix (suffix_of_cons h)
    dsimp only
    split
    · split <;> trivial
    · split
      · next heq => exact within_exponentPart (suffix_of_cons (heq ▸ hd))
      · next heq => exact within_exponentPart (suffix_of_cons (heq ▸ hd))
      · exact within_finiteFloat hd
  · exact within_exponentPart (suffix_of_cons h)
  · exact within_exponentPart (suffix_of_cons h)
  · dsimp only
    split
    · split
      · exact h
      · exact within_finiteFloat h
    · split
      · exact h
      · exact within_finiteFloat h

theorem within_number (negative : Bool) (h : s <:+ t) : (number negative s).Within t := by
  unfold number
  split
  · trivial
  · split
    · split
      · trivial
      · exact within_fromWhole (suffix_of_cons h)
    · exact within_fromWhole (suffix_of_cons h)
  · split
    · exact within_fromWhole (digits_suffix h)
    · trivial

/-! ## Strings -/

theorem within_fourHexDigits (h : s <:+ t) : (fourHexDigits s).Within t := by
  unfold fourHexDigits
  split
  · trivial
  · split
    · split
      · exact suffix_of_cons (suffix_of_cons (suffix_of_cons (suffix_of_cons h)))
      · trivial
    · trivial

theorem within_unicodeEscape (h : s <:+ t) : (unicodeEscape s).Within t := by
  refine (within_fourHexDigits h).andThen fun high rest hrest => ?_
  split
  · trivial
  · split
    · exact hrest
    · split
      · trivial
      · split
        · trivial
        · refine (within_fourHexDigits (suffix_of_cons (suffix_of_cons hrest))).andThen ?_
          intro low rest hrest
          split
          · exact hrest
          · trivial
        · trivial
      · trivial

theorem within_escape (h : s <:+ t) : (escape s).Within t := by
  unfold escape
  split
  case h_1 | h_11 => trivial
  case h_10 => exact within_unicodeEscape (suffix_of_cons h)
  all_goals exact suffix_of_cons h

theorem within_stringBody (h : s <:+ t) : (stringBody s).Within t := by
  fun_induction stringBody s with
  | case1 | case3 | case5 => trivial
  | case2 => exact suffix_of_cons h
  | case4 s c rest he ih => exact (ih ((within_escape (suffix_of_cons h)).suffix he)).map _
  | case6 c s _ _ _ ih => exact (ih (suffix_of_cons h)).map _

theorem within_string (h : s <:+ t) : (string s).Within t := (within_stringBody h).map _

/-! ## Lists -/

theorem within_colon (h : s <:+ t) : (colon s).Within t := by
  unfold colon
  split
  · trivial
  · next heq => exact suffix_of_skipSpace h heq
  · trivial

theorem suffix_of_nextItem {first : Bool} {start : List Char} (h : s <:+ t)
    (e : nextItem first s = .ok (some start)) : start <:+ t := by
  have hs := skipSpace_suffix h
  unfold nextItem at e
  split at e
  case h_1 | h_2 => cases e
  case h_3 heq =>
    rw [heq] at hs
    split at e
    · cases e
      exact hs
    · split at e
      case h_1 | h_2 => cases e
      case h_3 =>
        cases e
        exact skipSpace_suffix (suffix_of_cons hs)
  case h_4 =>
    split at e
    · cases e
      exact hs
    · cases e

theorem suffix_of_nextField {first : Bool} {start : List Char} (h : s <:+ t)
    (e : nextField first s = .ok (some start)) : start <:+ t := by
  unfold nextField at e
  split at e
  case h_1 | h_2 => cases e
  case h_3 heq =>
    split at e
    · cases e
      exact suffix_of_skipSpace h heq
    · cases e
  case h_4 heq =>
    split at e
    · cases e
    · split at e
      case h_2 heq' =>
        cases e
        exact suffix_of_skipSpace (suffix_of_skipSpace h heq) heq'
      all_goals cases e
  case h_5 => split at e <;> cases e

theorem within_closeList (a : α) (h : s <:+ t) : ((closeList s).result a).Within t := by
  unfold closeList
  split
  · trivial
  · next heq => exact suffix_of_skipSpace h heq
  · dsimp only
    split <;> trivial
  · trivial

theorem within_closeObject (a : α) (h : s <:+ t) : ((closeObject s).result a).Within t := by
  unfold closeObject
  split
  · trivial
  · next heq => exact suffix_of_skipSpace h heq
  · trivial
  · trivial

end Reader

/-- At every suffix of the text the reader of items leaves another. -/
def ItemReader.Within (item : ItemReader α) (t : List Char) : Prop :=
  ∀ s, s <:+ t → (item.read s).Within t

theorem Reader.within_items {item : ItemReader α} (hi : item.Within t) (first : Bool)
    (h : s <:+ t) : (items item first s).Within t := by
  fun_induction items item first s with
  | case1 | case3 => trivial
  | case2 => exact within_closeList _ h
  | case4 _ _ start hn a rest he ih =>
    exact (ih ((hi start (suffix_of_nextItem h hn)).suffix he)).map _

/-! ## Values that are passed over -/

namespace Ignored

open Reader

theorem within_string (h : s <:+ t) : (string s).Within t := by
  fun_induction string s with
  | case1 | case3 | case4 | case7 | case8 => trivial
  | case2 => exact suffix_of_cons h
  | case5 s _ rest hx ih =>
    have hs := suffix_of_cons (suffix_of_cons h)
    exact ih ((within_fourHexDigits hs).suffix hx)
  | case6 c s _ _ ih => exact ih (suffix_of_cons (suffix_of_cons h))
  | case9 c s _ _ _ _ _ ih => exact ih (suffix_of_cons h)

theorem within_exponentDigits (h : s <:+ t) : (exponentDigits s).Within t := by
  unfold exponentDigits
  split
  · trivial
  · split
    · exact digits_suffix h
    · trivial

theorem within_exponent (h : s <:+ t) : (exponent s).Within t := by
  unfold exponent
  split
  · exact within_exponentDigits (suffix_of_cons h)
  · exact within_exponentDigits (suffix_of_cons h)
  · exact within_exponentDigits h

theorem within_afterWhole (h : s <:+ t) : (afterWhole s).Within t := by
  unfold afterWhole
  split
  · have hd := digits_suffix (suffix_of_cons h)
    dsimp only
    split
    · trivial
    · split
      case h_1 heq | h_2 heq => exact within_exponent (suffix_of_cons (heq ▸ hd))
      case h_3 => exact hd
  · exact within_exponent (suffix_of_cons h)
  · exact within_exponent (suffix_of_cons h)
  · exact h

theorem within_number (h : s <:+ t) : (number s).Within t := by
  unfold number
  split
  · trivial
  · split
    · split
      · trivial
      · exact within_afterWhole (suffix_of_cons h)
    · exact suffix_of_cons h
  · split
    · exact within_afterWhole (digits_suffix h)
    · trivial

theorem within_closes (afterValue : Bool) (containers : List Container) (h : s <:+ t) :
    (closes afterValue containers s).Within t := by
  fun_induction closes afterValue containers s with
  | case1 => exact h
  | case2 | case5 => trivial
  | case3 _ _ _ s c rest heq => exact suffix_of_skipSpace h heq
  | case4 _ _ _ s _ heq _ ih => exact ih (suffix_of_skipSpace h heq)
  | case6 _ _ _ s c rest heq => exact heq ▸ skipSpace_suffix h

theorem within_name (containers : List Container) (h : s <:+ t) :
    (name containers s).Within t := by
  unfold name
  split
  · split
    · trivial
    · next heq =>
      refine (within_string (suffix_of_skipSpace h heq)).andThen fun _ rest hrest => ?_
      exact (within_colon hrest).map _
    · trivial
  · exact h

theorem within_token (outer : List Container) (h : s <:+ t) : (token outer s).Within t := by
  unfold token
  dsimp only
  split
  case h_1 => trivial
  case h_2 heq | h_3 heq | h_4 heq =>
    exact (within_word _ (suffix_of_skipSpace h heq)).map _
  case h_5 heq => exact (within_number (suffix_of_skipSpace h heq)).map _
  case h_6 heq => exact (within_string (suffix_of_skipSpace h heq)).map _
  case h_7 heq | h_8 heq => exact suffix_of_skipSpace h heq
  case h_9 heq =>
    split
    · exact (within_number (heq ▸ skipSpace_suffix h)).map _
    · trivial

theorem within_step (outer : List Container) (h : s <:+ t) : (step outer s).Within t :=
  (within_token outer h).andThen fun _ _ hrest =>
    (within_closes _ _ hrest).andThen fun _ _ hrest => within_name _ hrest

theorem within_value (outer : List Container) (h : s <:+ t) : (value outer s).Within t := by
  fun_induction value outer s with
  | case1 => trivial
  | case2 outer s rest he => exact (within_step outer h).suffix he
  | case3 outer s c more rest he ih => exact ih ((within_step outer h).suffix he)

end Ignored

/-! ## Values of a known kind -/

namespace Decoder

open Reader

theorem within_boundedNatural (bound : Nat) (expected : String) (n : Numeral) (h : s <:+ t) :
    (boundedNatural bound expected n s).Within t := by
  unfold boundedNatural
  split
  · split
    · exact h
    · trivial
  · trivial
  · trivial

theorem within_natural (bound : Nat) (expected : String) :
    (natural bound expected).Within t := by
  intro s h
  unfold natural
  dsimp only
  split
  · trivial
  · next heq =>
    refine (within_number true (suffix_of_skipSpace h heq)).andThen fun n rest hrest => ?_
    exact within_boundedNatural bound expected n hrest
  · next heq =>
    split
    · refine (within_number false (heq ▸ skipSpace_suffix h)).andThen fun n rest hrest => ?_
      exact within_boundedNatural bound expected n hrest
    · trivial

theorem within_uint32 : uint32.Within t := fun s h => (within_natural _ _ s h).map _

theorem within_text : string.Within t := by
  intro s h
  unfold string
  dsimp only
  split
  · trivial
  · next heq => exact within_string (suffix_of_skipSpace h heq)
  · trivial

theorem within_optional {value : ItemReader α} (hv : value.Within t) :
    (optional value).Within t := by
  intro s h
  unfold optional
  dsimp only
  split
  · next heq => exact (within_word _ (suffix_of_skipSpace h heq)).map _
  · exact (hv _ (skipSpace_suffix h)).map _

theorem within_list {item : ItemReader α} (hi : item.Within t) : (list item).Within t := by
  intro s h
  unfold list
  dsimp only
  split
  · trivial
  · next heq => exact within_items hi true (suffix_of_skipSpace h heq)
  · trivial

theorem within_choose (choices : List (String × α)) (name : String) (h : s <:+ t) :
    (choose choices name s).Within t := by
  unfold choose
  split
  · exact h
  · trivial

theorem within_closeChoice (a : α) (h : s <:+ t) : (closeChoice a s).Within t := by
  unfold closeChoice
  split
  · trivial
  · next heq =>
    refine (within_word _ (suffix_of_skipSpace h heq)).andThen fun _ rest hrest => ?_
    split
    · next heq' => exact suffix_of_skipSpace hrest heq'
    · trivial
    · trivial
  · trivial

theorem within_choiceField (choices : List (String × α)) (h : s <:+ t) :
    (choiceField choices s).Within t := by
  unfold choiceField
  split
  · trivial
  · next heq =>
    refine (within_string (suffix_of_skipSpace h heq)).andThen fun name rest hrest => ?_
    refine (within_choose choices name hrest).andThen fun a rest hrest => ?_
    refine (within_colon hrest).andThen fun _ rest hrest => ?_
    exact within_closeChoice a hrest
  · trivial
  · trivial

theorem within_choice (choices : List (String × α)) : (choice choices).Within t := by
  intro s h
  unfold choice
  dsimp only
  split
  · trivial
  · next heq =>
    refine (within_string (suffix_of_skipSpace h heq)).andThen fun name rest hrest => ?_
    exact within_choose choices name hrest
  · next heq => exact within_choiceField choices (suffix_of_skipSpace h heq)
  · trivial

/-! ## Records -/

/-- If the inside of a record was read, a suffix of the text is left. -/
def Body.Within (t : List Char) : Body α → Prop
  | .ok _ rest => rest <:+ t
  | .error _ => True
  | .refused _ _ => True

namespace Body.Within

theorem ofRead {r : Read α} (h : r.Within t) : (ofRead r).Within t :=
  match r, h with
  | .ok _ _, h => h
  | .error _, _ => trivial

theorem andThen {b : Body α} {next : α → List Char → Body β} (hb : b.Within t)
    (hn : ∀ a rest, rest <:+ t → (next a rest).Within t) : (b.andThen next).Within t :=
  match b, hb with
  | .ok a rest, h => hn a rest h
  | .error _, _ => trivial
  | .refused _ _, _ => trivial

theorem suffix {b : Body α} (h : b.Within t) {a : α} (e : b = .ok a rest) : rest <:+ t := by
  subst e
  exact h

end Body.Within

/-- At every suffix of the text the reader of fields leaves another. -/
def FieldReader.Within {σ : Type} (field : FieldReader σ) (t : List Char) : Prop :=
  ∀ state name s, s <:+ t → (field.read state name s).Within t

theorem within_fieldsInto {σ : Type} {field : FieldReader σ} (hf : field.Within t) (first : Bool)
    (state : σ) (h : s <:+ t) : (fieldsInto field first state s).Within t := by
  fun_induction fieldsInto field first state s with
  | case1 | case4 | case5 => trivial
  | case2 => exact h
  | case3 first state s start hn state' rest he ih =>
    have hstart := suffix_of_nextField h hn
    have hfield : (fieldInto field state start).Within t :=
      (Body.Within.ofRead (within_string hstart)).andThen (hf state)
    exact ih (hfield.suffix he)

theorem within_once {σ : Type} {value : ItemReader α} (hv : value.Within t) (name : String)
    (old : Option α) (set : α → σ) (h : s <:+ t) : (once value name old set s).Within t := by
  unfold once
  split
  · trivial
  · refine (Body.Within.ofRead (within_colon h)).andThen fun _ rest hrest => ?_
    exact (Body.Within.ofRead (hv rest hrest)).andThen fun _ _ hrest => hrest

theorem within_unknown {σ : Type} (state : σ) (h : s <:+ t) : (unknown state s).Within t := by
  refine (Body.Within.ofRead (within_colon h)).andThen fun _ rest hrest => ?_
  exact (Body.Within.ofRead (Ignored.within_value [] hrest)).andThen fun _ _ hrest => hrest

theorem within_element {item : ItemReader α} (hi : item.Within t) (first : Bool) (h : s <:+ t) :
    (element item first s).Within t := by
  unfold element
  split
  · trivial
  · exact h
  · next heq => exact .ofRead ((hi _ (suffix_of_nextItem h heq)).map _)

/-- A record ends where its container does. -/
theorem within_record {expected : String} {object list : List Char → Body α}
    (ho : ∀ s, s <:+ t → (object s).Within t) (hl : ∀ s, s <:+ t → (list s).Within t)
    (h : s <:+ t) : (record expected object list s).Within t := by
  unfold record
  split
  · trivial
  · next s heq =>
    have hbody := hl s (suffix_of_skipSpace h heq)
    cases hb : list s with
    | ok a rest => exact within_closeList a (hbody.suffix hb)
    | error f | refused c rest => trivial
  · next s heq =>
    have hbody := ho s (suffix_of_skipSpace h heq)
    cases hb : object s with
    | ok a rest => exact within_closeObject a (hbody.suffix hb)
    | error f | refused c rest => trivial
  · trivial

end Decoder
end EventQuery.Json

/-! ## Sample clauses -/

namespace EventQuery.SampleClause

open Json Json.Decoder

variable {s t : List Char}

theorem within_reader : Fields.reader.Within t := by
  intro state name s h
  unfold Fields.reader
  dsimp only
  split
  · exact within_once (within_choice _) _ _ _ h
  · exact within_once within_uint32 _ _ _ h
  · exact within_once (within_list within_text) _ _ _ h
  · exact within_once (within_optional within_text) _ _ _ h
  · exact within_once (within_optional within_uint32) _ _ _ h
  · exact within_unknown state h

theorem within_toClause (f : Fields) (h : s <:+ t) : (f.toClause s).Within t := by
  unfold Fields.toClause
  split
  · trivial
  · trivial
  · exact h

theorem within_ofObject (h : s <:+ t) : (ofObject s).Within t :=
  (within_fieldsInto within_reader true {} h).andThen fun f _ hrest => within_toClause f hrest

theorem within_ofList (h : s <:+ t) : (ofList s).Within t := by
  refine (within_element (within_choice _) true h).andThen fun strategy s h => ?_
  split
  · trivial
  · refine (within_element within_uint32 false h).andThen fun threshold s h => ?_
    split
    · trivial
    · refine (within_element (within_list within_text) false h).andThen fun _ s h => ?_
      refine (within_element (within_optional within_text) false h).andThen fun _ s h => ?_
      exact (within_element (within_optional within_uint32) false h).andThen fun _ _ h => h

/-- What is left behind a clause is a suffix of the text. -/
theorem within_decoder (h : s <:+ t) : (decoder s).Within t :=
  within_record (fun _ => within_ofObject) (fun _ => within_ofList) h

end EventQuery.SampleClause
