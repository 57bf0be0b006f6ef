import QueryableApi.Value

/-! # The texts of scalars

A scalar has a canonical text, and under a declared kind a text that filters are compared with. The
text of a double is never that of a whole number, because it holds a point, an exponent or a word.
So the two texts of a scalar agree iff its representation is already the declared one
(`filterText_eq_canonicalText_iff`), which handing it out then keeps (`declaredAs_eq_self_iff`). The
text that filters compare is kept in any case (`filterText_declaredAs`). -/

namespace QueryableApi

/-! ## Characters of numbers -/

/-- The characters of whole numbers: digits and the minus sign. -/
def IsIntegerChar (c : Char) : Prop := c.isDigit = true ∨ c = '-'

instance (c : Char) : Decidable (IsIntegerChar c) := inferInstanceAs (Decidable (_ ∨ _))

/-- A **text that is no whole number**: one of its characters belongs to none. -/
def IsNotInteger (s : String) : Prop := ∃ c ∈ s.toList, ¬ IsIntegerChar c

/-- Text in front of one that is no whole number does not make it one. -/
theorem IsNotInteger.append_left {s : String} (h : IsNotInteger s) (before : String) :
    IsNotInteger (before ++ s) := by
  obtain ⟨c, hc, hchar⟩ := h
  refine ⟨c, ?_, hchar⟩
  rw [String.toList_append]
  exact List.mem_append_right _ hc

/-- Text behind one that is no whole number does not make it one. -/
theorem IsNotInteger.append_right {s : String} (h : IsNotInteger s) (after : String) :
    IsNotInteger (s ++ after) := by
  obtain ⟨c, hc, hchar⟩ := h
  refine ⟨c, ?_, hchar⟩
  rw [String.toList_append]
  exact List.mem_append_left _ hc

/-- The text of a whole number has no other characters. -/
theorem isIntegerChar_of_mem_intText {n : Int64} {c : Char} (h : c ∈ (Value.intText n).toList) :
    IsIntegerChar c := by
  have hdigit : ∀ {m : Nat}, c ∈ m.repr.toList → IsIntegerChar c := fun hm => by
    rw [Nat.toList_repr] at hm
    exact Or.inl (Nat.isDigit_of_mem_toDigits (by decide) (by decide) hm)
  rw [Value.intText, Int.toString_eq_repr, Int.repr_eq_if] at h
  split at h
  · exact hdigit h
  · rw [String.toList_append] at h
    rcases List.mem_append.mp h with h | h
    · exact Or.inr (List.mem_singleton.mp h)
    · exact hdigit h

/-- Positional notation holds a point. -/
theorem Decimal.isNotInteger_positional (d : Decimal) : IsNotInteger d.positional := by
  dsimp only [positional]
  split
  · have htail : IsNotInteger ".0" := ⟨'.', by decide, by decide⟩
    exact htail.append_left _
  · split
    · have hpoint : IsNotInteger "." := ⟨'.', by decide, by decide⟩
      exact (hpoint.append_left _).append_right _
    · have hhead : IsNotInteger "0." := ⟨'.', by decide, by decide⟩
      exact (hhead.append_right _).append_right _

/-- Scientific notation holds an exponent sign. -/
theorem Decimal.isNotInteger_scientific (d : Decimal) : IsNotInteger d.scientific := by
  have hexponent : IsNotInteger "e" := ⟨'e', by decide, by decide⟩
  exact ((hexponent.append_left _).append_right _).append_right _

/-- A layout writes no double like a whole number. -/
theorem Decimal.Layout.isNotInteger_text (l : Layout) (x : Double.Finite) :
    IsNotInteger (l.text x) := by
  dsimp only [text]
  split
  · have hzero : IsNotInteger "0.0" := ⟨'.', by decide, by decide⟩
    exact hzero.append_left _
  · refine IsNotInteger.append_left ?_ _
    split
    · exact Decimal.isNotInteger_positional _
    · exact Decimal.isNotInteger_scientific _

/-- **No double is written like a whole number.** -/
theorem Double.isNotInteger_plainText (x : Double) : IsNotInteger x.plainText := by
  cases x with
  | nan => exact ⟨'N', by decide, by decide⟩
  | infinite negative =>
      cases negative
      · exact ⟨'i', by decide, by decide⟩
      · exact ⟨'i', by decide, by decide⟩
  | finite x =>
      rw [plainText]
      split
      · have htail : IsNotInteger ".0" := ⟨'.', by decide, by decide⟩
        exact htail.append_left _
      · exact Decimal.Layout.isNotInteger_text _ x

namespace Value

/-- The text of a double is not that of a whole number. -/
theorem plainText_ne_intText (x : Double) (n : Int64) : x.plainText ≠ intText n := by
  intro h
  obtain ⟨c, hc, hchar⟩ := x.isNotInteger_plainText
  rw [h] at hc
  exact hchar (isIntegerChar_of_mem_intText hc)

/-! ## Declared representations -/

/-- A value has the **representation of a kind**: it is no whole number declared as a number, and no
double declared as an integer that stands for one. -/
def HasForm : Kind → Value → Prop
  | .number, .int _ => False
  | .integer, .float x => wholeNumber? x = none
  | _, _ => True

/-- A value is handed out as it is iff it has the declared representation. -/
theorem declaredAs_eq_self_iff (kind : Kind) (v : Value) :
    v.declaredAs kind = v ↔ HasForm kind v := by
  -- only the two kinds of numbers change a representation
  cases kind with
  | number =>
      cases v with
      | int n => exact iff_of_false (fun h => by cases h) id
      | _ => exact iff_of_true rfl trivial
  | integer =>
      cases v with
      | float x =>
          show (wholeNumber? x).elim (float x) int = float x ↔ wholeNumber? x = none
          cases wholeNumber? x with
          | none => exact iff_of_true rfl rfl
          | some n => exact iff_of_false (fun h => by cases h) (fun h => by cases h)
      | _ => exact iff_of_true rfl trivial
  | _ => exact iff_of_true rfl trivial

/-- **The two texts of a scalar agree** under a scalar kind iff it has the representation of the
kind. -/
theorem filterText_eq_canonicalText_iff {kind : Kind} (hkind : kind.isScalar = true) (v : Value) :
    v.filterText kind = v.canonicalText ↔ HasForm kind v := by
  -- where the representation changes, one text is that of a double and the other a whole number's
  cases kind with
  | array | object => cases hkind
  | string | boolean => exact iff_of_true (by cases v <;> rfl) trivial
  | number =>
      cases v with
      | int n =>
          refine iff_of_false (fun h => ?_) id
          exact plainText_ne_intText _ _ (Option.some.inj h)
      | _ => exact iff_of_true rfl trivial
  | integer =>
      cases v with
      | float x =>
          show some ((wholeNumber? x).elim x.plainText intText) = some x.plainText ↔
            wholeNumber? x = none
          cases wholeNumber? x with
          | none => exact iff_of_true rfl rfl
          | some n =>
              refine iff_of_false (fun h => ?_) (fun h => by cases h)
              exact plainText_ne_intText _ _ (Option.some.inj h).symm
      | _ => exact iff_of_true rfl trivial

/-! ## Texts that filters compare -/

/-- **A value keeps the text that filters compare** when it takes the representation of a kind. -/
theorem filterText_declaredAs (kind : Kind) (v : Value) :
    (v.declaredAs kind).filterText kind = v.filterText kind := by
  -- a whole number declared as a number becomes the double whose text it has already
  cases kind with
  | number => cases v <;> rfl
  | integer =>
      cases v with
      | float x =>
          show ((wholeNumber? x).elim (float x) int).filterText .integer
            = some ((wholeNumber? x).elim x.plainText intText)
          cases hwhole : wholeNumber? x with
          | none =>
              show some ((wholeNumber? x).elim x.plainText intText) = some x.plainText
              rw [hwhole]
              rfl
          | some n => rfl
      | _ => rfl
  | _ => rfl

/-- The representation that a value takes is that of the kind. -/
theorem hasForm_declaredAs (kind : Kind) (v : Value) : HasForm kind (v.declaredAs kind) := by
  cases kind with
  | number => cases v <;> exact trivial
  | integer =>
      cases v with
      | float x =>
          -- a double that stands for no whole number is left as it is
          show HasForm .integer ((wholeNumber? x).elim (float x) int)
          cases hwhole : wholeNumber? x with
          | none => exact hwhole
          | some n => exact trivial
      | _ => exact trivial
  | _ => cases v <;> exact trivial

/-- Null has no text that filters compare. -/
theorem ne_null_of_filterText {kind : Kind} {v : Value} {text : String}
    (h : v.filterText kind = some text) : v ≠ .null := by
  rintro rfl
  cases kind <;> cases h

/-- Only scalar kinds have texts that filters compare. -/
theorem isScalar_of_filterText {kind : Kind} {v : Value} {text : String}
    (h : v.filterText kind = some text) : kind.isScalar = true := by
  cases kind with
  | array | object => cases h
  | _ => rfl

end Value

end QueryableApi
