/-! # Blank characters and trimming

A character is blank if it has the Unicode property `White_Space`; there are twenty-five of them.
Trimming removes the blanks at both ends of a text and leaves those inside it.
-/

namespace QueryableApi.Text

/-- Whether a character has the Unicode property `White_Space`. -/
def isBlank (c : Char) : Bool :=
  let n := c.toNat
  (0x09 ≤ n && n ≤ 0x0D) || n == 0x20 || n == 0x85 || n == 0xA0 || n == 0x1680
    || (0x2000 ≤ n && n ≤ 0x200A) || n == 0x2028 || n == 0x2029 || n == 0x202F || n == 0x205F
    || n == 0x3000

/-- The characters without the blanks at their start. -/
def dropBlanks (cs : List Char) : List Char := cs.dropWhile isBlank

/-- The characters without the blanks at their end. -/
def dropBlanksEnd (cs : List Char) : List Char := (cs.reverse.dropWhile isBlank).reverse

/-- The text without the blanks at its two ends. -/
def trim (s : String) : String := String.ofList (dropBlanksEnd (dropBlanks s.toList))

/-- Whether a text holds nothing but blanks. -/
def isBlankText (s : String) : Bool := s.toList.all isBlank

/-- A text is trimmed away entirely iff it holds nothing but blanks. -/
theorem trim_eq_empty_iff (s : String) : trim s = "" ↔ isBlankText s = true := by
  have key : ∀ cs : List Char, dropBlanksEnd (dropBlanks cs) = [] ↔ cs.all isBlank = true := by
    intro cs
    induction cs with
    | nil => simp [dropBlanksEnd, dropBlanks]
    | cons c rest ih =>
      by_cases h : isBlank c = true
      · simpa [dropBlanks, List.dropWhile_cons, h] using ih
      · simp only [Bool.not_eq_true] at h
        have hne : List.dropWhile isBlank (rest.reverse ++ [c]) ≠ [] := by
          rw [List.dropWhile_append]
          split <;> simp_all
        simp [dropBlanks, dropBlanksEnd, h, hne]
  rw [isBlankText, ← key, trim]
  constructor
  · intro h
    have := congrArg String.toList h
    simpa using this
  · intro h
    simp [h]

end QueryableApi.Text
