import QueryableApi.Proofs.Decimal
import QueryableApi.Proofs.Value

/-! # Numbers under a declared kind

Which numbers keep their value in the representation of a declared kind: a whole number becomes the double
that is nearest to it, which is the same number iff it has at most 53 significant bits, and of the doubles
that stand for a whole number only `2 ^ 63` becomes another one (`number?_declaredAs_iff`). The texts that
filters compare tell numbers apart as far as their representations do (`filterText_eq_iff`), so the numbers
that are kept are told apart, and each of the others has the text of the number that it becomes
(`declaredAs_keeps_iff`). -/

namespace QueryableApi

/-- A double denotes a whole number iff its units count it. -/
theorem Double.Finite.value_eq_intCast_iff {x : Double.Finite} {n : Int} :
    x.value = n ↔ x.units = n * Double.unitsPerOne := by
  have hU : (Double.unitsPerOne : ℚ) ≠ 0 := by exact_mod_cast Double.unitsPerOne_pos.ne'
  rw [value, div_eq_iff hU]
  exact_mod_cast Iff.rfl

namespace Value

variable {kind : Kind} {v w : Value} {a b : ℚ}

/-- The number that a value denotes, if it denotes one. -/
def number? : Value → Option ℚ
  | int n => some n.toInt
  | float (.finite x) => some x.value
  | _ => none

/-- A value **keeps its number** in the representation of a kind: a whole number declared as a number has at
most 53 significant bits, a double declared as an integer is not `2 ^ 63`. -/
def KeepsNumber : Kind → Value → Prop
  | .number, int n => Double.HasFewBits n.toInt.natAbs
  | .integer, float (.finite x) => x.value ≠ 2 ^ 63
  | _, _ => True

/-! ## Texts -/

/-- The text of a whole number is a minus sign if it is negative, and its digits. -/
theorem toList_intText (n : Int64) :
    (intText n).toList = (if n.toInt < 0 then ['-'] else []) ++ Nat.toDigits 10 n.toInt.natAbs := by
  rw [intText, Int.toString_eq_repr, Int.repr_eq_if]
  split
  · next hpos =>
    rw [if_neg (Int.not_lt.mpr hpos), Nat.toList_repr, List.nil_append]
    congr 1
    omega
  · next hneg =>
    rw [if_pos (Int.not_le.mp hneg), String.toList_append, Nat.toList_repr]
    congr 2
    omega

/-- The texts of whole numbers tell them apart. -/
theorem intText_injective {m n : Int64} (h : intText m = intText n) : m = n := by
  have hlists := congrArg String.toList h
  rw [toList_intText, toList_intText] at hlists
  have hminus : ∀ k, '-' ∉ Nat.toDigits 10 k := Decimal.not_mem_toDigits (by decide)
  -- digits have no minus sign, so the signs are the same, and then the digits are
  have hsign : m.toInt < 0 ↔ n.toInt < 0 := by
    have hmem : ∀ k : Int64, '-' ∈ (if k.toInt < 0 then ['-'] else []) ++ Nat.toDigits 10 k.toInt.natAbs
        ↔ k.toInt < 0 := by
      intro k
      rw [List.mem_append, or_iff_left (hminus _)]
      split <;> simp_all
    rw [← hmem m, hlists, hmem]
  simp only [hsign, List.append_cancel_left_eq] at hlists
  have habs : m.toInt.natAbs = n.toInt.natAbs := by
    rw [← Nat.ofDigitChars_ten_toDigits (n := m.toInt.natAbs), hlists, Nat.ofDigitChars_ten_toDigits]
  exact Int64.toInt_inj.mp (by omega)

/-- **The texts of numbers tell their representations apart.** -/
theorem canonicalText_injective (hv : v.number? = some a) (hw : w.number? = some b)
    (h : v.canonicalText = w.canonicalText) : v = w := by
  cases v with
  | int m =>
      cases w with
      | int n => rw [intText_injective (Option.some.inj h)]
      | float y => exact absurd (Option.some.inj h).symm (plainText_ne_intText y m)
      | _ => cases hw
  | float x =>
      cases w with
      | int n => exact absurd (Option.some.inj h) (plainText_ne_intText x n)
      | float y =>
          cases x with
          | finite x =>
              cases y with
              | finite y => rw [Double.plainText_injective (Option.some.inj h)]
              | _ => cases hw
          | _ => cases hv
      | _ => cases hw
  | _ => cases hv

/-- The text of a number under a scalar kind is that of its representation. -/
theorem filterText_eq_canonicalText_declaredAs (hkind : kind.isScalar = true) (hv : v.number? = some a) :
    v.filterText kind = (v.declaredAs kind).canonicalText := by
  cases v with
  | int n => cases kind <;> first | rfl | cases hkind
  | float x =>
      cases kind with
      | integer =>
          show some ((wholeNumber? x).elim x.plainText intText)
            = ((wholeNumber? x).elim (float x) int).canonicalText
          cases wholeNumber? x <;> rfl
      | array | object => cases hkind
      | _ => rfl
  | _ => cases hv

/-! ## Representations -/

/-- A whole number rounds to a finite double, the same number iff it has few bits. -/
theorem doubleOf_eq_finite (n : Int64) :
    ∃ x : Double.Finite, doubleOf n = .finite x ∧
      (x.value = n.toInt ↔ Double.HasFewBits n.toInt.natAbs) := by
  have hbound : n.toInt.natAbs < 2 ^ 64 := by
    have hlow := n.le_toInt
    have hhigh := n.toInt_lt
    omega
  obtain ⟨x, hx, hiff⟩ := Double.units_ofInt_iff hbound
  exact ⟨x, hx, Double.Finite.value_eq_intCast_iff.trans hiff⟩

/-- A whole double within the bounds, of which the upper one is one too large, stands for a whole number
of 64 bits, the same number iff it is not that bound. -/
theorem wholeNumber?_eq_none_or (x : Double.Finite) :
    wholeNumber? (.finite x) = none ∧ x.value ≠ 2 ^ 63 ∨
      ∃ n : Int64, wholeNumber? (.finite x) = some n ∧ (x.value = n.toInt ↔ x.value ≠ 2 ^ 63) := by
  have hmin : Int64.minValue.toInt = -2 ^ 63 := by decide
  have hmax : Int64.maxValue.toInt = 2 ^ 63 - 1 := by decide
  have hpower : x.value = 2 ^ 63 ↔ x.whole? = some (2 ^ 63) := by
    rw [Double.Finite.whole?_eq_some_iff, ← Double.Finite.value_eq_intCast_iff]
    norm_num
  cases hwhole : x.whole? with
  | none =>
      refine .inl ⟨by rw [wholeNumber?, hwhole], fun h => ?_⟩
      rw [hpower, hwhole] at h
      cases h
  | some n =>
      have hvalue : x.value = n :=
        Double.Finite.value_eq_intCast_iff.mpr (Double.Finite.whole?_eq_some_iff.mp hwhole)
      have hnumber : wholeNumber? (.finite x)
          = if Int64.minValue.toInt ≤ n ∧ n ≤ Int64.maxValue.toInt + 1 then
              some (Int64.ofInt (min n Int64.maxValue.toInt))
            else none := by
        rw [wholeNumber?, hwhole]
      rw [hwhole, Option.some.injEq] at hpower
      by_cases hrange : Int64.minValue.toInt ≤ n ∧ n ≤ Int64.maxValue.toInt + 1
      · -- the minimum with the greatest whole number is another one only at the bound
        have hint : (Int64.ofInt (min n Int64.maxValue.toInt)).toInt = min n Int64.maxValue.toInt :=
          Int64.toInt_ofInt_of_le (by omega) (by omega)
        refine .inr ⟨_, hnumber.trans (if_pos hrange), ?_⟩
        rw [hint, Ne, hpower, hvalue, Int.cast_inj]
        omega
      · refine .inl ⟨hnumber.trans (if_neg hrange), fun h => hrange ?_⟩
        rw [hpower] at h
        omega

/-- A number stays one in the representation of a kind, the same one iff it is kept. -/
theorem exists_number?_declaredAs (kind : Kind) (hv : v.number? = some a) :
    ∃ b, (v.declaredAs kind).number? = some b ∧ (b = a ↔ KeepsNumber kind v) := by
  -- only the two kinds of numbers change a representation
  cases v with
  | int n =>
      obtain rfl := Option.some.inj hv
      cases kind with
      | number =>
          obtain ⟨x, hx, hiff⟩ := doubleOf_eq_finite n
          exact ⟨x.value, by rw [declaredAs, hx]; rfl, hiff⟩
      | _ => exact ⟨_, rfl, iff_of_true rfl trivial⟩
  | float x =>
      cases x with
      | finite x =>
          obtain rfl := Option.some.inj hv
          cases kind with
          | integer =>
              rcases wholeNumber?_eq_none_or x with ⟨hnone, hbound⟩ | ⟨n, hsome, hiff⟩
              · exact ⟨x.value, by rw [declaredAs, hnone]; rfl, iff_of_true rfl hbound⟩
              · exact ⟨n.toInt, by rw [declaredAs, hsome]; rfl, eq_comm.trans hiff⟩
          | _ => exact ⟨_, rfl, iff_of_true rfl trivial⟩
      | _ => cases hv
  | _ => cases hv

/-- **A number keeps its value** in the representation of a kind iff it has few enough bits, or is not the
bound that is one too large. -/
theorem number?_declaredAs_iff (kind : Kind) (hv : v.number? = some a) :
    (v.declaredAs kind).number? = some a ↔ KeepsNumber kind v := by
  obtain ⟨b, hb, hiff⟩ := exists_number?_declaredAs kind hv
  rw [hb, Option.some.injEq, hiff]

/-- **Numbers have the same text** under a scalar kind iff they have the same representation. -/
theorem filterText_eq_iff (hkind : kind.isScalar = true) (hv : v.number? = some a)
    (hw : w.number? = some b) :
    v.filterText kind = w.filterText kind ↔ v.declaredAs kind = w.declaredAs kind := by
  obtain ⟨c, hc, -⟩ := exists_number?_declaredAs kind hv
  obtain ⟨d, hd, -⟩ := exists_number?_declaredAs kind hw
  rw [filterText_eq_canonicalText_declaredAs hkind hv, filterText_eq_canonicalText_declaredAs hkind hw]
  exact ⟨canonicalText_injective hc hd, fun h => by rw [h]⟩

/-- **Numbers under a declared kind**: a number is handed out as the same number iff it is kept, numbers
have the same text iff they are handed out alike, so numbers that are kept and have the same text are the
same, and one that is not kept has the text of another number. -/
theorem declaredAs_keeps_iff (hkind : kind.isScalar = true) (hv : v.number? = some a) :
    ((v.declaredAs kind).number? = some a ↔ KeepsNumber kind v) ∧
      (∀ (w : Value) b, w.number? = some b →
        (v.filterText kind = w.filterText kind ↔ v.declaredAs kind = w.declaredAs kind)) ∧
      (KeepsNumber kind v → ∀ (w : Value) b, w.number? = some b → KeepsNumber kind w →
        v.filterText kind = w.filterText kind → a = b) ∧
      (¬KeepsNumber kind v →
        ∃ (w : Value) (b : ℚ), w.number? = some b ∧ v.filterText kind = w.filterText kind ∧ a ≠ b) := by
  refine ⟨number?_declaredAs_iff kind hv, fun w b hw => filterText_eq_iff hkind hv hw,
    fun hkeeps w b hw hkeepsw htext => ?_, fun hkeeps => ?_⟩
  · have hsame := (filterText_eq_iff hkind hv hw).mp htext
    have ha := (number?_declaredAs_iff kind hv).mpr hkeeps
    rw [hsame, (number?_declaredAs_iff kind hw).mpr hkeepsw] at ha
    exact (Option.some.inj ha).symm
  · -- the other number is the one that it becomes
    obtain ⟨b, hb, hiff⟩ := exists_number?_declaredAs kind hv
    exact ⟨_, b, hb, (filterText_declaredAs kind v).symm, fun h => hkeeps (hiff.mp h.symm)⟩

/-- A whole number with few bits is handed out as the same number, and not taken for another one that is
kept; the next one beyond 53 bits is not. -/
theorem declaredAs_keeps_whole :
    ((int 6).declaredAs .number).number? = some 6 ∧
      (∀ n : Int64, n.toInt.natAbs < 2 ^ 53 → (int 6).filterText .number = (int n).filterText .number →
        (6 : ℚ) = n.toInt) ∧
      ((int 9007199254740993).declaredAs .number).number? ≠ some 9007199254740993 := by
  have hsix : KeepsNumber .number (int 6) := ⟨6, 0, by decide, by decide⟩
  have hlarge : ¬KeepsNumber .number (int 9007199254740993) := by
    rw [KeepsNumber, Double.hasFewBits_iff]
    decide +kernel
  have hnumber : (int 6).number? = some 6 := by
    rw [number?]
    norm_cast
  obtain ⟨hkept, -, htexts, -⟩ := @declaredAs_keeps_iff .number (int 6) 6 rfl hnumber
  refine ⟨hkept.mpr hsix, fun n hn => ?_, ?_⟩
  · exact htexts hsix (int n) n.toInt rfl ⟨_, 0, hn, (Nat.mul_one _).symm⟩
  · have hnumber : (int 9007199254740993).number? = some 9007199254740993 := by
      rw [number?]
      norm_cast
    exact fun h => hlarge ((@declaredAs_keeps_iff .number (int 9007199254740993) _ rfl hnumber).1.mp h)

/-- The first whole number with more than 53 bits is handed out as its neighbour, whose text it has, and the
double `2 ^ 63` as the greatest whole number, whose text it has. -/
theorem declaredAs_changes_number :
    ((int 9007199254740993).declaredAs .number = (int 9007199254740992).declaredAs .number ∧
      (int 9007199254740993).filterText .number = (int 9007199254740992).filterText .number) ∧
    ∃ x : Double.Finite, x.value = 2 ^ 63 ∧
      (float (.finite x)).declaredAs .integer = int 9223372036854775807 ∧
      (float (.finite x)).filterText .integer = (int 9223372036854775807).filterText .integer := by
  constructor
  · have hdouble : doubleOf 9007199254740993 = doubleOf 9007199254740992 := by decide +kernel
    exact ⟨congrArg float hdouble, congrArg (fun x : Double => some x.plainText) hdouble⟩
  · refine ⟨⟨false, ⟨0x43e0000000000000, by decide⟩⟩, ?_, ?_⟩
    · have hwhole : (Double.Finite.mk false ⟨0x43e0000000000000, by decide⟩).whole? = some (2 ^ 63) := by
        decide +kernel
      rw [Double.Finite.value_eq_intCast_iff.mpr (Double.Finite.whole?_eq_some_iff.mp hwhole)]
      norm_num
    · have hnumber : wholeNumber? (.finite ⟨false, ⟨0x43e0000000000000, by decide⟩⟩)
          = some 9223372036854775807 := by
        decide +kernel
      have hdeclared : (float (.finite ⟨false, ⟨0x43e0000000000000, by decide⟩⟩)).declaredAs .integer
          = int 9223372036854775807 := by
        rw [declaredAs, hnumber]
        rfl
      exact ⟨hdeclared, by rw [← filterText_declaredAs, hdeclared]⟩

end Value

end QueryableApi
