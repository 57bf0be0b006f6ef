import Mathlib.Algebra.Order.Ring.Nat
import Mathlib.Order.Monotone.Basic
import QueryableApi.Double

/-! # Rounding to doubles

The magnitudes of doubles grow strictly with their ranks (`strictMono_unitsOfRank`). A quotient rounds to
a whole number of steps, of which each is as long as the distance between two magnitudes there
(`unitsOfRank_rankOfUnits`). So a whole number is a double iff it has 53 significant bits
(`units_ofInt_iff`). -/

namespace QueryableApi.Double

/-- The number of fractions is a power of two. -/
theorem fractionCount_eq : fractionCount = 2 ^ 52 := rfl

/-- One is a power of two in units. The exponent is named, since the power is too large to be worked
out. -/
theorem exists_unitsPerOne : ∃ k, k = 1074 ∧ unitsPerOne = 2 ^ k := by
  obtain ⟨k, hk⟩ : ∃ k, k = 1074 := ⟨_, rfl⟩
  exact ⟨k, hk, by rw [unitsPerOne, ← hk, Nat.one_shiftLeft]⟩

/-- One is a positive number of units. -/
theorem unitsPerOne_pos : 0 < unitsPerOne := by
  obtain ⟨k, -, hunits⟩ := exists_unitsPerOne
  rw [hunits]
  exact Nat.two_pow_pos k

/-! ## Magnitudes -/

/-- A fraction with its leading one, doubled some times. Doubling the fraction count once more is the first
magnitude with the next exponent. -/
theorem unitsOfRank_add (shift : Nat) {steps : Nat} (hlow : fractionCount ≤ steps)
    (hhigh : steps ≤ 2 * fractionCount) :
    unitsOfRank (shift * fractionCount + steps) = steps * 2 ^ shift := by
  have hpos : 0 < fractionCount := by decide
  rw [unitsOfRank, if_neg (by omega), Nat.shiftLeft_eq]
  rcases Nat.lt_or_eq_of_le hhigh with hlt | rfl
  · -- the remainder of the rank is the fraction without its leading one
    have hsplit : shift * fractionCount + steps
        = fractionCount * (shift + 1) + (steps - fractionCount) := by
      rw [Nat.mul_add, Nat.mul_one, Nat.mul_comm fractionCount shift]
      omega
    rw [hsplit, Nat.mul_add_mod, Nat.mul_add_div hpos, Nat.mod_eq_of_lt (by omega),
      Nat.div_eq_of_lt (by omega), Nat.add_sub_cancel' hlow, Nat.add_zero, Nat.add_sub_cancel]
  · -- no remainder is left, and the exponent is one more
    have hsplit : shift * fractionCount + 2 * fractionCount = fractionCount * (shift + 2) := by
      rw [← Nat.add_mul, Nat.mul_comm]
    rw [hsplit, Nat.mul_mod_right, Nat.mul_div_right _ hpos, Nat.add_zero, Nat.add_sub_assoc (by decide),
      Nat.pow_add, Nat.pow_one, Nat.mul_comm (2 ^ shift), ← Nat.mul_assoc, Nat.mul_comm 2]

/-- The least magnitudes count the units. -/
theorem unitsOfRank_of_le {rank : Nat} (h : rank ≤ 2 * fractionCount) : unitsOfRank rank = rank := by
  by_cases hlow : fractionCount ≤ rank
  · have := unitsOfRank_add 0 hlow h
    rwa [Nat.zero_mul, Nat.zero_add, Nat.pow_zero, Nat.mul_one] at this
  · rw [unitsOfRank, if_pos (by omega)]

/-- Each magnitude is smaller than the next one. -/
theorem unitsOfRank_lt_succ (rank : Nat) : unitsOfRank rank < unitsOfRank (rank + 1) := by
  have hpos : 0 < fractionCount := by decide
  by_cases hlow : rank < fractionCount
  · rw [unitsOfRank_of_le (by omega), unitsOfRank_of_le (by omega)]
    exact Nat.lt_succ_self rank
  · -- the two are steps of the same length
    obtain ⟨shift, hshift⟩ : ∃ shift, rank / fractionCount = shift + 1 :=
      ⟨rank / fractionCount - 1, by
        have := Nat.div_pos (Nat.le_of_not_lt hlow) hpos
        omega⟩
    have hmod := Nat.mod_lt rank hpos
    have hrank : rank = shift * fractionCount + (fractionCount + rank % fractionCount) := by
      have := Nat.div_add_mod rank fractionCount
      rw [hshift, Nat.mul_add, Nat.mul_one, Nat.mul_comm fractionCount] at this
      omega
    rw [hrank, Nat.add_assoc, unitsOfRank_add shift (by omega) (by omega),
      unitsOfRank_add shift (by omega) (by omega)]
    exact Nat.mul_lt_mul_of_pos_right (Nat.lt_succ_self _) (Nat.two_pow_pos shift)

/-- **Magnitudes grow strictly with their ranks.** -/
theorem strictMono_unitsOfRank : StrictMono unitsOfRank := strictMono_nat_of_lt_succ unitsOfRank_lt_succ

/-! ## Rounding -/

variable {num den : Nat}

/-- A rounded quotient is not below a whole number that the quotient is not below. -/
theorem le_roundQuotient {k : Nat} (hden : 0 < den) (h : k * den ≤ num) : k ≤ roundQuotient num den := by
  have hfloor : k ≤ num / den := (Nat.le_div_iff_mul_le hden).mpr h
  simp only [roundQuotient]
  split <;> omega

/-- A rounded quotient is at most a whole number that the quotient is below. -/
theorem roundQuotient_le {k : Nat} (hden : 0 < den) (h : num < k * den) : roundQuotient num den ≤ k := by
  have hfloor : num / den < k := (Nat.div_lt_iff_lt_mul hden).mpr h
  simp only [roundQuotient]
  split <;> omega

/-- Rounding keeps the whole quotients, and no others. -/
theorem roundQuotient_mul_eq_iff (hden : 0 < den) : roundQuotient num den * den = num ↔ den ∣ num := by
  constructor
  · exact fun h => ⟨_, by rw [Nat.mul_comm]; exact h.symm⟩
  · intro h
    have hmod : num % den = 0 := Nat.mod_eq_zero_of_dvd h
    have hround : roundQuotient num den = num / den := by
      simp only [roundQuotient, hmod]
      exact if_pos (by simp [hden])
    rw [hround, Nat.div_mul_cancel h]

/-- How often the length of a step is doubled at a quotient. -/
def shiftOf (num den : Nat) : Nat := Nat.log2 (num / den) - 52

/-- The number of steps is at most twice the number of fractions, and at least that if the steps are longer
than a unit. -/
theorem roundQuotient_bounds (hden : 0 < den) :
    roundQuotient num (den <<< shiftOf num den) ≤ 2 * fractionCount ∧
      (shiftOf num den ≠ 0 → fractionCount ≤ roundQuotient num (den <<< shiftOf num den)) := by
  have hstep : 0 < den <<< shiftOf num den := by
    rw [Nat.shiftLeft_eq]
    exact Nat.mul_pos hden (Nat.two_pow_pos _)
  constructor
  · -- the quotient is below the next power of two behind its logarithm
    refine roundQuotient_le hstep ?_
    have hlog : num / den < 2 ^ (53 + shiftOf num den) :=
      Nat.lt_of_lt_of_le Nat.lt_log2_self (Nat.pow_le_pow_right (by decide) (by rw [shiftOf]; omega))
    calc num < 2 ^ (53 + shiftOf num den) * den := (Nat.div_lt_iff_lt_mul hden).mp hlog
      _ = 2 * fractionCount * den <<< shiftOf num den := by
          have htwice : 2 ^ 53 = 2 * fractionCount := by decide
          rw [Nat.shiftLeft_eq, Nat.pow_add, Nat.mul_assoc, Nat.mul_comm (2 ^ shiftOf num den), htwice]
  · -- if the length is doubled at all, the subtraction in `shiftOf` loses nothing
    intro hshift
    refine le_roundQuotient hstep ?_
    have hne : num / den ≠ 0 := by
      intro hzero
      rw [shiftOf, hzero] at hshift
      exact hshift rfl
    have hlog : 2 ^ (52 + shiftOf num den) ≤ num / den := by
      have : 52 + shiftOf num den = Nat.log2 (num / den) := by
        rw [shiftOf] at hshift ⊢
        omega
      rw [this]
      exact Nat.log2_self_le hne
    calc fractionCount * den <<< shiftOf num den = 2 ^ (52 + shiftOf num den) * den := by
          rw [fractionCount_eq, Nat.shiftLeft_eq, Nat.pow_add, Nat.mul_assoc, Nat.mul_comm den]
      _ ≤ num := (Nat.le_div_iff_mul_le hden).mp hlog

/-- **Rounding counts steps**: the magnitude that a quotient rounds to is a whole number of them. -/
theorem unitsOfRank_rankOfUnits (hden : 0 < den) :
    unitsOfRank (rankOfUnits num den)
      = roundQuotient num (den <<< shiftOf num den) * 2 ^ shiftOf num den := by
  obtain ⟨hhigh, hlow⟩ := @roundQuotient_bounds num den hden
  show unitsOfRank (shiftOf num den * fractionCount + roundQuotient num (den <<< shiftOf num den)) = _
  by_cases hshift : shiftOf num den = 0
  · rw [hshift] at hhigh ⊢
    rw [Nat.zero_mul, Nat.zero_add, Nat.pow_zero, Nat.mul_one, unitsOfRank_of_le hhigh]
  · exact unitsOfRank_add _ (hlow hshift) hhigh

/-- A quotient rounds to a rank that is bounded by its logarithm. -/
theorem rankOfUnits_le (hden : 0 < den) : rankOfUnits num den ≤ (shiftOf num den + 2) * fractionCount := by
  obtain ⟨hhigh, -⟩ := @roundQuotient_bounds num den hden
  show shiftOf num den * fractionCount + roundQuotient num (den <<< shiftOf num den) ≤ _
  rw [Nat.add_mul]
  exact Nat.add_le_add_left hhigh _

/-! ## Whole numbers -/

/-- A number **has few bits**: at most 53 of them are significant. -/
def HasFewBits (n : Nat) : Prop := ∃ m e, m < 2 ^ 53 ∧ n = m * 2 ^ e

/-- The last bits of a number are zero where it has few. -/
theorem hasFewBits_iff (n : Nat) : HasFewBits n ↔ 2 ^ (Nat.log2 n - 52) ∣ n := by
  by_cases hzero : n = 0
  · subst hzero
    exact iff_of_true ⟨0, 0, by decide, rfl⟩ ⟨0, rfl⟩
  constructor
  · -- the exponent is no less than the number of bits beyond 53
    rintro ⟨m, e, hm, rfl⟩
    have hlog : Nat.log2 (m * 2 ^ e) < 53 + e := by
      rw [Nat.log2_lt hzero, Nat.pow_add]
      exact Nat.mul_lt_mul_of_pos_right hm (Nat.two_pow_pos e)
    exact Nat.dvd_trans (Nat.pow_dvd_pow 2 (n := e) (by omega)) (Nat.dvd_mul_left _ _)
  · intro h
    obtain ⟨m, hm⟩ := h
    refine ⟨m, Nat.log2 n - 52, ?_, by rw [Nat.mul_comm]; exact hm⟩
    by_contra hge
    have hlarge : 2 ^ (Nat.log2 n - 52) * 2 ^ 53 ≤ n :=
      (Nat.mul_le_mul_left _ (Nat.le_of_not_lt hge)).trans_eq hm.symm
    have hlog : n < 2 ^ (Nat.log2 n + 1) := Nat.lt_log2_self
    rw [← Nat.pow_add] at hlarge
    exact absurd (Nat.lt_of_le_of_lt hlarge hlog)
      (Nat.not_lt.mpr (Nat.pow_le_pow_right (by decide) (by omega)))

/-- Doubling does not change the number of significant bits. -/
theorem hasFewBits_mul_two_pow (n k : Nat) : HasFewBits (n * 2 ^ k) ↔ HasFewBits n := by
  constructor
  · rintro ⟨m, e, hm, heq⟩
    -- either the powers cancel, or the number is itself no more than `m`
    rcases Nat.le_total k e with hle | hle
    · refine ⟨m, e - k, hm, Nat.eq_of_mul_eq_mul_right (Nat.two_pow_pos k) ?_⟩
      rw [heq, Nat.mul_assoc, ← Nat.pow_add, Nat.sub_add_cancel hle]
    · refine ⟨n, 0, Nat.lt_of_le_of_lt ?_ hm, (Nat.mul_one n).symm⟩
      have hn : n * 2 ^ (k - e) = m := by
        refine Nat.eq_of_mul_eq_mul_right (Nat.two_pow_pos e) ?_
        rw [← heq, Nat.mul_assoc, ← Nat.pow_add, Nat.sub_add_cancel hle]
      rw [← hn]
      exact Nat.le_mul_of_pos_right n (Nat.two_pow_pos _)
  · rintro ⟨m, e, hm, rfl⟩
    exact ⟨m, e + k, hm, by rw [Nat.mul_assoc, ← Nat.pow_add]⟩

/-- A whole number of units is a magnitude iff it has few bits. -/
theorem unitsOfRank_rankOfUnits_eq_iff (n : Nat) : unitsOfRank (rankOfUnits n 1) = n ↔ HasFewBits n := by
  have hshift : shiftOf n 1 = Nat.log2 n - 52 := by rw [shiftOf, Nat.div_one]
  rw [unitsOfRank_rankOfUnits Nat.one_pos, hasFewBits_iff, Nat.one_shiftLeft, hshift,
    roundQuotient_mul_eq_iff (Nat.two_pow_pos _)]

/-- A whole number of up to 64 bits rounds to a finite double, with its sign. -/
theorem ofInt_eq_finite {n : Int} (hn : n.natAbs < 2 ^ 64) :
    ∃ x : Finite, ofInt n = .finite x ∧ x.negative = decide (n < 0) ∧
      x.magnitude = unitsOfRank (rankOfUnits (n.natAbs * unitsPerOne) 1) := by
  obtain ⟨k, hk, hunits⟩ := exists_unitsPerOne
  have hlog : Nat.log2 (n.natAbs * unitsPerOne) < 64 + k := by
    by_cases hzero : n.natAbs * unitsPerOne = 0
    · rw [hzero]
      exact Nat.lt_of_lt_of_le (by decide) (Nat.le_add_right 64 k)
    · rw [Nat.log2_lt hzero, hunits, Nat.pow_add]
      exact Nat.mul_lt_mul_of_pos_right hn (Nat.two_pow_pos k)
  have hrank : rankOfUnits (n.natAbs * unitsPerOne) 1 < rankCount := by
    refine Nat.lt_of_le_of_lt (rankOfUnits_le Nat.one_pos) ?_
    refine Nat.mul_lt_mul_of_pos_right ?_ (by decide)
    rw [shiftOf, Nat.div_one]
    omega
  exact ⟨⟨decide (n < 0), _, hrank⟩, by rw [ofInt, ofRatio, ofRank, dif_pos hrank], rfl, rfl⟩

/-- **A whole number is a double** iff it has few bits. -/
theorem units_ofInt_iff {n : Int} (hn : n.natAbs < 2 ^ 64) :
    ∃ x : Finite, ofInt n = .finite x ∧ (x.units = n * unitsPerOne ↔ HasFewBits n.natAbs) := by
  obtain ⟨x, hx, hsign, hmagnitude⟩ := ofInt_eq_finite hn
  refine ⟨x, hx, ?_⟩
  have hiff : x.units = n * unitsPerOne ↔ x.magnitude = n.natAbs * unitsPerOne := by
    rw [Finite.units, hsign, ← Int.natCast_inj, Int.natCast_mul]
    rcases Int.lt_or_le n 0 with hneg | hpos
    · rw [decide_eq_true hneg, if_pos rfl, Int.ofNat_natAbs_of_nonpos (Int.le_of_lt hneg), Int.neg_mul]
      omega
    · rw [decide_eq_false (Int.not_lt.mpr hpos), if_neg Bool.false_ne_true, Int.natAbs_of_nonneg hpos]
  obtain ⟨k, -, hunits⟩ := exists_unitsPerOne
  rw [hiff, hmagnitude, unitsOfRank_rankOfUnits_eq_iff, hunits, hasFewBits_mul_two_pow]

/-- The units of a double have its magnitude. -/
theorem Finite.natAbs_units (x : Finite) : x.units.natAbs = x.magnitude := by
  rw [units]
  split
  · rw [Int.natAbs_neg, Int.natAbs_natCast]
  · exact Int.natAbs_natCast _

/-- A double stands for the whole number that its units count. -/
theorem Finite.whole?_eq_some_iff {x : Finite} {n : Int} :
    x.whole? = some n ↔ x.units = n * unitsPerOne := by
  have hne : (unitsPerOne : Int) ≠ 0 := by
    have := unitsPerOne_pos
    omega
  have hdvd : x.magnitude % unitsPerOne = 0 ↔ (unitsPerOne : Int) ∣ x.units := by
    rw [← Nat.dvd_iff_mod_eq_zero, ← x.natAbs_units, Int.ofNat_dvd_left]
  rw [whole?]
  by_cases hwhole : (unitsPerOne : Int) ∣ x.units
  · rw [if_pos (hdvd.mpr hwhole), Option.some.injEq]
    constructor
    · rintro rfl
      exact (Int.ediv_mul_cancel hwhole).symm
    · intro h
      rw [h, Int.mul_ediv_cancel _ hne]
  · rw [if_neg (mt hdvd.mp hwhole)]
    refine iff_of_false (fun h => by cases h) fun h => hwhole ?_
    rw [h]
    exact Int.dvd_mul_left _ _

/-- A double is determined by its sign and its rank. -/
theorem Finite.eq_of_rank_eq {x y : Finite} (hsign : x.negative = y.negative)
    (hrank : x.rank.val = y.rank.val) : x = y := by
  cases x
  cases y
  cases hsign
  cases Fin.ext hrank
  rfl

end QueryableApi.Double
