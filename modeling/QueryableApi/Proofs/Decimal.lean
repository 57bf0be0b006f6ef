import Mathlib.Algebra.Order.Field.Power
import Mathlib.Algebra.Order.Field.Rat
import Mathlib.Tactic.FieldSimp
import Mathlib.Tactic.Linarith
import Mathlib.Tactic.NormNum
import Mathlib.Tactic.Positivity
import Mathlib.Tactic.Ring
import QueryableApi.Decimal.Layout
import QueryableApi.Proofs.Double

/-! # The plain notation of doubles

The plain notation tells all finite doubles apart (`Double.plainText_injective`). Positional notation
determines the number that it denotes (`read_positional`), the decimal that is written for a double rounds
to it (`roundsTo_shortest`), and no number rounds to two magnitudes (`RoundsTo.rank_unique`). -/

namespace QueryableApi

/-- The number that a finite double denotes. -/
def Double.Finite.value (x : Double.Finite) : ℚ := x.units / Double.unitsPerOne

namespace Decimal

/-- The number that a decimal denotes. -/
def value (d : Decimal) : ℚ := d.coefficient * (10 : ℚ) ^ d.exponent

/-! ## Positional notation -/

/-- The number that a text in positional notation denotes: its digits as a whole number, and a power of ten
for those behind the point. -/
def read (text : List Char) : ℚ :=
  Nat.ofDigitChars 10 (text.filter (· != '.')) 0 / 10 ^ (text.dropWhile (· != '.')).tail.length

/-- A number is read from the digits on both sides of the point. -/
theorem read_append {whole places : List Char} (hwhole : '.' ∉ whole) (hplaces : '.' ∉ places) :
    read (whole ++ '.' :: places) = Nat.ofDigitChars 10 (whole ++ places) 0 / 10 ^ places.length := by
  have hne : ∀ {cs : List Char}, '.' ∉ cs → ∀ c ∈ cs, (c != '.') = true := fun hcs c hc =>
    bne_iff_ne.mpr fun (h : c = '.') => hcs (h ▸ hc)
  have hfilter : (whole ++ '.' :: places).filter (· != '.') = whole ++ places := by
    rw [List.filter_append, List.filter_cons_of_neg (by decide), List.filter_eq_self.mpr (hne hwhole),
      List.filter_eq_self.mpr (hne hplaces)]
  have hdrop : (whole ++ '.' :: places).dropWhile (· != '.') = '.' :: places := by
    rw [List.dropWhile_append_of_pos (hne hwhole), List.dropWhile_cons_of_neg (by decide)]
  rw [read, hfilter, hdrop, List.tail_cons]

/-- The digits of a number are digits, and nothing else. -/
theorem not_mem_toDigits {c : Char} (hc : c.isDigit = false) (n : Nat) : c ∉ Nat.toDigits 10 n := by
  intro h
  rw [Nat.isDigit_of_mem_toDigits (by decide) (by decide) h] at hc
  cases hc

/-- Zeros are digits. -/
theorem not_mem_replicate {c : Char} (hc : c.isDigit = false) (n : Nat) : c ∉ List.replicate n '0' := by
  intro h
  rw [List.eq_of_mem_replicate h] at hc
  cases hc

/-- **Positional notation determines the number** that it denotes. -/
theorem read_positional (d : Decimal) : read d.positional.toList = d.value := by
  obtain ⟨coefficient, exponent⟩ := d
  have hpoint : '.'.isDigit = false := by decide
  have hdigits := not_mem_toDigits hpoint coefficient
  simp only [positional, value]
  split
  · next hexponent =>
    -- zeros up to the point, and one behind it
    obtain ⟨k, rfl⟩ := Int.eq_ofNat_of_zero_le hexponent
    have htext : (String.ofList (Nat.toDigits 10 coefficient) ++ zeros (k : Int).toNat ++ ".0").toList
        = (Nat.toDigits 10 coefficient ++ List.replicate k '0') ++ '.' :: ['0'] := by
      simp only [zeros, String.toList_append, String.toList_ofList, Int.toNat_natCast]
      rfl
    rw [htext, read_append (List.not_mem_append hdigits (not_mem_replicate hpoint k)) (by decide)]
    simp only [Nat.ofDigitChars_append, Nat.ofDigitChars_ten_toDigits, Nat.ofDigitChars_replicate_zero,
      Nat.ofDigitChars_cons, Nat.ofDigitChars_nil, List.length_singleton, zpow_natCast]
    push_cast
    ring
  · next hexponent =>
    obtain ⟨places, rfl⟩ : ∃ places : Nat, exponent = -(places : Int) := ⟨(-exponent).toNat, by omega⟩
    have hplaces : (- -(places : Int)).toNat = places := by omega
    simp only [hplaces, zpow_neg, zpow_natCast, ← div_eq_mul_inv]
    split
    · next hshort =>
      -- the point stands between two digits
      have htext : ∀ n, (String.ofList ((Nat.toDigits 10 coefficient).take n) ++ "."
            ++ String.ofList ((Nat.toDigits 10 coefficient).drop n)).toList
          = (Nat.toDigits 10 coefficient).take n ++ '.' :: (Nat.toDigits 10 coefficient).drop n := by
        intro n
        simp only [String.toList_append, String.toList_ofList, List.append_assoc]
        rfl
      rw [htext, read_append (fun h => hdigits (List.mem_of_mem_take h))
          (fun h => hdigits (List.mem_of_mem_drop h)),
        List.take_append_drop, Nat.ofDigitChars_ten_toDigits, List.length_drop, Nat.sub_sub_self hshort.le]
    · next hlong =>
      -- zeros behind the point
      have htext : ("0." ++ zeros (places - (Nat.toDigits 10 coefficient).length)
            ++ String.ofList (Nat.toDigits 10 coefficient)).toList
          = ['0'] ++ '.' :: (List.replicate (places - (Nat.toDigits 10 coefficient).length) '0'
            ++ Nat.toDigits 10 coefficient) := by
        simp only [zeros, String.toList_append, String.toList_ofList, List.append_assoc]
        rfl
      rw [htext, read_append (by decide) (List.not_mem_append (not_mem_replicate hpoint _) hdigits),
        List.length_append, List.length_replicate, Nat.sub_add_cancel (Nat.le_of_not_lt hlong)]
      simp [Nat.ofDigitChars_append, Nat.ofDigitChars_cons]

/-! ## Numbers that round to a magnitude -/

/-- A number **rounds to a rank**: it is at most half-way from the magnitude to its neighbours, and less
where the rank is odd. -/
structure RoundsTo (rank : Nat) (v : ℚ) : Prop where
  /-- It is not below the lower end. -/
  low_le : (Interval.ofRank rank).low ≤ v * (2 * Double.unitsPerOne)
  /-- It is not above the upper end. -/
  le_high : v * (2 * Double.unitsPerOne) ≤ (Interval.ofRank rank).high
  /-- It is at no end if the rank is odd. -/
  inside : rank % 2 = 1 → (Interval.ofRank rank).low < v * (2 * Double.unitsPerOne) ∧
    v * (2 * Double.unitsPerOne) < (Interval.ofRank rank).high

/-- The upper end of one magnitude is at most the lower end of a greater one, and less unless it is the
next. -/
theorem high_le_low {r s : Nat} (h : r < s) :
    (Interval.ofRank r).high ≤ (Interval.ofRank s).low ∧
      (r + 1 < s → (Interval.ofRank r).high < (Interval.ofRank s).low) := by
  have hlow : Double.unitsOfRank r ≤ Double.unitsOfRank (s - 1) :=
    Double.strictMono_unitsOfRank.monotone (by omega)
  have hhigh : Double.unitsOfRank (r + 1) ≤ Double.unitsOfRank s :=
    Double.strictMono_unitsOfRank.monotone (by omega)
  refine ⟨Nat.add_le_add hlow hhigh, fun hnext => Nat.add_lt_add_of_lt_of_le ?_ hhigh⟩
  exact Double.strictMono_unitsOfRank (by omega)

/-- **A number rounds to one rank only.** -/
theorem RoundsTo.rank_unique {r s : Nat} {v : ℚ} (hr : RoundsTo r v) (hs : RoundsTo s v) : r = s := by
  -- of two magnitudes the ends can only meet between neighbours, of which one has an odd rank
  have hnot : ∀ {r s : Nat}, RoundsTo r v → RoundsTo s v → ¬r < s := by
    intro r s hr hs hlt
    obtain ⟨hle, hnext⟩ := high_le_low hlt
    have hends : (Interval.ofRank s).low ≤ (Interval.ofRank r).high := by
      exact_mod_cast hs.low_le.trans hr.le_high
    have hstep : s = r + 1 := by
      by_contra hne
      exact absurd (hnext (by omega)) (Nat.not_lt.mpr hends)
    have hleq : ((Interval.ofRank r).high : ℚ) ≤ (Interval.ofRank s).low := by exact_mod_cast hle
    rcases Nat.mod_two_eq_zero_or_one r with heven | hodd
    · have := (hs.inside (by omega)).1
      linarith [hr.le_high]
    · have := (hr.inside hodd).2
      linarith [hs.low_le]
  rcases Nat.lt_trichotomy r s with h | h | h
  · exact absurd h (hnot hr hs)
  · exact h
  · exact absurd h (hnot hs hr)

/-- A magnitude rounds to its own rank. -/
theorem roundsTo_magnitude (rank : Nat) :
    RoundsTo rank (Double.unitsOfRank rank / Double.unitsPerOne) := by
  have hunits : (0 : ℚ) < Double.unitsPerOne := by exact_mod_cast Double.unitsPerOne_pos
  have hmid : (Double.unitsOfRank rank / Double.unitsPerOne : ℚ) * (2 * Double.unitsPerOne)
      = ((2 * Double.unitsOfRank rank : Nat) : ℚ) := by
    push_cast
    field_simp
  have hlow : Double.unitsOfRank (rank - 1) ≤ Double.unitsOfRank rank :=
    Double.strictMono_unitsOfRank.monotone (by omega)
  have hhigh := Double.unitsOfRank_lt_succ rank
  refine ⟨?_, ?_, fun hodd => ⟨?_, ?_⟩⟩ <;> rw [hmid] <;>
    simp only [Interval.ofRank, Nat.cast_le, Nat.cast_lt]
  · omega
  · omega
  · have : Double.unitsOfRank (rank - 1) < Double.unitsOfRank rank :=
      Double.strictMono_unitsOfRank (by omega)
    omega
  · omega

/-! ## The decimal of a double -/

/-- Half units count the number that a decimal denotes. -/
theorem halfUnits_eq (d : Decimal) :
    (d.halfUnits.1 : ℚ) = d.value * (2 * Double.unitsPerOne) * d.halfUnits.2 ∧ 0 < d.halfUnits.2 := by
  obtain ⟨coefficient, exponent⟩ := d
  refine ⟨?_, Nat.pow_pos (by decide)⟩
  simp only [halfUnits, value]
  rcases Int.le_total 0 exponent with h | h
  · obtain ⟨k, rfl⟩ := Int.eq_ofNat_of_zero_le h
    have hzero : (-(k : Int)).toNat = 0 := by omega
    rw [hzero, Int.toNat_natCast, zpow_natCast, Nat.pow_eq, Nat.pow_eq]
    push_cast
    ring
  · obtain ⟨k, rfl⟩ : ∃ k : Nat, exponent = -(k : Int) := ⟨(-exponent).toNat, by omega⟩
    have hzero : (-(k : Int)).toNat = 0 := by omega
    have hk : (- -(k : Int)).toNat = k := by omega
    rw [hzero, hk, zpow_neg, zpow_natCast, Nat.pow_eq, Nat.pow_eq]
    push_cast
    field_simp

/-- A member of the interval around a magnitude rounds to it. -/
theorem roundsTo_of_has {rank : Nat} {d : Decimal} (h : (Interval.ofRank rank).has d = true) :
    RoundsTo rank d.value := by
  obtain ⟨hvalue, hpos⟩ := d.halfUnits_eq
  have hden : (0 : ℚ) < d.halfUnits.2 := by exact_mod_cast hpos
  -- multiplied by the denominator, the comparisons with a bound are those of whole numbers
  have hle : ∀ n : Nat,
      n * d.halfUnits.2 ≤ d.halfUnits.1 ↔ (n : ℚ) ≤ d.value * (2 * Double.unitsPerOne) := by
    intro n
    rw [← mul_le_mul_iff_of_pos_right hden, ← hvalue]
    exact_mod_cast Iff.rfl
  have hge : ∀ n : Nat,
      d.halfUnits.1 ≤ n * d.halfUnits.2 ↔ d.value * (2 * Double.unitsPerOne) ≤ (n : ℚ) := by
    intro n
    rw [← mul_le_mul_iff_of_pos_right hden, ← hvalue]
    exact_mod_cast Iff.rfl
  simp only [Interval.has, Bool.and_eq_true] at h
  obtain ⟨-, h⟩ := h
  split at h
  · next hclosed =>
    have heven : rank % 2 = 0 := beq_iff_eq.mp hclosed
    simp only [Bool.and_eq_true, decide_eq_true_eq] at h
    exact ⟨(hle _).mp h.1, (hge _).mp h.2, fun hodd => absurd hodd (by omega)⟩
  · simp only [Bool.and_eq_true, decide_eq_true_eq] at h
    have hlow := lt_of_not_ge (mt (hge _).mpr (Nat.not_le.mpr h.1))
    have hhigh := lt_of_not_ge (mt (hle _).mpr (Nat.not_le.mpr h.2))
    exact ⟨hlow.le, hhigh.le, fun _ => ⟨hlow, hhigh⟩⟩

/-- Of two decimals one is taken only where it is a member. -/
theorem has_of_choice {has : Decimal → Bool} {prefersLower : Decimal → Decimal → Bool}
    {neighbours : Decimal × Decimal} {d : Decimal}
    (h : (match neighbours with
      | (lower, upper) =>
        match has lower, has upper with
        | true, true => some (if prefersLower lower upper then lower else upper)
        | true, false => some lower
        | false, true => some upper
        | false, false => none) = some d) : has d = true := by
  obtain ⟨lower, upper⟩ := neighbours
  dsimp only at h
  split at h
  · next hlower hupper =>
    obtain rfl := Option.some.inj h
    split
    · exact hlower
    · exact hupper
  · next hlower _ => exact Option.some.inj h ▸ hlower
  · next _ hupper => exact Option.some.inj h ▸ hupper
  · cases h

/-- What is taken of a grid is a member of the interval. -/
theorem has_of_onGrid? {i : Interval} {tie : Tie} {exponent : Int} {d : Decimal}
    (h : i.onGrid? tie exponent = some d) : i.has d = true := by
  -- unfolded as a function: unfolding its application makes the kernel work out the powers in it
  obtain ⟨onGrid, hunfold⟩ : ∃ f, f = @Interval.onGrid? := ⟨_, rfl⟩
  rw [← hunfold] at h
  delta Interval.onGrid? at hunfold
  subst hunfold
  exact @has_of_choice i.has (i.prefersLower tie) (i.neighbours exponent) d h

/-- A number of units in powers of ten. -/
theorem value_units (n k : Nat) :
    ((n * Nat.pow 5 k : Nat) : ℚ) * (10 : ℚ) ^ (-(k : Int)) = n / ((2 ^ k : Nat) : ℚ) := by
  have hten : (10 : ℚ) ^ k = 5 ^ k * 2 ^ k := by rw [← mul_pow]; norm_num
  rw [zpow_neg, zpow_natCast, hten, Nat.pow_eq]
  push_cast
  field_simp

/-- The exact decimal denotes the magnitude. -/
theorem value_exact (rank : Nat) : (exact rank).value = Double.unitsOfRank rank / Double.unitsPerOne := by
  obtain ⟨k, hk, hunits⟩ := Double.exists_unitsPerOne
  have hexact : exact rank = ⟨Double.unitsOfRank rank * Nat.pow 5 k, -(k : Int)⟩ := by
    have hexponent : (-1074 : Int) = -((1074 : Nat) : Int) := rfl
    rw [exact, hexponent, ← hk]
  rw [hexact, hunits]
  exact value_units _ k

/-- **The shortest decimal rounds to the rank.** -/
theorem roundsTo_shortest (tie : Tie) (rank : Nat) : RoundsTo rank (shortest tie rank).value := by
  rw [shortest]
  cases hfound : ((List.range 20).map fun (k : Nat) => exponentAbove rank - (k : Int)).findSome?
      ((Interval.ofRank rank).onGrid? tie) with
  | some d =>
      obtain ⟨exponent, -, hgrid⟩ := List.exists_of_findSome?_eq_some hfound
      exact roundsTo_of_has (has_of_onGrid? hgrid)
  | none =>
      show RoundsTo rank (exact rank).value
      rw [value_exact]
      exact roundsTo_magnitude rank

/-! ## The plain layout -/

/-- A power of two is at most one of ten with a third of its exponent. -/
theorem two_pow_le_ten_pow {a m : Nat} (h : a ≤ 3 * m) : 2 ^ a ≤ 10 ^ m :=
  calc 2 ^ a ≤ 2 ^ (3 * m) := Nat.pow_le_pow_right (by decide) h
    _ = 8 ^ m := by rw [Nat.pow_mul]
    _ ≤ 10 ^ m := Nat.pow_le_pow_left (by decide) m

/-- The upper end of a magnitude is bounded by a power of ten. The exponent is named, since the power is too
large to be worked out. -/
theorem high_ofRank_le {rank m : Nat} (hrank : rank < Double.rankCount) (hm : m = 400) :
    (Interval.ofRank rank).high ≤ 10 ^ m * (2 * Double.unitsPerOne) := by
  obtain ⟨k, hk, hunits⟩ := Double.exists_unitsPerOne
  obtain ⟨j, hj⟩ : ∃ j, j = 972 := ⟨_, rfl⟩
  have hcount : Double.unitsOfRank Double.rankCount = 2 ^ (52 + j) * 2 ^ k := by
    have hsplit : Double.rankCount = (j + k) * Double.fractionCount + Double.fractionCount := by
      rw [hj, hk]
      rfl
    rw [hsplit, Double.unitsOfRank_add _ (le_refl _) (by omega), Double.fractionCount_eq, Nat.pow_add 2 j,
      Nat.pow_add 2 52, Nat.mul_assoc]
  -- the first magnitude that is too large is one of the powers of two, times the units of one
  have hmax : Double.unitsOfRank Double.rankCount ≤ 10 ^ m * Double.unitsPerOne := by
    rw [hcount, hunits]
    exact Nat.mul_le_mul_right _ (two_pow_le_ten_pow (by omega))
  have hself : Double.unitsOfRank rank ≤ Double.unitsOfRank Double.rankCount :=
    Double.strictMono_unitsOfRank.monotone (by omega)
  have hnext : Double.unitsOfRank (rank + 1) ≤ Double.unitsOfRank Double.rankCount :=
    Double.strictMono_unitsOfRank.monotone (by omega)
  rw [Nat.mul_left_comm, Nat.two_mul]
  exact Nat.add_le_add (hself.trans hmax) (hnext.trans hmax)

/-- A number that rounds to a positive magnitude lies between two powers of ten. -/
theorem RoundsTo.bounds {rank m : Nat} {v : ℚ} (h : RoundsTo rank v) (hpos : 0 < rank)
    (hrank : rank < Double.rankCount) (hm : m = 400) :
    (10 : ℚ) ^ (-(m : Int)) ≤ v ∧ v ≤ (10 : ℚ) ^ (m : Int) := by
  have hten : (0 : ℚ) < 10 ^ m := by positivity
  have htwoU : (0 : ℚ) < 2 * Double.unitsPerOne :=
    mul_pos two_pos (by exact_mod_cast Double.unitsPerOne_pos)
  rw [zpow_neg, zpow_natCast]
  constructor
  · have hlow : 1 ≤ (Interval.ofRank rank).low := by
      have : Double.unitsOfRank 0 < Double.unitsOfRank rank := Double.strictMono_unitsOfRank hpos
      simp only [Interval.ofRank]
      omega
    have hv : 1 ≤ v * (2 * Double.unitsPerOne) := le_trans (by exact_mod_cast hlow) h.low_le
    have hvpos : 0 < v := by
      by_contra hneg
      have : v * (2 * Double.unitsPerOne) ≤ 0 :=
        mul_nonpos_of_nonpos_of_nonneg (not_lt.mp hneg) htwoU.le
      linarith
    have htwo : (2 * Double.unitsPerOne : ℚ) ≤ 10 ^ m := by
      obtain ⟨k, hk, hunits⟩ := Double.exists_unitsPerOne
      have : 2 * Double.unitsPerOne ≤ 10 ^ m := by
        rw [hunits, Nat.mul_comm, ← Nat.pow_succ]
        exact two_pow_le_ten_pow (by omega)
      exact_mod_cast this
    rw [inv_le_iff_one_le_mul₀ hten]
    exact hv.trans (mul_le_mul_of_nonneg_left htwo hvpos.le)
  · have hhigh : ((Interval.ofRank rank).high : ℚ) ≤ 10 ^ m * (2 * Double.unitsPerOne) := by
      exact_mod_cast high_ofRank_le hrank hm
    exact le_of_mul_le_mul_right (h.le_high.trans hhigh) htwoU

/-- The first digit of a positive decimal counts the power of ten that is named. -/
theorem leadingExponent_bounds {d : Decimal} (h : d.coefficient ≠ 0) :
    (10 : ℚ) ^ d.leadingExponent ≤ d.value ∧ d.value < (10 : ℚ) ^ (d.leadingExponent + 1) := by
  obtain ⟨coefficient, exponent⟩ := d
  have h : coefficient ≠ 0 := h
  -- `n` digits stand behind the first one
  obtain ⟨n, hn⟩ : ∃ n, (Nat.toDigits 10 coefficient).length = n + 1 :=
    ⟨_, (Nat.succ_pred_eq_of_pos Nat.length_toDigits_pos).symm⟩
  have hbelow : coefficient < 10 ^ (n + 1) :=
    (Nat.length_toDigits_le_iff (by decide) (Nat.succ_pos n)).mp hn.le
  have habove : 10 ^ n ≤ coefficient := by
    by_contra hlt
    rcases Nat.eq_zero_or_pos n with rfl | hpos
    · exact h (by omega)
    · have := (Nat.length_toDigits_le_iff (by decide) hpos).mpr (Nat.not_le.mp hlt)
      omega
  have hten : (0 : ℚ) < 10 ^ exponent := by positivity
  have hexponent : exponent + ((n + 1 : Nat) : Int) - 1 = (n : Int) + exponent := by
    push_cast
    ring
  have hnext : (n : Int) + exponent + 1 = ((n + 1 : Nat) : Int) + exponent := by
    push_cast
    ring
  rw [leadingExponent, hn, value, hexponent, hnext, zpow_add₀ (by norm_num), zpow_add₀ (by norm_num),
    zpow_natCast, zpow_natCast]
  constructor
  · exact mul_le_mul_of_nonneg_right (by exact_mod_cast habove) hten.le
  · exact mul_lt_mul_of_pos_right (by exact_mod_cast hbelow) hten

/-- A minus sign does not stand in positional notation. -/
theorem minus_not_mem_positional (d : Decimal) : '-' ∉ d.positional.toList := by
  have hdigits : '-' ∉ Nat.toDigits 10 d.coefficient := not_mem_toDigits (by decide) _
  have hzeros : ∀ n, '-' ∉ List.replicate n '0' := not_mem_replicate (by decide)
  have hpoint : '-' ∉ ".".toList ∧ '-' ∉ ".0".toList ∧ '-' ∉ "0.".toList := by decide
  simp only [positional]
  split
  · simp only [zeros, String.toList_append, String.toList_ofList]
    exact List.not_mem_append (List.not_mem_append hdigits (hzeros _)) hpoint.2.1
  · split
    · simp only [String.toList_append, String.toList_ofList]
      exact List.not_mem_append (List.not_mem_append (fun h => hdigits (List.mem_of_mem_take h)) hpoint.1)
        (fun h => hdigits (List.mem_of_mem_drop h))
    · simp only [zeros, String.toList_append, String.toList_ofList]
      exact List.not_mem_append (List.not_mem_append hpoint.2.2 (hzeros _)) hdigits

end Decimal

namespace Double

/-- The sign in front of a number. -/
def signText (negative : Bool) : String := if negative then "-" else ""

/-- **The plain notation** of a finite double is its sign and a decimal that rounds to it, in positional
notation. -/
theorem exists_plainText (x : Finite) :
    ∃ d : Decimal, (finite x).plainText = signText x.negative ++ d.positional ∧
      Decimal.RoundsTo x.rank d.value := by
  have hU : (unitsPerOne : ℚ) ≠ 0 := by exact_mod_cast unitsPerOne_pos.ne'
  rw [plainText]
  cases hwhole : x.whole? with
  | some n =>
      -- all digits are written
      have hmagnitude : unitsOfRank x.rank = n.natAbs * unitsPerOne := by
        have := x.natAbs_units
        rw [Finite.whole?_eq_some_iff.mp hwhole, Int.natAbs_mul, Int.natAbs_natCast] at this
        exact this.symm
      refine ⟨⟨n.natAbs, 0⟩, ?_, ?_⟩
      · have hzeros : Decimal.zeros (0 : Int).toNat = "" := rfl
        simp only [Decimal.positional, le_refl, if_true, hzeros, String.append_empty]
        exact String.append_assoc
      · have hround := Decimal.roundsTo_magnitude x.rank
        rw [hmagnitude, Nat.cast_mul, mul_div_assoc, div_self hU, mul_one] at hround
        rwa [Decimal.value, zpow_zero, mul_one]
  | none =>
      have hpos : 0 < x.rank.val := by
        refine Nat.pos_of_ne_zero fun hzero => ?_
        have hunits : x.units = 0 * unitsPerOne := by
          rw [Int.zero_mul, ← Int.natAbs_eq_zero, x.natAbs_units, Finite.magnitude, hzero]
          rfl
        rw [Finite.whole?_eq_some_iff.mpr hunits] at hwhole
        cases hwhole
      have hround := Decimal.roundsTo_shortest .up x.rank
      obtain ⟨m, hm⟩ : ∃ m, m = 400 := ⟨_, rfl⟩
      obtain ⟨hlow, hhigh⟩ := hround.bounds hpos x.rank.isLt hm
      have hten : (0 : ℚ) < (10 : ℚ) ^ (-(m : Int)) := zpow_pos (by norm_num) _
      have hcoefficient : (Decimal.shortest .up x.rank).coefficient ≠ 0 := by
        intro hzero
        rw [Decimal.value, hzero, Nat.cast_zero, zero_mul] at hlow
        linarith
      obtain ⟨hleast, hgreatest⟩ := Decimal.leadingExponent_bounds hcoefficient
      -- the bounds on the number bound the power of its first digit
      have habove : -400 ≤ (Decimal.shortest .up x.rank).leadingExponent := by
        have := (zpow_lt_zpow_iff_right₀ (by norm_num : (1 : ℚ) < 10)).mp (hlow.trans_lt hgreatest)
        omega
      have hbelow : (Decimal.shortest .up x.rank).leadingExponent ≤ 400 := by
        have := (zpow_le_zpow_iff_right₀ (by norm_num : (1 : ℚ) < 10)).mp (hleast.trans hhigh)
        omega
      refine ⟨Decimal.shortest .up x.rank, ?_, hround⟩
      have hnonzero : x.isZero = false := beq_eq_false_iff_ne.mpr hpos.ne'
      simp only [Decimal.Layout.text, Decimal.plainLayout, hnonzero, habove, hbelow, decide_true,
        Bool.and_self, if_true, Bool.false_eq_true, if_false]
      rfl

/-- **The plain notation tells finite doubles apart.** -/
theorem plainText_injective {x y : Finite} (h : (finite x).plainText = (finite y).plainText) : x = y := by
  obtain ⟨d, hx, hroundx⟩ := exists_plainText x
  obtain ⟨e, hy, hroundy⟩ := exists_plainText y
  rw [hx, hy] at h
  -- only a sign starts with a minus
  have hminus : ∀ negative : Bool, ∀ d : Decimal,
      '-' ∈ (signText negative ++ d.positional).toList ↔ negative = true := by
    intro negative d
    rw [String.toList_append, List.mem_append, or_iff_left d.minus_not_mem_positional]
    cases negative <;> decide
  have hsign : x.negative = y.negative := by
    rw [Bool.eq_iff_iff, ← hminus x.negative d, h, hminus]
  rw [hsign] at h
  have hvalue : d.value = e.value := by
    rw [← d.read_positional, ← e.read_positional, String.append_right_inj _ |>.mp h]
  rw [hvalue] at hroundx
  exact Finite.eq_of_rank_eq hsign (hroundx.rank_unique hroundy)

end Double

end QueryableApi
