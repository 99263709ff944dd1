import RecordQuery.Binary64.Basic
import RecordQuery.Proofs.Binary64.ReadBack
import RecordQuery.Value

/-!
# Whole numbers and words

A binary64 number has 53 significant bits.  A whole number with no more bits than that is a binary64
number, and beyond it every binary64 number is a multiple of a step, which doubles with every
further bit.  A whole number is rounded to the nearest multiple of its step.  Rounding keeps the
order of whole numbers, though not always strictly, and it does not leave the binade, except for the
first number of the next one.

Cutting a finite number off behind its point loses nothing else: the whole part of a number has no
more significant bits than the number, and so has what was cut off.  Hence a number has no fraction
exactly if it is a whole number.  The ends of the words are compared exactly as well, since the
lower one is a power of two and the upper one is rounded up to the power of two that follows it.
-/

namespace RecordQuery

/-! ## The nearest quotient -/

theorem divNearestEven_mono {a b : Nat} (h : a ≤ b) (den : Nat) :
    divNearestEven a den ≤ divNearestEven b den := by
  have hquot : a / den ≤ b / den := Nat.div_le_div_right h
  have ha := Nat.div_add_mod a den
  have hb := Nat.div_add_mod b den
  unfold divNearestEven
  rcases Nat.lt_or_eq_of_le hquot with hlt | heq
  · simp only
    split <;> split <;> omega
  · have hmod : a % den ≤ b % den := by
      rw [heq] at ha
      omega
    rw [heq]
    simp only
    split <;> split <;> omega

/-- The nearest quotient depends on the ratio only. -/
theorem divNearestEven_scale (num den : Nat) {c : Nat} (hc : 0 < c) :
    divNearestEven (num * c) (den * c) = divNearestEven num den := by
  have hdouble : 2 * (num % den * c) = 2 * (num % den) * c := by rw [Nat.mul_assoc]
  have hlt : 2 * (num % den) * c < den * c ↔ 2 * (num % den) < den := Nat.mul_lt_mul_right hc
  have heq : 2 * (num % den) * c = den * c ↔ 2 * (num % den) = den :=
    Nat.mul_left_inj (Nat.ne_of_gt hc)
  simp only [divNearestEven, Nat.mul_div_mul_right _ _ hc, Nat.mul_mod_mul_right, hdouble, hlt, heq]

theorem le_divNearestEven {q num den : Nat} (hden : 0 < den) (h : q * den ≤ num) :
    q ≤ divNearestEven num den := by
  have hmono := divNearestEven_mono h den
  rwa [divNearestEven_mul_self q hden] at hmono

theorem divNearestEven_le {q num den : Nat} (hden : 0 < den) (h : num ≤ q * den) :
    divNearestEven num den ≤ q := by
  have hmono := divNearestEven_mono h den
  rwa [divNearestEven_mul_self q hden] at hmono

namespace Binary64

/-! ## Multiples of the step -/

/-- The distance between neighbouring binary64 numbers around a whole number, not counting those
between whole numbers. -/
def wholeStep (n : Nat) : Nat := 2 ^ (n.log2 - 52)

/-- The multiple of its step that is nearest to a whole number; of two equally near ones the even
multiple. -/
def nearestWhole (n : Nat) : Nat := divNearestEven n (wholeStep n) * wholeStep n

theorem wholeStep_pos (n : Nat) : 0 < wholeStep n := Nat.two_pow_pos _

theorem log2_bounds {n : Nat} (hn : 0 < n) : 2 ^ n.log2 ≤ n ∧ n < 2 ^ (n.log2 + 1) :=
  (Nat.log2_eq_iff (Nat.ne_of_gt hn)).mp rfl

/-- Numbers of at most 53 bits are one apart. -/
theorem wholeStep_of_lt {n : Nat} (hn : n < 2 ^ (53 : Nat)) : wholeStep n = 1 := by
  have hlog : n.log2 - 52 = 0 := by
    rcases Nat.eq_zero_or_pos n with rfl | hpos
    · decide
    · have hlt := (Nat.log2_lt (Nat.ne_of_gt hpos)).mpr hn
      omega
  rw [wholeStep, hlog, Nat.pow_zero]

/-- **Which whole numbers are binary64 numbers**: the multiples of their step. -/
theorem nearestWhole_eq_self_iff {n : Nat} : nearestWhole n = n ↔ wholeStep n ∣ n := by
  constructor
  · intro h
    exact ⟨divNearestEven n (wholeStep n), by rw [Nat.mul_comm]; exact h.symm⟩
  · rintro ⟨q, hq⟩
    have hmul : n = q * wholeStep n := by rwa [Nat.mul_comm]
    have hself := divNearestEven_mul_self q (wholeStep_pos n)
    rw [← hmul] at hself
    rw [nearestWhole, hself, ← hmul]

/-- A whole number is off by at most half its step when it is rounded. -/
theorem nearestWhole_within (n : Nat) :
    2 * nearestWhole n ≤ 2 * n + wholeStep n ∧ 2 * n ≤ 2 * nearestWhole n + wholeStep n := by
  have hdiv := Nat.div_add_mod' n (wholeStep n)
  have hnext := Nat.succ_mul (n / wholeStep n) (wholeStep n)
  have hmod := Nat.mod_lt n (wholeStep_pos n)
  simp only [nearestWhole, divNearestEven]
  split
  · omega
  · rw [Nat.add_one]
    omega

/-- A power of two that is not too small is a multiple of the step. -/
theorem exists_mul_wholeStep {n k : Nat} (hk : n.log2 ≤ k) : ∃ q, 2 ^ k = q * wholeStep n := by
  refine ⟨2 ^ (k - (n.log2 - 52)), ?_⟩
  rw [wholeStep, ← Nat.pow_add]
  congr 1
  omega

theorem two_pow_log2_le_nearestWhole {n : Nat} (hn : 0 < n) : 2 ^ n.log2 ≤ nearestWhole n := by
  have hlow := (log2_bounds hn).1
  obtain ⟨q, hq⟩ := exists_mul_wholeStep (Nat.le_refl n.log2)
  rw [hq] at hlow ⊢
  exact Nat.mul_le_mul_right _ (le_divNearestEven (wholeStep_pos n) hlow)

theorem nearestWhole_le_two_pow {n : Nat} (hn : 0 < n) : nearestWhole n ≤ 2 ^ (n.log2 + 1) := by
  have hhigh := Nat.le_of_lt (log2_bounds hn).2
  obtain ⟨q, hq⟩ := exists_mul_wholeStep (Nat.le_succ n.log2)
  rw [← Nat.succ_eq_add_one, hq] at hhigh ⊢
  exact Nat.mul_le_mul_right _ (divNearestEven_le (wholeStep_pos n) hhigh)

theorem nearestWhole_zero : nearestWhole 0 = 0 := by decide

/-- Rounding does not pass a power of two. -/
theorem nearestWhole_le_of_lt {n k : Nat} (hn : n < 2 ^ k) : nearestWhole n ≤ 2 ^ k := by
  rcases Nat.eq_zero_or_pos n with rfl | hpos
  · rw [nearestWhole_zero]
    exact Nat.zero_le _
  · have hlog : n.log2 + 1 ≤ k := (Nat.log2_lt (Nat.ne_of_gt hpos)).mpr hn
    exact Nat.le_trans (nearestWhole_le_two_pow hpos) (Nat.pow_le_pow_right (by decide) hlog)

/-- **Rounding keeps the order** of whole numbers. -/
theorem nearestWhole_mono {a b : Nat} (h : a ≤ b) : nearestWhole a ≤ nearestWhole b := by
  rcases Nat.eq_zero_or_pos a with rfl | ha
  · rw [nearestWhole_zero]
    exact Nat.zero_le _
  have hb : 0 < b := Nat.lt_of_lt_of_le ha h
  rcases Nat.lt_trichotomy a.log2 b.log2 with hlt | heq | hgt
  · -- The power of two between both numbers lies between what they are rounded to.
    calc nearestWhole a ≤ 2 ^ (a.log2 + 1) := nearestWhole_le_two_pow ha
      _ ≤ 2 ^ b.log2 := Nat.pow_le_pow_right (by decide) hlt
      _ ≤ nearestWhole b := two_pow_log2_le_nearestWhole hb
  · have hstep : wholeStep a = wholeStep b := by rw [wholeStep, wholeStep, heq]
    rw [nearestWhole, nearestWhole, hstep]
    exact Nat.mul_le_mul_right _ (divNearestEven_mono h _)
  · have hpow : 2 ^ (b.log2 + 1) ≤ 2 ^ a.log2 := Nat.pow_le_pow_right (by decide) hgt
    have hlow := (log2_bounds ha).1
    have hhigh := (log2_bounds hb).2
    omega

/-! ## The binary64 number nearest to a whole number -/

/-- A significand that is full or opens the next binade counts steps of its binade all the same. -/
theorem unitsOfMagnitude_significand (e : Nat) {s : Nat}
    (hlow : 2 ^ (52 : Nat) ≤ s) (hhigh : s ≤ 2 ^ (53 : Nat)) :
    unitsOfMagnitude (e * 2 ^ (52 : Nat) + s) = s * 2 ^ e := by
  rcases Nat.lt_or_eq_of_le hhigh with hlt | rfl
  · have hplace : e * 2 ^ (52 : Nat) + s = (e + 1) * 2 ^ (52 : Nat) + (s - 2 ^ (52 : Nat)) := by
      omega
    rw [hplace, unitsOfMagnitude_binade e (by omega), Nat.add_sub_cancel' hlow]
  · have hplace : e * 2 ^ (52 : Nat) + 2 ^ (53 : Nat) = (e + 1 + 1) * 2 ^ (52 : Nat) + 0 := by
      omega
    rw [hplace, unitsOfMagnitude_binade (e + 1) (by decide), Nat.pow_succ 2 e]
    omega

theorem two_pow_mul_two_pow {a b c d : Nat} (h : a + b = c + d) :
    2 ^ a * 2 ^ b = 2 ^ c * 2 ^ d := by
  rw [← Nat.pow_add, ← Nat.pow_add, h]

section

variable {n : Nat} (hn : 0 < n)

include hn

/-- The significand of a positive whole number comes to the nearest multiple of the step. -/
theorem significand_whole :
    divNearestEven (n * 2 ^ (1074 : Nat)) (2 ^ (n.log2 + 1022)) * 2 ^ (n.log2 + 1022) =
      nearestWhole n * 2 ^ (1074 : Nat) := by
  rcases Nat.lt_or_ge n.log2 52 with hlt | hge
  · -- All bits of the number stay.
    have hself : nearestWhole n = n := by
      have hbits : n < 2 ^ (53 : Nat) := (Nat.log2_lt (Nat.ne_of_gt hn)).mp (by omega)
      rw [nearestWhole_eq_self_iff, wholeStep_of_lt hbits]
      exact Nat.one_dvd n
    have hexponent : 52 - n.log2 + (n.log2 + 1022) = 1074 := by omega
    have hwhole : n * 2 ^ (1074 : Nat) = n * 2 ^ (52 - n.log2) * 2 ^ (n.log2 + 1022) := by
      rw [Nat.mul_assoc, ← Nat.pow_add, hexponent]
    rw [hself, hwhole, divNearestEven_mul_self _ (Nat.two_pow_pos _)]
  · have hexponent : n.log2 + 1022 = n.log2 - 52 + 1074 := by omega
    have hstep : 2 ^ (n.log2 + 1022) = wholeStep n * 2 ^ (1074 : Nat) := by
      rw [wholeStep, hexponent, Nat.pow_add]
    rw [hstep, divNearestEven_scale _ _ (Nat.two_pow_pos 1074), nearestWhole, Nat.mul_assoc]

/-- The significand of a positive whole number has 53 bits, or it opens the next binade. -/
theorem significand_bounds :
    2 ^ (52 : Nat) ≤ divNearestEven (n * 2 ^ (1074 : Nat)) (2 ^ (n.log2 + 1022)) ∧
      divNearestEven (n * 2 ^ (1074 : Nat)) (2 ^ (n.log2 + 1022)) ≤ 2 ^ (53 : Nat) := by
  obtain ⟨hlow, hhigh⟩ := log2_bounds hn
  have hpos := Nat.two_pow_pos (n.log2 + 1022)
  constructor
  · apply le_divNearestEven hpos
    rw [two_pow_mul_two_pow (c := n.log2) (d := 1074) (by omega)]
    exact Nat.mul_le_mul_right _ hlow
  · apply divNearestEven_le hpos
    rw [two_pow_mul_two_pow (c := n.log2 + 1) (d := 1074) (by omega)]
    exact Nat.mul_le_mul_right _ (Nat.le_of_lt hhigh)

theorem log2_mul_two_pow (k : Nat) : (n * 2 ^ k).log2 = n.log2 + k := by
  obtain ⟨hlow, hhigh⟩ := log2_bounds hn
  have hpos := Nat.mul_pos hn (Nat.two_pow_pos k)
  rw [Nat.log2_eq_iff (Nat.ne_of_gt hpos), Nat.add_right_comm, Nat.pow_add, Nat.pow_add 2 _ k]
  exact ⟨Nat.mul_le_mul_right _ hlow, Nat.mul_lt_mul_of_pos_right hhigh (Nat.two_pow_pos k)⟩

end

/-- **The binary64 number nearest to a whole number** is the nearest multiple of the step. -/
theorem unitsOfMagnitude_ofWhole {n : Nat} (hn : n < 2 ^ (1024 : Nat)) :
    unitsOfMagnitude (magnitudeOfRatio n 1) = nearestWhole n * 2 ^ (1074 : Nat) := by
  rcases Nat.eq_zero_or_pos n with rfl | hpos
  · decide +kernel
  have hlog : n.log2 < 1024 := (Nat.log2_lt (Nat.ne_of_gt hpos)).mpr hn
  have hdropped : (n * 2 ^ (1074 : Nat) / 1).log2 - 52 = n.log2 + 1022 := by
    rw [Nat.div_one, log2_mul_two_pow hpos 1074]
    omega
  obtain ⟨hlow, hhigh⟩ := significand_bounds hpos
  have hfinite : (n.log2 + 1022) * 2 ^ (52 : Nat) +
      divNearestEven (n * 2 ^ (1074 : Nat)) (2 ^ (n.log2 + 1022)) ≤ infinityMagnitude := by
    unfold infinityMagnitude
    omega
  simp only [magnitudeOfRatio, hdropped, Nat.one_mul, Nat.min_eq_right hfinite]
  rw [unitsOfMagnitude_significand _ hlow hhigh, significand_whole hpos]

/-! ## Signs -/

theorem isNegative_ofMagnitude (negative : Bool) (m : Nat) :
    (ofMagnitude negative m).isNegative = negative := by
  have hlt : m % 2 ^ (63 : Nat) < 2 ^ (63 : Nat) := Nat.mod_lt _ (by decide)
  simp only [ofMagnitude, isNegative, BitVec.msb_eq_decide, BitVec.toNat_ofNat]
  cases negative with
  | false => simp only [Bool.false_eq_true, if_false, decide_eq_false_iff_not]; omega
  | true => simp only [if_true, decide_eq_true_eq]; omega

theorem magnitude_lt (x : Binary64) : x.magnitude < 2 ^ (63 : Nat) := Nat.mod_lt _ (by decide)

theorem units_ofMagnitude (negative : Bool) {m : Nat} (hm : m < 2 ^ (63 : Nat)) :
    (ofMagnitude negative m).units =
      if negative then -(unitsOfMagnitude m : Int) else unitsOfMagnitude m := by
  rw [units, isNegative_ofMagnitude, magnitude_ofMagnitude negative hm]

theorem units_neg (x : Binary64) : x.neg.units = -x.units := by
  rw [neg, units_ofMagnitude _ x.magnitude_lt, units]
  cases x.isNegative <;> simp

theorem magnitudeOfRatio_lt (num den : Nat) : magnitudeOfRatio num den < 2 ^ (63 : Nat) :=
  Nat.lt_of_le_of_lt (magnitudeOfRatio_le num den) (by decide)

theorem units_ofRatio (negative : Bool) (num den : Nat) :
    (ofRatio negative num den).units =
      if negative then -(unitsOfMagnitude (magnitudeOfRatio num den) : Int)
      else unitsOfMagnitude (magnitudeOfRatio num den) :=
  units_ofMagnitude negative (magnitudeOfRatio_lt num den)

theorem isNaN_ofRatio (negative : Bool) (num den : Nat) :
    (ofRatio negative num den).isNaN = false :=
  isNaN_ofMagnitude negative (magnitudeOfRatio_le num den)

theorem isNaN_of_isFinite {x : Binary64} (hx : x.isFinite = true) : x.isNaN = false := by
  simp only [isFinite, isNaN, decide_eq_true_eq, decide_eq_false_iff_not] at hx ⊢
  omega

/-! ## Whole parts -/

theorem natCast_unit : ((2 ^ (1074 : Nat) : Nat) : Int) = 2 ^ (1074 : Nat) := Int.natCast_pow 2 1074

theorem unitsOfMagnitude_infinity :
    unitsOfMagnitude infinityMagnitude = 2 ^ (1024 : Nat) * 2 ^ (1074 : Nat) := by
  decide +kernel

/-- The finite magnitudes are those whose whole part lies below `2 ^ 1024`. -/
theorem wholePart_lt_iff {m : Nat} :
    unitsOfMagnitude m / 2 ^ (1074 : Nat) < 2 ^ (1024 : Nat) ↔ m < infinityMagnitude := by
  rw [Nat.div_lt_iff_lt_mul (Nat.two_pow_pos 1074), ← unitsOfMagnitude_infinity,
    unitsOfMagnitude_lt_iff]

/-- The whole part of a magnitude is not rounded. -/
theorem nearestWhole_wholePart (m : Nat) :
    nearestWhole (unitsOfMagnitude m / 2 ^ (1074 : Nat)) =
      unitsOfMagnitude m / 2 ^ (1074 : Nat) := by
  rw [nearestWhole_eq_self_iff]
  rcases magnitude_cases m with hm | ⟨e, r, hr, rfl⟩
  · have hsmall : unitsOfMagnitude m = m := unitsOfMagnitude_small (by omega)
    have hlt : m < 2 ^ (1074 : Nat) := by
      have hpow : 2 ^ (52 : Nat) ≤ 2 ^ (1074 : Nat) := by
        apply Nat.pow_le_pow_right <;> decide
      exact Nat.lt_of_lt_of_le hm hpow
    rw [hsmall, Nat.div_eq_of_lt hlt]
    exact Nat.dvd_zero _
  · rw [unitsOfMagnitude_binade e hr]
    rcases Nat.lt_or_ge e 1074 with hlt | hge
    · -- The point stands among the significant bits or in front of them.
      have hpow : 2 ^ e ≤ 2 ^ (1074 : Nat) := by
        apply Nat.pow_le_pow_right <;> omega
      have hbound : (2 ^ (52 : Nat) + r) * 2 ^ e < 2 ^ (53 : Nat) * 2 ^ (1074 : Nat) := by
        calc (2 ^ (52 : Nat) + r) * 2 ^ e < 2 ^ (53 : Nat) * 2 ^ e :=
              Nat.mul_lt_mul_of_pos_right (by omega) (Nat.two_pow_pos e)
          _ ≤ 2 ^ (53 : Nat) * 2 ^ (1074 : Nat) := by
              apply Nat.mul_le_mul_left
              exact hpow
      have hsmall : (2 ^ (52 : Nat) + r) * 2 ^ e / 2 ^ (1074 : Nat) < 2 ^ (53 : Nat) :=
        (Nat.div_lt_iff_lt_mul (Nat.two_pow_pos 1074)).mpr hbound
      rw [wholeStep_of_lt hsmall]
      exact Nat.one_dvd _
    · -- The number is whole.
      have hpos : 0 < 2 ^ (52 : Nat) + r := by omega
      have hlog : (2 ^ (52 : Nat) + r).log2 = 52 :=
        (Nat.log2_eq_iff (Nat.ne_of_gt hpos)).mpr ⟨by omega, by omega⟩
      have hsplit : (2 ^ (52 : Nat) + r) * 2 ^ e =
          (2 ^ (52 : Nat) + r) * 2 ^ (e - 1074) * 2 ^ (1074 : Nat) := by
        rw [Nat.mul_assoc, ← Nat.pow_add 2 (e - 1074) 1074, Nat.sub_add_cancel hge]
      rw [hsplit, Nat.mul_div_cancel _ (Nat.two_pow_pos 1074), wholeStep, log2_mul_two_pow hpos,
        hlog, Nat.add_sub_cancel_left]
      exact Nat.dvd_mul_left _ _

section

variable {x : Binary64} (hx : x.isFinite = true)

include hx

/-- **The whole part of a number** is cut off without rounding. -/
theorem units_truncate : x.truncate.units = x.units.tdiv (2 ^ (1074 : Nat)) * 2 ^ (1074 : Nat) := by
  have hwhole :
      unitsOfMagnitude (magnitudeOfRatio (unitsOfMagnitude x.magnitude / 2 ^ (1074 : Nat)) 1) =
      unitsOfMagnitude x.magnitude / 2 ^ (1074 : Nat) * 2 ^ (1074 : Nat) := by
    rw [unitsOfMagnitude_ofWhole (wholePart_lt_iff.mpr (of_decide_eq_true hx)),
      nearestWhole_wholePart]
  rw [truncate, units_ofRatio, hwhole, Int.natCast_mul, Int.ofNat_tdiv, natCast_unit, units]
  cases x.isNegative with
  | false => simp only [Bool.false_eq_true, if_false]
  | true => simp only [if_true, Int.neg_tdiv, Int.neg_mul]

theorem fraction_eq : x.fraction =
    ofRatio (x.units.tmod (2 ^ (1074 : Nat)) < 0) (x.units.tmod (2 ^ (1074 : Nat))).natAbs
      (2 ^ (1074 : Nat)) := by
  have hrest : x.units + x.truncate.neg.units = x.units.tmod (2 ^ (1074 : Nat)) := by
    have hsplit := Int.mul_tdiv_add_tmod x.units (2 ^ (1074 : Nat))
    rw [units_neg, units_truncate hx, Int.mul_comm]
    generalize (2 : Int) ^ (1074 : Nat) * x.units.tdiv (2 ^ (1074 : Nat)) = whole at hsplit ⊢
    omega
  rw [fraction, add, hrest]

end

theorem one_le_divNearestEven {r unit step : Nat} (hunit : 0 < unit) (hstep : 0 < step)
    (h : step ≤ r) : 1 ≤ divNearestEven (r * unit) (unit * step) := by
  apply le_divNearestEven (Nat.mul_pos hunit hstep)
  rw [Nat.one_mul, Nat.mul_comm]
  exact Nat.mul_le_mul_right unit h

/-- A part of one is rounded to zero only if there is none. -/
theorem magnitudeOfRatio_eq_zero_iff (r : Nat) :
    magnitudeOfRatio r (2 ^ (1074 : Nat)) = 0 ↔ r = 0 := by
  constructor
  · intro h
    rcases Nat.eq_zero_or_pos r with hr | hr
    · exact hr
    · have hdrop : 2 ^ (r.log2 - 52) ≤ r :=
        Nat.le_trans (Nat.pow_le_pow_right (by decide) (Nat.sub_le _ _)) (log2_bounds hr).1
      have hone := one_le_divNearestEven (Nat.two_pow_pos 1074) (Nat.two_pow_pos _) hdrop
      have hinfinity : 0 < infinityMagnitude := by decide
      simp only [magnitudeOfRatio, Nat.mul_div_cancel _ (Nat.two_pow_pos 1074)] at h
      omega
  · rintro rfl
    decide +kernel

theorem numericEq_zero_iff {x : Binary64} (hx : x.isNaN = false) :
    x.numericEq zero = true ↔ x.magnitude = 0 := by
  have hzero : zero.isNaN = false := by decide
  have hplace : zero.place = 0 := by decide
  rw [numericEq, compare?, hx, hzero, hplace, place]
  cases x.isNegative with
  | false => simp
  | true => simp

/-- **A number without a fraction** is a whole number. -/
theorem numericEq_fraction_iff {x : Binary64} (hx : x.isFinite = true) :
    x.fraction.numericEq zero = true ↔ (2 ^ (1074 : Nat) : Int) ∣ x.units := by
  rw [fraction_eq hx, numericEq_zero_iff (isNaN_ofRatio _ _ _), ofRatio,
    magnitude_ofMagnitude _ (magnitudeOfRatio_lt _ _), magnitudeOfRatio_eq_zero_iff,
    Int.natAbs_eq_zero, Int.dvd_iff_tmod_eq_zero]

/-! ## Whole numbers -/

section

variable {n : Nat} (hn : n < 2 ^ (64 : Nat))

include hn

theorem unitsOfMagnitude_ofWord :
    unitsOfMagnitude (magnitudeOfRatio n 1) = nearestWhole n * 2 ^ (1074 : Nat) :=
  unitsOfMagnitude_ofWhole (Nat.lt_trans hn (by decide +kernel))

theorem units_ofInt_natCast : (ofInt n).units = (nearestWhole n * 2 ^ (1074 : Nat) : Nat) := by
  have hsign : decide ((n : Int) < 0) = false := decide_eq_false (by omega)
  rw [ofInt, units_ofRatio, hsign, if_neg (by decide), Int.natAbs_natCast,
    unitsOfMagnitude_ofWord hn]

theorem units_ofInt_neg (hpos : 0 < n) :
    (ofInt (-n)).units = -((nearestWhole n * 2 ^ (1074 : Nat) : Nat) : Int) := by
  have hsign : decide (-(n : Int) < 0) = true := decide_eq_true (by omega)
  rw [ofInt, units_ofRatio, hsign, if_pos rfl, Int.natAbs_neg, Int.natAbs_natCast,
    unitsOfMagnitude_ofWord hn]

theorem isFinite_ofInt_natCast : (ofInt n).isFinite = true := by
  have hlt : nearestWhole n < 2 ^ (1024 : Nat) :=
    Nat.lt_of_le_of_lt (nearestWhole_le_of_lt hn) (by decide +kernel)
  rw [isFinite, ofInt, ofRatio, magnitude_ofMagnitude _ (magnitudeOfRatio_lt _ _),
    decide_eq_true_eq, ← wholePart_lt_iff, Int.natAbs_natCast, unitsOfMagnitude_ofWord hn,
    Nat.mul_div_cancel _ (Nat.two_pow_pos 1074)]
  exact hlt

end

/-! ## The ends of the words -/

theorem isBelow_iff {x y : Binary64} (hx : x.isNaN = false) (hy : y.isNaN = false) :
    x.isBelow y = true ↔ x.units < y.units := by
  rw [isBelow, compare?, hx, hy, ← compare_units]
  simp [Int.compare_eq_lt]

theorem numericEq_iff {x y : Binary64} (hx : x.isNaN = false) (hy : y.isNaN = false) :
    x.numericEq y = true ↔ x.units = y.units := by
  rw [numericEq, compare?, hx, hy, ← compare_units]
  simp

theorem isAtMost_iff {x y : Binary64} (hx : x.isNaN = false) (hy : y.isNaN = false) :
    x.isAtMost y = true ↔ x.units ≤ y.units := by
  rw [isAtMost, Bool.or_eq_true, isBelow_iff hx hy, numericEq_iff hx hy, ← Int.le_iff_lt_or_eq]

theorem units_lowest : (ofInt (-2 ^ (63 : Nat))).units = -2 ^ (63 : Nat) * 2 ^ (1074 : Nat) := by
  decide +kernel

/-- The last word is rounded up. -/
theorem units_beyond : (ofInt (2 ^ (63 : Nat) - 1)).units = 2 ^ (63 : Nat) * 2 ^ (1074 : Nat) := by
  decide +kernel

theorem unit_pos : (0 : Int) < 2 ^ (1074 : Nat) := Int.pow_pos (by decide)

section

variable {x : Binary64} {k : Int} (hk : x.units = k * 2 ^ (1074 : Nat))

include hk

/-- A whole number lies between the ends of the words if it is one of them. -/
theorem between_ends_iff (hx : x.isNaN = false) :
    ((ofInt (-2 ^ (63 : Nat))).isAtMost x = true ↔ -2 ^ (63 : Nat) ≤ k) ∧
      (x.isBelow (ofInt (2 ^ (63 : Nat) - 1)) = true ↔ k < 2 ^ (63 : Nat)) := by
  have hlowest : (ofInt (-2 ^ (63 : Nat))).isNaN = false := isNaN_ofRatio _ _ _
  have hbeyond : (ofInt (2 ^ (63 : Nat) - 1)).isNaN = false := isNaN_ofRatio _ _ _
  rw [isAtMost_iff hlowest hx, isBelow_iff hx hbeyond, units_lowest, units_beyond, hk,
    Int.mul_le_mul_right unit_pos, Int.mul_lt_mul_right unit_pos]
  exact ⟨Iff.rfl, Iff.rfl⟩

theorem toWord_eq (hx : x.isNaN = false) (hlow : -2 ^ (63 : Nat) ≤ k)
    (hhigh : k < 2 ^ (63 : Nat)) :
    x.toWord = Int64.ofInt k := by
  have hclamp : max (-2 ^ (63 : Nat)) (min (2 ^ (63 : Nat) - 1) k) = k := by omega
  rw [toWord, if_neg (by simp [hx]), hk, Int.mul_tdiv_cancel _ (Int.ne_of_gt unit_pos), hclamp]

end

/-- **The word that a finite number is** has the value of the number. -/
theorem word?_eq_some_iff {x : Binary64} (hx : x.isFinite = true) {w : Int64} :
    x.word? = some w ↔ x.units = w.toInt * 2 ^ (1074 : Nat) := by
  have hnan := isNaN_of_isFinite hx
  have hwhole := numericEq_fraction_iff hx
  constructor
  · intro h
    obtain ⟨hcond, hw⟩ := Option.ite_none_right_eq_some.mp h
    simp only [Bool.and_eq_true] at hcond
    obtain ⟨⟨hfraction, hlow⟩, hhigh⟩ := hcond
    obtain ⟨k, hk⟩ := hwhole.mp hfraction
    rw [Int.mul_comm] at hk
    obtain ⟨hlowest, hbeyond⟩ := between_ends_iff hk hnan
    have hlow := hlowest.mp hlow
    have hhigh := hbeyond.mp hhigh
    rw [toWord_eq hk hnan hlow hhigh] at hw
    rw [hk, ← Option.some.inj hw, Int64.toInt_ofInt_of_le hlow hhigh]
  · intro hk
    have hlow := w.le_toInt
    have hhigh := w.toInt_lt
    obtain ⟨hlowest, hbeyond⟩ := between_ends_iff hk hnan
    have hfraction := hwhole.mpr ⟨w.toInt, by rw [hk, Int.mul_comm]⟩
    rw [word?, hfraction, hlowest.mpr hlow, hbeyond.mpr hhigh, toWord_eq hk hnan hlow hhigh,
      Int64.ofInt_toInt]
    rfl

end Binary64

end RecordQuery
