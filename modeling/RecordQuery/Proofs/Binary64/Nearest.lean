import RecordQuery.Binary64.Basic

/-!
# The nearest magnitude

The magnitudes are numbered from zero upwards, and each stands for more units than the one before.
The distance between neighbours doubles from one binade to the next; the first two binades, which
hold the magnitudes below `2 ^ 53`, have the distance of one unit.  Hence the order of finite
numbers by value is the order of their words by place.

A quotient rounds to a magnitude if it lies between the midpoints to the two neighbours; it may be
one of the midpoints if the magnitude is even.  Within a binade this is the rule for rounding to the
nearest whole number of steps.  The first magnitude of a binade is the exception: the step below it
is half as wide, and a quotient there is rounded in the binade below, where the carry of the full
significand opens the next binade.
-/

namespace RecordQuery

namespace Binary64

/-! ## Binades -/

/-- Below `2 ^ 53` a magnitude is its own number of units. -/
theorem unitsOfMagnitude_small {m : Nat} (hm : m < 2 ^ (53 : Nat)) : unitsOfMagnitude m = m := by
  unfold unitsOfMagnitude
  split
  · rfl
  · have hdiv : m / 2 ^ (52 : Nat) = 1 := by omega
    have hmod : m % 2 ^ (52 : Nat) = m - 2 ^ (52 : Nat) := by omega
    rw [hdiv, hmod]
    omega

/-- In the binade `e` the significand counts steps of `2 ^ e` units. -/
theorem unitsOfMagnitude_binade (e : Nat) {r : Nat} (hr : r < 2 ^ (52 : Nat)) :
    unitsOfMagnitude ((e + 1) * 2 ^ (52 : Nat) + r) = (2 ^ (52 : Nat) + r) * 2 ^ e := by
  have hdiv : ((e + 1) * 2 ^ (52 : Nat) + r) / 2 ^ (52 : Nat) = e + 1 := by omega
  have hmod : ((e + 1) * 2 ^ (52 : Nat) + r) % 2 ^ (52 : Nat) = r := by omega
  unfold unitsOfMagnitude
  rw [if_neg (by omega), hdiv, hmod, Nat.add_sub_cancel]

/-- A magnitude lies below the first binade or in one of them. -/
theorem magnitude_cases (m : Nat) :
    m < 2 ^ (52 : Nat) ∨ ∃ e r, r < 2 ^ (52 : Nat) ∧ m = (e + 1) * 2 ^ (52 : Nat) + r := by
  rcases Nat.lt_or_ge m (2 ^ (52 : Nat)) with hm | hm
  · exact .inl hm
  · exact .inr ⟨m / 2 ^ (52 : Nat) - 1, m % 2 ^ (52 : Nat), Nat.mod_lt _ (by decide), by omega⟩

/-- The next magnitude lies one step of the binade further. -/
theorem unitsOfMagnitude_succ (m : Nat) :
    unitsOfMagnitude (m + 1) = unitsOfMagnitude m + 2 ^ (m / 2 ^ (52 : Nat) - 1) := by
  rcases magnitude_cases m with hm | ⟨e, r, hr, rfl⟩
  · have hexp : m / 2 ^ (52 : Nat) - 1 = 0 := by omega
    rw [unitsOfMagnitude_small (by omega), unitsOfMagnitude_small (by omega), hexp, Nat.pow_zero]
  · have hexp : ((e + 1) * 2 ^ (52 : Nat) + r) / 2 ^ (52 : Nat) - 1 = e := by omega
    rw [hexp, unitsOfMagnitude_binade e hr]
    rcases Nat.lt_or_ge (r + 1) (2 ^ (52 : Nat)) with hlt | hge
    · rw [Nat.add_assoc, unitsOfMagnitude_binade e hlt, ← Nat.add_assoc, Nat.add_mul _ 1,
        Nat.one_mul]
    · -- The significand is full, and the carry opens the next binade.
      have hnext : (e + 1) * 2 ^ (52 : Nat) + r + 1 = (e + 1 + 1) * 2 ^ (52 : Nat) + 0 := by omega
      have hfull : 2 ^ (52 : Nat) + r + 1 = 2 * 2 ^ (52 : Nat) := by omega
      rw [hnext, unitsOfMagnitude_binade (e + 1) (by decide), Nat.pow_succ]
      calc (2 ^ (52 : Nat) + 0) * (2 ^ e * 2) = (2 * 2 ^ (52 : Nat)) * 2 ^ e := by
            rw [Nat.add_zero, Nat.mul_comm (2 ^ e) 2, ← Nat.mul_assoc,
              Nat.mul_comm (2 ^ (52 : Nat)) 2]
        _ = (2 ^ (52 : Nat) + r) * 2 ^ e + 2 ^ e := by rw [← hfull, Nat.add_mul _ 1, Nat.one_mul]

/-! ## Order -/

theorem unitsOfMagnitude_lt_succ (m : Nat) : unitsOfMagnitude m < unitsOfMagnitude (m + 1) := by
  have hstep : 0 < 2 ^ (m / 2 ^ (52 : Nat) - 1) := Nat.two_pow_pos _
  rw [unitsOfMagnitude_succ]
  omega

theorem unitsOfMagnitude_mono {m n : Nat} (h : m ≤ n) :
    unitsOfMagnitude m ≤ unitsOfMagnitude n := by
  induction h with
  | refl => exact Nat.le_refl _
  | step _ ih => exact Nat.le_trans ih (Nat.le_of_lt (unitsOfMagnitude_lt_succ _))

theorem unitsOfMagnitude_lt_iff {m n : Nat} : unitsOfMagnitude m < unitsOfMagnitude n ↔ m < n := by
  constructor
  · intro h
    rcases Nat.lt_or_ge m n with hlt | hge
    · exact hlt
    · have hle := unitsOfMagnitude_mono hge
      omega
  · intro h
    exact Nat.lt_of_lt_of_le (unitsOfMagnitude_lt_succ m) (unitsOfMagnitude_mono h)

theorem units_lt_iff {x y : Binary64} : x.units < y.units ↔ x.place < y.place := by
  have hlt {m n : Nat} := @unitsOfMagnitude_lt_iff m n
  have hpos (m : Nat) : 0 < unitsOfMagnitude m ↔ 0 < m := @hlt 0 m
  have hxy := @hlt x.magnitude y.magnitude
  have hyx := @hlt y.magnitude x.magnitude
  have hx := hpos x.magnitude
  have hy := hpos y.magnitude
  unfold units place
  cases x.isNegative with
  | false =>
      cases y.isNegative with
      | false => simp only [Bool.false_eq_true, if_false]; omega
      | true => simp only [Bool.false_eq_true, if_false, if_true]; omega
  | true =>
      cases y.isNegative with
      | false => simp only [Bool.false_eq_true, if_false, if_true]; omega
      | true => simp only [if_true]; omega

/-- **Numbers compare by value as they compare by place.** -/
theorem compare_units (x y : Binary64) : compare x.units y.units = compare x.place y.place := by
  have hxy := @units_lt_iff x y
  have hyx := @units_lt_iff y x
  rcases Int.lt_trichotomy x.place y.place with hlt | heq | hgt
  · rw [Int.compare_eq_lt.mpr hlt, Int.compare_eq_lt.mpr (hxy.mpr hlt)]
  · have hunits : x.units = y.units := by omega
    rw [Int.compare_eq_eq.mpr heq, Int.compare_eq_eq.mpr hunits]
  · rw [Int.compare_eq_gt.mpr hgt, Int.compare_eq_gt.mpr (hyx.mpr hgt)]

end Binary64

/-! ## Rounding a quotient -/

/-- `num / den` is at most a half away from `q`, and exactly so only if `q` is even. -/
structure WithinHalf (q num den : Nat) : Prop where
  low : 2 * (q * den) ≤ 2 * num + den
  high : 2 * num ≤ 2 * (q * den) + den
  tie : q % 2 = 0 ∨ 2 * (q * den) < 2 * num + den ∧ 2 * num < 2 * (q * den) + den

theorem divNearestEven_eq {num den q : Nat} (hden : 0 < den) (h : WithinHalf q num den) :
    divNearestEven num den = q := by
  obtain ⟨hlow, hhigh, htie⟩ := h
  have hdiv := Nat.div_add_mod num den
  have hmod := Nat.mod_lt num hden
  rw [Nat.mul_comm] at hdiv
  unfold divNearestEven
  simp only
  rcases Nat.lt_trichotomy q (num / den) with hlt | heq | hgt
  · have hmul := Nat.mul_le_mul_right den hlt
    rw [Nat.succ_mul] at hmul
    split <;> omega
  · subst heq
    split
    · rfl
    · omega
  · have hmul := Nat.mul_le_mul_right den hgt
    rw [Nat.succ_mul] at hmul
    have hnext : q ≤ num / den + 1 := by
      apply Nat.le_of_not_lt
      intro hfar
      have hmul' := Nat.mul_le_mul_right den hfar
      rw [Nat.succ_mul, Nat.succ_mul] at hmul'
      omega
    have hq : q = num / den + 1 := by omega
    have hmul' : q * den = num / den * den + den := by rw [hq, Nat.succ_mul]
    split
    · omega
    · exact hq.symm

namespace Binary64

/-- `RoundsTo m units den` says that `units / den` units lie between the midpoints around the
magnitude `m`, and strictly between them if `m` is odd. -/
structure RoundsTo (m units den : Nat) : Prop where
  low : (unitsOfMagnitude (m - 1) + unitsOfMagnitude m) * den ≤ 2 * units
  high : 2 * units ≤ (unitsOfMagnitude m + unitsOfMagnitude (m + 1)) * den
  tie : m % 2 = 0 ∨ (unitsOfMagnitude (m - 1) + unitsOfMagnitude m) * den < 2 * units ∧
    2 * units < (unitsOfMagnitude m + unitsOfMagnitude (m + 1)) * den

/-- The magnitude nearest to `units / den` units. -/
def magnitudeOfUnits (units den : Nat) : Nat :=
  let dropped := (units / den).log2 - 52
  min infinityMagnitude (dropped * 2 ^ (52 : Nat) + divNearestEven units (den * 2 ^ dropped))

theorem magnitudeOfRatio_eq (num den : Nat) :
    magnitudeOfRatio num den = magnitudeOfUnits (num * 2 ^ (1074 : Nat)) den := rfl

/-! ## Within a binade -/

section

variable {units den : Nat} (hden : 0 < den)

include hden

/-- In the binade `e` the bits below the step are rounded away. -/
theorem magnitudeOfUnits_binade {e s : Nat}
    (hlow : e = 0 ∨ 2 ^ (52 : Nat) * (den * 2 ^ e) ≤ units)
    (hhigh : units < 2 ^ (53 : Nat) * (den * 2 ^ e))
    (hs : WithinHalf s units (den * 2 ^ e))
    (hfinite : e * 2 ^ (52 : Nat) + s ≤ infinityMagnitude) :
    magnitudeOfUnits units den = e * 2 ^ (52 : Nat) + s := by
  have hround := divNearestEven_eq (Nat.mul_pos hden (Nat.two_pow_pos e)) hs
  have hupper : units / den < 2 ^ (53 + e) := by
    rw [Nat.div_lt_iff_lt_mul hden, Nat.pow_add, Nat.mul_assoc, Nat.mul_comm (2 ^ e)]
    exact hhigh
  have hdropped : (units / den).log2 - 52 = e := by
    rcases hlow with rfl | hlow
    · by_cases hzero : units / den = 0
      · rw [hzero]
        decide
      · have hlog := (Nat.log2_lt hzero).mpr hupper
        omega
    · have hlower : 2 ^ (52 + e) ≤ units / den := by
        rw [Nat.le_div_iff_mul_le hden, Nat.pow_add, Nat.mul_assoc, Nat.mul_comm (2 ^ e)]
        exact hlow
      have hne : units / den ≠ 0 := by
        have hpos := Nat.two_pow_pos (52 + e)
        omega
      have hlog : (units / den).log2 = 52 + e :=
        (Nat.log2_eq_iff hne).mpr ⟨hlower, by rwa [Nat.add_right_comm]⟩
      omega
  unfold magnitudeOfUnits
  simp only
  rw [hdropped, hround, Nat.min_eq_right hfinite]

theorem magnitudeOfUnits_small {m : Nat} (hm : 0 < m) (hsmall : m < 2 ^ (53 : Nat))
    (h : RoundsTo m units den) : magnitudeOfUnits units den = m := by
  obtain ⟨hlow, hhigh, htie⟩ := h
  have hnext : unitsOfMagnitude (m + 1) = m + 1 := by
    have hexp : m / 2 ^ (52 : Nat) - 1 = 0 := by omega
    rw [unitsOfMagnitude_succ, unitsOfMagnitude_small hsmall, hexp, Nat.pow_zero]
  have hpred : unitsOfMagnitude (m - 1) = m - 1 := unitsOfMagnitude_small (by omega)
  simp only [hpred, hnext, unitsOfMagnitude_small hsmall] at hlow hhigh htie
  have hbelow : (m - 1 + m) * den + den = 2 * (m * den) := by
    rw [← Nat.succ_mul, ← Nat.mul_assoc]
    congr 1
    omega
  have habove : (m + (m + 1)) * den = 2 * (m * den) + den := by
    rw [← Nat.add_assoc, Nat.succ_mul, Nat.add_mul, Nat.two_mul]
  have hle : m * den ≤ (2 ^ (53 : Nat) - 1) * den := Nat.mul_le_mul_right den (by omega)
  have hround : WithinHalf m units (den * 2 ^ (0 : Nat)) := by
    rw [Nat.pow_zero, Nat.mul_one]
    exact ⟨by omega, by omega, by omega⟩
  have hfinite : 0 * 2 ^ (52 : Nat) + m ≤ infinityMagnitude := by
    unfold infinityMagnitude
    omega
  have hbinade := magnitudeOfUnits_binade hden (.inl rfl) (by omega) hround hfinite
  rwa [Nat.zero_mul, Nat.zero_add] at hbinade

/-- A magnitude between the first and the last one of a binade has equal steps on both sides. -/
theorem magnitudeOfUnits_inside {e r : Nat} (hr : 0 < r)
    (hlt : r < 2 ^ (52 : Nat)) (hfinite : (e + 1) * 2 ^ (52 : Nat) + r ≤ infinityMagnitude)
    (h : RoundsTo ((e + 1) * 2 ^ (52 : Nat) + r) units den) :
    magnitudeOfUnits units den = (e + 1) * 2 ^ (52 : Nat) + r := by
  obtain ⟨hlow, hhigh, htie⟩ := h
  have hpred : (e + 1) * 2 ^ (52 : Nat) + r - 1 = (e + 1) * 2 ^ (52 : Nat) + (r - 1) := by omega
  have hstep : ((e + 1) * 2 ^ (52 : Nat) + r) / 2 ^ (52 : Nat) - 1 = e := by omega
  simp only [hpred, unitsOfMagnitude_succ, hstep, unitsOfMagnitude_binade e hlt,
    unitsOfMagnitude_binade e (Nat.lt_of_le_of_lt (Nat.sub_le r 1) hlt)] at hlow hhigh htie
  -- All bounds are counted in steps of the binade.
  have hsteps (a : Nat) : a * 2 ^ e * den = a * (den * 2 ^ e) := by
    rw [Nat.mul_assoc, Nat.mul_comm (2 ^ e)]
  have hbelow : (2 ^ (52 : Nat) + (r - 1)) * (den * 2 ^ e) + den * 2 ^ e =
      (2 ^ (52 : Nat) + r) * (den * 2 ^ e) := by
    rw [← Nat.succ_mul]
    congr 1
    omega
  have hfirst : (2 ^ (52 : Nat) + 1) * (den * 2 ^ e) ≤ (2 ^ (52 : Nat) + r) * (den * 2 ^ e) :=
    Nat.mul_le_mul_right _ (by omega)
  have hlast : (2 ^ (52 : Nat) + r) * (den * 2 ^ e) ≤ (2 ^ (53 : Nat) - 1) * (den * 2 ^ e) :=
    Nat.mul_le_mul_right _ (by omega)
  have hpos : 0 < den * 2 ^ e := Nat.mul_pos hden (Nat.two_pow_pos e)
  simp only [Nat.add_mul _ _ den, hsteps, Nat.mul_comm (2 ^ e) den] at hlow hhigh htie
  have hround : WithinHalf (2 ^ (52 : Nat) + r) units (den * 2 ^ e) :=
    ⟨by omega, by omega, by omega⟩
  have hplace : e * 2 ^ (52 : Nat) + (2 ^ (52 : Nat) + r) = (e + 1) * 2 ^ (52 : Nat) + r := by omega
  rw [← hplace] at hfinite ⊢
  exact magnitudeOfUnits_binade hden (.inr (by omega)) (by omega) hround hfinite

/-- The first magnitude of a binade has a step of the binade before it below itself. -/
theorem magnitudeOfUnits_first {e : Nat}
    (hfinite : (e + 2) * 2 ^ (52 : Nat) ≤ infinityMagnitude)
    (h : RoundsTo ((e + 2) * 2 ^ (52 : Nat)) units den) :
    magnitudeOfUnits units den = (e + 2) * 2 ^ (52 : Nat) := by
  obtain ⟨hlow, hhigh, -⟩ := h
  have hdouble : 2 ^ (e + 1) = 2 ^ e * 2 := Nat.pow_succ 2 e
  have hself : unitsOfMagnitude ((e + 2) * 2 ^ (52 : Nat)) = 2 ^ (53 : Nat) * 2 ^ e := by
    rw [← Nat.add_zero ((e + 2) * 2 ^ (52 : Nat)), unitsOfMagnitude_binade (e + 1) (by decide),
      hdouble]
    omega
  have hpred : unitsOfMagnitude ((e + 2) * 2 ^ (52 : Nat) - 1) = (2 ^ (53 : Nat) - 1) * 2 ^ e := by
    have heq : (e + 2) * 2 ^ (52 : Nat) - 1 = (e + 1) * 2 ^ (52 : Nat) + (2 ^ (52 : Nat) - 1) := by
      omega
    have hfull : 2 ^ (52 : Nat) + (2 ^ (52 : Nat) - 1) = 2 ^ (53 : Nat) - 1 := by decide
    rw [heq, unitsOfMagnitude_binade e (by decide), hfull]
  have hnext : unitsOfMagnitude ((e + 2) * 2 ^ (52 : Nat) + 1) = (2 ^ (53 : Nat) + 2) * 2 ^ e := by
    have hexp : (e + 2) * 2 ^ (52 : Nat) / 2 ^ (52 : Nat) - 1 = e + 1 := by omega
    rw [unitsOfMagnitude_succ, hself, hexp, hdouble]
    omega
  have hsteps (a : Nat) : a * 2 ^ e * den = a * (den * 2 ^ e) := by
    rw [Nat.mul_assoc, Nat.mul_comm (2 ^ e)]
  have hpos : 0 < den * 2 ^ e := Nat.mul_pos hden (Nat.two_pow_pos e)
  simp only [hself, hpred, hnext, Nat.add_mul _ _ den, hsteps] at hlow hhigh
  rcases Nat.lt_or_ge units (2 ^ (53 : Nat) * (den * 2 ^ e)) with hlt | hge
  · have hround : WithinHalf (2 ^ (53 : Nat)) units (den * 2 ^ e) :=
      ⟨by omega, by omega, .inl (by decide)⟩
    have hplace : e * 2 ^ (52 : Nat) + 2 ^ (53 : Nat) = (e + 2) * 2 ^ (52 : Nat) := by omega
    rw [← hplace] at hfinite ⊢
    exact magnitudeOfUnits_binade hden (.inr (by omega)) (by omega) hround hfinite
  · have hwide : den * 2 ^ (e + 1) = 2 * (den * 2 ^ e) := by
      rw [hdouble, ← Nat.mul_assoc, Nat.mul_comm]
    have hround : WithinHalf (2 ^ (52 : Nat)) units (den * 2 ^ (e + 1)) := by
      rw [hwide]
      exact ⟨by omega, by omega, .inl (by decide)⟩
    have hplace : (e + 1) * 2 ^ (52 : Nat) + 2 ^ (52 : Nat) = (e + 2) * 2 ^ (52 : Nat) := by omega
    rw [← hplace] at hfinite ⊢
    exact magnitudeOfUnits_binade hden (.inr (by omega)) (by omega) hround hfinite

/-- **A quotient between the midpoints around a magnitude rounds to it.** -/
theorem magnitudeOfUnits_eq {m : Nat} (hm : 0 < m) (hfinite : m ≤ infinityMagnitude)
    (h : RoundsTo m units den) : magnitudeOfUnits units den = m := by
  rcases Nat.lt_or_ge m (2 ^ (53 : Nat)) with hsmall | hlarge
  · exact magnitudeOfUnits_small hden hm hsmall h
  · obtain ⟨e, r, hr, rfl⟩ :
        ∃ e r, r < 2 ^ (52 : Nat) ∧ m = (e + 2) * 2 ^ (52 : Nat) + r :=
      ⟨m / 2 ^ (52 : Nat) - 2, m % 2 ^ (52 : Nat), Nat.mod_lt _ (by decide), by omega⟩
    rcases Nat.eq_zero_or_pos r with rfl | hpos
    · rw [Nat.add_zero] at hfinite h ⊢
      exact magnitudeOfUnits_first hden hfinite h
    · exact magnitudeOfUnits_inside hden hpos hr hfinite h

end

end Binary64

end RecordQuery
