import Mathlib.Algebra.Order.Field.Rat
import Mathlib.Algebra.Order.Ring.Cast
import Mathlib.Data.Int.Cast.Lemmas
import RecordQuery.Config
import RecordQuery.Proofs.Binary64.Whole
import RecordQuery.Proofs.Json.ReadBack

/-!
# Integers and seconds

A JSON number under an int field is read exactly or not at all.  A whole number that fits a word is
taken as it is.  Any other number is read by way of a binary64 number; but the whole numbers for
which this is done are rounded to numbers beyond the words, so that nothing is rounded into their
range.

A JSON number under a duration field is always read by way of a binary64 number.  Whole seconds are
rounded on the way, and only those that are binary64 numbers are read exactly.  Beyond `2 ^ 53`
neighbours are merged, and the seconds next to the end are not read at all, although a duration
could hold them.
-/

namespace RecordQuery

namespace JsonNumber

/-- The exact value of a number. -/
def value : JsonNumber → ℚ
  | whole n _ _ => n
  | double x _ => x.units / 2 ^ 1074

theorem value_double_eq_iff {x : Binary64} {finite : x.isFinite = true} {i : ℤ} :
    (double x finite).value = i ↔ x.units = i * 2 ^ (1074 : Nat) := by
  have hunit : (2 ^ 1074 : ℚ) ≠ 0 := pow_ne_zero _ two_ne_zero
  have hcast : ((i * 2 ^ (1074 : Nat) : ℤ) : ℚ) = i * 2 ^ 1074 := by
    rw [Int.cast_mul, Int.cast_pow, Int.cast_ofNat]
  rw [value, div_eq_iff hunit, ← hcast, Int.cast_inj]

/-! ## Integers -/

theorem int64?_eq_some_iff {n : ℤ} {w : Int64} : int64? n = some w ↔ n = w.toInt := by
  constructor
  · intro h
    obtain ⟨hrange, hw⟩ := Option.ite_none_right_eq_some.mp h
    rw [← Option.some.inj hw, Int64.toInt_ofInt_of_le hrange.1 hrange.2]
  · rintro rfl
    rw [int64?, if_pos ⟨w.le_toInt, w.toInt_lt⟩, Int64.ofInt_toInt]

/-- A whole number beyond the words is not rounded to a word. -/
theorem word?_ofInt_eq_none {n : ℕ} (hlow : 2 ^ (63 : Nat) ≤ n) (hhigh : n < 2 ^ (64 : Nat)) :
    (Binary64.ofInt n).word? = none := by
  have hround : 2 ^ (63 : Nat) ≤ Binary64.nearestWhole n := by
    calc 2 ^ (63 : Nat) = Binary64.nearestWhole (2 ^ (63 : Nat)) := by decide +kernel
      _ ≤ Binary64.nearestWhole n := Binary64.nearestWhole_mono hlow
  rw [Option.eq_none_iff_forall_ne_some]
  intro w hw
  rw [Binary64.word?_eq_some_iff (Binary64.isFinite_ofInt_natCast hhigh),
    Binary64.units_ofInt_natCast hhigh, Int.natCast_mul, Binary64.natCast_unit] at hw
  have hword := Int.eq_of_mul_eq_mul_right (Int.ne_of_gt Binary64.unit_pos) hw
  have hlt := w.toInt_lt
  omega

/-- **The word that a number is** has the value of the number. -/
theorem word?_eq_some_iff {n : JsonNumber} {w : Int64} :
    n.word? = some w ↔ n.value = (w.toInt : ℚ) := by
  cases n with
  | whole n lower upper =>
      rw [word?, value, Int.cast_inj, ← int64?_eq_some_iff]
      rcases lt_or_ge n (2 ^ (63 : Nat)) with hlt | hge
      · have hself : int64? n = some (Int64.ofInt n) := if_pos ⟨lower, hlt⟩
        rw [hself, Option.some_or]
      · have hnone : int64? n = none := if_neg fun hrange => Int.not_lt.mpr hge hrange.2
        obtain ⟨m, rfl⟩ := Int.eq_ofNat_of_zero_le (Int.le_trans (by decide) hge)
        have hrounded := word?_ofInt_eq_none (n := m) (by omega) (by omega)
        rw [hnone, Option.none_or, hrounded]
  | double x finite => rw [value_double_eq_iff, word?, Binary64.word?_eq_some_iff finite]

end JsonNumber

/-- **Numbers read as integers.**  An int field reads a JSON number as an integer if and only if
this integer is the exact value of the number and fits a word; any other number is read as null. -/
theorem TypeClass.readJson_integer_iff (variants : List String) (n : JsonNumber) :
    (∀ i : ℤ, (∃ w : Int64, int.readJson variants (.number n) = .integer w ∧ w.toInt = i) ↔
      n.value = i ∧ -2 ^ (63 : Nat) ≤ i ∧ i < 2 ^ (63 : Nat)) ∧
    (int.readJson variants (.number n) = .null ↔
      ¬ ∃ i : ℤ, n.value = i ∧ -2 ^ (63 : Nat) ≤ i ∧ i < 2 ^ (63 : Nat)) := by
  have hread : int.readJson variants (.number n) = (n.word?.map .integer).getD .null := rfl
  have hword (i : ℤ) : (∃ w, n.word? = some w ∧ w.toInt = i) ↔
      n.value = i ∧ -2 ^ (63 : Nat) ≤ i ∧ i < 2 ^ (63 : Nat) := by
    constructor
    · rintro ⟨w, hw, rfl⟩
      exact ⟨JsonNumber.word?_eq_some_iff.mp hw, w.le_toInt, w.toInt_lt⟩
    · rintro ⟨hvalue, hlow, hhigh⟩
      have hself := Int64.toInt_ofInt_of_le hlow hhigh
      exact ⟨Int64.ofInt i, JsonNumber.word?_eq_some_iff.mpr (by rw [hself, hvalue]), hself⟩
  simp only [← hword, hread]
  cases hw : n.word? with
  | none => simp
  | some w => simp

/-! ## Seconds -/

namespace Duration

/-- A negative number of seconds names no duration. -/
theorem ofSeconds?_of_units_neg {x : Binary64} (hx : x.units < 0) : ofSeconds? x = none := by
  have hneg : decide (0 ≤ x.units) = false := decide_eq_false (Int.not_le.mpr hx)
  rw [ofSeconds?, hneg, Bool.and_false]
  rfl

/-- Whole seconds are rounded to a binary64 number, and to nothing else. -/
theorem ofSeconds?_natCast {n : ℕ} (hn : n < 2 ^ (64 : Nat)) :
    ofSeconds? (Binary64.ofInt n) = ofParts? (Binary64.nearestWhole n) 0 := by
  have hfinite := Binary64.isFinite_ofInt_natCast hn
  have hunits := Binary64.units_ofInt_natCast hn
  have hnonneg : decide (0 ≤ (Binary64.ofInt n).units) = true := by
    rw [hunits]
    exact decide_eq_true (Int.natCast_nonneg _)
  have htotal : divNearestEven ((Binary64.ofInt n).units.toNat * 1000000000) (2 ^ (1074 : Nat)) =
      Binary64.nearestWhole n * 1000000000 := by
    rw [hunits, Int.toNat_natCast, Nat.mul_right_comm,
      divNearestEven_mul_self _ (Nat.two_pow_pos 1074)]
  simp only [ofSeconds?, hfinite, hnonneg, htotal, Bool.and_self, if_true,
    Nat.mul_div_cancel _ (by decide : 0 < 1000000000), Nat.mul_mod_left]

end Duration

/-- The rounded seconds fit a duration up to the midpoint below `2 ^ 64`. -/
theorem Binary64.nearestWhole_lt_iff {n : ℕ} :
    nearestWhole n < 2 ^ (64 : Nat) ↔ n < 2 ^ (64 : Nat) - 2 ^ (10 : Nat) := by
  constructor
  · intro h
    by_contra hge
    have hmono := nearestWhole_mono (Nat.le_of_not_lt hge)
    have hend : nearestWhole (2 ^ (64 : Nat) - 2 ^ (10 : Nat)) = 2 ^ (64 : Nat) := by decide +kernel
    omega
  · intro h
    have hmono := nearestWhole_mono (Nat.le_pred_of_lt h)
    have hend : nearestWhole (2 ^ (64 : Nat) - 2 ^ (10 : Nat) - 1) =
        2 ^ (64 : Nat) - 2 ^ (11 : Nat) := by
      decide +kernel
    rw [Nat.pred_eq_sub_one, hend] at hmono
    omega

/-- The JSON number that is a natural number of one word. -/
def JsonNumber.ofNat (n : ℕ) (hn : n < 2 ^ (64 : Nat)) : JsonNumber :=
  whole n (by omega) (by omega)

/-- A negative number is rounded to a negative number. -/
theorem JsonNumber.units_neg_of_value {j : JsonNumber} (h : j.value < 0) :
    j.toBinary64.units < 0 := by
  cases j with
  | whole n lower upper =>
      have hneg : n < 0 := Int.cast_lt_zero.mp h
      obtain ⟨m, rfl⟩ := Int.exists_eq_neg_ofNat (Int.le_of_lt hneg)
      have hpos : 0 < m := by omega
      have hnearest : 0 < Binary64.nearestWhole m :=
        Nat.lt_of_lt_of_le (Nat.two_pow_pos _) (Binary64.two_pow_log2_le_nearestWhole hpos)
      have hunits := Nat.mul_pos hnearest (Nat.two_pow_pos 1074)
      rw [toBinary64, Binary64.units_ofInt_neg (by omega) hpos]
      exact Int.neg_neg_of_pos (Int.natCast_pos.mpr hunits)
  | double x finite =>
      have hunit : (0 : ℚ) < 2 ^ 1074 := pow_pos two_pos _
      by_contra hnonneg
      have hcast : (0 : ℚ) ≤ x.units := Int.cast_nonneg (Int.not_lt.mp hnonneg)
      exact absurd h (not_lt.mpr (div_nonneg hcast hunit.le))

namespace TypeClass

variable (variants : List String)

theorem readJson_negative {j : JsonNumber} (h : j.value < 0) :
    duration.readJson variants (.number j) = .null := by
  have hnone : Duration.ofJson? (.number j) = none :=
    Duration.ofSeconds?_of_units_neg (JsonNumber.units_neg_of_value h)
  rw [readJson_duration, hnone]
  rfl

/-- A duration field reads a whole number as the nearest number of seconds that is a binary64
number, if a duration holds so many seconds. -/
theorem readJson_ofNat {n : ℕ} (hn : n < 2 ^ (64 : Nat)) :
    duration.readJson variants (.number (.ofNat n hn)) =
      ((Duration.ofParts? (Binary64.nearestWhole n) 0).map .duration).getD .null := by
  have hseconds : Duration.ofJson? (.number (.ofNat n hn)) =
      Duration.ofParts? (Binary64.nearestWhole n) 0 := Duration.ofSeconds?_natCast hn
  rw [readJson_duration, hseconds]

theorem readJson_ofNat_eq_duration_iff {n : ℕ} (hn : n < 2 ^ (64 : Nat)) {d : Duration} :
    duration.readJson variants (.number (.ofNat n hn)) = .duration d ↔
      d.seconds = Binary64.nearestWhole n ∧ d.nanos = 0 := by
  rw [readJson_ofNat, ← Duration.ofParts?_eq_some_iff]
  cases Duration.ofParts? (Binary64.nearestWhole n) 0 with
  | none => simp
  | some e => simp

theorem readJson_ofNat_eq_null_iff {n : ℕ} (hn : n < 2 ^ (64 : Nat)) :
    duration.readJson variants (.number (.ofNat n hn)) = .null ↔
      2 ^ (64 : Nat) - 2 ^ (10 : Nat) ≤ n := by
  rw [readJson_ofNat, ← Nat.not_lt, ← Binary64.nearestWhole_lt_iff, Duration.ofParts?]
  by_cases hfits : Binary64.nearestWhole n < 2 ^ (64 : Nat)
  · simp [hfits]
  · simp [hfits]

/-- A duration field reads a whole number exactly if and only if it is a multiple of its step. -/
theorem readJson_ofNat_exact_iff {n : ℕ} (hn : n < 2 ^ (64 : Nat)) :
    (∃ d, duration.readJson variants (.number (.ofNat n hn)) = .duration d ∧
      d.totalNanos = n * 1000000000) ↔ 2 ^ (n.log2 - 52) ∣ n := by
  have hself : 2 ^ (n.log2 - 52) ∣ n ↔ Binary64.nearestWhole n = n :=
    Binary64.nearestWhole_eq_self_iff.symm
  rw [hself]
  constructor
  · rintro ⟨d, hd, htotal⟩
    obtain ⟨hseconds, hnanos⟩ := (readJson_ofNat_eq_duration_iff variants hn).mp hd
    rw [Duration.totalNanos] at htotal
    omega
  · intro h
    have hread := (readJson_ofNat_eq_duration_iff variants hn (d := ⟨n, 0, hn, by decide⟩)).mpr
      ⟨h.symm, rfl⟩
    exact ⟨_, hread, Nat.add_zero _⟩

/-- **Whole numbers read as seconds.**  A duration field reads a whole number of one word exactly if
and only if the number has at most 53 significant bits.  A number with more bits is off by at most
half the distance of the binary64 numbers around it, so that smaller numbers are not read as longer
durations, though not always as shorter ones; and the last `2 ^ 10` numbers of a word are read as
null.  So are all negative numbers. -/
theorem readJson_seconds_iff {n : ℕ} (hn : n < 2 ^ (64 : Nat)) :
    ((∃ d, duration.readJson variants (.number (.ofNat n hn)) = .duration d ∧
        d.totalNanos = n * 1000000000) ↔ 2 ^ (n.log2 - 52) ∣ n) ∧
    (duration.readJson variants (.number (.ofNat n hn)) = .null ↔
      2 ^ (64 : Nat) - 2 ^ (10 : Nat) ≤ n) ∧
    (∀ d, duration.readJson variants (.number (.ofNat n hn)) = .duration d →
      d.nanos = 0 ∧ 2 * d.seconds ≤ 2 * n + 2 ^ (n.log2 - 52) ∧
        2 * n ≤ 2 * d.seconds + 2 ^ (n.log2 - 52)) ∧
    (∀ (m : ℕ) (hm : m < 2 ^ (64 : Nat)) (d e : Duration), n < m →
      duration.readJson variants (.number (.ofNat n hn)) = .duration d →
      duration.readJson variants (.number (.ofNat m hm)) = .duration e →
      d.totalNanos ≤ e.totalNanos ∧
        (2 ^ (n.log2 - 52) ∣ n → 2 ^ (m.log2 - 52) ∣ m → d.totalNanos < e.totalNanos)) ∧
    ∀ j : JsonNumber, j.value < 0 → duration.readJson variants (.number j) = .null := by
  refine ⟨readJson_ofNat_exact_iff variants hn, readJson_ofNat_eq_null_iff variants hn, ?_, ?_,
    fun j hj => readJson_negative variants hj⟩
  · intro d hd
    obtain ⟨hseconds, hnanos⟩ := (readJson_ofNat_eq_duration_iff variants hn).mp hd
    rw [hseconds]
    exact ⟨hnanos, Binary64.nearestWhole_within n⟩
  · intro m hm d e hlt hd he
    obtain ⟨hdseconds, hdnanos⟩ := (readJson_ofNat_eq_duration_iff variants hn).mp hd
    obtain ⟨heseconds, henanos⟩ := (readJson_ofNat_eq_duration_iff variants hm).mp he
    have hmono := Binary64.nearestWhole_mono (Nat.le_of_lt hlt)
    rw [Duration.totalNanos, Duration.totalNanos, hdseconds, heseconds, hdnanos, henanos]
    refine ⟨by omega, fun hnstep hmstep => ?_⟩
    have hnself := Binary64.nearestWhole_eq_self_iff.mpr hnstep
    have hmself := Binary64.nearestWhole_eq_self_iff.mpr hmstep
    omega

/-- The first whole number with more than 53 significant bits is read as the number before it, and
the last number of a word is read as null although a duration holds so many seconds. -/
theorem readJson_seconds_merged :
    duration.readJson [] (.number (.ofNat (2 ^ (53 : Nat) + 1) (by decide))) =
      .duration ⟨2 ^ (53 : Nat), 0, by decide, by decide⟩ ∧
    duration.readJson [] (.number (.ofNat (2 ^ (53 : Nat)) (by decide))) =
      .duration ⟨2 ^ (53 : Nat), 0, by decide, by decide⟩ ∧
    duration.readJson [] (.number (.ofNat (2 ^ (64 : Nat) - 1) (by decide))) = .null ∧
    (Duration.ofParts? (2 ^ (64 : Nat) - 1) 0).isSome = true := by
  decide +kernel

/-- A billion years in seconds has 55 bits, of which the last ones are zero; so it is read exactly,
and as less than the number four seconds later. -/
theorem readJson_seconds_eon :
    31557600000000000 < 2 ^ (64 : Nat) ∧
    (∃ d e, duration.readJson [] (.number (.ofNat 31557600000000000 (by decide))) = .duration d ∧
      duration.readJson [] (.number (.ofNat 31557600000000004 (by decide))) = .duration e ∧
      d.totalNanos = 31557600000000000 * 1000000000 ∧ d.totalNanos < e.totalNanos) ∧
    duration.readJson [] (.number (.whole (-1) (by decide) (by decide))) = .null := by
  have hword : 31557600000000000 < 2 ^ (64 : Nat) := by decide
  have hlater : 31557600000000004 < 2 ^ (64 : Nat) := by decide
  have hstep : 2 ^ (Nat.log2 31557600000000000 - 52) ∣ 31557600000000000 := by decide +kernel
  have hlaterStep : 2 ^ (Nat.log2 31557600000000004 - 52) ∣ 31557600000000004 := by decide +kernel
  have hvalue : (JsonNumber.whole (-1) (by decide) (by decide)).value < 0 := by
    simp [JsonNumber.value]
  obtain ⟨hexact, -, -, horder, hnegative⟩ := readJson_seconds_iff [] hword
  obtain ⟨d, hd, htotal⟩ := hexact.mpr hstep
  obtain ⟨e, he, -⟩ := (readJson_seconds_iff [] hlater).1.mpr hlaterStep
  have hless := (horder _ hlater d e (by decide) hd he).2 hstep hlaterStep
  exact ⟨hword, ⟨d, e, hd, he, htotal, hless⟩, hnegative _ hvalue⟩

end TypeClass

end RecordQuery
