import RecordQuery.Binary64.Text
import RecordQuery.Proofs.Binary64.Nearest
import RecordQuery.Proofs.Reading
import RecordQuery.Proofs.Token.Scan

/-!
# Numbers read back

The search for shortest digits stops inside the interval of its number, on the finest grid at the
latest.  The interval lies between the midpoints around the magnitude, so reading the digits rounds
to the number again.  Digits that are found are never so far below one that reading takes them for
zero without a look.

A number of a query text is laid out as digits with at most one point among them.  The digits come
to the shortest decimal of the number, wherever the point stands, so the number is read back; the
names of the infinities and of NaN are read back as well, except that NaN loses its sign.
-/

namespace RecordQuery.Binary64

namespace Shortest

/-! ## The interval of a magnitude -/

/-- The target `t` is that of the magnitude `m`, counted in `scale` parts of a unit. -/
structure Target.Around (t : Target) (m scale : Nat) : Prop where
  value : t.value = unitsOfMagnitude m * scale
  low : t.low = (unitsOfMagnitude (m - 1) + unitsOfMagnitude m) * scale
  high : t.high = (unitsOfMagnitude m + unitsOfMagnitude (m + 1)) * scale
  closed : t.closed = decide (m % 2 = 0)
  pos : 0 < scale

theorem Target.around (tie : DecimalTie) (m : Nat) :
    (ofMagnitude tie m).Around m (5 ^ (1074 : Nat)) :=
  ⟨rfl, rfl, rfl, rfl, @Nat.pow_pos 5 1074 (by decide)⟩

/-- A decimal is admitted between the ends of the interval, and at the ends if they belong to it. -/
theorem Target.admits_iff {t : Target} {n : Nat} : t.admits n = true ↔
    t.low ≤ 2 * n ∧ 2 * n ≤ t.high ∧ (t.closed = true ∨ t.low < 2 * n ∧ 2 * n < t.high) := by
  unfold admits
  cases t.closed with
  | true => simp
  | false =>
      simp only [Bool.false_eq_true, if_false, Bool.and_eq_true, decide_eq_true_eq, false_or]
      omega

variable {t : Target} {m scale : Nat} (ht : t.Around m scale)

include ht

/-- A positive value lies in its own interval. -/
theorem admits_value (hm : 0 < m) : t.admits t.value = true := by
  have hbelow : unitsOfMagnitude (m - 1) < unitsOfMagnitude m :=
    unitsOfMagnitude_lt_iff.mpr (by omega)
  have habove := unitsOfMagnitude_lt_succ m
  have hlow := Nat.mul_lt_mul_of_pos_right hbelow ht.pos
  have hhigh := Nat.mul_lt_mul_of_pos_right habove ht.pos
  rw [Target.admits_iff, ht.value, ht.low, ht.high, Nat.add_mul, Nat.add_mul]
  omega

/-- A decimal in the interval is at least half a unit. -/
theorem scale_le_of_admits (hm : 0 < m) {n : Nat} (hn : t.admits n = true) : scale ≤ 2 * n := by
  have hunits : 0 < unitsOfMagnitude m := unitsOfMagnitude_lt_iff.mpr hm
  have hone : 1 * scale ≤ (unitsOfMagnitude (m - 1) + unitsOfMagnitude m) * scale :=
    Nat.mul_le_mul_right scale (by omega)
  have hlow := (Target.admits_iff.mp hn).1
  rw [ht.low] at hlow
  omega

/-- The digits of a decimal in the interval do not lie too far below the point. -/
theorem places_of_admits (hm : 0 < m) {digits k b : Nat} (hb : 4 * 10 ^ b < scale)
    (hn : t.admits (digits * 10 ^ k) = true) : b < digits.log2 + k := by
  have hlow := scale_le_of_admits ht hm hn
  apply Nat.lt_of_not_le
  intro hfar
  have hdigits : digits ≤ 2 * 10 ^ digits.log2 := by
    have hlog : digits < 2 ^ (digits.log2 + 1) := Nat.lt_log2_self
    have hten : 2 ^ digits.log2 ≤ 10 ^ digits.log2 := Nat.pow_le_pow_left (by decide) _
    rw [Nat.pow_succ] at hlog
    omega
  have hpowers : 10 ^ digits.log2 * 10 ^ k ≤ 10 ^ b := by
    rw [← Nat.pow_add]
    exact Nat.pow_le_pow_right (by decide) hfar
  have hproduct := Nat.mul_le_mul_right (10 ^ k) hdigits
  rw [Nat.mul_assoc] at hproduct
  omega

/-- **A decimal in the interval is a quotient that rounds to the magnitude.**  The decimal counts
parts of a unit, `rest` of which go into `scale`. -/
theorem roundsTo_of_admits {n num den rest : Nat} (hden : 0 < den)
    (hn : t.admits n = true) (hvalue : num * (scale * rest) = n * den) :
    RoundsTo m (num * rest) den := by
  have hright : 2 * (num * rest) * scale = 2 * n * den := by
    rw [Nat.mul_assoc, Nat.mul_assoc, Nat.mul_assoc, Nat.mul_comm rest, hvalue]
  have hle (a : Nat) : a * den ≤ 2 * (num * rest) ↔ a * scale ≤ 2 * n := by
    rw [← Nat.mul_le_mul_right_iff ht.pos, Nat.mul_right_comm, hright,
      Nat.mul_le_mul_right_iff hden]
  have hge (a : Nat) : 2 * (num * rest) ≤ a * den ↔ 2 * n ≤ a * scale := by
    rw [← Nat.mul_le_mul_right_iff ht.pos, Nat.mul_right_comm a, hright,
      Nat.mul_le_mul_right_iff hden]
  obtain ⟨hlow, hhigh, htie⟩ := Target.admits_iff.mp hn
  rw [ht.low] at hlow htie
  rw [ht.high] at hhigh htie
  rw [ht.closed, decide_eq_true_eq] at htie
  refine ⟨(hle _).mpr hlow, (hge _).mpr hhigh, ?_⟩
  rcases htie with heven | ⟨hlow, hhigh⟩
  · exact .inl heven
  · right
    constructor
    · apply Nat.lt_of_not_le
      intro h
      exact absurd ((hge _).mp h) (Nat.not_le_of_lt hlow)
    · apply Nat.lt_of_not_le
      intro h
      exact absurd ((hle _).mp h) (Nat.not_le_of_lt hhigh)

omit ht

/-- Digits that count whole numbers are a quotient by one. -/
theorem roundsTo_whole {a digits k : Nat} (ht : t.Around m (5 ^ a)) (hk : a ≤ k)
    (hn : t.admits (digits * 10 ^ k) = true) : RoundsTo m (digits * 10 ^ (k - a) * 2 ^ a) 1 := by
  refine roundsTo_of_admits ht Nat.one_pos hn ?_
  rw [← Nat.mul_pow, Nat.mul_assoc, ← Nat.pow_add, Nat.mul_one, Nat.sub_add_cancel hk]

/-- Digits with places behind the point are a quotient by a power of ten. -/
theorem roundsTo_fraction {a digits k places : Nat} (ht : t.Around m (5 ^ a))
    (hk : k + places = a) (hn : t.admits (digits * 10 ^ k) = true) :
    RoundsTo m (digits * 2 ^ a) (10 ^ places) := by
  refine roundsTo_of_admits ht (Nat.pow_pos (by decide)) hn ?_
  rw [← Nat.mul_pow, Nat.mul_assoc, ← Nat.pow_add, hk]

/-! ## The search -/

/-- Whatever grid the search stops at, what it finds lies in the interval. -/
theorem search_admits (h : t.admits t.value = true) (n : Nat) :
    t.admits ((search t n).1 * 10 ^ (search t n).2) = true := by
  induction n with
  | zero => simpa [search] using h
  | succ n ih =>
      unfold search
      simp only
      split
      · rename_i hbelow habove
        split
        · exact habove
        · exact hbelow
      · rename_i hbelow _
        exact hbelow
      · rename_i _ habove
        exact habove
      · exact ih

theorem found_admits (h : t.admits t.value = true) :
    t.admits ((found t).1 * 10 ^ (found t).2) = true :=
  search_admits h (places t.value)

theorem ofFound_admits {found : Nat × Nat} (h : t.admits (found.1 * 10 ^ found.2) = true) :
    ∃ k : Nat, (Decimal.ofFound found).exponent = k - 1074 ∧
      t.admits ((Decimal.ofFound found).digits * 10 ^ k) = true :=
  ⟨found.2, rfl, h⟩

end Shortest

/-- The shortest digits of a positive magnitude lie in its interval. -/
theorem shortest_admits (tie : DecimalTie) {m : Nat} (hm : 0 < m) :
    ∃ k : Nat, (shortest tie m).exponent = k - 1074 ∧
      (Shortest.Target.ofMagnitude tie m).admits ((shortest tie m).digits * 10 ^ k) = true := by
  have hvalue := Shortest.admits_value (Shortest.Target.around tie m) hm
  rw [shortest]
  exact Shortest.ofFound_admits (Shortest.found_admits hvalue)

open Text

/-! ## Digits with a point -/

/-- `Positional cs n places` says that `cs` consists of the digits of `n`, of which `places` stand
behind a point. -/
inductive Positional : List Char → Nat → Nat → Prop
  | whole {digits : List Char} : digits ≠ [] → (∀ c ∈ digits, isDigit c = true) →
      Positional digits (numeralFrom 0 digits) 0
  | point {whole fraction : List Char} : whole ≠ [] → (∀ c ∈ whole, isDigit c = true) →
      (∀ c ∈ fraction, isDigit c = true) →
      Positional (whole ++ '.' :: fraction) (numeralFrom 0 (whole ++ fraction)) fraction.length

theorem count_point_digits {cs : List Char} (h : ∀ c ∈ cs, isDigit c = true) : cs.count '.' = 0 :=
  List.count_eq_zero.mpr fun hmem => ne_point_of_isDigit (h _ hmem) rfl

theorem Positional.isNumeral {cs : List Char} {n places : Nat} (h : Positional cs n places) :
    IsNumeral cs := by
  cases h with
  | whole hne hdigits =>
      obtain ⟨c, cs, rfl⟩ := List.exists_cons_of_ne_nil hne
      have htail : ∀ d ∈ cs, isDigit d = true := fun d hd => hdigits d (List.mem_cons_of_mem c hd)
      refine ⟨c, cs, rfl, hdigits c (by simp), fun d hd => .inl (htail d hd), ?_⟩
      rw [count_point_digits htail]
      decide
  | @point whole fraction hne hwhole hfraction =>
      obtain ⟨c, cs, rfl⟩ := List.exists_cons_of_ne_nil hne
      have htail : ∀ d ∈ cs, isDigit d = true := fun d hd => hwhole d (List.mem_cons_of_mem c hd)
      refine ⟨c, cs ++ '.' :: fraction, rfl, hwhole c (by simp), ?_, ?_⟩
      · intro d hd
        rcases List.mem_append.mp hd with hd | hd
        · exact .inl (htail d hd)
        · rcases List.mem_cons.mp hd with rfl | hd
          · exact .inr rfl
          · exact .inl (hfraction d hd)
      · have hcount : (cs ++ '.' :: fraction).count '.' = 1 := by
          simp only [List.count_append, List.count_cons_self, count_point_digits htail,
            count_point_digits hfraction]
        omega

theorem takeWhile_digits {cs : List Char} (h : ∀ c ∈ cs, isDigit c = true) :
    cs.takeWhile isDigit = cs ∧ cs.dropWhile isDigit = [] := by
  have hhead : ∀ c ∈ ([] : List Char).head?, isDigit c = false := by simp
  have htake := takeWhile_run h hhead
  have hdrop := dropWhile_run h hhead
  rw [List.append_nil] at htake hdrop
  exact ⟨htake, hdrop⟩

/-- Digits with a point are read as the decimal they stand for. -/
theorem Positional.unsigned? {cs : List Char} {n places : Nat} (h : Positional cs n places)
    (negative : Bool) :
    Binary64.unsigned? negative cs = some (ofDecimal negative n (-(places : Int))) := by
  cases h with
  | whole hne hdigits =>
      obtain ⟨htake, hdrop⟩ := takeWhile_digits hdigits
      have hsplit : splitDigits cs = (cs, [], []) := by
        rw [splitDigits, hdrop, htake]
      simp [Binary64.unsigned?, hsplit, hne, exponent?]
  | @point whole fraction hne hwhole hfraction =>
      obtain ⟨htake, hdrop⟩ := takeWhile_digits hfraction
      have hsplit : splitDigits (whole ++ '.' :: fraction) = (whole, fraction, []) := by
        have hpoint : ∀ c ∈ ('.' :: fraction).head?, isDigit c = false := by
          simpa using isDigit_point
        have hback := dropWhile_run hwhole hpoint
        have hfront := takeWhile_run hwhole hpoint
        simp only [splitDigits, hback, hfront, htake, hdrop]
      simp [Binary64.unsigned?, hsplit, hne, exponent?]

/-! ## Where the point is put -/

theorem isDigit_zeros (k : Nat) : ∀ c ∈ List.replicate k '0', isDigit c = true := by
  intro c hc
  rw [List.eq_of_mem_replicate hc]
  exact isDigit_zero

/-- The point in front of all digits, with zeros between. -/
theorem positional_front {digits : List Char} (hdigits : ∀ c ∈ digits, isDigit c = true)
    (k : Nat) : Positional ('0' :: '.' :: List.replicate k '0' ++ digits) (numeralFrom 0 digits)
      (k + digits.length) := by
  have hwhole : ∀ c ∈ ['0'], isDigit c = true := List.forall_mem_singleton.mpr isDigit_zero
  have hfraction := List.forall_mem_append.mpr ⟨isDigit_zeros k, hdigits⟩
  have hvalue : numeralFrom 0 (['0'] ++ (List.replicate k '0' ++ digits)) =
      numeralFrom 0 digits := by
    have hzero : numeralFrom 0 ['0'] = 0 := by decide
    rw [numeralFrom_append, numeralFrom_append, hzero, numeralFrom_zeros, Nat.zero_mul]
  have hlength : (List.replicate k '0' ++ digits).length = k + digits.length := by
    rw [List.length_append, List.length_replicate]
  have hpoint := Positional.point (List.cons_ne_nil '0' []) hwhole hfraction
  rw [hvalue, hlength] at hpoint
  exact hpoint

/-- The point between the digits. -/
theorem positional_inside {digits : List Char} (hdigits : ∀ c ∈ digits, isDigit c = true)
    {k : Nat} (hpos : 0 < k) (hk : k < digits.length) :
    Positional (digits.take k ++ '.' :: digits.drop k) (numeralFrom 0 digits)
      (digits.length - k) := by
  have htake : ∀ c ∈ digits.take k, isDigit c = true := by
    intro c hc
    exact hdigits c (List.mem_of_mem_take hc)
  have hdrop : ∀ c ∈ digits.drop k, isDigit c = true := by
    intro c hc
    exact hdigits c (List.mem_of_mem_drop hc)
  have hne : digits.take k ≠ [] := by
    rw [← List.length_pos_iff, List.length_take]
    omega
  have hpoint := Positional.point hne htake hdrop
  rw [List.take_append_drop, List.length_drop] at hpoint
  exact hpoint

/-- No point, and zeros behind the digits. -/
theorem positional_behind {digits : List Char} (hne : digits ≠ [])
    (hdigits : ∀ c ∈ digits, isDigit c = true) (k : Nat) :
    Positional (digits ++ List.replicate k '0') (numeralFrom 0 digits * 10 ^ k) 0 := by
  have hwhole : digits ++ List.replicate k '0' ≠ [] := by simp [hne]
  have hpositional := Positional.whole hwhole
    (List.forall_mem_append.mpr ⟨hdigits, isDigit_zeros k⟩)
  rw [numeralFrom_append, numeralFrom_zeros] at hpositional
  exact hpositional

/-- `Rescaled digits exponent n places` says that `digits` powers of ten from `exponent` upwards
are written as `n` with `places` of its digits behind the point. -/
def Rescaled (digits : Nat) (exponent : Int) (n places : Nat) : Prop :=
  (0 ≤ exponent ∧ places = 0 ∧ n = digits * 10 ^ exponent.toNat) ∨
    (exponent = -(places : Int) ∧ 0 < places ∧ n = digits)

/-- Digits are laid out with as many places as the exponent is below zero, and else with zeros
behind them. -/
theorem positional_layOut {digits : List Char} (hne : digits ≠ [])
    (hdigits : ∀ c ∈ digits, isDigit c = true) (exponent : Int) :
    ∃ n places, Positional (NumberFormat.plain.layOut digits exponent) n places ∧
      Rescaled (numeralFrom 0 digits) exponent n places := by
  have hlength : 0 < digits.length := List.length_pos_iff.mpr hne
  show ∃ n places, Positional
    (NumberFormat.plain.positionally digits (exponent + digits.length)) n places ∧ _
  unfold NumberFormat.positionally
  by_cases hfront : exponent + digits.length ≤ 0
  · rw [if_pos hfront]
    exact ⟨_, _, positional_front hdigits _, .inr ⟨by omega, by omega, rfl⟩⟩
  · rw [if_neg hfront]
    by_cases hinside : (exponent + digits.length).toNat < digits.length
    · rw [if_pos hinside]
      exact ⟨_, _, positional_inside hdigits (by omega) hinside, .inr ⟨by omega, by omega, rfl⟩⟩
    · have hcount : (exponent + digits.length).toNat - digits.length = exponent.toNat := by omega
      rw [if_neg hinside, hcount, show NumberFormat.plain.showsPoint = false from rfl,
        if_neg (by decide), List.append_nil]
      exact ⟨_, _, positional_behind hne hdigits _, .inl ⟨by omega, rfl, rfl⟩⟩

/-! ## Magnitudes -/

/-- The decimals of the interval of a magnitude are read as that magnitude. -/
theorem ofDecimal_eq {tie : DecimalTie} {m digits k n places : Nat} (hm : 0 < m)
    (hfinite : m ≤ infinityMagnitude)
    (hadmits : (Shortest.Target.ofMagnitude tie m).admits (digits * 10 ^ k) = true)
    (hn : Rescaled digits ((k : Int) - 1074) n places) (negative : Bool) :
    ofDecimal negative n (-(places : Int)) = ofMagnitude negative m := by
  have haround := Shortest.Target.around tie m
  have hpos : 0 < digits * 10 ^ k := by
    have hscale := Shortest.scale_le_of_admits haround hm hadmits
    have hfive := haround.pos
    omega
  have hdigits : 0 < digits := Nat.pos_of_mul_pos_right hpos
  rcases hn with ⟨hk, rfl, rfl⟩ | ⟨hk, hplaces, rfl⟩
  · have hexp : ((k : Int) - 1074).toNat = k - 1074 := by omega
    have hne : digits * 10 ^ (k - 1074) ≠ 0 :=
      Nat.ne_of_gt (Nat.mul_pos hdigits (Nat.pow_pos (by decide)))
    have hround := Shortest.roundsTo_whole haround (by omega) hadmits
    rw [hexp, ofDecimal, if_neg hne, if_neg (by decide), if_pos (by decide)]
    simp only [Int.natCast_zero, Int.neg_zero, Int.toNat_zero, Nat.pow_zero, Nat.mul_one, ofRatio,
      magnitudeOfRatio_eq, magnitudeOfUnits_eq Nat.one_pos hm hfinite hround]
  · have hne : n ≠ 0 := Nat.ne_of_gt hdigits
    have hlog : 748 < n.log2 + k :=
      Shortest.places_of_admits haround hm (by decide +kernel) hadmits
    have hden : 0 < 10 ^ places := Nat.pow_pos (by decide)
    have htotal : k + places = 1074 := by omega
    have hround := Shortest.roundsTo_fraction haround htotal hadmits
    have habs : (-(places : Int)).natAbs = places := by omega
    rw [ofDecimal, if_neg hne, if_neg (by omega), if_neg (by omega), if_neg (by omega), habs,
      ofRatio, magnitudeOfRatio_eq, magnitudeOfUnits_eq hden hm hfinite hround]

/-- A magnitude is written as digits with or without a point that are read as it. -/
theorem positional_writeMagnitude {m : Nat} (hfinite : m ≤ infinityMagnitude) :
    ∃ n places, Positional (NumberFormat.plain.writeMagnitude m) n places ∧
      ∀ negative, ofDecimal negative n (-(places : Int)) = ofMagnitude negative m := by
  rcases Nat.eq_zero_or_pos m with rfl | hm
  · have hzero : NumberFormat.plain.writeMagnitude 0 = ['0'] := by decide
    rw [hzero]
    exact ⟨_, _, .whole (by simp) (by simp [isDigit_zero]), fun _ => rfl⟩
  · obtain ⟨k, hexponent, hadmits⟩ := shortest_admits NumberFormat.plain.tie hm
    have hwrite : NumberFormat.plain.writeMagnitude m = NumberFormat.plain.layOut
        (decimal (shortest NumberFormat.plain.tie m).digits)
        (shortest NumberFormat.plain.tie m).exponent := by
      rw [NumberFormat.writeMagnitude, if_neg (Nat.ne_of_gt hm)]
    generalize (shortest NumberFormat.plain.tie m).digits = digits at hadmits hwrite
    obtain ⟨n, places, hpositional, hn⟩ := positional_layOut (decimal_ne_nil digits)
      (fun _ hc => isDigit_of_mem_decimal hc) (shortest NumberFormat.plain.tie m).exponent
    rw [numeralFrom_decimal, hexponent] at hn
    rw [hwrite]
    exact ⟨n, places, hpositional, ofDecimal_eq hm hfinite hadmits hn⟩

theorem isNumeral_writeMagnitude {m : Nat} (hfinite : m ≤ infinityMagnitude) :
    IsNumeral (NumberFormat.plain.writeMagnitude m) := by
  obtain ⟨n, places, h, -⟩ := positional_writeMagnitude hfinite
  exact h.isNumeral

theorem unsigned?_writeMagnitude (negative : Bool) {m : Nat} (hfinite : m ≤ infinityMagnitude) :
    unsigned? negative (NumberFormat.plain.writeMagnitude m) = some (ofMagnitude negative m) := by
  obtain ⟨n, places, h, hvalue⟩ := positional_writeMagnitude hfinite
  rw [h.unsigned?, hvalue]

/-! ## Words -/

theorem magnitude_ofMagnitude (negative : Bool) {m : Nat} (hm : m < 2 ^ (63 : Nat)) :
    (ofMagnitude negative m).magnitude = m := by
  simp only [ofMagnitude, magnitude, BitVec.toNat_ofNat]
  cases negative with
  | false => simp only [Bool.false_eq_true, if_false]; omega
  | true => simp only [if_true]; omega

/-- A number is made of its sign and its magnitude. -/
theorem ofMagnitude_self (x : Binary64) : ofMagnitude x.isNegative x.magnitude = x := by
  obtain ⟨word⟩ := x
  have hlt := word.isLt
  unfold ofMagnitude isNegative magnitude
  congr 1
  apply BitVec.eq_of_toNat_eq
  simp only [BitVec.toNat_ofNat, BitVec.msb_eq_decide, decide_eq_true_eq]
  split <;> omega

/-- The number, with the sign of NaN cleared. -/
def unsignNaN (x : Binary64) : Binary64 := if x.isNaN then ofMagnitude false x.magnitude else x

theorem isNaN_ofMagnitude (negative : Bool) {m : Nat} (hm : m ≤ infinityMagnitude) :
    (ofMagnitude negative m).isNaN = false := by
  have hinf : infinityMagnitude < 2 ^ (63 : Nat) := by decide
  rw [isNaN, magnitude_ofMagnitude negative (by omega)]
  simpa using hm

theorem isNaN_ofDecimal (negative : Bool) (n : Nat) (e : Int) :
    (ofDecimal negative n e).isNaN = false := by
  unfold ofDecimal
  split
  · exact isNaN_ofMagnitude negative (Nat.zero_le _)
  split
  · exact isNaN_ofMagnitude negative (Nat.le_refl _)
  split
  · exact isNaN_ofMagnitude negative (magnitudeOfRatio_le _ _)
  split
  · exact isNaN_ofMagnitude negative (Nat.zero_le _)
  · exact isNaN_ofMagnitude negative (magnitudeOfRatio_le _ _)

theorem isNaN_of_unsigned? {negative : Bool} {cs : List Char} {x : Binary64}
    (h : unsigned? negative cs = some x) : x.isNaN = false := by
  unfold unsigned? at h
  simp only at h
  split at h
  · cases h
  · obtain ⟨e, -, rfl⟩ := Option.map_eq_some_iff.mp h
    exact isNaN_ofDecimal _ _ _

theorem unsignNaN_of_named? {negative : Bool} {cs : List Char} {x : Binary64}
    (h : named? negative cs = some x) (hnan : x.isNaN = true) : x.unsignNaN = nan false := by
  unfold named? at h
  simp only at h
  split at h
  · rw [← Option.some.inj h, infinity, isNaN_ofMagnitude _ (Nat.le_refl _)] at hnan
    cases hnan
  · split at h
    · rw [unsignNaN, if_pos hnan, ← Option.some.inj h]
      cases negative <;> decide
    · cases h

/-- The only NaN that is read is the quiet one. -/
theorem unsignNaN_of_parse? {cs : List Char} {x : Binary64} (h : parse? cs = some x)
    (hnan : x.isNaN = true) : x.unsignNaN = nan false := by
  rcases Option.or_eq_some_iff.mp h with hdecimal | ⟨-, hname⟩
  · rw [isNaN_of_unsigned? hdecimal] at hnan
    cases hnan
  · exact unsignNaN_of_named? hname hnan

/-! ## Numbers -/

theorem splitSign_minus (cs : List Char) : splitSign ('-' :: cs) = (true, cs) := rfl

/-- A text that begins with a digit has no sign. -/
theorem splitSign_numeral {cs : List Char} (h : IsNumeral cs) : splitSign cs = (false, cs) := by
  obtain ⟨c, cs, rfl, hc, -⟩ := h
  unfold splitSign
  split
  · rename_i heq
    rw [(List.cons.inj heq).1] at hc
    exact absurd hc (by decide)
  · rename_i heq
    rw [(List.cons.inj heq).1] at hc
    exact absurd hc (by decide)
  · rfl

theorem write_of_isNaN {x : Binary64} (h : x.isNaN = true) :
    NumberFormat.plain.write x = ['N', 'a', 'N'] := by
  rw [NumberFormat.write, if_pos h]

/-- The digits or the name of a number that is not NaN. -/
def writtenBody (x : Binary64) : List Char :=
  if x.isFinite then NumberFormat.plain.writeMagnitude x.magnitude else ['i', 'n', 'f']

theorem write_of_not_isNaN {x : Binary64} (h : x.isNaN = false) :
    NumberFormat.plain.write x = (if x.isNegative then ['-'] else []) ++ x.writtenBody := by
  rw [NumberFormat.write, if_neg (by simp [h]), writtenBody]

theorem splitSign_write {x : Binary64} (h : x.isNaN = false) :
    splitSign (NumberFormat.plain.write x) = (x.isNegative, x.writtenBody) := by
  rw [write_of_not_isNaN h]
  cases hsign : x.isNegative with
  | true => exact splitSign_minus _
  | false =>
      simp only [Bool.false_eq_true, if_false, List.nil_append, writtenBody]
      by_cases hfinite : x.isFinite = true
      · have hle : x.magnitude ≤ infinityMagnitude := Nat.le_of_lt (of_decide_eq_true hfinite)
        rw [if_pos hfinite]
        exact splitSign_numeral (isNumeral_writeMagnitude hle)
      · rw [if_neg hfinite]
        decide

/-- **What is written is read back**, NaN without its sign.  Numbers that are read have no NaN but
the quiet one. -/
theorem parse?_write {x : Binary64} (h : x.isNaN = true → x.unsignNaN = nan false) :
    parse? (NumberFormat.plain.write x) = some x.unsignNaN := by
  cases hnan : x.isNaN with
  | true =>
      rw [write_of_isNaN hnan, h hnan]
      decide
  | false =>
      have hsplit := splitSign_write hnan
      have hself : x.unsignNaN = x := by simp [unsignNaN, hnan]
      rw [parse?, hsplit, hself]
      simp only
      by_cases hfinite : x.isFinite = true
      · have hle : x.magnitude ≤ infinityMagnitude := Nat.le_of_lt (of_decide_eq_true hfinite)
        rw [writtenBody, if_pos hfinite, unsigned?_writeMagnitude _ hle, ofMagnitude_self]
        rfl
      · have hmagnitude : x.magnitude = infinityMagnitude := by
          simp only [isFinite, isNaN, decide_eq_true_eq, decide_eq_false_iff_not] at hfinite hnan
          omega
        have hname (negative : Bool) : (unsigned? negative ['i', 'n', 'f']).or
            (named? negative ['i', 'n', 'f']) = some (infinity negative) := by
          cases negative <;> decide
        rw [writtenBody, if_neg hfinite, hname, infinity, ← hmagnitude, ofMagnitude_self]

end RecordQuery.Binary64
