import RecordQuery.Proofs.Duration.Meaning
import RecordQuery.Proofs.Reading

/-!
# Durations in machine words

What a text means as a duration is computed with numbers of any size.  Here it is computed once
more, with words of 64 bits for numbers of seconds and of 32 bits for nanoseconds.  An operation
whose result does not fit its word stops the computation, except where too many days are expected:
there the text is rejected.

Both computations come to the same, which is `Duration.compute_eq`.  Of all operations only one can
go wrong, the first that a fraction takes: nine less the number of its bytes.  A fraction has at
most seven digits, but digits of other scripts take up to four bytes each.
-/

namespace RecordQuery

open Text

/-! ## Words -/

/-- The operations on words. -/
inductive Operation where
  | sum
  | difference
  | product
  | power
deriving DecidableEq

/-- What stops a computation in words. -/
inductive Stop where
  | rejected
  | overflow (operation : Operation)
deriving DecidableEq

namespace Word

variable {w : Nat}

/-- The sum of two words. -/
def add (a b : BitVec w) : Except Stop (BitVec w) :=
  if a.uaddOverflow b then .error (.overflow .sum) else .ok (a + b)

/-- The difference of two words. -/
def sub (a b : BitVec w) : Except Stop (BitVec w) :=
  if a.usubOverflow b then .error (.overflow .difference) else .ok (a - b)

/-- The product of two words. -/
def mul (a b : BitVec w) : Except Stop (BitVec w) :=
  if a.umulOverflow b then .error (.overflow .product) else .ok (a * b)

/-- The power of a word. -/
def pow (a n : BitVec w) : Except Stop (BitVec w) :=
  if 2 ^ w ≤ a.toNat ^ n.toNat then .error (.overflow .power)
  else .ok (BitVec.ofNat w (a.toNat ^ n.toNat))

/-- A result that does not fit rejects the text. -/
def orReject : Except Stop (BitVec w) → Except Stop (BitVec w)
  | .ok a => .ok a
  | .error _ => .error .rejected

@[simp] theorem orReject_ok (a : BitVec w) : orReject (.ok a) = .ok a := rfl

@[simp] theorem orReject_error (stop : Stop) :
    orReject (.error stop : Except Stop (BitVec w)) = .error .rejected := rfl

/-- The word that ASCII digits name; other digits, and a number that does not fit, reject the
text. -/
def ofDigits (w : Nat) (part : List Char) : Except Stop (BitVec w) :=
  match numeral? part with
  | some n => if n < 2 ^ w then .ok (BitVec.ofNat w n) else .error .rejected
  | none => .error .rejected

theorem add_fits {a b : BitVec w} (h : a.toNat + b.toNat < 2 ^ w) :
    ∃ r, add a b = .ok r ∧ r.toNat = a.toNat + b.toNat := by
  have hfits : ¬ a.uaddOverflow b = true := by simpa [BitVec.uaddOverflow] using h
  exact ⟨a + b, if_neg hfits, BitVec.toNat_add_of_not_uaddOverflow hfits⟩

theorem sub_fits {a b : BitVec w} (h : b.toNat ≤ a.toNat) :
    ∃ r, sub a b = .ok r ∧ r.toNat = a.toNat - b.toNat := by
  have hfits : ¬ a.usubOverflow b = true := by simpa [BitVec.usubOverflow] using h
  exact ⟨a - b, if_neg hfits, BitVec.toNat_sub_of_not_usubOverflow hfits⟩

theorem sub_overflow {a b : BitVec w} (h : a.toNat < b.toNat) :
    sub a b = .error (.overflow .difference) :=
  if_pos (by simpa [BitVec.usubOverflow] using h)

theorem mul_fits {a b : BitVec w} (h : a.toNat * b.toNat < 2 ^ w) :
    ∃ r, mul a b = .ok r ∧ r.toNat = a.toNat * b.toNat := by
  have hfits : ¬ a.umulOverflow b = true := by simpa [BitVec.umulOverflow] using h
  exact ⟨a * b, if_neg hfits, BitVec.toNat_mul_of_not_umulOverflow hfits⟩

theorem pow_fits {a n : BitVec w} (h : a.toNat ^ n.toNat < 2 ^ w) :
    ∃ r, pow a n = .ok r ∧ r.toNat = a.toNat ^ n.toNat :=
  ⟨_, if_neg (Nat.not_le.mpr h), Nat.mod_eq_of_lt h⟩

theorem add_overflow {a b : BitVec w} (h : 2 ^ w ≤ a.toNat + b.toNat) :
    add a b = .error (.overflow .sum) :=
  if_pos (by simpa [BitVec.uaddOverflow] using h)

theorem mul_overflow {a b : BitVec w} (h : 2 ^ w ≤ a.toNat * b.toNat) :
    mul a b = .error (.overflow .product) :=
  if_pos (by simpa [BitVec.umulOverflow] using h)

/-- The product with a number that is written out. -/
theorem mul_ofNat_fits {a : BitVec w} {k : Nat} (hk : k < 2 ^ w) (h : a.toNat * k < 2 ^ w) :
    ∃ r, mul a (BitVec.ofNat w k) = .ok r ∧ r.toNat = a.toNat * k := by
  have hvalue : (BitVec.ofNat w k).toNat = k := Nat.mod_eq_of_lt hk
  have hfits := mul_fits (a := a) (b := BitVec.ofNat w k) (by rwa [hvalue])
  rwa [hvalue] at hfits

theorem mul_ofNat_overflow {a : BitVec w} {k : Nat} (hk : k < 2 ^ w) (h : 2 ^ w ≤ a.toNat * k) :
    mul a (BitVec.ofNat w k) = .error (.overflow .product) := by
  have hvalue : (BitVec.ofNat w k).toNat = k := Nat.mod_eq_of_lt hk
  exact mul_overflow (by rwa [hvalue])

theorem ofDigits_fits {part : List Char} (hne : part ≠ []) (hascii : Duration.IsAscii part)
    (h : Duration.value part < 2 ^ w) :
    ∃ r, ofDigits w part = .ok r ∧ r.toNat = Duration.value part := by
  refine ⟨BitVec.ofNat w (Duration.value part), ?_, Nat.mod_eq_of_lt h⟩
  rw [ofDigits, Duration.numeral?_eq_some_iff_value.mpr ⟨hne, hascii, rfl⟩]
  exact if_pos h

theorem ofDigits_rejected {part : List Char}
    (h : ¬ (Duration.IsAscii part ∧ Duration.value part < 2 ^ w)) :
    ofDigits w part = .error .rejected := by
  unfold ofDigits
  cases hnumeral : numeral? part with
  | none => rfl
  | some n =>
      obtain ⟨-, hascii, rfl⟩ := Duration.numeral?_eq_some_iff_value.mp hnumeral
      exact if_neg fun hlt => h ⟨hascii, hlt⟩

end Word

namespace Duration

/-! ## Clocks in words -/

/-- The numbers of a clock. -/
structure ClockWords where
  days : BitVec 64
  hours : BitVec 64
  minutes : BitVec 64
  seconds : BitVec 64
  hours_lt : hours.toNat < 24
  minutes_lt : minutes.toNat < 60
  seconds_lt : seconds.toNat < 60

/-- The word that a part names; a part that is left out is zero. -/
def partWord (part : List Char) : Except Stop (BitVec 64) :=
  if part.isEmpty then .ok 0 else Word.ofDigits 64 part

/-- The numbers of a clock, if they are in range. -/
def Clock.words (c : Clock) : Except Stop ClockWords := do
  let days ← partWord c.days
  let hours ← partWord c.hours
  let minutes ← partWord c.minutes
  let seconds ← partWord c.seconds
  if h : hours.toNat < 24 ∧ minutes.toNat < 60 ∧ seconds.toNat < 60 then
    .ok ⟨days, hours, minutes, seconds, h.1, h.2.1, h.2.2⟩
  else .error .rejected

/-- The seconds of a clock within its day. -/
def ClockWords.ofDay (n : ClockWords) : Except Stop (BitVec 64) := do
  let hours ← Word.mul n.hours 3600#64
  let minutes ← Word.mul n.minutes 60#64
  let sum ← Word.add hours minutes
  Word.add sum n.seconds

/-- The seconds of a clock; more than fit a word reject the text. -/
def ClockWords.total (n : ClockWords) : Except Stop (BitVec 64) := do
  let days ← Word.orReject (Word.mul n.days 86400#64)
  let ofDay ← n.ofDay
  Word.orReject (Word.add days ofDay)

/-- The nanoseconds that a fraction comes to: its digits count in units of ten to the power of nine
less its length in bytes. -/
def fractionWord (fraction : List Char) : Except Stop (BitVec 32) :=
  if fraction.isEmpty then .ok 0
  else do
    let places ← Word.sub 9#32 (BitVec.ofNat 32 (byteLength fraction))
    let scale ← Word.pow 10#32 places
    let digits ← Word.ofDigits 32 fraction
    Word.mul digits scale

/-- The duration of words for seconds and nanoseconds; whole seconds among the nanoseconds are
carried over. -/
def ofWords (seconds : BitVec 64) (nanos : BitVec 32) : Except Stop Duration := do
  let sum ← Word.add seconds (BitVec.setWidth 64 (nanos / 1000000000#32))
  .ok ⟨sum.toNat, nanos.toNat % 1000000000, sum.isLt, Nat.mod_lt _ (by decide)⟩

/-- What a clock means, computed in words. -/
def Clock.compute (c : Clock) : Except Stop Duration := do
  let numbers ← c.words
  let nanos ← fractionWord c.fraction
  let seconds ← numbers.total
  ofWords seconds nanos

/-- What a number of days means, computed in words. -/
def computeDays (digits : List Char) : Except Stop Duration := do
  let days ← Word.ofDigits 64 digits
  let seconds ← Word.orReject (Word.mul days 86400#64)
  ofWords seconds 0

/-- What a text means as a duration, computed in words. -/
def compute (cs : List Char) : Except Stop Duration :=
  match numeral? (trim cs) with
  | some _ => computeDays (trim cs)
  | none =>
    match clock? (trim cs) with
    | some c => c.compute
    | none => .error .rejected

theorem partWord_fits {part : List Char} (hascii : IsAscii part) (h : value part < 2 ^ (64 : Nat)) :
    ∃ r, partWord part = .ok r ∧ r.toNat = value part := by
  unfold partWord
  by_cases hne : part = []
  · rw [hne, if_pos List.isEmpty_nil]
    exact ⟨0, rfl, rfl⟩
  · rw [if_neg (by simpa using hne)]
    exact Word.ofDigits_fits hne hascii h

theorem partWord_rejected {part : List Char}
    (h : ¬ (IsAscii part ∧ value part < 2 ^ (64 : Nat))) :
    partWord part = .error .rejected := by
  have hne : part ≠ [] := by
    intro hnil
    rw [hnil] at h
    exact h ⟨List.forall_mem_nil _, by decide⟩
  rw [partWord, if_neg (by simpa using hne)]
  exact Word.ofDigits_rejected h

/-- A part is a number that fits a word, or the text is rejected. -/
theorem partWord_cases (part : List Char) :
    (∃ r, partWord part = .ok r ∧ IsAscii part ∧ value part < 2 ^ (64 : Nat) ∧
      r.toNat = value part) ∨
      partWord part = .error .rejected := by
  by_cases h : IsAscii part ∧ value part < 2 ^ (64 : Nat)
  · obtain ⟨r, hr, hvalue⟩ := partWord_fits h.1 h.2
    exact .inl ⟨r, hr, h.1, h.2, hvalue⟩
  · exact .inr (partWord_rejected h)

/-- A clock in range has words for its numbers. -/
theorem Clock.words_of_inRange {c : Clock} (h : c.InRange) : ∃ n, c.words = .ok n ∧
    n.days.toNat = value c.days ∧ n.hours.toNat = value c.hours ∧
    n.minutes.toNat = value c.minutes ∧ n.seconds.toNat = value c.seconds := by
  have hhoursLt := h.hours_lt
  have hminutesLt := h.minutes_lt
  have hsecondsLt := h.seconds_lt
  obtain ⟨days, hdays, hdaysValue⟩ := partWord_fits h.days_ascii h.days_lt
  obtain ⟨hours, hhours, hhoursValue⟩ := partWord_fits h.hours_ascii (by omega)
  obtain ⟨minutes, hminutes, hminutesValue⟩ := partWord_fits h.minutes_ascii (by omega)
  obtain ⟨seconds, hseconds, hsecondsValue⟩ := partWord_fits h.seconds_ascii (by omega)
  have hlt : hours.toNat < 24 ∧ minutes.toNat < 60 ∧ seconds.toNat < 60 := by omega
  refine ⟨⟨days, hours, minutes, seconds, hlt.1, hlt.2.1, hlt.2.2⟩, ?_, hdaysValue, hhoursValue,
    hminutesValue, hsecondsValue⟩
  simp only [words, hdays, hhours, hminutes, hseconds, ok_bind, dif_pos hlt]

/-- Every other clock is rejected. -/
theorem Clock.words_of_not_inRange {c : Clock} (h : ¬ c.InRange) :
    c.words = .error .rejected := by
  unfold words
  rcases partWord_cases c.days with ⟨days, hdays, hdaysAscii, hdaysLt, -⟩ | hdays
  · rcases partWord_cases c.hours with ⟨hours, hhours, hhoursAscii, -, hhoursValue⟩ | hhours
    · rcases partWord_cases c.minutes with
        ⟨minutes, hminutes, hminutesAscii, -, hminutesValue⟩ | hminutes
      · rcases partWord_cases c.seconds with
          ⟨seconds, hseconds, hsecondsAscii, -, hsecondsValue⟩ | hseconds
        · have hlt : ¬ (hours.toNat < 24 ∧ minutes.toNat < 60 ∧ seconds.toNat < 60) := by
            intro hlt
            rw [hhoursValue, hminutesValue, hsecondsValue] at hlt
            exact h ⟨hdaysAscii, hhoursAscii, hminutesAscii, hsecondsAscii, hdaysLt, hlt.1,
              hlt.2.1, hlt.2.2⟩
          simp only [hdays, hhours, hminutes, hseconds, ok_bind, dif_neg hlt]
        · simp only [hdays, hhours, hminutes, hseconds, ok_bind, error_bind]
      · simp only [hdays, hhours, hminutes, ok_bind, error_bind]
    · simp only [hdays, hhours, ok_bind, error_bind]
  · simp only [hdays, error_bind]

/-- The seconds within a day fit a word. -/
theorem ClockWords.ofDay_fits (n : ClockWords) : ∃ r, n.ofDay = .ok r ∧
    r.toNat = n.hours.toNat * 3600 + n.minutes.toNat * 60 + n.seconds.toNat := by
  have hhoursLt := n.hours_lt
  have hminutesLt := n.minutes_lt
  have hsecondsLt := n.seconds_lt
  obtain ⟨hours, hhours, hhoursValue⟩ :=
    Word.mul_ofNat_fits (a := n.hours) (k := 3600) (by decide) (by omega)
  obtain ⟨minutes, hminutes, hminutesValue⟩ :=
    Word.mul_ofNat_fits (a := n.minutes) (k := 60) (by decide) (by omega)
  obtain ⟨sum, hsum, hsumValue⟩ := Word.add_fits (a := hours) (b := minutes) (by omega)
  obtain ⟨r, hr, hvalue⟩ := Word.add_fits (a := sum) (b := n.seconds) (by omega)
  refine ⟨r, ?_, by omega⟩
  simp only [ofDay, hhours, hminutes, hsum, hr, ok_bind]

/-- The seconds of a clock fit a word, or the text is rejected. -/
theorem ClockWords.total_eq (n : ClockWords) {total : Nat}
    (htotal : total = n.days.toNat * 86400 + n.hours.toNat * 3600 + n.minutes.toNat * 60 +
      n.seconds.toNat) :
    (total < 2 ^ (64 : Nat) → ∃ r, n.total = .ok r ∧ r.toNat = total) ∧
      (2 ^ (64 : Nat) ≤ total → n.total = .error .rejected) := by
  obtain ⟨ofDay, hofDay, hofDayValue⟩ := n.ofDay_fits
  by_cases hdaysLt : n.days.toNat * 86400 < 2 ^ (64 : Nat)
  · obtain ⟨days, hdays, hdaysValue⟩ :=
      Word.mul_ofNat_fits (a := n.days) (k := 86400) (by decide) hdaysLt
    constructor
    · intro hlt
      obtain ⟨r, hr, hvalue⟩ := Word.add_fits (a := days) (b := ofDay) (by omega)
      refine ⟨r, ?_, by omega⟩
      simp only [ClockWords.total, hdays, Word.orReject_ok, hofDay, ok_bind, hr]
    · intro hle
      have hsum := Word.add_overflow (a := days) (b := ofDay) (by omega)
      simp only [ClockWords.total, hdays, Word.orReject_ok, hofDay, ok_bind, hsum,
        Word.orReject_error]
  · have hdays := Word.mul_ofNat_overflow (a := n.days) (k := 86400) (by decide) (by omega)
    refine ⟨fun hlt => by omega, fun _ => ?_⟩
    simp only [ClockWords.total, hdays, Word.orReject_error, error_bind]

/-! ## Fractions in words -/

/-- A character takes up to four bytes. -/
theorem byteLength_le (part : List Char) : byteLength part ≤ 4 * part.length := by
  induction part with
  | nil => exact Nat.le_refl 0
  | cons d part ih =>
      have hfour := d.utf8Size_le_four
      rw [byteLength, List.length_cons]
      omega

/-- The length of a short fraction is a word. -/
theorem toNat_byteLength {fraction : List Char} (hshort : fraction.length ≤ 7) :
    (BitVec.ofNat 32 (byteLength fraction)).toNat = byteLength fraction := by
  have hle := byteLength_le fraction
  exact Nat.mod_eq_of_lt (by omega)

/-- Nine less the length does not fit a word if the fraction takes up too many bytes. -/
theorem fractionWord_overflow {fraction : List Char} (hshort : fraction.length ≤ 7)
    (hlong : 9 < byteLength fraction) :
    fractionWord fraction = .error (.overflow .difference) := by
  have hne : fraction ≠ [] := by
    intro hnil
    rw [hnil] at hlong
    exact absurd hlong (by decide)
  have hplaces := Word.sub_overflow (a := 9#32) (b := BitVec.ofNat 32 (byteLength fraction))
    (by rw [toNat_byteLength hshort]; exact hlong)
  rw [fractionWord, if_neg (by simpa using hne), hplaces, error_bind]

/-- Otherwise the scale of the fraction is a word. -/
theorem scale_fits {fraction : List Char} (hshort : fraction.length ≤ 7)
    (hfits : byteLength fraction ≤ 9) : ∃ places scale,
      Word.sub 9#32 (BitVec.ofNat 32 (byteLength fraction)) = .ok places ∧
      Word.pow 10#32 places = .ok scale ∧ scale.toNat = 10 ^ (9 - byteLength fraction) := by
  have hnine : (9#32).toNat = 9 := rfl
  have hten : (10#32).toNat = 10 := rfl
  obtain ⟨places, hplaces, hplacesValue⟩ := Word.sub_fits (a := 9#32)
    (b := BitVec.ofNat 32 (byteLength fraction)) (by rw [toNat_byteLength hshort]; exact hfits)
  rw [toNat_byteLength hshort, hnine] at hplacesValue
  have hpow : 10 ^ places.toNat ≤ 10 ^ (9 : Nat) := Nat.pow_le_pow_right (by decide) (by omega)
  obtain ⟨scale, hscale, hscaleValue⟩ := Word.pow_fits (a := 10#32) (n := places)
    (by rw [hten]; omega)
  refine ⟨places, scale, hplaces, hscale, ?_⟩
  rw [hscaleValue, hten, hplacesValue]

/-- A fraction in ASCII digits comes to nanoseconds that fit a word. -/
theorem fractionWord_fits {fraction : List Char} (hshort : fraction.length ≤ 7)
    (hascii : IsAscii fraction) : ∃ r, fractionWord fraction = .ok r ∧
      r.toNat * 10 ^ fraction.length = value fraction * 1000000000 := by
  unfold fractionWord
  by_cases hne : fraction = []
  · rw [hne, if_pos List.isEmpty_nil]
    exact ⟨0, rfl, rfl⟩
  · rw [if_neg (by simpa using hne)]
    have hlength := byteLength_eq_length hascii
    obtain ⟨places, scale, hplaces, hscale, hscaleValue⟩ := scale_fits hshort (by omega)
    have hvalue := value_lt hascii
    have hpow : 10 ^ fraction.length ≤ 10 ^ (7 : Nat) := Nat.pow_le_pow_right (by decide) hshort
    obtain ⟨digits, hdigits, hdigitsValue⟩ := Word.ofDigits_fits hne hascii
      (w := 32) (by omega)
    have hscaled : digits.toNat * scale.toNat * 10 ^ fraction.length =
        value fraction * 1000000000 := by
      rw [hdigitsValue, hscaleValue, hlength]
      exact (nanos_eq_iff (by omega)).mp rfl
    have hsecond := fraction_nanos_lt hascii hscaled
    obtain ⟨r, hr, hrValue⟩ := Word.mul_fits (a := digits) (b := scale) (by omega)
    refine ⟨r, ?_, by rw [hrValue, hscaled]⟩
    simp only [hplaces, hscale, hdigits, hr, ok_bind]

/-- A short fraction in digits of other scripts is rejected. -/
theorem fractionWord_rejected {fraction : List Char} (hshort : fraction.length ≤ 7)
    (hfits : byteLength fraction ≤ 9) (hascii : ¬ IsAscii fraction) :
    fractionWord fraction = .error .rejected := by
  have hne : fraction ≠ [] := by
    intro hnil
    rw [hnil] at hascii
    exact hascii (List.forall_mem_nil _)
  obtain ⟨places, scale, hplaces, hscale, -⟩ := scale_fits hshort hfits
  have hdigits := Word.ofDigits_rejected (w := 32) fun h => hascii h.1
  rw [fractionWord, if_neg (by simpa using hne)]
  simp only [hplaces, hscale, hdigits, ok_bind, error_bind]

/-! ## Texts in words -/

/-- Less than a second of nanoseconds carries nothing over. -/
theorem ofWords_fits (seconds : BitVec 64) {nanos : BitVec 32} (h : nanos.toNat < 1000000000) :
    ∃ d, ofWords seconds nanos = .ok d ∧ d.seconds = seconds.toNat ∧ d.nanos = nanos.toNat := by
  have hcarry : (BitVec.setWidth 64 (nanos / 1000000000#32)).toNat = 0 := by
    have hbillion : (1000000000#32).toNat = 1000000000 := rfl
    rw [BitVec.toNat_setWidth, BitVec.toNat_udiv, hbillion, Nat.div_eq_of_lt h]
  have hseconds := seconds.isLt
  obtain ⟨sum, hsum, hvalue⟩ := Word.add_fits (a := seconds)
    (b := BitVec.setWidth 64 (nanos / 1000000000#32)) (by omega)
  refine ⟨⟨sum.toNat, nanos.toNat % 1000000000, sum.isLt, Nat.mod_lt _ (by decide)⟩, ?_, ?_,
    Nat.mod_eq_of_lt h⟩
  · rw [ofWords, hsum, ok_bind]
  · show sum.toNat = seconds.toNat
    omega

/-- What the computation in words stops with, or comes to. -/
def Outcome.inWords : Outcome → Except Stop Duration
  | .duration d => .ok d
  | .rejected => .error .rejected
  | .unscalable => .error (.overflow .difference)

/-- A clock means the same in words. -/
theorem Clock.compute_eq {c : Clock} (hshort : c.fraction.length ≤ 7) :
    c.compute = c.read.inWords := by
  -- In the order of the computation: the range, the bytes of the fraction, its script, the total.
  by_cases hrange : c.InRange
  · obtain ⟨n, hn, hdays, hhours, hminutes, hseconds⟩ := words_of_inRange hrange
    have htotal : c.total = n.days.toNat * 86400 + n.hours.toNat * 3600 + n.minutes.toNat * 60 +
        n.seconds.toNat := by
      rw [hdays, hhours, hminutes, hseconds, total]
    obtain ⟨htotalFits, htotalRejected⟩ := n.total_eq htotal
    by_cases hlong : 9 < byteLength c.fraction
    · rw [read_eq_unscalable_iff.mpr ⟨hrange, hlong⟩, compute, hn, ok_bind,
        fractionWord_overflow hshort hlong]
      rfl
    · have hfits : byteLength c.fraction ≤ 9 := by omega
      by_cases hascii : IsAscii c.fraction
      · obtain ⟨nanos, hnanos, hnanosValue⟩ := fractionWord_fits hshort hascii
        by_cases hlt : c.total < 2 ^ (64 : Nat)
        · obtain ⟨seconds, hseconds, hsecondsValue⟩ := htotalFits hlt
          obtain ⟨d, hd, hdSeconds, hdNanos⟩ :=
            ofWords_fits seconds (fraction_nanos_lt hascii hnanosValue)
          have hread : c.read = .duration d := (read_eq_duration_iff hshort).mpr
            ⟨hrange, hascii, by rw [hdSeconds, hsecondsValue], by rw [hdNanos, hnanosValue]⟩
          rw [hread, compute, hn, ok_bind, hnanos, ok_bind, hseconds, ok_bind, hd]
          rfl
        · rw [read_eq_rejected hshort hfits fun h => hlt h.2, compute, hn, ok_bind, hnanos, ok_bind,
            htotalRejected (by omega)]
          rfl
      · rw [read_eq_rejected hshort hfits fun h => hascii h.1, compute, hn, ok_bind,
          fractionWord_rejected hshort hfits hascii]
        rfl
  · rw [read_of_not_inRange hrange, compute, words_of_not_inRange hrange]
    rfl

/-- A number of days means the same in words. -/
theorem computeDays_eq {digits : List Char} (hne : digits ≠ []) (hascii : IsAscii digits) :
    computeDays digits = (Outcome.ofOption (if value digits < 2 ^ (64 : Nat) then
      ofParts? (value digits * 86400) 0 else none)).inWords := by
  unfold computeDays
  by_cases hlt : value digits < 2 ^ (64 : Nat)
  · obtain ⟨days, hdays, hdaysValue⟩ := Word.ofDigits_fits hne hascii hlt
    rw [hdays, ok_bind, if_pos hlt, ← hdaysValue]
    by_cases hseconds : days.toNat * 86400 < 2 ^ (64 : Nat)
    · obtain ⟨seconds, hmul, hmulValue⟩ := Word.mul_ofNat_fits (by decide) hseconds
      have hzero : (0 : BitVec 32).toNat < 1000000000 := by decide
      obtain ⟨d, hd, hdSeconds, hdNanos⟩ := ofWords_fits seconds hzero
      have hparts : ofParts? (days.toNat * 86400) 0 = some d :=
        ofParts?_eq_some_iff.mpr ⟨hdSeconds.trans hmulValue, hdNanos⟩
      rw [hmul, Word.orReject_ok, ok_bind, hd, hparts]
      rfl
    · have hparts : ofParts? (days.toNat * 86400) 0 = none := by
        rw [ofParts?, dif_neg fun h => hseconds h.1]
      rw [Word.mul_ofNat_overflow (by decide) (by omega), Word.orReject_error, error_bind, hparts]
      rfl
  · rw [Word.ofDigits_rejected fun h => hlt h.2, error_bind, if_neg hlt]
    rfl

/-- **The computation in words comes to what is read.** -/
theorem compute_eq (cs : List Char) : compute cs = (read cs).inWords := by
  unfold compute read
  cases hnumeral : numeral? (trim cs) with
  | some n =>
      obtain ⟨hne, hascii, rfl⟩ := numeral?_eq_some_iff_value.mp hnumeral
      exact computeDays_eq hne hascii
  | none =>
      cases hclock : clock? (trim cs) with
      | none => rfl
      | some c => exact Clock.compute_eq (clock?_eq_some_iff.mp hclock).1.isEnd.fraction_short

/-- **The one operation that does not always fit its word.**  Whatever a text says, each operation
fits, unless the text is a clock in range whose fraction takes up more than nine bytes; then the
difference of nine and its length does not.  All other texts come to a duration or are rejected, and
reading with numbers of any size comes to the same. -/
theorem compute_overflow_iff (cs : List Char) :
    (∀ d, compute cs = .ok d ↔ read cs = .duration d) ∧
    (compute cs = .error .rejected ↔ read cs = .rejected) ∧
    ∀ operation, compute cs = .error (.overflow operation) ↔
      operation = .difference ∧ ∃ c : Clock, BlanksAround c.text cs ∧ c.IsLaidOut ∧ c.InRange ∧
        9 < byteLength c.fraction := by
  rw [compute_eq, ← read_eq_unscalable_iff]
  cases read cs with
  | duration d => simp [Outcome.inWords]
  | rejected => simp [Outcome.inWords]
  | unscalable => simp [Outcome.inWords, eq_comm]

/-- Four digits can take up too many bytes: in full width each takes up three. -/
theorem compute_full_width :
    clock? (trim "00:00:00.１２３４".toList) = some ⟨[], ['0', '0'], ['0', '0'], ['0', '0'],
      ['１', '２', '３', '４']⟩ ∧
    (['１', '２', '３', '４'].filter fun d => !isDigit d).length < 5 ∧
    read "00:00:00.１２３４".toList = .unscalable ∧
    compute "00:00:00.１２３４".toList = .error (.overflow .difference) := by
  have hread : read "00:00:00.１２３４".toList = .unscalable := by decide +kernel
  refine ⟨by decide +kernel, by decide, hread, ?_⟩
  rw [compute_eq, hread]
  rfl

end Duration

end RecordQuery
