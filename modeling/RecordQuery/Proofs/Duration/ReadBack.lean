import RecordQuery.Proofs.Duration.Meaning

/-!
# Durations read back

A clock has at most seven digits behind the point, so a duration that is read from a text is a whole
number of hundreds of nanoseconds.  Every such duration is written as a clock that names it again.
Any other duration is written with eight or nine digits behind the point, and that is no clock.  So
the durations that texts name are those that are read back.
-/

namespace RecordQuery

open Text

namespace Duration

/-! ## Fractions -/

theorem fractionDigits_eq (nanos : Nat) :
    fractionDigits nanos = dropZeros (paddedDecimal 9 nanos) := rfl

theorem isDigit_of_mem_fractionDigits {nanos : Nat} {c : Char} (h : c ∈ fractionDigits nanos) :
    isDigit c = true :=
  isDigit_of_mem_paddedDecimal (mem_of_mem_dropZeros h)

/-- The digits of a fraction count in units of ten to the power of nine less their number. -/
theorem fractionDigits_value {nanos : Nat} (h : nanos < 1000000000) :
    numeralFrom 0 (fractionDigits nanos) * 10 ^ (9 - (fractionDigits nanos).length) = nanos := by
  have hdrop := numeralFrom_dropZeros (paddedDecimal 9 nanos)
  rw [numeralFrom_paddedDecimal, length_paddedDecimal (by decide) h] at hdrop
  rw [fractionDigits_eq, ← hdrop]

/-- A digit other than zero is worth something. -/
theorem digitValue_pos {c : Char} (hc : isDigit c = true) (hne : c ≠ '0') : 0 < digitValue c := by
  have hrange := isDigit_iff.mp hc
  have hcode : c.toNat ≠ 48 := fun heq => hne (Char.toNat_inj.mp heq)
  unfold digitValue
  omega

/-- The last digit of a fraction is not a zero, so its value is no multiple of ten. -/
theorem fractionDigits_mod_ten {nanos : Nat} (hne : fractionDigits nanos ≠ []) :
    numeralFrom 0 (fractionDigits nanos) % 10 ≠ 0 := by
  have hlast := getLast?_dropZeros (paddedDecimal 9 nanos)
  rw [← fractionDigits_eq] at hlast
  obtain ⟨front, c, heq⟩ : ∃ front c, fractionDigits nanos = front ++ [c] :=
    ⟨_, _, (List.dropLast_concat_getLast hne).symm⟩
  have hmem : c ∈ fractionDigits nanos := by rw [heq]; simp
  have hdigit : isDigit c = true := isDigit_of_mem_fractionDigits hmem
  rw [heq] at hlast ⊢
  have hzero : c ≠ '0' := hlast c (by simp)
  have hpos := digitValue_pos hdigit hzero
  have hle := (isDigit_iff.mp hdigit).2
  rw [numeralFrom_append, numeralFrom_cons, numeralFrom_nil]
  unfold digitValue at hpos ⊢
  omega

/-- A whole number of hundreds of nanoseconds takes up to seven digits. -/
theorem length_fractionDigits_le {nanos : Nat} (h : nanos < 1000000000) (hunits : nanos % 100 = 0) :
    (fractionDigits nanos).length ≤ 7 := by
  by_cases hne : fractionDigits nanos = []
  · rw [hne]
    decide
  · have hvalue := fractionDigits_value h
    have hmod := fractionDigits_mod_ten hne
    have hlength : (fractionDigits nanos).length ≤ 9 := by
      have happ := congrArg List.length (dropZeros_append (paddedDecimal 9 nanos))
      rw [length_paddedDecimal (by decide) h, List.length_append] at happ
      rw [fractionDigits_eq]
      omega
    by_cases hlong : 8 ≤ (fractionDigits nanos).length
    · -- With eight or nine digits the value is no multiple of a hundred.
      rcases (by omega : 9 - (fractionDigits nanos).length = 0 ∨
        9 - (fractionDigits nanos).length = 1) with hexp | hexp
      · rw [hexp] at hvalue
        omega
      · rw [hexp] at hvalue
        omega
    · omega

/-- The digits of a fraction fit a clock if and only if the fraction is a whole number of hundreds
of nanoseconds. -/
theorem length_fractionDigits_le_iff {nanos : Nat} (h : nanos < 1000000000) :
    (fractionDigits nanos).length ≤ 7 ↔ nanos % 100 = 0 := by
  constructor
  · intro hlength
    have hvalue := fractionDigits_value h
    have hexp : 9 - (fractionDigits nanos).length = (7 - (fractionDigits nanos).length) + 2 := by
      omega
    rw [← hvalue, hexp, Nat.pow_add, ← Nat.mul_assoc, Nat.mul_mod_left]
  · intro hunits
    exact length_fractionDigits_le h hunits

/-! ## What is read -/

/-- A text names whole numbers of hundreds of nanoseconds. -/
theorem Names.nanos_units {text : List Char} {seconds nanos : Nat} (h : Names text seconds nanos) :
    nanos % 100 = 0 := by
  cases h with
  | days _ _ => rfl
  | @clock c _ hlaid _ _ hnanos =>
      have hshort := hlaid.isEnd.fraction_short
      have hexp : 9 - c.fraction.length = (7 - c.fraction.length) + 2 := by omega
      rw [(nanos_eq_iff (by omega)).mpr hnanos, hexp, Nat.pow_add, ← Nat.mul_assoc,
        Nat.mul_mod_left]

theorem parse?_eq_some_iff {cs : List Char} {d : Duration} :
    parse? cs = some d ↔ read cs = .duration d := by
  unfold parse?
  cases read cs <;> simp [Outcome.duration?]

/-- **A duration that is read from a text is a whole number of hundreds of nanoseconds.** -/
theorem nanos_of_parse? {cs : List Char} {d : Duration} (h : parse? cs = some d) :
    d.nanos % 100 = 0 := by
  obtain ⟨core, -, hnames⟩ := read_eq_duration_iff.mp (parse?_eq_some_iff.mp h)
  exact hnames.nanos_units

/-! ## What is written -/

/-- A run of ASCII digits is taken whole if no decimal digit follows it. -/
theorem run?_ascii {digits : List Char} (hne : digits ≠ []) (hdigits : IsAscii digits)
    (rest : List Char) (hrest : ∀ c ∈ rest.head?, isDecimalDigit c = false) :
    run? (digits ++ rest) = some (digits, rest) :=
  run?_eq_some_iff.mpr ⟨rfl, ⟨hne, fun c hc => isDecimalDigit_of_isDigit (hdigits c hc)⟩, hrest⟩

theorem run?_paddedDecimal (width n : Nat) (rest : List Char)
    (hrest : ∀ c ∈ rest.head?, isDecimalDigit c = false) :
    run? (paddedDecimal width n ++ rest) = some (paddedDecimal width n, rest) :=
  run?_ascii (paddedDecimal_ne_nil width n) (fun _ hc => isDigit_of_mem_paddedDecimal hc) rest
    hrest

/-- The fraction at the end of a written duration. -/
def fractionText (nanos : Nat) : List Char :=
  if nanos = 0 then [] else '.' :: fractionDigits nanos

theorem fractionDigits_eq_nil_iff {nanos : Nat} (h : nanos < 1000000000) :
    fractionDigits nanos = [] ↔ nanos = 0 := by
  constructor
  · intro hnil
    have hvalue := fractionDigits_value h
    rw [hnil, numeralFrom_nil, Nat.zero_mul] at hvalue
    exact hvalue.symm
  · intro hzero
    rw [hzero]
    decide

theorem fraction?_fractionText {nanos : Nat} (h : nanos < 1000000000) :
    fraction? (fractionText nanos) =
      if nanos % 100 = 0 then some (fractionDigits nanos) else none := by
  unfold fractionText
  by_cases hzero : nanos = 0
  · rw [if_pos hzero, (fractionDigits_eq_nil_iff h).mpr hzero, hzero]
    rfl
  · rw [if_neg hzero]
    have hrun := run?_ascii (fun hnil => hzero ((fractionDigits_eq_nil_iff h).mp hnil))
      (fun _ hc => isDigit_of_mem_fractionDigits hc) [] (by simp)
    rw [List.append_nil] at hrun
    simp only [fraction?, hrun, length_fractionDigits_le_iff h]

/-- The clock of a duration. -/
def clock (d : Duration) : Clock where
  days := if d.seconds / 86400 = 0 then [] else decimal (d.seconds / 86400)
  hours := paddedDecimal 2 (d.seconds % 86400 / 3600)
  minutes := paddedDecimal 2 (d.seconds % 3600 / 60)
  seconds := paddedDecimal 2 (d.seconds % 60)
  fraction := fractionDigits d.nanos

/-- The text of a duration behind its hours. -/
def textBehindHours (d : Duration) : List Char :=
  paddedDecimal 2 (d.seconds % 3600 / 60) ++ ':' :: (paddedDecimal 2 (d.seconds % 60) ++
    fractionText d.nanos)

theorem minutes?_textBehindHours (d : Duration) (days hours : List Char) :
    minutes? days hours d.textBehindHours =
      if d.nanos % 100 = 0 then
        some ⟨days, hours, d.clock.minutes, d.clock.seconds, d.clock.fraction⟩
      else none := by
  have hfraction : ∀ c ∈ (fractionText d.nanos).head?, isDecimalDigit c = false := by
    unfold fractionText
    split
    · simp
    · intro c hc
      rw [← Option.some.inj hc]
      exact isDecimalDigit_point
  have hseconds := run?_paddedDecimal 2 (d.seconds % 60) _ hfraction
  have hminutes := run?_paddedDecimal 2 (d.seconds % 3600 / 60)
    (':' :: (paddedDecimal 2 (d.seconds % 60) ++ fractionText d.nanos))
    (by simpa using isDecimalDigit_colon)
  rw [minutes?, textBehindHours, hminutes]
  simp only [Option.bind_eq_bind, Option.bind_some, seconds?, hseconds,
    fraction?_fractionText d.nanos_lt]
  split
  · rfl
  · rfl

theorem write_eq (d : Duration) : d.write =
    (if d.seconds / 86400 = 0 then [] else decimal (d.seconds / 86400) ++ ['.']) ++
      (d.clock.hours ++ ':' :: d.textBehindHours) := by
  simp only [write, clock, textBehindHours, fractionText, List.append_assoc, List.cons_append]

/-- A written duration is a clock unless its fraction is too long. -/
theorem clock?_write (d : Duration) :
    clock? d.write = if d.nanos % 100 = 0 then some d.clock else none := by
  have hhours := run?_paddedDecimal 2 (d.seconds % 86400 / 3600)
    (':' :: d.textBehindHours) (by simpa using isDecimalDigit_colon)
  rw [write_eq]
  by_cases hdays : d.seconds / 86400 = 0
  · rw [if_pos hdays, List.nil_append, clock?, clock, hhours]
    simp only [Option.bind_eq_bind, Option.bind_some, minutes?_textBehindHours, clock, hdays,
      if_true]
  · have hfirst := run?_ascii (decimal_ne_nil (d.seconds / 86400))
      (fun _ hc => isDigit_of_mem_decimal hc)
      ('.' :: (d.clock.hours ++ ':' :: d.textBehindHours))
      (by simpa using isDecimalDigit_point)
    rw [if_neg hdays, List.append_assoc, List.singleton_append, clock?, hfirst]
    simp only [Option.bind_eq_bind, Option.bind_some]
    rw [clock, hhours]
    simp only [Option.bind_some, minutes?_textBehindHours, clock, hdays, if_false]

theorem partNumber?_of_numeral? {part : List Char} {n : Nat} (h : numeral? part = some n)
    (hlt : n < 2 ^ (64 : Nat)) : partNumber? part = some n := by
  obtain ⟨-, hascii, hvalue⟩ := numeral?_eq_some_iff_value.mp h
  exact partNumber?_eq_some_iff.mpr ⟨hascii, hvalue, hlt⟩

theorem clockSeconds?_clock (d : Duration) : clockSeconds? d.clock = some d.seconds := by
  have hlt := d.seconds_lt
  have hdays : partNumber? d.clock.days = some (d.seconds / 86400) := by
    rw [clock]
    by_cases hzero : d.seconds / 86400 = 0
    · rw [if_pos hzero, hzero]
      rfl
    · rw [if_neg hzero]
      exact partNumber?_of_numeral? (numeral?_decimal _) (by omega)
  have hhours : partNumber? d.clock.hours = some (d.seconds % 86400 / 3600) :=
    partNumber?_of_numeral? (numeral?_paddedDecimal _ _) (by omega)
  have hminutes : partNumber? d.clock.minutes = some (d.seconds % 3600 / 60) :=
    partNumber?_of_numeral? (numeral?_paddedDecimal _ _) (by omega)
  have hseconds : partNumber? d.clock.seconds = some (d.seconds % 60) :=
    partNumber?_of_numeral? (numeral?_paddedDecimal _ _) (by omega)
  have hrange : d.seconds % 86400 / 3600 < 24 ∧ d.seconds % 3600 / 60 < 60 ∧
      d.seconds % 60 < 60 := by
    omega
  have htotal : d.seconds / 86400 * 86400 + d.seconds % 86400 / 3600 * 3600 +
      d.seconds % 3600 / 60 * 60 + d.seconds % 60 = d.seconds := by omega
  simp only [clockSeconds?, hdays, hhours, hminutes, hseconds, Option.bind_eq_bind,
    Option.bind_some, hrange, and_self, if_true, htotal]

theorem read_clock {d : Duration} (hunits : d.nanos % 100 = 0) :
    d.clock.read = .duration d := by
  have hshort : d.clock.fraction.length ≤ 7 := length_fractionDigits_le d.nanos_lt hunits
  obtain ⟨hrange, htotal⟩ := clockSeconds?_eq_some_iff.mp (clockSeconds?_clock d)
  have hascii : IsAscii d.clock.fraction := fun _ hc => isDigit_of_mem_fractionDigits hc
  have hvalue := fractionDigits_value d.nanos_lt
  rw [numeralFrom_eq] at hvalue
  have hnanos : d.nanos * 10 ^ d.clock.fraction.length = value d.clock.fraction * 1000000000 :=
    (nanos_eq_iff (Nat.le_trans hshort (by decide))).mp hvalue.symm
  exact (Clock.read_eq_duration_iff hshort).mpr ⟨hrange, hascii, htotal, hnanos⟩

/-- A written duration consists of digits, points and colons. -/
theorem mem_write {d : Duration} {c : Char} (h : c ∈ d.write) :
    isDigit c = true ∨ c = '.' ∨ c = ':' := by
  have hfraction : ∀ e ∈ fractionText d.nanos, isDigit e = true ∨ e = '.' := by
    intro e he
    unfold fractionText at he
    split at he
    · cases he
    · rcases List.mem_cons.mp he with rfl | he
      · exact .inr rfl
      · exact .inl (isDigit_of_mem_fractionDigits he)
  have hdays : ∀ e ∈ (if d.seconds / 86400 = 0 then [] else decimal (d.seconds / 86400) ++ ['.']),
      isDigit e = true ∨ e = '.' := by
    intro e he
    split at he
    · cases he
    · rcases List.mem_append.mp he with he | he
      · exact .inl (isDigit_of_mem_decimal he)
      · exact .inr (List.mem_singleton.mp he)
  rw [write_eq, textBehindHours, clock] at h
  simp only [List.mem_append, List.mem_cons] at h
  rcases h with h | h | rfl | h | rfl | h | h
  · exact (hdays c h).imp id .inl
  · exact .inl (isDigit_of_mem_paddedDecimal h)
  · exact .inr (.inr rfl)
  · exact .inl (isDigit_of_mem_paddedDecimal h)
  · exact .inr (.inr rfl)
  · exact .inl (isDigit_of_mem_paddedDecimal h)
  · exact (hfraction c h).imp id .inl

/-- **What is written is read back**, or it is not read at all: a fraction that is no whole number
of hundreds of nanoseconds is written with more digits than a clock may have. -/
theorem parse?_write (d : Duration) :
    parse? d.write = if d.nanos % 100 = 0 then some d else none := by
  have hblank : ∀ c ∈ d.write, isBlank c = false := by
    intro c hc
    rcases mem_write hc with hdigit | rfl | rfl
    · exact isBlank_of_isDigit hdigit
    · decide
    · decide
  have hnumeral : numeral? d.write = none := by
    have hcolon : ':' ∈ d.write := by simp [write_eq]
    rw [numeral?, if_pos]
    rw [Bool.or_eq_true, Bool.not_eq_true', List.all_eq_false]
    exact .inr ⟨':', hcolon, by decide⟩
  rw [parse?, read, (BlanksAround.refl d.write).trim_eq hblank, hnumeral]
  by_cases hunits : d.nanos % 100 = 0
  · simp only [clock?_write, hunits, if_true, read_clock hunits]
    rfl
  · simp only [clock?_write, hunits, if_false]
    rfl

/-- A duration is read back exactly if it is a whole number of hundreds of nanoseconds. -/
theorem parse?_write_eq_some_iff (d : Duration) :
    parse? d.write = some d ↔ d.nanos % 100 = 0 := by
  rw [parse?_write]
  by_cases hunits : d.nanos % 100 = 0
  · simp [hunits]
  · simp [hunits]

/-- **The durations that texts name** are those of any number of seconds that fits a word and a
whole number of hundreds of nanoseconds, and they are the ones that are read back from the clocks
that they are written as. -/
theorem named_iff (d : Duration) :
    ((∃ cs, parse? cs = some d) ↔ d.nanos % 100 = 0) ∧
      (parse? d.write = some d ↔ d.nanos % 100 = 0) := by
  refine ⟨?_, d.parse?_write_eq_some_iff⟩
  constructor
  · intro hnamed
    obtain ⟨cs, hcs⟩ := hnamed
    exact nanos_of_parse? hcs
  · intro hunits
    exact ⟨d.write, d.parse?_write_eq_some_iff.mpr hunits⟩

/-- The longest duration that a text names. -/
example : (parse? "213503982334601.07:00:15.9999999".toList).map totalNanos =
    some 18446744073709551615999999900 := by
  decide +kernel

end Duration

end RecordQuery
