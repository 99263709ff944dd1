import RecordQuery.Proofs.Duration.Layout
import RecordQuery.Proofs.Reading

/-!
# The durations that texts name

A number of days is named by its digits alone, and any other duration by a clock.  What a clock
comes to is said here with numbers of any size, so a text whose days, hours, minutes and seconds
come to more seconds than fit a word names nothing: no duration stands for a number that was cut off
or wrapped around.  `Duration.Names` is this relation, and what is read from a text is what it
names.

Digits of other scripts make a clock that names nothing.  They matter only where the fraction takes
up more than nine bytes, because then reading does not come to an answer at all.
-/

namespace RecordQuery

open Text

namespace Duration

/-! ## Numbers -/

/-- A part in ASCII digits; it may be left out. -/
def IsAscii (part : List Char) : Prop := ∀ d ∈ part, isDigit d = true

/-- The number that a part in ASCII digits names; a part that is left out counts as zero. -/
def value (part : List Char) : Nat := Nat.ofDigitChars 10 part 0

theorem numeral?_eq_some_iff_value {part : List Char} {n : Nat} :
    numeral? part = some n ↔ part ≠ [] ∧ IsAscii part ∧ n = value part := by
  rw [numeral?_eq_some_iff, numeralFrom_eq, eq_comm (a := n)]
  rfl

/-- A number in ASCII digits is less than the power of ten of its length. -/
theorem value_lt {part : List Char} (h : IsAscii part) : value part < 10 ^ part.length := by
  induction part with
  | nil => decide
  | cons d part ih =>
      have hrest := ih fun e he => h e (List.mem_cons_of_mem d he)
      have hdigit := (isDigit_iff.mp (h d List.mem_cons_self)).2
      have hzero : '0'.toNat = 48 := by decide
      have hvalue : value (d :: part) = 10 ^ part.length * (d.toNat - 48) + value part := by
        rw [value, Nat.ofDigitChars_cons, Nat.ofDigitChars_eq_ofDigitChars_zero, hzero,
          Nat.mul_zero, Nat.zero_add]
        rfl
      have hlead : 10 ^ part.length * (d.toNat - 48) ≤ 10 ^ part.length * 9 :=
        Nat.mul_le_mul_left _ (by omega)
      rw [hvalue, List.length_cons, Nat.pow_succ]
      omega

/-- A part is a number if its digits are ASCII and the number fits a word. -/
theorem partNumber?_eq_some_iff {part : List Char} {n : Nat} :
    partNumber? part = some n ↔ IsAscii part ∧ n = value part ∧ n < 2 ^ (64 : Nat) := by
  unfold partNumber?
  by_cases hne : part = []
  · subst hne
    have hascii : IsAscii [] := List.forall_mem_nil _
    have hzero : value [] = 0 := rfl
    rw [List.isEmpty_nil, if_pos rfl, Option.some.injEq, and_iff_right hascii, hzero]
    omega
  · rw [if_neg (by simpa using hne), Option.filter_eq_some_iff, numeral?_eq_some_iff_value,
      decide_eq_true_eq, and_iff_right hne, and_assoc]

/-- A duration is determined by its seconds and its nanoseconds, and it has those that fit. -/
theorem ofParts?_eq_some_iff {seconds nanos : Nat} {d : Duration} :
    ofParts? seconds nanos = some d ↔ d.seconds = seconds ∧ d.nanos = nanos := by
  unfold ofParts?
  constructor
  · intro h
    split at h
    · rw [← Option.some.inj h]
      exact ⟨rfl, rfl⟩
    · cases h
  · intro h
    obtain ⟨rfl, rfl⟩ := h
    rw [dif_pos ⟨d.seconds_lt, d.nanos_lt⟩]

/-! ## Clocks -/

namespace Clock

/-- The numbers of a clock are in range: its days fit a word, and there are fewer than 24 hours, 60
minutes and 60 seconds. -/
structure InRange (c : Clock) : Prop where
  days_ascii : IsAscii c.days
  hours_ascii : IsAscii c.hours
  minutes_ascii : IsAscii c.minutes
  seconds_ascii : IsAscii c.seconds
  days_lt : value c.days < 2 ^ (64 : Nat)
  hours_lt : value c.hours < 24
  minutes_lt : value c.minutes < 60
  seconds_lt : value c.seconds < 60

/-- The whole seconds of a clock. -/
def total (c : Clock) : Nat :=
  value c.days * 86400 + value c.hours * 3600 + value c.minutes * 60 + value c.seconds

end Clock

theorem clockSeconds?_eq_some_iff {c : Clock} {n : Nat} :
    clockSeconds? c = some n ↔ c.InRange ∧ n = c.total := by
  simp only [clockSeconds?, Option.bind_eq_bind, Option.bind_eq_some_iff, partNumber?_eq_some_iff]
  constructor
  · intro h
    obtain ⟨days, ⟨hdays, rfl, hdaysLt⟩, hours, ⟨hhours, rfl, -⟩, minutes, ⟨hminutes, rfl, -⟩,
      seconds, ⟨hseconds, rfl, -⟩, h⟩ := h
    by_cases hlt : value c.hours < 24 ∧ value c.minutes < 60 ∧ value c.seconds < 60
    · rw [if_pos hlt] at h
      exact ⟨⟨hdays, hhours, hminutes, hseconds, hdaysLt, hlt.1, hlt.2.1, hlt.2.2⟩,
        (Option.some.inj h).symm⟩
    · rw [if_neg hlt] at h
      cases h
  · intro h
    obtain ⟨hrange, rfl⟩ := h
    have hhours := hrange.hours_lt
    have hminutes := hrange.minutes_lt
    have hseconds := hrange.seconds_lt
    refine ⟨_, ⟨hrange.days_ascii, rfl, hrange.days_lt⟩, _, ⟨hrange.hours_ascii, rfl, by omega⟩, _,
      ⟨hrange.minutes_ascii, rfl, by omega⟩, _, ⟨hrange.seconds_ascii, rfl, by omega⟩, ?_⟩
    rw [if_pos ⟨hhours, hminutes, hseconds⟩]
    rfl

/-! ## Fractions -/

theorem utf8Size_of_isDigit {c : Char} (h : isDigit c = true) : c.utf8Size = 1 := by
  have hc := isDigit_iff.mp h
  have hle : c.val ≤ 0x7F := by
    rw [UInt32.le_iff_toNat_le]
    show c.toNat ≤ 127
    omega
  simp [Char.utf8Size, hle]

/-- An ASCII digit takes up one byte. -/
theorem byteLength_eq_length {part : List Char} (h : IsAscii part) :
    byteLength part = part.length := by
  induction part with
  | nil => rfl
  | cons d part ih =>
      have hrest := ih fun e he => h e (List.mem_cons_of_mem d he)
      rw [byteLength, utf8Size_of_isDigit (h d List.mem_cons_self), List.length_cons]
      omega

/-- Nanoseconds in units of a power of ten are a decimal fraction of a second. -/
theorem nanos_eq_iff {fraction nanos length : Nat} (h : length ≤ 9) :
    nanos = fraction * 10 ^ (9 - length) ↔ nanos * 10 ^ length = fraction * 1000000000 := by
  have hscale : fraction * 10 ^ (9 - length) * 10 ^ length = fraction * 1000000000 := by
    rw [Nat.mul_assoc, ← Nat.pow_add, Nat.sub_add_cancel h]
  have hpos : 0 < 10 ^ length := Nat.pow_pos (by decide)
  rw [← hscale]
  constructor
  · intro heq
    rw [heq]
  · intro heq
    exact Nat.eq_of_mul_eq_mul_right hpos heq

/-- A decimal fraction is less than a second. -/
theorem fraction_nanos_lt {fraction : List Char} {nanos : Nat} (hascii : IsAscii fraction)
    (h : nanos * 10 ^ fraction.length = value fraction * 1000000000) : nanos < 1000000000 := by
  have hlt : nanos * 10 ^ fraction.length < 1000000000 * 10 ^ fraction.length := by
    rw [h, Nat.mul_comm 1000000000]
    exact Nat.mul_lt_mul_of_pos_right (value_lt hascii) (by decide)
  exact Nat.lt_of_mul_lt_mul_right hlt

theorem ofOption_eq_duration_iff {o : Option Duration} {d : Duration} :
    Outcome.ofOption o = .duration d ↔ o = some d := by
  cases o <;> simp [Outcome.ofOption]

theorem ofOption_ne_unscalable (o : Option Duration) : Outcome.ofOption o ≠ .unscalable := by
  cases o <;> simp [Outcome.ofOption]

namespace Clock

theorem read_of_not_inRange {c : Clock} (h : ¬ c.InRange) : c.read = .rejected := by
  have hseconds : clockSeconds? c = none := by
    rw [Option.eq_none_iff_forall_ne_some]
    intro n hn
    exact h (clockSeconds?_eq_some_iff.mp hn).1
  rw [read, hseconds]

theorem read_of_inRange {c : Clock} (h : c.InRange) :
    c.read = if c.fraction = [] then .ofOption (ofParts? c.total 0)
      else if 9 < byteLength c.fraction then .unscalable
      else .ofOption ((numeral? c.fraction).bind fun fraction =>
        ofParts? c.total (fraction * 10 ^ (9 - byteLength c.fraction))) := by
  rw [read, clockSeconds?_eq_some_iff.mpr ⟨h, rfl⟩]
  simp only [List.isEmpty_iff, Option.bind_eq_bind]

/-- What a clock means if its fraction is short. -/
theorem read_eq_duration_iff {c : Clock} (hshort : c.fraction.length ≤ 7) {d : Duration} :
    c.read = .duration d ↔ c.InRange ∧ IsAscii c.fraction ∧ d.seconds = c.total ∧
      d.nanos * 10 ^ c.fraction.length = value c.fraction * 1000000000 := by
  by_cases hrange : c.InRange
  · rw [read_of_inRange hrange, and_iff_right hrange]
    by_cases hne : c.fraction = []
    · have hascii : IsAscii [] := List.forall_mem_nil _
      have hzero : value [] = 0 := rfl
      rw [hne, if_pos rfl, ofOption_eq_duration_iff, ofParts?_eq_some_iff, and_iff_right hascii,
        hzero, List.length_nil, Nat.pow_zero, Nat.mul_one, Nat.zero_mul]
    · rw [if_neg hne]
      by_cases hascii : IsAscii c.fraction
      · have hlength := byteLength_eq_length hascii
        have hnumeral := numeral?_eq_some_iff_value.mpr ⟨hne, hascii, rfl⟩
        rw [if_neg (by omega), ofOption_eq_duration_iff, hnumeral, hlength]
        rw [Option.bind_some, ofParts?_eq_some_iff, and_iff_right hascii, nanos_eq_iff (by omega)]
      · have hnumeral : numeral? c.fraction = none := by
          rw [Option.eq_none_iff_forall_ne_some]
          intro n hn
          exact hascii (numeral?_eq_some_iff_value.mp hn).2.1
        rw [hnumeral]
        refine iff_of_false ?_ fun h => hascii h.1
        split <;> simp [Outcome.ofOption]
  · rw [read_of_not_inRange hrange]
    exact iff_of_false (by simp) fun h => hrange h.1

/-- A clock does not come to an answer if it is in range and its fraction takes up too many
bytes. -/
theorem read_eq_unscalable_iff {c : Clock} :
    c.read = .unscalable ↔ c.InRange ∧ 9 < byteLength c.fraction := by
  by_cases hrange : c.InRange
  · rw [read_of_inRange hrange, and_iff_right hrange]
    by_cases hne : c.fraction = []
    · rw [hne, if_pos rfl]
      exact iff_of_false (ofOption_ne_unscalable _) (by decide)
    · rw [if_neg hne]
      by_cases hlong : 9 < byteLength c.fraction
      · rw [if_pos hlong]
        exact iff_of_true rfl hlong
      · rw [if_neg hlong]
        exact iff_of_false (ofOption_ne_unscalable _) hlong
  · rw [read_of_not_inRange hrange]
    exact iff_of_false (by simp) fun h => hrange h.1

/-- A clock with a short fraction in other digits is rejected, and so is one with too many
seconds. -/
theorem read_eq_rejected {c : Clock} (hshort : c.fraction.length ≤ 7)
    (hfits : byteLength c.fraction ≤ 9)
    (h : ¬ (IsAscii c.fraction ∧ c.total < 2 ^ (64 : Nat))) :
    c.read = .rejected := by
  cases hread : c.read with
  | duration d =>
      obtain ⟨-, hascii, htotal, -⟩ := (read_eq_duration_iff hshort).mp hread
      exact absurd ⟨hascii, htotal ▸ d.seconds_lt⟩ h
  | rejected => rfl
  | unscalable =>
      have hlong := (read_eq_unscalable_iff.mp hread).2
      omega

end Clock

/-! ## Texts -/

/-- `Names text seconds nanos` says that `text`, which has no white space around it, comes to so
many seconds and nanoseconds, whether or not they fit a duration. -/
inductive Names : List Char → Nat → Nat → Prop
  /-- Digits alone are a number of days. -/
  | days {digits : List Char} : digits ≠ [] → IsAscii digits →
      Names digits (value digits * 86400) 0
  /-- A clock comes to its whole seconds and the decimal fraction of a second behind them. -/
  | clock {c : Clock} {nanos : Nat} : c.IsLaidOut → c.InRange → IsAscii c.fraction →
      nanos * 10 ^ c.fraction.length = value c.fraction * 1000000000 → Names c.text c.total nanos

theorem Names.isBlank {text : List Char} {seconds nanos : Nat} (h : Names text seconds nanos) :
    ∀ c ∈ text, isBlank c = false := by
  cases h with
  | days _ hascii => exact fun c hc => isBlank_of_isDigit (hascii c hc)
  | clock hlaid _ _ _ => exact hlaid.isBlank_text

theorem Names.nanos_lt {text : List Char} {seconds nanos : Nat} (h : Names text seconds nanos) :
    nanos < 1000000000 := by
  cases h with
  | days _ _ => decide
  | clock _ _ hascii hnanos => exact fraction_nanos_lt hascii hnanos

/-- A clock is no run of digits. -/
theorem not_isAscii_text (c : Clock) : ¬ IsAscii c.text := by
  intro h
  have hcolon : ':' ∈ c.text := by simp [Clock.text]
  exact absurd (h ':' hcolon) (by decide)

theorem names_digits_iff {text : List Char} (hne : text ≠ []) (hascii : IsAscii text)
    {seconds nanos : Nat} :
    Names text seconds nanos ↔ seconds = value text * 86400 ∧ nanos = 0 := by
  constructor
  · intro h
    cases h with
    | days _ _ => exact ⟨rfl, rfl⟩
    | clock _ _ _ _ => exact absurd hascii (not_isAscii_text _)
  · intro h
    obtain ⟨rfl, rfl⟩ := h
    exact .days hne hascii

theorem names_clock_iff {c : Clock} (hlaid : c.IsLaidOut) {seconds nanos : Nat} :
    Names c.text seconds nanos ↔ c.InRange ∧ IsAscii c.fraction ∧ seconds = c.total ∧
      nanos * 10 ^ c.fraction.length = value c.fraction * 1000000000 := by
  constructor
  · intro h
    generalize htext : c.text = text at h
    cases h with
    | days _ hascii => exact absurd (htext ▸ hascii) (not_isAscii_text c)
    | @clock c' _ hlaid' hrange hascii hnanos =>
        -- The text of a clock gives its parts.
        have hread := clock?_eq_some_iff.mpr ⟨hlaid, rfl⟩
        rw [htext, clock?_eq_some_iff.mpr ⟨hlaid', rfl⟩] at hread
        obtain rfl := Option.some.inj hread
        exact ⟨hrange, hascii, rfl, hnanos⟩
  · intro h
    obtain ⟨hrange, hascii, rfl, hnanos⟩ := h
    exact .clock hlaid hrange hascii hnanos

/-- A clock inside white space is read as that clock. -/
theorem read_of_text {cs : List Char} {c : Clock} (haround : BlanksAround c.text cs)
    (hlaid : c.IsLaidOut) : read cs = c.read := by
  have hnumeral : numeral? c.text = none := by
    rw [Option.eq_none_iff_forall_ne_some]
    intro n hn
    exact not_isAscii_text c (numeral?_eq_some_iff_value.mp hn).2.1
  rw [read, haround.trim_eq hlaid.isBlank_text, hnumeral, clock?_eq_some_iff.mpr ⟨hlaid, rfl⟩]

/-- A text is a run of ASCII digits, a clock, or neither. -/
theorem read_cases (cs : List Char) :
    (trim cs ≠ [] ∧ IsAscii (trim cs) ∧ read cs = .ofOption
      (if value (trim cs) < 2 ^ (64 : Nat) then ofParts? (value (trim cs) * 86400) 0 else none)) ∨
    (∃ c : Clock, trim cs = c.text ∧ c.IsLaidOut ∧ read cs = c.read) ∨
    ((∀ seconds nanos, ¬ Names (trim cs) seconds nanos) ∧ read cs = .rejected) := by
  cases hnumeral : numeral? (trim cs) with
  | some n =>
      obtain ⟨hne, hascii, rfl⟩ := numeral?_eq_some_iff_value.mp hnumeral
      exact .inl ⟨hne, hascii, by rw [read, hnumeral]⟩
  | none =>
      cases hclock : clock? (trim cs) with
      | some c =>
          obtain ⟨hlaid, htext⟩ := clock?_eq_some_iff.mp hclock
          exact .inr (.inl ⟨c, htext, hlaid, by rw [read, hnumeral, hclock]⟩)
      | none =>
          refine .inr (.inr ⟨fun seconds nanos h => ?_, by rw [read, hnumeral, hclock]⟩)
          generalize trim cs = text at hnumeral hclock h
          cases h with
          | days hne hascii =>
              rw [numeral?_eq_some_iff_value.mpr ⟨hne, hascii, rfl⟩] at hnumeral
              cases hnumeral
          | clock hlaid _ _ _ =>
              rw [clock?_eq_some_iff.mpr ⟨hlaid, rfl⟩] at hclock
              cases hclock

/-- **What is read is what the text names**, white space around it apart. -/
theorem read_eq_duration_iff {cs : List Char} {d : Duration} :
    read cs = .duration d ↔ ∃ core, BlanksAround core cs ∧ Names core d.seconds d.nanos := by
  rw [exists_blanksAround_iff fun core hcore => hcore.isBlank]
  rcases read_cases cs with ⟨hne, hascii, hread⟩ | ⟨c, htext, hlaid, hread⟩ | ⟨hnothing, hread⟩
  · rw [hread, names_digits_iff hne hascii, ofOption_eq_duration_iff]
    by_cases hlt : value (trim cs) < 2 ^ (64 : Nat)
    · rw [if_pos hlt, ofParts?_eq_some_iff]
    · -- So many days are more seconds than fit a word.
      rw [if_neg hlt]
      refine iff_of_false (by simp) fun h => ?_
      have hfits := d.seconds_lt
      omega
  · rw [hread, htext, names_clock_iff hlaid, Clock.read_eq_duration_iff hlaid.isEnd.fraction_short]
  · rw [hread]
    exact iff_of_false (by simp) (hnothing _ _)

/-- **When reading does not come to an answer**: the text is a clock in range with a fraction that
takes up more than nine bytes. -/
theorem read_eq_unscalable_iff {cs : List Char} :
    read cs = .unscalable ↔ ∃ c : Clock, BlanksAround c.text cs ∧ c.IsLaidOut ∧ c.InRange ∧
      9 < byteLength c.fraction := by
  constructor
  · intro h
    rcases read_cases cs with ⟨-, -, hread⟩ | ⟨c, htext, hlaid, hread⟩ | ⟨-, hread⟩
    · rw [hread] at h
      exact absurd h (ofOption_ne_unscalable _)
    · rw [hread] at h
      exact ⟨c, htext ▸ blanksAround_trim cs, hlaid, Clock.read_eq_unscalable_iff.mp h⟩
    · rw [hread] at h
      cases h
  · intro h
    obtain ⟨c, haround, hlaid, hlong⟩ := h
    rw [read_of_text haround hlaid]
    exact Clock.read_eq_unscalable_iff.mpr hlong

/-- The fraction of a clock stands in every text of the clock. -/
theorem mem_of_mem_fraction {cs : List Char} {c : Clock} (haround : BlanksAround c.text cs)
    {d : Char} (h : d ∈ c.fraction) : d ∈ cs := by
  have hne : c.fraction ≠ [] := List.ne_nil_of_mem h
  obtain ⟨front, back, rfl, -, -⟩ := haround
  simp [Clock.text, Clock.behindHours, marked, hne, h]

/-- Reading a text in ASCII digits comes to an answer. -/
theorem read_ne_unscalable {cs : List Char}
    (hascii : ∀ c ∈ cs, isDecimalDigit c = true → isDigit c = true) : read cs ≠ .unscalable := by
  intro h
  obtain ⟨c, haround, hlaid, -, hlong⟩ := read_eq_unscalable_iff.mp h
  have hfraction : IsAscii c.fraction := fun d hd =>
    hascii d (mem_of_mem_fraction haround hd) (hlaid.isEnd.fraction_digits d hd)
  have hshort := hlaid.isEnd.fraction_short
  rw [byteLength_eq_length hfraction] at hlong
  omega

/-- **Reading a text in ASCII digits is exact.**  What is read has the seconds and the nanoseconds
that the text comes to, and a text is rejected only if it comes to nothing or to more seconds than
fit a word. -/
theorem read_exact (cs : List Char) :
    (∀ d, read cs = .duration d ↔
      ∃ core, BlanksAround core cs ∧ Names core d.seconds d.nanos) ∧
    ((∀ c ∈ cs, isDecimalDigit c = true → isDigit c = true) →
      (read cs = .rejected ↔ ∀ core seconds nanos, BlanksAround core cs →
        Names core seconds nanos → 2 ^ (64 : Nat) ≤ seconds)) := by
  refine ⟨fun d => read_eq_duration_iff, fun hascii => ?_⟩
  have hanswer := read_ne_unscalable hascii
  constructor
  · intro hrejected core seconds nanos haround hnames
    by_cases hlt : seconds < 2 ^ (64 : Nat)
    · have hread : read cs = .duration ⟨seconds, nanos, hlt, hnames.nanos_lt⟩ :=
        read_eq_duration_iff.mpr ⟨core, haround, hnames⟩
      rw [hread] at hrejected
      cases hrejected
    · omega
  · intro hlarge
    cases hread : read cs with
    | duration d =>
        obtain ⟨core, haround, hnames⟩ := read_eq_duration_iff.mp hread
        have hle := hlarge core _ _ haround hnames
        have hlt := d.seconds_lt
        omega
    | rejected => rfl
    | unscalable => exact absurd hread hanswer

/-- A day, two hours and thirty minutes, and a quarter of a second more than fifteen; and a text
eight hours behind the last day that fits a word. -/
theorem read_exact_festival :
    (∃ core, BlanksAround core " 1.02:30:15.25 ".toList ∧ Names core 95415 250000000) ∧
    (∀ c ∈ "213503982334601.08:00".toList, isDecimalDigit c = true → isDigit c = true) ∧
    ∀ core seconds nanos, BlanksAround core "213503982334601.08:00".toList →
      Names core seconds nanos → 2 ^ (64 : Nat) ≤ seconds := by
  have hread : read " 1.02:30:15.25 ".toList =
      .duration ⟨95415, 250000000, by decide, by decide⟩ := by decide +kernel
  have hall :
      ("213503982334601.08:00".toList.all fun c => !isDecimalDigit c || isDigit c) = true := by
    decide
  have hascii : ∀ c ∈ "213503982334601.08:00".toList,
      isDecimalDigit c = true → isDigit c = true := by
    intro c hc hdecimal
    have hor := List.all_eq_true.mp hall c hc
    simpa [hdecimal] using hor
  have hrejected : read "213503982334601.08:00".toList = .rejected := by decide +kernel
  exact ⟨((read_exact _).1 _).mp hread, hascii, ((read_exact _).2 hascii).mp hrejected⟩

end Duration

end RecordQuery
