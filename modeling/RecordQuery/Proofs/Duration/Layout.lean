import RecordQuery.Duration
import RecordQuery.Proofs.Reading

/-!
# The layout of clocks

A clock is taken apart by its marks, whatever its numbers are worth: a point behind the days, a
colon behind the hours and in front of the seconds, a point in front of the fraction.  Here the
parts are put together again.  Reading a clock gives parts that a clock may have and whose text was
read, and it gives them for each such text, as `Duration.clock?_eq_some_iff` says.

White space around a text does not count, and nothing but white space is dropped.
-/

namespace RecordQuery

open Text

/-! ## White space around a text -/

/-- `BlanksAround core text` says that `text` is `core` with white space in front and behind. -/
def BlanksAround (core text : List Char) : Prop :=
  ∃ front back, text = front ++ core ++ back ∧ (∀ c ∈ front, isBlank c = true) ∧
    ∀ c ∈ back, isBlank c = true

/-- There may be no white space at all. -/
theorem BlanksAround.refl (text : List Char) : BlanksAround text text :=
  ⟨[], [], by simp, by simp, by simp⟩

/-- What is trimmed off a text is white space. -/
theorem blanksAround_trim (text : List Char) : BlanksAround (trim text) text := by
  have hsplit (cs : List Char) : cs.takeWhile isBlank ++ dropBlanks cs = cs :=
    List.takeWhile_append_dropWhile
  refine ⟨text.takeWhile isBlank, ((dropBlanks text).reverse.takeWhile isBlank).reverse, ?_,
    of_mem_takeWhile, fun c hc => of_mem_takeWhile c (List.mem_reverse.mp hc)⟩
  rw [trim, List.append_assoc, ← List.reverse_append, hsplit, List.reverse_reverse, hsplit]

theorem dropBlanks_append {blanks cs : List Char} (hblanks : ∀ c ∈ blanks, isBlank c = true)
    (hcs : ∀ c ∈ cs.head?, isBlank c = false) : dropBlanks (blanks ++ cs) = cs :=
  dropWhile_run hblanks hcs

/-- A text without white space is what is left of it inside white space. -/
theorem BlanksAround.trim_eq {core text : List Char} (h : BlanksAround core text)
    (hcore : ∀ c ∈ core, isBlank c = false) : trim text = core := by
  obtain ⟨front, back, rfl, hfront, hback⟩ := h
  by_cases hne : core = []
  · -- Nothing but white space stands around nothing.
    have hblank : ∀ c ∈ front ++ back, isBlank c = true :=
      List.forall_mem_append.mpr ⟨hfront, hback⟩
    have hnothing : dropBlanks (front ++ back ++ []) = [] := dropBlanks_append hblank (by simp)
    rw [List.append_nil] at hnothing
    rw [hne, List.append_nil, trim, hnothing]
    rfl
  · have hfirst : ∀ c ∈ (core ++ back).head?, isBlank c = false := by
      obtain ⟨d, ds, rfl⟩ := List.exists_cons_of_ne_nil hne
      intro c hc
      exact hcore c (Option.some.inj hc ▸ List.mem_cons_self)
    have hlast : ∀ c ∈ core.reverse.head?, isBlank c = false :=
      fun c hc => hcore c (List.mem_reverse.mp (List.mem_of_mem_head? hc))
    have hback' : ∀ c ∈ back.reverse, isBlank c = true :=
      fun c hc => hback c (List.mem_reverse.mp hc)
    rw [trim, List.append_assoc, dropBlanks_append hfront hfirst, List.reverse_append,
      dropBlanks_append hback' hlast, List.reverse_reverse]

/-- What is said of a text inside white space is said of the trimmed text. -/
theorem exists_blanksAround_iff {p : List Char → Prop}
    (hp : ∀ core, p core → ∀ c ∈ core, isBlank c = false) (text : List Char) :
    (∃ core, BlanksAround core text ∧ p core) ↔ p (trim text) := by
  constructor
  · intro h
    obtain ⟨core, haround, hcore⟩ := h
    rw [haround.trim_eq (hp core hcore)]
    exact hcore
  · intro h
    exact ⟨trim text, blanksAround_trim text, h⟩

/-! ## Runs of digits -/

theorem isDecimalDigit_of_isDigit {c : Char} (h : isDigit c = true) : isDecimalDigit c = true := by
  have hc := isDigit_iff.mp h
  refine List.any_eq_true.mpr ⟨0x30, by decide, ?_⟩
  simp only [Bool.and_eq_true, decide_eq_true_eq]
  omega

private theorem search_blanks_decimal : ∀ first ∈ digitZeros, ∀ i < 10,
    CharSet.search blanks.ranges (first + i) = false := by
  decide +kernel

/-- A decimal digit of any script is no white space. -/
theorem isBlank_of_isDecimalDigit {c : Char} (h : isDecimalDigit c = true) : isBlank c = false := by
  obtain ⟨first, hfirst, hrange⟩ := List.any_eq_true.mp h
  simp only [Bool.and_eq_true, decide_eq_true_eq] at hrange
  have hout := search_blanks_decimal first hfirst (c.toNat - first) (by omega)
  rwa [show first + (c.toNat - first) = c.toNat by omega] at hout

namespace Duration

/-- A non-empty run of decimal digits. -/
def IsRun (digits : List Char) : Prop := digits ≠ [] ∧ ∀ d ∈ digits, isDecimalDigit d = true

theorem run?_append {digits rest : List Char} (hdigits : ∀ d ∈ digits, isDecimalDigit d = true)
    (hrest : ∀ c ∈ rest.head?, isDecimalDigit c = false) :
    run? (digits ++ rest) = if digits = [] then none else some (digits, rest) := by
  rw [run?, takeWhile_run hdigits hrest, dropWhile_run hdigits hrest]
  simp only [List.isEmpty_iff]

/-- A run of digits is read if and only if it goes as far as the digits go. -/
theorem run?_eq_some_iff {cs digits rest : List Char} :
    run? cs = some (digits, rest) ↔
      cs = digits ++ rest ∧ IsRun digits ∧ ∀ c ∈ rest.head?, isDecimalDigit c = false := by
  constructor
  · intro h
    obtain ⟨digits', rest', rfl, hdigits, hrest⟩ := exists_run isDecimalDigit cs
    rw [run?_append hdigits hrest] at h
    by_cases hne : digits' = []
    · rw [if_pos hne] at h
      cases h
    · rw [if_neg hne] at h
      obtain ⟨rfl, rfl⟩ := Prod.mk.inj (Option.some.inj h)
      exact ⟨rfl, ⟨hne, hdigits⟩, hrest⟩
  · intro h
    obtain ⟨rfl, ⟨hne, hdigits⟩, hrest⟩ := h
    rw [run?_append hdigits hrest, if_neg hne]

theorem isDecimalDigit_colon : isDecimalDigit ':' = false := by decide

theorem isDecimalDigit_point : isDecimalDigit '.' = false := by decide

/-! ## The text of a clock -/

/-- A part that may be left out, with its mark in front of it. -/
def marked (mark : Char) (part : List Char) : List Char :=
  if part = [] then [] else mark :: part

/-- A marked part does not begin with a digit. -/
theorem head?_marked {mark : Char} (hmark : isDecimalDigit mark = false) (part : List Char) :
    ∀ c ∈ (marked mark part).head?, isDecimalDigit c = false := by
  unfold marked
  by_cases hne : part = []
  · simp [hne]
  · simpa [hne] using hmark

namespace Clock

/-- The text behind the hours and their colon. -/
def behindHours (c : Clock) : List Char :=
  c.minutes ++ (marked ':' c.seconds ++ marked '.' c.fraction)

/-- The text of a clock. -/
def text (c : Clock) : List Char :=
  (if c.days = [] then [] else c.days ++ ['.']) ++ (c.hours ++ ':' :: c.behindHours)

/-- The seconds and the fraction that a clock may have: a fraction stands behind seconds and has at
most seven digits. -/
structure IsEnd (seconds fraction : List Char) : Prop where
  seconds_digits : ∀ d ∈ seconds, isDecimalDigit d = true
  fraction_digits : ∀ d ∈ fraction, isDecimalDigit d = true
  fraction_nil : seconds = [] → fraction = []
  fraction_short : fraction.length ≤ 7

/-- The parts that a clock may have; days, seconds and fraction may be left out. -/
structure IsLaidOut (c : Clock) : Prop where
  days_digits : ∀ d ∈ c.days, isDecimalDigit d = true
  hours_run : IsRun c.hours
  minutes_run : IsRun c.minutes
  isEnd : IsEnd c.seconds c.fraction

theorem mem_marked {mark ch : Char} {part : List Char} (h : ch ∈ marked mark part) :
    ch = mark ∨ ch ∈ part := by
  unfold marked at h
  by_cases hne : part = []
  · rw [if_pos hne] at h
    cases h
  · rw [if_neg hne] at h
    exact List.mem_cons.mp h

/-- The text of a clock consists of decimal digits, points and colons. -/
theorem IsLaidOut.mem_text {c : Clock} (hlaid : c.IsLaidOut) {ch : Char} (h : ch ∈ c.text) :
    isDecimalDigit ch = true ∨ ch = '.' ∨ ch = ':' := by
  have hdays : ∀ ch ∈ (if c.days = [] then [] else c.days ++ ['.']),
      isDecimalDigit ch = true ∨ ch = '.' := by
    intro ch hch
    by_cases hne : c.days = []
    · rw [if_pos hne] at hch
      cases hch
    · rw [if_neg hne, List.mem_append, List.mem_singleton] at hch
      exact hch.imp_left (hlaid.days_digits ch)
  simp only [text, behindHours, List.mem_append, List.mem_cons] at h
  rcases h with h | h | rfl | h | h | h
  · exact (hdays ch h).imp_right .inl
  · exact .inl (hlaid.hours_run.2 ch h)
  · exact .inr (.inr rfl)
  · exact .inl (hlaid.minutes_run.2 ch h)
  · rcases mem_marked h with rfl | h
    · exact .inr (.inr rfl)
    · exact .inl (hlaid.isEnd.seconds_digits ch h)
  · rcases mem_marked h with rfl | h
    · exact .inr (.inl rfl)
    · exact .inl (hlaid.isEnd.fraction_digits ch h)

/-- There is no white space in the text of a clock. -/
theorem IsLaidOut.isBlank_text {c : Clock} (hlaid : c.IsLaidOut) :
    ∀ ch ∈ c.text, isBlank ch = false := by
  intro ch hch
  rcases hlaid.mem_text hch with hdigit | rfl | rfl
  · exact isBlank_of_isDecimalDigit hdigit
  · decide
  · decide

end Clock

/-! ## Reading the layout -/

theorem fraction?_eq_some_iff {cs digits : List Char} :
    fraction? cs = some digits ↔
      cs = marked '.' digits ∧ (∀ d ∈ digits, isDecimalDigit d = true) ∧ digits.length ≤ 7 := by
  constructor
  · intro h
    unfold fraction? at h
    split at h
    · rw [← Option.some.inj h]
      exact ⟨rfl, by simp, by decide⟩
    · split at h
      · rename_i digits' hrun
        by_cases hshort : digits'.length ≤ 7
        · rw [if_pos hshort] at h
          obtain ⟨hcs, hdigits, -⟩ := run?_eq_some_iff.mp hrun
          rw [← Option.some.inj h]
          refine ⟨?_, hdigits.2, hshort⟩
          rw [hcs, marked, if_neg hdigits.1, List.append_nil]
        · rw [if_neg hshort] at h
          cases h
      · cases h
    · cases h
  · intro h
    obtain ⟨rfl, hdigits, hshort⟩ := h
    by_cases hne : digits = []
    · rw [hne]
      rfl
    · have hrun : run? digits = some (digits, []) :=
        run?_eq_some_iff.mpr ⟨(List.append_nil digits).symm, ⟨hne, hdigits⟩, by simp⟩
      rw [marked, if_neg hne]
      simp only [fraction?, hrun, if_pos hshort]

theorem seconds?_eq_some_iff {cs seconds fraction : List Char} :
    seconds? cs = some (seconds, fraction) ↔
      cs = marked ':' seconds ++ marked '.' fraction ∧ Clock.IsEnd seconds fraction := by
  constructor
  · intro h
    unfold seconds? at h
    split at h
    · obtain ⟨rfl, rfl⟩ := Prod.mk.inj (Option.some.inj h)
      exact ⟨rfl, by simp, by simp, fun _ => rfl, by decide⟩
    · simp only [Option.bind_eq_bind, Option.bind_eq_some_iff, Option.pure_def,
        Option.some.injEq] at h
      obtain ⟨⟨digits, rest⟩, hrun, fraction', hfraction, heq⟩ := h
      obtain ⟨rfl, rfl⟩ := Prod.mk.inj heq
      obtain ⟨rfl, hdigits, -⟩ := run?_eq_some_iff.mp hrun
      obtain ⟨hrest, hfraction, hshort⟩ := fraction?_eq_some_iff.mp hfraction
      refine ⟨?_, hdigits.2, hfraction, fun hnil => absurd hnil hdigits.1, hshort⟩
      rw [← hrest, marked, if_neg hdigits.1, List.cons_append]
    · cases h
  · intro h
    obtain ⟨rfl, hend⟩ := h
    by_cases hne : seconds = []
    · rw [hend.fraction_nil hne, hne]
      rfl
    · have hrun : run? (seconds ++ marked '.' fraction) = some (seconds, marked '.' fraction) :=
        run?_eq_some_iff.mpr
          ⟨rfl, ⟨hne, hend.seconds_digits⟩, head?_marked isDecimalDigit_point fraction⟩
      have hfraction := fraction?_eq_some_iff.mpr ⟨rfl, hend.fraction_digits, hend.fraction_short⟩
      rw [marked, if_neg hne, List.cons_append]
      simp only [seconds?, hrun, hfraction, Option.bind_eq_bind, Option.bind_some, Option.pure_def]

theorem minutes?_eq_some_iff {days hours cs : List Char} {c : Clock} :
    minutes? days hours cs = some c ↔ c.days = days ∧ c.hours = hours ∧ cs = c.behindHours ∧
      IsRun c.minutes ∧ Clock.IsEnd c.seconds c.fraction := by
  constructor
  · intro h
    simp only [minutes?, Option.bind_eq_bind, Option.bind_eq_some_iff, Option.pure_def,
      Option.some.injEq] at h
    obtain ⟨⟨minutes, rest⟩, hrun, ⟨seconds, fraction⟩, hseconds, rfl⟩ := h
    obtain ⟨rfl, hminutes, -⟩ := run?_eq_some_iff.mp hrun
    obtain ⟨rfl, hend⟩ := seconds?_eq_some_iff.mp hseconds
    exact ⟨rfl, rfl, rfl, hminutes, hend⟩
  · intro h
    obtain ⟨rfl, rfl, rfl, hminutes, hend⟩ := h
    have hhead : ∀ d ∈ (marked ':' c.seconds ++ marked '.' c.fraction).head?,
        isDecimalDigit d = false := by
      by_cases hne : c.seconds = []
      · rw [hne]
        exact head?_marked isDecimalDigit_point c.fraction
      · simpa [marked, hne] using isDecimalDigit_colon
    have hrun := run?_eq_some_iff.mpr ⟨rfl, hminutes, hhead⟩
    have hseconds := seconds?_eq_some_iff.mpr ⟨rfl, hend⟩
    rw [minutes?, Clock.behindHours, hrun]
    simp only [Option.bind_eq_bind, Option.bind_some, hseconds, Option.pure_def]

/-- **A clock is read from its text and from no other.** -/
theorem clock?_eq_some_iff {cs : List Char} {c : Clock} :
    clock? cs = some c ↔ c.IsLaidOut ∧ cs = c.text := by
  constructor
  · intro h
    simp only [clock?, Option.bind_eq_bind, Option.bind_eq_some_iff] at h
    obtain ⟨⟨first, rest⟩, hfirst, h⟩ := h
    obtain ⟨rfl, hrun, -⟩ := run?_eq_some_iff.mp hfirst
    split at h
    · rename_i behind hrest
      obtain ⟨hdays, hhours, rfl, hminutes, hend⟩ := minutes?_eq_some_iff.mp h
      refine ⟨⟨?_, hhours ▸ hrun, hminutes, hend⟩, ?_⟩
      · simp [hdays]
      · rw [Clock.text, hdays, if_pos rfl, hhours, List.nil_append, ← hrest]
    · rename_i behind hrest
      simp only [Option.bind_eq_some_iff] at h
      obtain ⟨⟨second, rest⟩, hsecond, h⟩ := h
      obtain ⟨rfl, hsecondRun, -⟩ := run?_eq_some_iff.mp hsecond
      split at h
      · rename_i tail htail
        obtain ⟨hdays, hhours, rfl, hminutes, hend⟩ := minutes?_eq_some_iff.mp h
        refine ⟨⟨hdays ▸ hrun.2, hhours ▸ hsecondRun, hminutes, hend⟩, ?_⟩
        rw [Clock.text, hdays, if_neg hrun.1, hhours, List.append_assoc, List.singleton_append,
          ← htail, ← hrest]
      · cases h
    · cases h
  · intro h
    obtain ⟨hlaid, rfl⟩ := h
    have hhours : run? (c.hours ++ ':' :: c.behindHours) = some (c.hours, ':' :: c.behindHours) :=
      run?_eq_some_iff.mpr ⟨rfl, hlaid.hours_run, by simpa using isDecimalDigit_colon⟩
    have hminutes := minutes?_eq_some_iff.mpr ⟨rfl, rfl, rfl, hlaid.minutes_run, hlaid.isEnd⟩
    by_cases hne : c.days = []
    · rw [hne] at hminutes
      rw [Clock.text, if_pos hne, List.nil_append, clock?, hhours]
      exact hminutes
    · have hdays : run? (c.days ++ '.' :: (c.hours ++ ':' :: c.behindHours)) =
          some (c.days, '.' :: (c.hours ++ ':' :: c.behindHours)) :=
        run?_eq_some_iff.mpr ⟨rfl, ⟨hne, hlaid.days_digits⟩, by simpa using isDecimalDigit_point⟩
      rw [Clock.text, if_neg hne, List.append_assoc, List.singleton_append, clock?, hdays]
      simp only [Option.bind_eq_bind, Option.bind_some, hhours]
      exact hminutes

end Duration

end RecordQuery
