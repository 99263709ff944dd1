import RecordQuery.Binary64.Basic
import RecordQuery.Text.Class

/-!
# Lengths of time

A duration is a whole number of seconds that fits a 64-bit word, and a number of nanoseconds below
one second.  Durations are ordered by their length, which determines them.

As text a duration is a number of days, or a clock: hours and minutes, then perhaps seconds and a
fraction of a second, and perhaps a number of days in front.

    d
    [d.]hh:mm[:ss[.fffffff]]

Hours are below 24, minutes and seconds below 60.  The layout admits the decimal digits of every
script, but a part is only worth a number if its digits are ASCII.
-/

namespace RecordQuery

open Text

/-- A length of time. -/
structure Duration where
  seconds : Nat
  nanos : Nat
  seconds_lt : seconds < 2 ^ (64 : Nat)
  nanos_lt : nanos < 1000000000
deriving DecidableEq

namespace Duration

/-- The duration of the given seconds and nanoseconds, if both are in range. -/
def ofParts? (seconds nanos : Nat) : Option Duration :=
  if h : seconds < 2 ^ (64 : Nat) ∧ nanos < 1000000000 then some ⟨seconds, nanos, h.1, h.2⟩
  else none

/-- The length in nanoseconds. -/
def totalNanos (d : Duration) : Nat := d.seconds * 1000000000 + d.nanos

/-- A duration is determined by its length in nanoseconds. -/
theorem eq_of_totalNanos_eq {a b : Duration} (h : a.totalNanos = b.totalNanos) : a = b := by
  obtain ⟨s, n, hs, hn⟩ := a
  obtain ⟨s', n', hs', hn'⟩ := b
  simp only [totalNanos] at h
  have hsec : s = s' := by omega
  have hnan : n = n' := by omega
  subst hsec; subst hnan; rfl

/-- The order of two durations by length. -/
def compare (a b : Duration) : Ordering := Ord.compare a.totalNanos b.totalNanos

/-- Only equal durations have the same place in the order. -/
theorem compare_eq_eq {a b : Duration} : a.compare b = .eq ↔ a = b := by
  rw [compare, Nat.compare_eq_eq]
  exact ⟨eq_of_totalNanos_eq, congrArg totalNanos⟩

/-! ## Seconds as a binary64 number -/

/-- The length in seconds: the whole seconds and the fraction are rounded each, and then their
sum. -/
def toSeconds (d : Duration) : Binary64 :=
  (Binary64.ofNat d.seconds).add ((Binary64.ofNat d.nanos).div (Binary64.ofNat 1000000000))

/-- The duration of a number of seconds, rounded to the nearest nanosecond, ties to the even one;
a negative number, and one whose whole seconds do not fit a 64-bit word, has none. -/
def ofSeconds? (x : Binary64) : Option Duration :=
  if x.isFinite && 0 ≤ x.units then
    let total := divNearestEven (x.units.toNat * 1000000000) (2 ^ (1074 : Nat))
    ofParts? (total / 1000000000) (total % 1000000000)
  else none

/-! ## Layout -/

/-- The parts of a clock as written; a part that is left out is empty. -/
structure Clock where
  days : List Char
  hours : List Char
  minutes : List Char
  seconds : List Char
  fraction : List Char
deriving DecidableEq

/-- A non-empty run of decimal digits at the start of a text, and the text behind it. -/
def run? (cs : List Char) : Option (List Char × List Char) :=
  let digits := cs.takeWhile isDecimalDigit
  if digits.isEmpty then none else some (digits, cs.dropWhile isDecimalDigit)

/-- The fraction at the end of a clock: nothing, or a point and one to seven digits. -/
def fraction? : List Char → Option (List Char)
  | [] => some []
  | '.' :: cs =>
    match run? cs with
    | some (digits, []) => if digits.length ≤ 7 then some digits else none
    | _ => none
  | _ => none

/-- The seconds and the fraction at the end of a clock, both of which may be left out. -/
def seconds? : List Char → Option (List Char × List Char)
  | [] => some ([], [])
  | ':' :: cs => do
    let (seconds, rest) ← run? cs
    let fraction ← fraction? rest
    return (seconds, fraction)
  | _ => none

/-- The clock behind its days and hours. -/
def minutes? (days hours cs : List Char) : Option Clock := do
  let (minutes, rest) ← run? cs
  let (seconds, fraction) ← seconds? rest
  return ⟨days, hours, minutes, seconds, fraction⟩

/-- The parts of a clock, if the text has its layout. -/
def clock? (cs : List Char) : Option Clock := do
  let (first, rest) ← run? cs
  match rest with
  | ':' :: behind => minutes? [] first behind
  | '.' :: behind =>
    let (hours, rest) ← run? behind
    match rest with
    | ':' :: behind => minutes? first hours behind
    | _ => none
  | _ => none

/-! ## Value -/

/-- What reading a text as a duration comes to. -/
inductive Outcome where
  | duration (d : Duration)
  | rejected
  /-- The fraction takes up more than nine bytes, so it has no scale in nanoseconds. -/
  | unscalable
deriving DecidableEq

/-- The duration of an outcome. -/
def Outcome.duration? : Outcome → Option Duration
  | .duration d => some d
  | _ => none

/-- The outcome of a text that names this duration or none. -/
def Outcome.ofOption : Option Duration → Outcome
  | some d => .duration d
  | none => .rejected

/-- The number that a part names; a part that is left out counts as zero, and a number that does not
fit a 64-bit word is none. -/
def partNumber? (part : List Char) : Option Nat :=
  if part.isEmpty then some 0 else (numeral? part).filter (· < 2 ^ (64 : Nat))

/-- The seconds that days, hours, minutes and seconds come to, if each is in range. -/
def clockSeconds? (c : Clock) : Option Nat := do
  let days ← partNumber? c.days
  let hours ← partNumber? c.hours
  let minutes ← partNumber? c.minutes
  let seconds ← partNumber? c.seconds
  if hours < 24 ∧ minutes < 60 ∧ seconds < 60 then
    some (days * 86400 + hours * 3600 + minutes * 60 + seconds)
  else none

/-- The number of bytes that characters take up in UTF-8. -/
def byteLength : List Char → Nat
  | [] => 0
  | c :: cs => c.utf8Size + byteLength cs

/-- What a clock means.  The fraction counts in units of ten to the power of nine less its length
in bytes. -/
def Clock.read (c : Clock) : Outcome :=
  match clockSeconds? c with
  | none => .rejected
  | some seconds =>
    if c.fraction.isEmpty then .ofOption (ofParts? seconds 0)
    else if 9 < byteLength c.fraction then .unscalable
    else .ofOption do
      let fraction ← numeral? c.fraction
      ofParts? seconds (fraction * 10 ^ (9 - byteLength c.fraction))

/-- What a text means as a duration: white space at its ends does not count, a run of ASCII digits
is a number of days, and everything else has to be a clock. -/
def read (cs : List Char) : Outcome :=
  match numeral? (trim cs) with
  | some days => .ofOption (if days < 2 ^ (64 : Nat) then ofParts? (days * 86400) 0 else none)
  | none =>
    match clock? (trim cs) with
    | some c => c.read
    | none => .rejected

/-- The duration that a text names.  A text whose fraction has no scale counts as one that names
none, and the readers of literals and of JSON, `TypeClass.parseLiteral?` and `Duration.ofJson?`,
rest on that.  Nine less the bytes of such a fraction does not fit a word.  Where the difference
wraps around, the text is refused in the next step, since a fraction with more than nine bytes has
digits that are not ASCII; where overflow is checked, reading stops at the difference without an
answer, as in `Duration.compute`. -/
def parse? (cs : List Char) : Option Duration := (read cs).duration?

/-! ## Writing -/

/-- The digits of a fraction of a second without the zeros at their end. -/
def fractionDigits (nanos : Nat) : List Char :=
  ((paddedDecimal 9 nanos).reverse.dropWhile (· = '0')).reverse

/-- The clock that names a duration: days only if there are any, two digits for hours, minutes and
seconds, and a fraction only if there is one. -/
def write (d : Duration) : List Char :=
  let days := d.seconds / 86400
  (if days = 0 then [] else decimal days ++ ['.'])
    ++ paddedDecimal 2 (d.seconds % 86400 / 3600) ++ ':' :: paddedDecimal 2 (d.seconds % 3600 / 60)
    ++ ':' :: paddedDecimal 2 (d.seconds % 60)
    ++ if d.nanos = 0 then [] else '.' :: fractionDigits d.nanos

end Duration

end RecordQuery
