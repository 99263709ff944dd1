import RecordQuery.Proofs.Config.Fields
import RecordQuery.Proofs.Value.ReadBack

/-!
# Field values read back from JSON

A value that is read from JSON can be written as JSON again: numbers as numbers, names in their
declared spelling, durations as text.  Reading what was written gives the value back, with one
exception besides the numbers that are not finite.  A number of seconds is read to the nanosecond,
but the text of a duration is only read to hundreds of nanoseconds; a duration that is finer is
written as a text that names no duration, and it is read back as null.
-/

namespace RecordQuery

/-- Whether the JSON that a value is written as holds the value: a number has to be finite, and a
duration has to be a whole number of hundreds of nanoseconds. -/
def Value.isHeld : Value → Bool
  | float x => x.isFinite
  | duration d => d.nanos % 100 = 0
  | _ => true

/-- A number of seconds whose duration is no whole number of hundreds of nanoseconds. -/
def Json.IsTooFine (j : Json) : Prop :=
  ∃ n d, j = .number n ∧ Duration.ofSeconds? n.toBinary64 = some d ∧ d.nanos % 100 ≠ 0

namespace Duration

/-- The text of a duration is read back, or it names no duration. -/
theorem ofJson?_write (d : Duration) :
    ofJson? (.string (String.ofList d.write)) = if d.nanos % 100 = 0 then some d else none := by
  rw [ofJson?, String.toList_ofList, parse?_write]

/-- A JSON value that names a duration finer than its text is a number. -/
theorem isTooFine_iff (j : Json) :
    j.IsTooFine ↔ ∃ d, ofJson? j = some d ∧ d.nanos % 100 ≠ 0 := by
  constructor
  · intro h
    obtain ⟨n, d, rfl, hd, hfine⟩ := h
    exact ⟨d, hd, hfine⟩
  · intro h
    obtain ⟨d, hd, hfine⟩ := h
    cases j with
    | number n => exact ⟨n, d, rfl, hd, hfine⟩
    | string s => exact absurd (nanos_of_parse? hd) hfine
    | _ => cases hd

end Duration

namespace TypeClass

variable {cls : TypeClass} {variants : List String}

/-! ## What is read back -/

/-- A name in its declared spelling, if it has one, keeps this spelling. -/
theorem spelled_spelled (variants : List String) (s : String) :
    (declaredName? variants ((declaredName? variants s).getD s)).getD
      ((declaredName? variants s).getD s) = (declaredName? variants s).getD s := by
  cases hs : declaredName? variants s with
  | some name => rw [Option.getD_some, declaredName?_self hs, Option.getD_some]
  | none => rw [Option.getD_none, hs, Option.getD_none]

/-- A value of a class is read back by its class as it is, or as null. -/
theorem readJson_toJson_of_class {v : Value} (hclass : v.typeClass? = some cls)
    (hspelled : ∀ name, v = .variant name → (declaredName? variants name).getD name = name) :
    cls.readJson variants v.toJson = if v.isHeld then v else .null := by
  cases v with
  | null => cases hclass
  | integer n =>
      cases hclass
      simp [Value.toJson, Value.isHeld, readJson, JsonNumber.word?, int64?_toInt]
  | float x =>
      cases hclass
      simp only [Value.toJson, Value.isHeld, JsonNumber.ofBinary64?]
      by_cases hfinite : x.isFinite = true
      · simp [hfinite, readJson, JsonNumber.toBinary64]
      · simp [hfinite]
  | duration d =>
      cases hclass
      simp only [Value.toJson, Value.isHeld, readJson, Duration.ofJson?_write]
      by_cases hunits : d.nanos % 100 = 0
      · simp [hunits]
      · simp [hunits]
  | string s =>
      cases hclass
      rfl
  | variant name =>
      cases hclass
      simp [Value.toJson, Value.isHeld, readJson, hspelled name rfl]

/-- **What is read back** from the JSON of a value that was read is the value or null. -/
theorem readJson_toJson (cls : TypeClass) (variants : List String) (j : Json) :
    cls.readJson variants (cls.readJson variants j).toJson =
      if (cls.readJson variants j).isHeld then cls.readJson variants j else .null := by
  rcases cls.typeClass_readJson variants j with hnull | hclass
  · rw [hnull]
    exact readJson_null variants cls
  · apply readJson_toJson_of_class hclass
    intro name hname
    obtain ⟨s, rfl⟩ := readJson_variant hname
    exact spelled_spelled variants s

/-! ## What is held -/

theorem readJson_duration (variants : List String) (j : Json) :
    duration.readJson variants j = ((Duration.ofJson? j).map .duration).getD .null := by
  cases j <;> rfl

/-- What is read is held, numbers that are not finite and durations that are too fine apart. -/
theorem isHeld_readJson_iff {j : Json}
    (hfinite : ∀ x, cls.readJson variants j = .float x → x.isFinite = true) :
    (cls.readJson variants j).isHeld = true ↔ ¬ (cls = .duration ∧ j.IsTooFine) := by
  by_cases hclass : cls = .duration
  · rw [hclass, and_iff_right rfl, readJson_duration, Duration.isTooFine_iff]
    cases hd : Duration.ofJson? j with
    | none => simp [Value.isHeld]
    | some d => simp [Value.isHeld]
  · refine iff_of_true ?_ fun hfine => hclass hfine.1
    cases hv : cls.readJson variants j with
    | float x => exact hfinite x hv
    | duration d =>
        rcases cls.typeClass_readJson variants j with hnull | hcls
        · rw [hv] at hnull
          cases hnull
        · rw [hv] at hcls
          exact absurd (Option.some.inj hcls).symm hclass
    | _ => rfl

/-- **When a value is read back.**  A value that is read from JSON, other than a number that is not
finite, is read back from the JSON that it is written as, unless it is a duration that was read from
a number of seconds finer than a hundred nanoseconds; such a duration is read back as null. -/
theorem readJson_toJson_iff {j : Json}
    (hfinite : ∀ x, cls.readJson variants j = .float x → x.isFinite = true) :
    (cls.readJson variants (cls.readJson variants j).toJson = cls.readJson variants j ↔
      ¬ (cls = .duration ∧ j.IsTooFine)) ∧
    (cls = .duration ∧ j.IsTooFine →
      cls.readJson variants (cls.readJson variants j).toJson = .null) := by
  have hheld := isHeld_readJson_iff hfinite
  rw [readJson_toJson]
  by_cases hv : (cls.readJson variants j).isHeld = true
  · rw [if_pos hv]
    exact ⟨iff_of_true rfl (hheld.mp hv), fun hfine => absurd hfine (hheld.mp hv)⟩
  · rw [if_neg hv]
    refine ⟨iff_of_false ?_ fun hfine => hv (hheld.mpr hfine), fun _ => rfl⟩
    intro hnull
    rw [← hnull] at hv
    exact hv rfl

/-! ## Lengths of songs -/

namespace Lengths

def instant : Duration := ⟨0, 1, by decide, by decide⟩

/-- A billionth of a second. -/
def nanosecond : Json := .number (.double ⟨0x3e112e0be826d695⟩ (by decide))

def concert : Duration := ⟨90061, 250000000, by decide, by decide⟩

/-- A day, an hour, a minute and a second and a quarter, in seconds. -/
def seconds : Json := .number (.double ⟨0x40f5fcd400000000⟩ (by decide))

theorem read_nanosecond : duration.readJson [] nanosecond = .duration instant := by
  decide +kernel

theorem read_seconds : duration.readJson [] seconds = .duration concert := by
  decide +kernel

theorem isTooFine_nanosecond : nanosecond.IsTooFine :=
  ⟨_, instant, rfl, by decide +kernel, by decide⟩

theorem not_isTooFine_seconds : ¬ seconds.IsTooFine := by
  have hseconds : Duration.ofJson? seconds = some concert := by decide +kernel
  rw [Duration.isTooFine_iff, hseconds]
  simp [concert]

end Lengths

/-- A billionth of a second is written as a text that names no duration, and is read back as
null. -/
theorem readJson_toJson_nanosecond :
    duration.readJson [] Lengths.nanosecond = .duration Lengths.instant ∧
    (Value.duration Lengths.instant).toJson = .string "00:00:00.000000001" ∧
    duration.readJson [] (.string "00:00:00.000000001") = .null ∧
    duration.readJson [] (duration.readJson [] Lengths.nanosecond).toJson ≠
      duration.readJson [] Lengths.nanosecond := by
  have htext : String.ofList Lengths.instant.write = "00:00:00.000000001" := by decide +kernel
  have hnull : duration.readJson [] (.string "00:00:00.000000001") = .null := by decide +kernel
  refine ⟨Lengths.read_nanosecond, ?_, hnull, ?_⟩
  · rw [Value.toJson, htext]
  · rw [Lengths.read_nanosecond, Value.toJson, htext, hnull]
    simp

/-- A number is read back as the number that it is; as a number of seconds it is read back unless it
is too fine. -/
theorem readJson_toJson_lengths :
    (float.readJson [] (float.readJson [] Lengths.seconds).toJson =
      .float ⟨0x40f5fcd400000000⟩) ∧
    (¬ Lengths.seconds.IsTooFine ∧
      duration.readJson [] (duration.readJson [] Lengths.seconds).toJson =
        .duration Lengths.concert) ∧
    (Lengths.nanosecond.IsTooFine ∧
      duration.readJson [] (duration.readJson [] Lengths.nanosecond).toJson = .null) := by
  have hfloat : ∀ x, float.readJson [] Lengths.seconds = .float x → x.isFinite = true := by
    intro x hx
    rw [← Value.float.inj hx]
    decide
  have hseconds : ∀ x, duration.readJson [] Lengths.seconds = .float x → x.isFinite = true := by
    intro x hx
    rw [Lengths.read_seconds] at hx
    cases hx
  have hnanosecond : ∀ x, duration.readJson [] Lengths.nanosecond = .float x →
      x.isFinite = true := by
    intro x hx
    rw [Lengths.read_nanosecond] at hx
    cases hx
  refine ⟨?_, ⟨Lengths.not_isTooFine_seconds, ?_⟩, Lengths.isTooFine_nanosecond, ?_⟩
  · exact (readJson_toJson_iff hfloat).1.mpr (by simp)
  · have hback := (readJson_toJson_iff hseconds).1.mpr fun hfine =>
      Lengths.not_isTooFine_seconds hfine.2
    rwa [Lengths.read_seconds] at hback ⊢
  · exact (readJson_toJson_iff hnanosecond).2 ⟨rfl, Lengths.isTooFine_nanosecond⟩

end TypeClass

end RecordQuery
