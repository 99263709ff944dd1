import Mathlib.Data.String.Defs
import RecordQuery.Text.Lower

/-!
# Lower-case forms in ASCII

The lower-case form of an ASCII character is an ASCII character: the small letter of a capital, and
otherwise the character itself.  From outside ASCII only the Kelvin sign gets into it, whose form is
`k`; the capital I with a dot becomes an `i`, but its dot stays behind as a mark of its own.  So a
text in ASCII without a `k` is the lower-case form of those texts only that differ from it in the
case of ASCII letters, and if it has no letters, of nothing but itself.
-/

namespace RecordQuery.Text

/-- Whether a character is in ASCII and no `k`, so that characters outside ASCII do not share its
lower-case form. -/
def isOwnCase (c : Char) : Bool := c.isAscii && c.toLower != 'k'

/-- Whether a character is in ASCII and no letter, so that nothing shares its lower-case form. -/
def isCaseless (c : Char) : Bool := c.isAscii && !c.isAlpha

/-! ## Characters -/

/-- The code point of a lower-case form is the code point itself, or one at the same distance from
the image of a run as itself from the start of the run. -/
theorem lowerCode_cases (runs : List CaseRun) (n : Nat) :
    lowerCode runs n = n ∨ ∃ run ∈ runs, run.first ≤ n ∧ n ≤ run.last ∧
      lowerCode runs n = n - run.first + run.image := by
  induction runs with
  | nil => exact .inl rfl
  | cons run rest ih =>
      unfold lowerCode
      split
      · exact .inl rfl
      · split
        · split
          · exact .inr ⟨run, by simp, by omega, by omega, rfl⟩
          · exact .inl rfl
        · rcases ih with h | ⟨run', hrun', hfirst, hlast, h⟩
          · exact .inl h
          · exact .inr ⟨run', by simp [hrun'], hfirst, hlast, h⟩

/-- The images of the runs outside ASCII are code points outside ASCII, but for that of the Kelvin
sign. -/
private theorem image_not_ascii : ∀ run ∈ caseRuns, 128 ≤ run.last →
    (run.first = 0x212A ∧ run.last = 0x212A) ∨
      128 ≤ run.image ∧ (run.last - run.first + run.image < 0xD800 ∨
        0xE000 ≤ run.image ∧ run.last - run.first + run.image < 0x110000) := by
  decide +kernel

private theorem lowerChar_ofNat : ∀ n < 128,
    lowerChar (Char.ofNat n) = [(Char.ofNat n).toLower] := by
  decide +kernel

/-- **In ASCII** the lower-case form is the small letter. -/
theorem lowerChar_of_ascii {c : Char} (h : c.isAscii = true) : lowerChar c = [c.toLower] := by
  have hform := lowerChar_ofNat c.toNat (of_decide_eq_true h)
  rwa [Char.ofNat_toNat] at hform

/-- **Outside ASCII** the lower-case form of a character has a character outside ASCII, but for the
Kelvin sign. -/
theorem exists_not_ascii {c : Char} (h : c.isAscii = false) (hkelvin : c ≠ '\u212A') :
    ∃ d ∈ lowerChar c, d.isAscii = false := by
  have hout : 128 ≤ c.toNat := Nat.not_lt.mp (of_decide_eq_false h)
  by_cases hdot : c = '\u0130'
  · subst hdot
    exact ⟨'\u0307', by decide, by decide⟩
  · refine ⟨Char.ofNat (lowerCode caseRuns c.toNat), by simp [lowerChar, hdot], ?_⟩
    rcases lowerCode_cases caseRuns c.toNat with hself | ⟨run, hrun, hfirst, hlast, himage⟩
    · rw [hself, Char.ofNat_toNat]
      exact h
    · rcases image_not_ascii run hrun (by omega) with ⟨hlow, hhigh⟩ | ⟨hnot, hvalid⟩
      · have hsign : Char.ofNat c.toNat = '\u212A' := by
          rw [show c.toNat = 0x212A by omega]
        rw [Char.ofNat_toNat] at hsign
        exact absurd hsign hkelvin
      · have hchar : (c.toNat - run.first + run.image).isValidChar := by
          rcases hvalid with hvalid | ⟨hlow, hhigh⟩
          · exact .inl (by omega)
          · exact .inr ⟨by omega, by omega⟩
        have hplace : (Char.ofNat (c.toNat - run.first + run.image)).toNat =
            c.toNat - run.first + run.image := by
          rw [Char.ofNat, dif_pos hchar]
          rfl
        rw [himage, Char.isAscii, hplace]
        apply decide_eq_false
        omega

/-- A character that is no capital is its own small letter. -/
theorem toLower_of_not_isUpper {c : Char} (h : c.isUpper = false) : c.toLower = c := by
  have hrange : ¬ (c.val ≥ 'A'.val ∧ c.val ≤ 'Z'.val) := of_decide_eq_false h
  exact dif_neg hrange

private theorem isUpper_ofNat : ∀ n < 128, (Char.ofNat n).isUpper = true →
    (Char.ofNat n).toLower.isAscii = true ∧ (Char.ofNat n).toLower.isAlpha = true := by
  decide +kernel

/-- A capital is in ASCII, and its small letter is a letter in ASCII. -/
theorem isAscii_of_isUpper {c : Char} (h : c.isUpper = true) :
    c.isAscii = true ∧ c.toLower.isAscii = true ∧ c.toLower.isAlpha = true := by
  have hlast : c.toNat ≤ 90 := (of_decide_eq_true h).2
  have hrange : c.toNat < 128 := by omega
  have hsmall := isUpper_ofNat c.toNat hrange
  rw [Char.ofNat_toNat] at hsmall
  exact ⟨decide_eq_true hrange, hsmall h⟩

/-- Only ASCII characters have a small letter in ASCII. -/
theorem isAscii_toLower (c : Char) : c.toLower.isAscii = c.isAscii := by
  cases hupper : c.isUpper with
  | true =>
      obtain ⟨hascii, hsmall, -⟩ := isAscii_of_isUpper hupper
      rw [hsmall, hascii]
  | false => rw [toLower_of_not_isUpper hupper]

/-- What is no letter has no other form. -/
theorem toLower_of_not_isAlpha {c : Char} (h : c.isAlpha = false) : c.toLower = c :=
  toLower_of_not_isUpper (Bool.or_eq_false_iff.mp h).1

theorem isOwnCase_iff {c : Char} : isOwnCase c = true ↔ c.isAscii = true ∧ c.toLower ≠ 'k' := by
  simp [isOwnCase]

theorem isCaseless_iff {c : Char} : isCaseless c = true ↔ c.isAscii = true ∧ c.isAlpha = false := by
  simp [isCaseless]

/-- A character that is no letter is the small letter of itself only. -/
theorem toLower_eq_iff {c d : Char} (hd : d.isAlpha = false) : c.toLower = d ↔ c = d := by
  constructor
  · rintro rfl
    cases hupper : c.isUpper with
    | true =>
        rw [(isAscii_of_isUpper hupper).2.2] at hd
        cases hd
    | false => exact (toLower_of_not_isUpper hupper).symm
  · rintro rfl
    exact toLower_of_not_isAlpha hd

/-! ## Texts -/

/-- A text in ASCII is lowered letter by letter. -/
theorem lowerFrom_of_ascii {cs : List Char} (h : ∀ c ∈ cs, c.isAscii = true)
    (before : List Char) : lowerFrom before cs = cs.map Char.toLower := by
  induction cs generalizing before with
  | nil => rfl
  | cons c cs ih =>
      obtain ⟨hc, hcs⟩ := List.forall_mem_cons.mp h
      have hsigma : c ≠ 'Σ' := by
        rintro rfl
        exact absurd hc (by decide)
      rw [lowerFrom, if_neg (fun hends => hsigma hends.1), lowerChar_of_ascii hc, ih hcs]
      rfl

/-- A text whose form is in ASCII and without a `k` is in ASCII itself. -/
theorem isAscii_of_lowerFrom {before cs : List Char}
    (h : ∀ d ∈ lowerFrom before cs, d.isAscii = true ∧ d ≠ 'k') :
    ∀ c ∈ cs, c.isAscii = true := by
  induction cs generalizing before with
  | nil => exact List.forall_mem_nil _
  | cons c cs ih =>
      rw [lowerFrom, List.forall_mem_append] at h
      obtain ⟨hform, hrest⟩ := h
      refine List.forall_mem_cons.mpr ⟨?_, ih hrest⟩
      cases hc : c.isAscii with
      | true => rfl
      | false =>
          split at hform
          · exact absurd (hform 'ς' (by simp)).1 (by decide)
          · have hkelvin : c ≠ '\u212A' := by
              rintro rfl
              exact absurd rfl (hform 'k' (by decide)).2
            obtain ⟨d, hd, hout⟩ := exists_not_ascii hc hkelvin
            rw [(hform d hd).1] at hout
            cases hout

/-- **A text in ASCII without a `k`** has the lower-case form of those texts that differ from it in
the case of ASCII letters only. -/
theorem lower_eq_iff_toLower {s t : String} (ht : t.toList.all isOwnCase = true) :
    lower s = lower t ↔ s.toList.map Char.toLower = t.toList.map Char.toLower := by
  have hown : ∀ d ∈ t.toList, d.isAscii = true ∧ d.toLower ≠ 'k' := fun d hd =>
    isOwnCase_iff.mp (List.all_eq_true.mp ht d hd)
  have hform : lowerChars t.toList = t.toList.map Char.toLower :=
    lowerFrom_of_ascii (fun d hd => (hown d hd).1) []
  rw [lower, lower, String.ofList_inj, hform]
  constructor
  · intro h
    have hplain : ∀ d ∈ lowerFrom [] s.toList, d.isAscii = true ∧ d ≠ 'k' := by
      intro d hd
      rw [show lowerFrom [] s.toList = t.toList.map Char.toLower from h, List.mem_map] at hd
      obtain ⟨c, hc, rfl⟩ := hd
      rw [isAscii_toLower]
      exact hown c hc
    rw [← h]
    exact (lowerFrom_of_ascii (isAscii_of_lowerFrom hplain) []).symm
  · intro h
    rw [← h]
    apply lowerFrom_of_ascii
    intro c hc
    have hmem : c.toLower ∈ t.toList.map Char.toLower := by
      rw [← h]
      exact List.mem_map_of_mem hc
    obtain ⟨d, hd, heq⟩ := List.mem_map.mp hmem
    rw [← isAscii_toLower, ← heq, isAscii_toLower]
    exact (hown d hd).1

/-- Only itself becomes a text without letters if ASCII letters are made small. -/
theorem map_toLower_eq_iff {cs ds : List Char} (hds : ∀ d ∈ ds, d.isAlpha = false) :
    cs.map Char.toLower = ds.map Char.toLower ↔ cs = ds := by
  induction cs generalizing ds with
  | nil => simp
  | cons c cs ih =>
      cases ds with
      | nil => simp
      | cons d ds =>
          obtain ⟨hd, hrest⟩ := List.forall_mem_cons.mp hds
          rw [List.map_cons, List.map_cons, List.cons_eq_cons, List.cons_eq_cons, ih hrest,
            toLower_of_not_isAlpha hd, toLower_eq_iff hd]

/-- **A text in ASCII without letters** shares its lower-case form with no other text. -/
theorem lower_eq_iff {s t : String} (ht : t.toList.all isCaseless = true) :
    lower s = lower t ↔ s = t := by
  have hcaseless : ∀ d ∈ t.toList, d.isAscii = true ∧ d.isAlpha = false := fun d hd =>
    isCaseless_iff.mp (List.all_eq_true.mp ht d hd)
  have hown : t.toList.all isOwnCase = true := by
    rw [List.all_eq_true]
    intro d hd
    obtain ⟨hascii, halpha⟩ := hcaseless d hd
    rw [isOwnCase_iff, toLower_of_not_isAlpha halpha]
    refine ⟨hascii, ?_⟩
    rintro rfl
    exact absurd halpha (by decide)
  rw [lower_eq_iff_toLower hown, map_toLower_eq_iff fun d hd => (hcaseless d hd).2,
    String.toList_inj]

end RecordQuery.Text
