import RecordQuery.Text.Lower

/-!
# Lower-case forms of texts and of their parts

The lower-case form of a character depends on its neighbours only if it is a capital sigma, and then
it is one character all the same.  So the length of the lower-case form of a text is the sum of the
lengths of the forms of its characters.  Each of them has at least one character, whence a text is
not longer than its lower-case form, and no text has the lower-case form of a proper part of it.

A text is lowered as a whole.  Every character of a part is lowered to the same form as in the part
on its own, except for a capital sigma that ends a word in one of the two and not in the other.  The
forms of the part have the same length in both, so the one stands in the form of the whole text, at
the place where the part stands in the text, if and only if no sigma turns.

At the ends of the text this settles whether the form of a part is found there, for the length
leaves it no other place.  Inside the text it may be found at another place all the same.
-/

namespace RecordQuery.Text

/-! ## Lengths -/

/-- The lower-case form of a character is not empty. -/
theorem length_lowerChar_pos (c : Char) : 0 < (lowerChar c).length := by
  unfold lowerChar
  split <;> simp

/-- Only the capital I with a dot has a lower-case form of more than one character. -/
theorem length_lowerChar_eq_one_iff (c : Char) : (lowerChar c).length = 1 ↔ c ≠ '\u0130' := by
  unfold lowerChar
  split <;> simp_all

/-- The lower-case form of a capital sigma is one character. -/
theorem length_lowerChar_sigma : (lowerChar 'Σ').length = 1 := by
  simp [lowerChar]

/-- How many characters the lower-case forms of the characters of a text have together. -/
def lowerLength : List Char → Nat
  | [] => 0
  | c :: cs => (lowerChar c).length + lowerLength cs

theorem lowerLength_append (cs ds : List Char) :
    lowerLength (cs ++ ds) = lowerLength cs + lowerLength ds := by
  induction cs with
  | nil => simp [lowerLength]
  | cons c cs ih => rw [List.cons_append, lowerLength, lowerLength, ih, Nat.add_assoc]

theorem length_le_lowerLength (cs : List Char) : cs.length ≤ lowerLength cs := by
  induction cs with
  | nil => exact Nat.le_refl 0
  | cons c cs ih =>
      have hpos := length_lowerChar_pos c
      rw [List.length_cons, lowerLength]
      omega

/-- **A text keeps its length** in lower case unless a capital I with a dot stands in it. -/
theorem lowerLength_eq_length_iff (cs : List Char) :
    lowerLength cs = cs.length ↔ '\u0130' ∉ cs := by
  induction cs with
  | nil => simp [lowerLength]
  | cons c cs ih =>
      have hpos := length_lowerChar_pos c
      have hle := length_le_lowerLength cs
      have hsplit : lowerLength (c :: cs) = (c :: cs).length ↔
          (lowerChar c).length = 1 ∧ lowerLength cs = cs.length := by
        rw [lowerLength, List.length_cons]
        omega
      rw [hsplit, length_lowerChar_eq_one_iff, ih, List.mem_cons, not_or, ne_comm]

theorem length_lowerFrom (before cs : List Char) :
    (lowerFrom before cs).length = lowerLength cs := by
  induction cs generalizing before with
  | nil => rfl
  | cons c cs ih =>
      rw [lowerFrom, List.length_append, ih, lowerLength]
      split
      · rename_i hsigma
        rw [hsigma.1, length_lowerChar_sigma, List.length_singleton]
      · rfl

/-- **The length of the lower-case form of a text** does not depend on how its characters stand to
each other. -/
theorem length_lowerChars (cs : List Char) : (lowerChars cs).length = lowerLength cs :=
  length_lowerFrom [] cs

theorem length_lowerChars_append (cs ds : List Char) :
    (lowerChars (cs ++ ds)).length = (lowerChars cs).length + (lowerChars ds).length := by
  simp [length_lowerChars, lowerLength_append]

/-- Only the empty text has an empty lower-case form. -/
theorem length_lowerChars_pos {cs : List Char} (h : cs ≠ []) : 0 < (lowerChars cs).length := by
  obtain ⟨c, cs, rfl⟩ := List.exists_cons_of_ne_nil h
  have hpos := length_lowerChar_pos c
  rw [length_lowerChars, lowerLength]
  omega

/-- **Text around a part makes the lower-case form longer.** -/
theorem eq_nil_of_lowerChars_eq {front part back : List Char}
    (h : lowerChars (front ++ part ++ back) = lowerChars part) : front = [] ∧ back = [] := by
  have hlength := congrArg List.length h
  rw [length_lowerChars_append, length_lowerChars_append] at hlength
  constructor
  · apply Classical.byContradiction
    intro hne
    have hpos := length_lowerChars_pos hne
    omega
  · apply Classical.byContradiction
    intro hne
    have hpos := length_lowerChars_pos hne
    omega

/-! ## One character -/

/-- The form that a character takes between `before`, read backwards, and `after`. -/
def formBetween (before : List Char) (c : Char) (after : List Char) : List Char :=
  if c = 'Σ' ∧ endsWord before after = true then ['ς'] else lowerChar c

theorem length_formBetween (before : List Char) (c : Char) (after : List Char) :
    (formBetween before c after).length = (lowerChar c).length := by
  unfold formBetween
  split
  · rename_i hsigma
    rw [hsigma.1, length_lowerChar_sigma, List.length_singleton]
  · rfl

theorem lowerChar_sigma_ne : lowerChar 'Σ' ≠ ['ς'] := by decide

/-- Only a capital sigma has two forms. -/
theorem formBetween_eq_iff {before before' after after' : List Char} {c : Char} :
    formBetween before c after = formBetween before' c after' ↔
      (c = 'Σ' → endsWord before after = endsWord before' after') := by
  by_cases hc : c = 'Σ'
  · subst hc
    have hne := lowerChar_sigma_ne
    cases hends : endsWord before after <;> cases hends' : endsWord before' after' <;>
      simp [formBetween, hends, hends', hne, hne.symm]
  · simp [formBetween, hc]

/-! ## Parts -/

/-- The form that a part takes between `before`, read backwards, and `after`. -/
def lowerBetween (before : List Char) : List Char → List Char → List Char
  | [], _ => []
  | c :: part, after =>
    formBetween before c (part ++ after) ++ lowerBetween (c :: before) part after

theorem length_lowerBetween (before part after : List Char) :
    (lowerBetween before part after).length = lowerLength part := by
  induction part generalizing before with
  | nil => rfl
  | cons c part ih =>
      rw [lowerBetween, List.length_append, length_formBetween, ih, lowerLength]

/-- The parts of a text are lowered one after the other, each between the others. -/
theorem lowerFrom_append (before part rest : List Char) :
    lowerFrom before (part ++ rest) =
      lowerBetween before part rest ++ lowerFrom (part.reverse ++ before) rest := by
  induction part generalizing before with
  | nil => rfl
  | cons c part ih =>
      rw [List.cons_append, lowerFrom, ih, lowerBetween, List.reverse_cons, List.append_assoc,
        List.append_assoc, List.singleton_append]
      rfl

/-- **Two forms of a part are the same** if every capital sigma of it ends a word in both or in
neither. -/
theorem lowerBetween_eq_iff {before before' part after after' : List Char} :
    lowerBetween before part after = lowerBetween before' part after' ↔
      ∀ front back, part = front ++ 'Σ' :: back →
        endsWord (front.reverse ++ before) (back ++ after) =
          endsWord (front.reverse ++ before') (back ++ after') := by
  induction part generalizing before before' with
  | nil => simp [lowerBetween]
  | cons c part ih =>
      have hhead : (formBetween before c (part ++ after)).length =
          (formBetween before' c (part ++ after')).length := by
        rw [length_formBetween, length_formBetween]
      rw [lowerBetween, lowerBetween, List.append_eq_append_iff_of_size_eq_left hhead,
        formBetween_eq_iff, ih]
      constructor
      · rintro ⟨hc, hpart⟩ front back hsplit
        rcases List.cons_eq_append_iff.mp hsplit with ⟨rfl, hcons⟩ | ⟨front, rfl, rfl⟩
        · obtain ⟨rfl, rfl⟩ := List.cons.inj hcons
          exact hc rfl
        · have hback := hpart front back rfl
          rwa [List.reverse_cons, List.append_assoc, List.append_assoc]
      · intro hall
        constructor
        · rintro rfl
          exact hall [] part rfl
        · rintro front back rfl
          have hback := hall (c :: front) back rfl
          rwa [List.reverse_cons, List.append_assoc, List.append_assoc] at hback

/-- Between nothing a part is lowered as a text. -/
theorem lowerBetween_nil (part : List Char) : lowerBetween [] part [] = lowerChars part := by
  have happend := lowerFrom_append [] part []
  rw [List.append_nil] at happend
  rw [lowerChars, happend, lowerFrom, List.append_nil]

/-- The lower-case form of a text in three parts. -/
theorem lowerChars_append₃ (a b c : List Char) :
    lowerChars (a ++ b ++ c) =
      lowerBetween [] a (b ++ c) ++ lowerBetween a.reverse b c ++
        lowerFrom (b.reverse ++ a.reverse) c := by
  rw [lowerChars, List.append_assoc, lowerFrom_append, lowerFrom_append, List.append_nil,
    List.append_assoc]

/-! ## Where forms stand -/

/-- A capital sigma of the part ends a word between `before` and `after` and none in the part on its
own, or the other way round. -/
def SigmaTurns (before part after : List Char) : Prop :=
  ∃ front back, part = front ++ 'Σ' :: back ∧
    endsWord (before ++ front).reverse (back ++ after) ≠ endsWord front.reverse back

/-- The form of the part is found in the form of the whole text at a place that is not its own. -/
def FoundElsewhere (before part after : List Char) : Prop :=
  ∃ front back, lowerChars (before ++ part ++ after) = front ++ lowerChars part ++ back ∧
    front.length ≠ (lowerChars before).length

/-- A part is lowered as a text is if no sigma turns. -/
theorem lowerBetween_eq_lowerChars_iff {before part after : List Char} :
    lowerBetween before.reverse part after = lowerChars part ↔ ¬ SigmaTurns before part after := by
  rw [← lowerBetween_nil, lowerBetween_eq_iff]
  simp [SigmaTurns]

instance (before part after : List Char) : Decidable (SigmaTurns before part after) :=
  decidable_of_iff (lowerBetween before.reverse part after ≠ lowerChars part) (by
    rw [ne_eq, lowerBetween_eq_lowerChars_iff, Classical.not_not])

/-- **The form of a part stands where the part does** if and only if no sigma turns. -/
theorem stands_iff {a b c : List Char} :
    (∃ front back, lowerChars (a ++ b ++ c) = front ++ lowerChars b ++ back ∧
      front.length = (lowerChars a).length) ↔ ¬ SigmaTurns a b c := by
  have hfront : (lowerBetween [] a (b ++ c)).length = (lowerChars a).length := by
    rw [length_lowerBetween, length_lowerChars]
  have hpart : (lowerBetween a.reverse b c).length = (lowerChars b).length := by
    rw [length_lowerBetween, length_lowerChars]
  rw [← lowerBetween_eq_lowerChars_iff, lowerChars_append₃]
  constructor
  · rintro ⟨front, back, htext, hlength⟩
    rw [List.append_assoc, List.append_assoc] at htext
    obtain ⟨-, hrest⟩ := List.append_inj htext (hfront.trans hlength.symm)
    exact (List.append_inj hrest hpart).1
  · intro hform
    exact ⟨_, _, by rw [hform], hfront⟩

/-- **At the beginning of a text.** -/
theorem lowerChars_prefix_iff (a b : List Char) :
    lowerChars a <+: lowerChars (a ++ b) ↔ ¬ SigmaTurns [] a b := by
  rw [← stands_iff]
  constructor
  · rintro ⟨back, htext⟩
    exact ⟨[], back, htext.symm, rfl⟩
  · rintro ⟨front, back, htext, hlength⟩
    obtain rfl := List.eq_nil_of_length_eq_zero hlength
    exact ⟨back, htext.symm⟩

/-- **At the end of a text.** -/
theorem lowerChars_suffix_iff (a b : List Char) :
    lowerChars b <:+ lowerChars (a ++ b) ↔ ¬ SigmaTurns a b [] := by
  have hlength := length_lowerChars_append a b
  rw [← stands_iff, List.append_nil]
  constructor
  · rintro ⟨front, htext⟩
    refine ⟨front, [], by rw [List.append_nil, htext], ?_⟩
    rw [← htext, List.length_append] at hlength
    omega
  · rintro ⟨front, back, htext, hfront⟩
    have hback : back.length = 0 := by
      rw [htext, List.length_append, List.length_append] at hlength
      omega
    obtain rfl := List.eq_nil_of_length_eq_zero hback
    exact ⟨front, by rw [htext, List.append_nil]⟩

/-- **Anywhere in a text**: at the place of the part or, by coincidence, at another one. -/
theorem lowerChars_infix_iff (a b c : List Char) :
    lowerChars b <:+: lowerChars (a ++ b ++ c) ↔
      ¬ SigmaTurns a b c ∨ FoundElsewhere a b c := by
  rw [← stands_iff]
  constructor
  · rintro ⟨front, back, htext⟩
    by_cases hlength : front.length = (lowerChars a).length
    · exact .inl ⟨front, back, htext.symm, hlength⟩
    · exact .inr ⟨front, back, htext.symm, hlength⟩
  · rintro (⟨front, back, htext, -⟩ | ⟨front, back, htext, -⟩)
    · exact ⟨front, back, htext.symm⟩
    · exact ⟨front, back, htext.symm⟩

end RecordQuery.Text
