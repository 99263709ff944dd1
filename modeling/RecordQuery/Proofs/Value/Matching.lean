import RecordQuery.Value

/-!
# What operators test

Every operator is a test or the negation of one.  A test asks how two values are ordered, or how the
lower-case form of one text lies in that of another, and null passes no test against a value.

The twelve operators rest on three things: equality, the order of numbers and durations, and how the
lower-case form of one text lies in that of another.  Their laws relate these to each other.  A
value that has an order to another one equals it exactly if neither is less, so `<`, `=` and `>`
exclude each other, and one of them holds wherever there is an order at all.  NaN has no order and
is not equal to itself either, which is why `<=` is `<` or `=` for it too.  Texts have no order, but
those that start or end with another one contain it, and two texts that contain each other are
equal.
-/

namespace RecordQuery

/-! ## Texts in texts -/

theorem occursIn_iff (part text : List Char) : occursIn part text = true ↔ part <:+: text := by
  induction text with
  | nil => simp [occursIn, List.isEmpty_iff]
  | cons c text ih =>
      rw [occursIn, Bool.or_eq_true, List.isPrefixOf_iff_prefix, ih, List.infix_cons_iff]

/-! ## Values of a class -/

namespace Value

theorem isNull_of_typeClass? {v : Value} {cls : TypeClass} (h : v.typeClass? = some cls) :
    v.isNull = false := by
  cases v with
  | null => cases h
  | _ => rfl

/-- Two values of one class are of the same kind. -/
theorem sameClass_cases {v w : Value} {cls : TypeClass} (hv : v.typeClass? = some cls)
    (hw : w.typeClass? = some cls) :
    (∃ m n, v = integer m ∧ w = integer n) ∨ (∃ x y, v = float x ∧ w = float y) ∨
      (∃ d e, v = duration d ∧ w = duration e) ∨ (∃ s t, v = string s ∧ w = string t) ∨
      ∃ name other, v = variant name ∧ w = variant other := by
  rw [← hw] at hv
  cases v with
  | null => cases w <;> cases hv; cases hw
  | integer m => cases w <;> cases hv; exact .inl ⟨m, _, rfl, rfl⟩
  | float x => cases w <;> cases hv; exact .inr (.inl ⟨x, _, rfl, rfl⟩)
  | duration d => cases w <;> cases hv; exact .inr (.inr (.inl ⟨d, _, rfl, rfl⟩))
  | string s => cases w <;> cases hv; exact .inr (.inr (.inr (.inl ⟨s, _, rfl, rfl⟩)))
  | variant name => cases w <;> cases hv; exact .inr (.inr (.inr (.inr ⟨name, _, rfl, rfl⟩)))

section

variable {a b : Value}

/-! ## Order, equality and matches -/

/-- Only values of one class have an order, and that is a class of numbers or durations. -/
theorem class_of_order? {o : Ordering} (h : a.order? b = some o) :
    ∃ cls, a.typeClass? = some cls ∧ b.typeClass? = some cls ∧ cls.isOrderable = true := by
  cases a with
  | integer m =>
      cases b with
      | integer n => exact ⟨.int, rfl, rfl, rfl⟩
      | _ => cases h
  | float x =>
      cases b with
      | float y => exact ⟨.float, rfl, rfl, rfl⟩
      | _ => cases h
  | duration d =>
      cases b with
      | duration e => exact ⟨.duration, rfl, rfl, rfl⟩
      | _ => cases h
  | _ => cases h

/-- **Two numbers or durations of one class are equal if neither is less**; NaN, which has no order,
equals nothing. -/
theorem looselyEqual_eq_order? {cls : TypeClass} (ha : a.typeClass? = some cls)
    (hb : b.typeClass? = some cls) (hcls : cls.isOrderable = true) :
    a.looselyEqual b = decide (a.order? b = some .eq) := by
  rcases sameClass_cases ha hb with ⟨m, n, rfl, rfl⟩ | ⟨x, y, rfl, rfl⟩ | ⟨d, e, rfl, rfl⟩ |
    ⟨s, t, rfl, rfl⟩ | ⟨name, other, rfl, rfl⟩
  · simp only [looselyEqual, order?, Option.some.injEq, Int.compare_eq_eq, Int64.toInt_inj]
  · show (x.compare? y == some .eq) = decide (x.compare? y = some .eq)
    rw [Bool.eq_iff_iff, beq_iff_eq, decide_eq_true_iff]
  · simp only [looselyEqual, order?, Option.some.injEq, Duration.compare_eq_eq]
  · cases ha
    cases hcls
  · cases ha
    cases hcls

/-- Where there is an order, equality is a matter of it. -/
theorem looselyEqual_of_order? {o : Ordering} (h : a.order? b = some o) :
    a.looselyEqual b = decide (o = .eq) := by
  obtain ⟨cls, ha, hb, hcls⟩ := class_of_order? h
  rw [looselyEqual_eq_order? ha hb hcls, h]
  simp only [Option.some.injEq]

/-- Only texts match, and they do so in lower case. -/
theorem textsMatch_iff {relation : List Char → List Char → Bool} :
    textsMatch relation a b = true ↔ ∃ s t, a = string s ∧ b = string t ∧
      relation (Text.lowerChars s.toList) (Text.lowerChars t.toList) = true := by
  constructor
  · intro h
    cases a with
    | string s =>
        cases b with
        | string t => exact ⟨s, t, rfl, rfl, h⟩
        | _ => cases h
    | _ => cases h
  · rintro ⟨s, t, rfl, rfl, h⟩
    exact h

/-! ## Unlike values -/

/-- One of two values is missing, or they are of different kinds. -/
def Unlike (a b : Value) : Prop :=
  a.isNull = true ∨ b.isNull = true ∨ a.typeClass? ≠ b.typeClass?

theorem not_unlike {cls : TypeClass} (ha : a.typeClass? = some cls) (hb : b.typeClass? = some cls) :
    ¬ a.Unlike b := by
  rintro (hnull | hnull | hclass)
  · rw [isNull_of_typeClass? ha] at hnull
    cases hnull
  · rw [isNull_of_typeClass? hb] at hnull
    cases hnull
  · exact hclass (ha.trans hb.symm)

theorem order?_of_unlike (h : a.Unlike b) : a.order? b = none := by
  cases horder : a.order? b with
  | none => rfl
  | some o =>
      obtain ⟨cls, ha, hb, -⟩ := class_of_order? horder
      exact absurd h (not_unlike ha hb)

theorem textsMatch_of_unlike (relation : List Char → List Char → Bool) (h : a.Unlike b) :
    textsMatch relation a b = false := by
  rw [← Bool.not_eq_true]
  intro hmatch
  obtain ⟨s, t, rfl, rfl, -⟩ := textsMatch_iff.mp hmatch
  exact not_unlike rfl rfl h

end

end Value

/-! ## Positive forms -/

namespace Operator

/-- The operator that a negated one negates; any other operator is its own positive form. -/
def positive : Operator → Operator
  | notEqual => equal
  | notStartsWith => startsWith
  | notEndsWith => endsWith
  | notContains => contains
  | op => op

theorem isNegated_positive (op : Operator) : op.positive.isNegated = false := by
  cases op <;> rfl

theorem positive_of_not_isNegated {op : Operator} (hop : op.isNegated = false) :
    op.positive = op := by
  cases op with
  | notEqual => cases hop
  | notStartsWith => cases hop
  | notEndsWith => cases hop
  | notContains => cases hop
  | _ => rfl

theorem holds_of_isNegated {op : Operator} (hop : op.isNegated = true) (a b : Value) :
    op.holds a b = !op.positive.holds a b := by
  cases op with
  | notEqual => rfl
  | notStartsWith => rfl
  | notEndsWith => rfl
  | notContains => rfl
  | _ => cases hop

/-- No test holds of null on the left of a value. -/
theorem holds_null_left {op : Operator} (hop : op.isNegated = false) {v : Value}
    (hv : v.isNull = false) : op.holds .null v = false := by
  cases v with
  | null => cases hv
  | _ =>
      cases op with
      | notEqual => cases hop
      | notStartsWith => cases hop
      | notEndsWith => cases hop
      | notContains => cases hop
      | _ => rfl

/-- **No test but that of equality holds of unlike values.** -/
theorem holds_of_unlike {op : Operator} (hop : op.isNegated = false) (hequal : op ≠ equal)
    {a b : Value} (h : a.Unlike b) : op.holds a b = false := by
  have horder := Value.order?_of_unlike h
  have hmatch (relation : List Char → List Char → Bool) := Value.textsMatch_of_unlike relation h
  cases op with
  | equal => exact absurd rfl hequal
  | startsWith => simp only [holds, Value.startsWith, hmatch]
  | endsWith => simp only [holds, Value.endsWith, hmatch]
  | contains => simp only [holds, Value.contains, hmatch]
  | notEqual => cases hop
  | notStartsWith => cases hop
  | notEndsWith => cases hop
  | notContains => cases hop
  | _ => simp [holds, horder]

/-- A class accepts an operator with its positive form. -/
theorem supports_positive (cls : TypeClass) (op : Operator) :
    cls.supports op.positive = cls.supports op := by
  cases op <;> rfl

/-- The only test of an enum is that of equality. -/
theorem eq_equal_of_supports_enum {op : Operator} :
    op.isNegated = false → TypeClass.enum.supports op = true → op = equal := by
  cases op <;> decide

/-- The tests of a text. -/
theorem string_test_cases {op : Operator} :
    op.isNegated = false → TypeClass.string.supports op = true →
      op = equal ∨ op = startsWith ∨ op = endsWith ∨ op = contains := by
  cases op <;> decide

end Operator

namespace Value

variable {a b c : Value}

/-! ## Values that have an order -/

/-- Two whole numbers, two durations or two numbers of which none is NaN. -/
def Ordered : Value → Value → Prop
  | integer _, integer _ => True
  | float x, float y => x.isNaN = false ∧ y.isNaN = false
  | duration _, duration _ => True
  | _, _ => False

theorem Ordered.exists_order? (h : a.Ordered b) : ∃ o, a.order? b = some o := by
  unfold Ordered at h
  split at h
  · exact ⟨_, rfl⟩
  · rename_i x y
    have hsome : x.compare? y ≠ none := by
      rw [ne_eq, Binary64.compare?_eq_none_iff, h.1, h.2]
      decide
    exact Option.ne_none_iff_exists'.mp hsome
  · exact ⟨_, rfl⟩
  · exact h.elim

/-- **Values that change places change their order.** -/
theorem order?_swap (a b : Value) : b.order? a = (a.order? b).map Ordering.swap := by
  cases a with
  | integer m =>
      cases b with
      | integer n => exact congrArg some Std.OrientedCmp.eq_swap
      | _ => rfl
  | float x =>
      cases b with
      | float y =>
          simp only [order?, Binary64.compare?, Bool.or_comm y.isNaN]
          split
          · rfl
          · exact congrArg some Std.OrientedCmp.eq_swap
      | _ => rfl
  | duration d =>
      cases b with
      | duration e => exact congrArg some (Nat.compare_swap d.totalNanos e.totalNanos).symm
      | _ => rfl
  | _ => cases b <;> rfl

theorem order?_eq_some_iff (a b : Value) (o : Ordering) :
    a.order? b = some o ↔ b.order? a = some o.swap := by
  rw [order?_swap a b, Option.map_eq_some_iff]
  constructor
  · intro h
    exact ⟨o, h, rfl⟩
  · rintro ⟨o', h, heq⟩
    rw [h, Ordering.swap_inj.mp heq]

/-! ## Prefixes, suffixes and parts -/

theorem looselyEqual_string_iff {s t : String} :
    (string s).looselyEqual (string t) = true ↔
      Text.lowerChars s.toList = Text.lowerChars t.toList := by
  show sameText s t = true ↔ _
  rw [Value.sameText_iff, Text.lower, Text.lower, String.ofList_inj]

theorem startsWith_iff : a.startsWith b = true ↔ ∃ s t, a = string s ∧ b = string t ∧
    Text.lowerChars t.toList <+: Text.lowerChars s.toList := by
  simp only [startsWith, textsMatch_iff, List.isPrefixOf_iff_prefix]

theorem endsWith_iff : a.endsWith b = true ↔ ∃ s t, a = string s ∧ b = string t ∧
    Text.lowerChars t.toList <:+ Text.lowerChars s.toList := by
  simp only [endsWith, textsMatch_iff, List.isSuffixOf_iff_suffix]

theorem contains_iff : a.contains b = true ↔ ∃ s t, a = string s ∧ b = string t ∧
    Text.lowerChars t.toList <:+: Text.lowerChars s.toList := by
  simp only [contains, textsMatch_iff, occursIn_iff]

theorem contains_of_startsWith (h : a.startsWith b = true) : a.contains b = true := by
  obtain ⟨s, t, hs, ht, hprefix⟩ := startsWith_iff.mp h
  exact contains_iff.mpr ⟨s, t, hs, ht, hprefix.isInfix⟩

theorem contains_of_endsWith (h : a.endsWith b = true) : a.contains b = true := by
  obtain ⟨s, t, hs, ht, hsuffix⟩ := endsWith_iff.mp h
  exact contains_iff.mpr ⟨s, t, hs, ht, hsuffix.isInfix⟩

/-- A match by a transitive relation goes through the text in the middle. -/
theorem textsMatch_trans {relation : List Char → List Char → Bool}
    (hrelation : ∀ u v w, relation u v = true → relation v w = true → relation u w = true)
    (hab : textsMatch relation a b = true) (hbc : textsMatch relation b c = true) :
    textsMatch relation a c = true := by
  obtain ⟨s, t, rfl, rfl, hst⟩ := textsMatch_iff.mp hab
  obtain ⟨_, u, heq, rfl, htu⟩ := textsMatch_iff.mp hbc
  cases heq
  exact hrelation _ _ _ hst htu

theorem startsWith_trans (hab : a.startsWith b = true) (hbc : b.startsWith c = true) :
    a.startsWith c = true := by
  refine textsMatch_trans ?_ hab hbc
  simp only [List.isPrefixOf_iff_prefix]
  exact fun u v w huv hvw => hvw.trans huv

theorem endsWith_trans (hab : a.endsWith b = true) (hbc : b.endsWith c = true) :
    a.endsWith c = true := by
  refine textsMatch_trans ?_ hab hbc
  simp only [List.isSuffixOf_iff_suffix]
  exact fun u v w huv hvw => hvw.trans huv

theorem contains_trans (hab : a.contains b = true) (hbc : b.contains c = true) :
    a.contains c = true := by
  refine textsMatch_trans ?_ hab hbc
  simp only [occursIn_iff]
  exact fun u v w huv hvw => hvw.trans huv

/-- Two texts that contain each other have lower-case forms of one length, and so the same one. -/
theorem looselyEqual_of_contains (hab : a.contains b = true) (hba : b.contains a = true) :
    a.looselyEqual b = true := by
  obtain ⟨s, t, rfl, rfl, hinfix⟩ := contains_iff.mp hab
  obtain ⟨_, _, heq, heq', hinfix'⟩ := contains_iff.mp hba
  cases heq
  cases heq'
  exact looselyEqual_string_iff.mpr (hinfix'.eq_of_length_le hinfix.length_le)

end Value

/-! ## The laws -/

namespace Operator

open Value

/-- The laws that make tests of values one algebra. -/
structure Lawful (holds : Operator → Value → Value → Bool) : Prop where
  lessThan_swap : ∀ a b, holds lessThan a b = holds greaterThan b a
  lessEqual_swap : ∀ a b, holds lessEqual a b = holds greaterEqual b a
  at_most_one : ∀ a b, [lessThan, equal, greaterThan].countP (holds · a b) ≤ 1
  exactly_one : ∀ a b, a.Ordered b → [lessThan, equal, greaterThan].countP (holds · a b) = 1
  /-- In a class that is ordered `<=` is `<` or `=`. -/
  lessEqual_eq : ∀ cls : TypeClass, cls.isOrderable = true →
    ∀ a b, a.typeClass? = some cls → b.typeClass? = some cls →
      holds lessEqual a b = (holds lessThan a b || holds equal a b)
  negated : ∀ op, op.isNegated = true → ∀ a b, holds op a b = !holds op.positive a b
  /-- No ordering and no positive match holds of values that are missing or of two kinds. -/
  unlike : ∀ op, op.isOrdering = true ∨ op.isStringMatch = true ∧ op.isNegated = false →
    ∀ a b, a.Unlike b → holds op a b = false
  startsWith_of_equal : ∀ s t, holds equal (string s) (string t) = true →
    holds startsWith (string s) (string t) = true
  endsWith_of_equal : ∀ s t, holds equal (string s) (string t) = true →
    holds endsWith (string s) (string t) = true
  contains_of_startsWith : ∀ a b, holds startsWith a b = true → holds contains a b = true
  contains_of_endsWith : ∀ a b, holds endsWith a b = true → holds contains a b = true
  match_refl : ∀ op, op.isStringMatch = true → op.isNegated = false →
    ∀ s, holds op (string s) (string s) = true
  match_trans : ∀ op, op.isStringMatch = true → op.isNegated = false →
    ∀ a b c, holds op a b = true → holds op b c = true → holds op a c = true
  equal_of_contains : ∀ a b, holds contains a b = true → holds contains b a = true →
    holds equal a b = true

variable {a b c : Value} {op : Operator}

/-- Where there is an order, it decides which of `<`, `=` and `>` holds. -/
theorem countP_of_order? {o : Ordering} (h : a.order? b = some o) :
    [lessThan, equal, greaterThan].countP (fun op => op.holds a b) = 1 := by
  have hequal : equal.holds a b = decide (o = .eq) := looselyEqual_of_order? h
  have hless : lessThan.holds a b = decide (o = .lt) := by simp [holds, h]
  have hgreater : greaterThan.holds a b = decide (o = .gt) := by simp [holds, h]
  simp only [List.countP_cons, List.countP_nil, hequal, hless, hgreater]
  cases o <;> rfl

/-- Where there is no order, `=` may hold but neither `<` nor `>`. -/
theorem countP_of_order?_none (h : a.order? b = none) :
    [lessThan, equal, greaterThan].countP (fun op => op.holds a b) ≤ 1 := by
  have hless : lessThan.holds a b = false := by simp [holds, h]
  have hgreater : greaterThan.holds a b = false := by simp [holds, h]
  simp only [List.countP_cons, List.countP_nil, hless, hgreater]
  cases equal.holds a b <;> decide

theorem match_cases : op.isStringMatch = true → op.isNegated = false →
    op = startsWith ∨ op = endsWith ∨ op = contains := by
  cases op <;> decide

theorem holds_self (hop : op.isStringMatch = true) (hpositive : op.isNegated = false) (s : String) :
    op.holds (string s) (string s) = true := by
  rcases match_cases hop hpositive with rfl | rfl | rfl
  · exact startsWith_iff.mpr ⟨s, s, rfl, rfl, List.prefix_rfl⟩
  · exact endsWith_iff.mpr ⟨s, s, rfl, rfl, List.suffix_rfl⟩
  · exact contains_iff.mpr ⟨s, s, rfl, rfl, List.infix_rfl⟩

theorem holds_trans (hop : op.isStringMatch = true) (hpositive : op.isNegated = false)
    (hab : op.holds a b = true) (hbc : op.holds b c = true) : op.holds a c = true := by
  rcases match_cases hop hpositive with rfl | rfl | rfl
  · exact startsWith_trans hab hbc
  · exact endsWith_trans hab hbc
  · exact contains_trans hab hbc

/-- **The operators obey the laws.** -/
theorem lawful_holds : Lawful holds where
  lessThan_swap a b := by
    simp only [holds, order?_eq_some_iff a b]
    rfl
  lessEqual_swap a b := by
    simp only [holds, order?_eq_some_iff a b]
    rfl
  at_most_one a b := by
    cases h : a.order? b with
    | none => exact countP_of_order?_none h
    | some o => exact Nat.le_of_eq (countP_of_order? h)
  exactly_one a b h := by
    obtain ⟨o, ho⟩ := h.exists_order?
    exact countP_of_order? ho
  lessEqual_eq cls hcls a b ha hb := by
    show _ = (_ || a.looselyEqual b)
    rw [looselyEqual_eq_order? ha hb hcls]
    rfl
  negated op hop a b := holds_of_isNegated hop a b
  unlike op hop a b h := by
    have hpositive : op.isNegated = false ∧ op ≠ equal := by
      revert hop
      cases op <;> decide
    exact holds_of_unlike hpositive.1 hpositive.2 h
  startsWith_of_equal s t h := by
    have hlower := looselyEqual_string_iff.mp h
    exact startsWith_iff.mpr ⟨s, t, rfl, rfl, hlower ▸ List.prefix_rfl⟩
  endsWith_of_equal s t h := by
    have hlower := looselyEqual_string_iff.mp h
    exact endsWith_iff.mpr ⟨s, t, rfl, rfl, hlower ▸ List.suffix_rfl⟩
  contains_of_startsWith a b h := Value.contains_of_startsWith h
  contains_of_endsWith a b h := Value.contains_of_endsWith h
  match_refl op hop hpositive s := holds_self hop hpositive s
  match_trans op hop hpositive a b c hab hbc := holds_trans hop hpositive hab hbc
  equal_of_contains a b hab hba := looselyEqual_of_contains hab hba

/-- The zeros are equal, and NaN is neither less than itself nor equal to itself nor greater. -/
example : equal.holds (.float .zero) (.float (.ofMagnitude true 0)) = true ∧
    [lessThan, equal, greaterThan].countP
      (fun op => op.holds (.float (.nan false)) (.float (.nan false))) = 0 := by
  decide

end Operator

end RecordQuery
