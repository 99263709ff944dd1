import RecordQuery.Proofs.Binary64.Nearest
import RecordQuery.Proofs.Sql.Text
import RecordQuery.Proofs.Value.Matching

/-!
# Comparisons with literals in SQL

A test of a column against a literal is unknown where the column is missing and else comes out as
the operator does on the values.  The negation of a test also holds where the column is missing,
which is what a negated operator asks for, so that both languages accept the same values.
-/

namespace RecordQuery

open Sql

variable {ρ : Type} {engine : Engine} {row : Row} {f : Field ρ} {op : Operator}

/-! ## Tests by order -/

/-- The relation that a test by equality or order asks for. -/
def Operator.relation? : Operator → Option Relation
  | equal => some .eq
  | lessThan => some .lt
  | lessEqual => some .le
  | greaterThan => some .gt
  | greaterEqual => some .ge
  | _ => none

theorem exists_relation {cls : TypeClass} (hcls : cls.isStringMatchable = false)
    (hop : op.isNegated = false) (hsupports : cls.supports op = true) :
    ∃ r, op.relation? = some r := by
  unfold TypeClass.supports at hsupports
  cases op with
  | equal => exact ⟨.eq, rfl⟩
  | lessThan => exact ⟨.lt, rfl⟩
  | lessEqual => exact ⟨.le, rfl⟩
  | greaterThan => exact ⟨.gt, rfl⟩
  | greaterEqual => exact ⟨.ge, rfl⟩
  | notEqual => cases hop
  | notStartsWith => cases hop
  | notEndsWith => cases hop
  | notContains => cases hop
  | _ => simp [Operator.isOrdering, Operator.isStringMatch, hcls] at hsupports

theorem literalCondition_of_relation {r : Relation} (hop : op.relation? = some r) {v : Value}
    (hv : v.isNull = false) :
    literalCondition f op v = .compare r (f.comparedColumn f.typeClass) v.scalar := by
  cases op <;> cases hop <;> simp [literalCondition, hv]

/-- A test by order holds of two ordered values if their order is one that it admits. -/
theorem holds_of_relation {r : Relation} (hop : op.relation? = some r) {a b : Value} {o : Ordering}
    (horder : a.order? b = some o) : op.holds a b = r.admits o := by
  have hequal := Value.looselyEqual_of_order? horder
  cases op <;> cases hop <;> simp only [Operator.holds, Relation.admits, horder, hequal] <;>
    cases o <;> rfl

theorem truth_integer {m n : Int64} (hclass : f.typeClass = .int) (hop : op.isNegated = false)
    (hsupports : f.supports op = true) (hengine : engine.Standard)
    (hrow : row f.name = .integer m.toInt) :
    (literalCondition f op (.integer n)).truth engine row =
      .ofBool (op.holds (.integer m) (.integer n)) := by
  rw [Field.supports, hclass] at hsupports
  obtain ⟨r, hr⟩ := exists_relation rfl hop hsupports
  rw [literalCondition_of_relation hr rfl, holds_of_relation hr rfl]
  simp only [Condition.truth, Field.comparedColumn, hclass, reduceCtorEq, if_false, Field.column,
    Scalar.datum, Value.scalar, hrow, compareData, hengine.related_integer]

/-- Finite numbers are ordered by their places. -/
theorem float_order {x y : Binary64} (hx : x.isFinite = true) (hy : y.isFinite = true) :
    x.compare? y = some (compare x.place y.place) := by
  have hnan {z : Binary64} (hz : z.isFinite = true) : z.isNaN = false := by
    simp only [Binary64.isFinite, Binary64.isNaN, decide_eq_true_eq, decide_eq_false_iff_not]
      at hz ⊢
    omega
  simp [Binary64.compare?, hnan hx, hnan hy]

theorem truth_float {x y : Binary64} (hx : x.isFinite = true) (hy : y.isFinite = true)
    (hclass : f.typeClass = .float) (hop : op.isNegated = false) (hsupports : f.supports op = true)
    (hengine : engine.Standard) (hrow : row f.name = .double x) :
    (literalCondition f op (.float y)).truth engine row =
      .ofBool (op.holds (.float x) (.float y)) := by
  rw [Field.supports, hclass] at hsupports
  obtain ⟨r, hr⟩ := exists_relation rfl hop hsupports
  have horder : (Value.float x).order? (.float y) = some (compare x.place y.place) :=
    float_order hx hy
  rw [literalCondition_of_relation hr rfl, holds_of_relation hr horder]
  simp only [Condition.truth, Field.comparedColumn, hclass, reduceCtorEq, if_false, Field.column,
    Scalar.datum, Value.scalar, hrow, compareData, hengine.related_double r x y hx hy,
    Binary64.compare_units]

/-! ## Tests of texts -/

theorem toList_lower (s : String) : (Text.lower s).toList = Text.lowerChars s.toList :=
  String.toList_ofList

/-- A text has the form of the start pattern of a literal if it starts with its lower-case form. -/
theorem likeMatches_startPattern_iff (t x : String) :
    LikeMatches (startPattern t).toList x.toList ↔ (Text.lower t).toList <+: x.toList := by
  rw [startPattern, String.toList_ofList, toList_lower]
  exact likeMatches_start_iff _ _

/-- A text has the form of the end pattern of a literal if it ends with its lower-case form. -/
theorem likeMatches_endPattern_iff (t x : String) :
    LikeMatches (endPattern t).toList x.toList ↔ (Text.lower t).toList <:+ x.toList := by
  rw [endPattern, String.toList_ofList, toList_lower]
  exact likeMatches_end_iff _ _

/-- A text has the form of the part pattern of a literal if it contains its lower-case form. -/
theorem likeMatches_partPattern_iff (t x : String) :
    LikeMatches (partPattern t).toList x.toList ↔ (Text.lower t).toList <:+: x.toList := by
  rw [partPattern, String.toList_ofList, toList_lower]
  exact likeMatches_part_iff _ _

theorem escapesComplete_startPattern (t : String) : EscapesComplete (startPattern t).toList := by
  rw [startPattern, String.toList_ofList]
  exact escapesComplete_append _ (escapesComplete_percent .nil)

theorem escapesComplete_endPattern (t : String) : EscapesComplete (endPattern t).toList := by
  rw [endPattern, String.toList_ofList, ← List.append_nil (patternChars t)]
  exact escapesComplete_percent (escapesComplete_append _ .nil)

theorem escapesComplete_partPattern (t : String) : EscapesComplete (partPattern t).toList := by
  rw [partPattern, String.toList_ofList, List.cons_append]
  exact escapesComplete_percent (escapesComplete_append _ (escapesComplete_percent .nil))

/-- **The patterns of a literal match what they are meant to.**  The texts that have the form of one
of them are those that start with, end with or contain the lower-case form of the literal, whatever
percent signs, underscores and backslashes stand in it, and no backslash is left without a character
behind it. -/
theorem likePatterns_exact (t x : String) :
    (LikeMatches (startPattern t).toList x.toList ↔ (Text.lower t).toList <+: x.toList) ∧
    (LikeMatches (endPattern t).toList x.toList ↔ (Text.lower t).toList <:+ x.toList) ∧
    (LikeMatches (partPattern t).toList x.toList ↔ (Text.lower t).toList <:+: x.toList) ∧
    EscapesComplete (startPattern t).toList ∧ EscapesComplete (endPattern t).toList ∧
    EscapesComplete (partPattern t).toList :=
  ⟨likeMatches_startPattern_iff t x, likeMatches_endPattern_iff t x,
    likeMatches_partPattern_iff t x, escapesComplete_startPattern t, escapesComplete_endPattern t,
    escapesComplete_partPattern t⟩

/-- The wildcards of a literal stand for themselves. -/
example : startPattern "50%_X" = "50\\%\\_x%" := by
  decide

/-- A pattern whose escapes are complete is matched as its form says. -/
theorem like_eq {s pattern : String} (hengine : engine.Standard)
    (hcomplete : EscapesComplete pattern.toList) {matched : Bool}
    (hmatched : LikeMatches pattern.toList s.toList ↔ matched = true) :
    engine.like s pattern = matched := by
  have hlike := hengine.like_iff s pattern hcomplete
  rw [hmatched] at hlike
  exact Bool.eq_iff_iff.mpr hlike

theorem like_startPattern (hengine : engine.Standard) (s t : String) :
    engine.like (Text.lower s) (startPattern t) = (Value.string s).startsWith (.string t) := by
  apply like_eq hengine (escapesComplete_startPattern t)
  rw [likeMatches_startPattern_iff, toList_lower, toList_lower]
  exact List.isPrefixOf_iff_prefix.symm

theorem like_endPattern (hengine : engine.Standard) (s t : String) :
    engine.like (Text.lower s) (endPattern t) = (Value.string s).endsWith (.string t) := by
  apply like_eq hengine (escapesComplete_endPattern t)
  rw [likeMatches_endPattern_iff, toList_lower, toList_lower]
  exact List.isSuffixOf_iff_suffix.symm

theorem like_partPattern (hengine : engine.Standard) (s t : String) :
    engine.like (Text.lower s) (partPattern t) = (Value.string s).contains (.string t) := by
  apply like_eq hengine (escapesComplete_partPattern t)
  rw [likeMatches_partPattern_iff, toList_lower, toList_lower]
  exact (occursIn_iff _ _).symm

theorem truth_string {s t : String} (hclass : f.typeClass = .string) (hop : op.isNegated = false)
    (hsupports : f.supports op = true) (hengine : engine.Standard)
    (hrow : row f.name = .text s) :
    (literalCondition f op (.string t)).truth engine row =
      .ofBool (op.holds (.string s) (.string t)) := by
  have hlower : (f.comparedColumn f.typeClass).datum engine row = .text (Text.lower s) := by
    simp [Field.comparedColumn, hclass, Scalar.datum, Field.column, hrow, hengine.lower_eq]
  rw [Field.supports, hclass] at hsupports
  rcases Operator.string_test_cases hop hsupports with rfl | rfl | rfl | rfl
  · simp only [literalCondition, Value.isNull, Bool.false_eq_true, if_false, Condition.truth,
      hlower, Value.scalar, Scalar.datum, compareData, hengine.related_text]
    rfl
  · simp only [literalCondition, Value.isNull, Bool.false_eq_true, if_false, Condition.truth,
      hlower, Value.patternText, like_startPattern hengine]
    rfl
  · simp only [literalCondition, Value.isNull, Bool.false_eq_true, if_false, Condition.truth,
      hlower, Value.patternText, like_endPattern hengine]
    rfl
  · simp only [literalCondition, Value.isNull, Bool.false_eq_true, if_false, Condition.truth,
      hlower, Value.patternText, like_partPattern hengine]
    rfl

/-- An enum is only tested for equality, and exactly so in the database; that is the same if names
differ only in case where they differ at all. -/
theorem truth_variant {name declared : String} (hclass : f.typeClass = .enum)
    (hop : op.isNegated = false) (hsupports : f.supports op = true) (hengine : engine.Standard)
    (hrow : row f.name = .text name)
    (hspelling : Value.sameText name declared = true ↔ name = declared) :
    (literalCondition f op (.variant declared)).truth engine row =
      .ofBool (op.holds (.variant name) (.variant declared)) := by
  have hsame : decide (name = declared) = Value.sameText name declared := by
    rw [Bool.eq_iff_iff, decide_eq_true_iff, hspelling]
  rw [Field.supports, hclass] at hsupports
  obtain rfl : op = .equal := Operator.eq_equal_of_supports_enum hop hsupports
  simp only [literalCondition, Value.isNull, Bool.false_eq_true, if_false, Condition.truth,
    Field.comparedColumn, hclass, reduceCtorEq, Field.column, Value.scalar, Scalar.datum, hrow,
    compareData, hengine.related_text, hsame]
  rfl

/-! ## Missing values and negations -/

theorem datum_comparedColumn_null (engine : Engine) (hrow : row f.name = .null)
    (cls : TypeClass) : (f.comparedColumn cls).datum engine row = .null := by
  unfold Field.comparedColumn
  split <;> simp [Scalar.datum, Field.column, hrow]

/-- Whether a column is missing is always known. -/
theorem truth_isNull {v : Value} (hrow : row f.name = Datum.ofValue v) :
    (Condition.isNull f.column).truth engine row = .ofBool v.isNull := by
  have hmissing : decide (row f.name = .null) = v.isNull := by
    rw [hrow, Bool.eq_iff_iff, decide_eq_true_iff, Datum.ofValue_eq_null_iff]
  rw [← hmissing]
  rfl

/-- A test of a missing value is unknown. -/
theorem truth_null {v : Value} (hop : op.isNegated = false) (hv : v.isNull = false)
    (hrow : row f.name = .null) : (literalCondition f op v).truth engine row = .unknown := by
  have hcolumn := datum_comparedColumn_null engine hrow f.typeClass
  cases op with
  | notEqual => cases hop
  | notStartsWith => cases hop
  | notEndsWith => cases hop
  | notContains => cases hop
  | _ =>
      simp only [literalCondition, hv, Bool.false_eq_true, if_false, Condition.truth, hcolumn,
        compareData]

/-- A negated comparison negates its test, unless the value is missing. -/
theorem literalCondition_of_isNegated {v : Value} (hop : op.isNegated = true)
    (hv : v.isNull = false) :
    literalCondition f op v = .or (.not (literalCondition f op.positive v)) (.isNull f.column) := by
  cases op with
  | notEqual => simp [literalCondition, hv, Operator.positive]
  | notStartsWith => simp [literalCondition, hv, Operator.positive]
  | notEndsWith => simp [literalCondition, hv, Operator.positive]
  | notContains => simp [literalCondition, hv, Operator.positive]
  | _ => cases hop

/-- What a test has to come out as for its comparison to mean what the operator does: unknown for a
missing value, and the outcome of the test for any other. -/
def TestAgrees (engine : Engine) (row : Row) (f : Field ρ) (op : Operator) (a v : Value) : Prop :=
  (literalCondition f op v).truth engine row =
    if a.isNull then .unknown else .ofBool (op.holds a v)

/-- **A comparison with a literal is true exactly if its operator holds**, provided that its test
comes out as it has to. -/
theorem truth_literal_iff {a v : Value} (hv : v.isNull = false)
    (hrow : row f.name = Datum.ofValue a) (htest : TestAgrees engine row f op.positive a v) :
    (literalCondition f op v).truth engine row = .yes ↔ op.holds a v = true := by
  unfold TestAgrees at htest
  have hmissing : (f.column.datum engine row = .null) ↔ a.isNull = true := by
    rw [Field.column, Scalar.datum, hrow]
    cases a <;> simp [Datum.ofValue, Value.isNull]
  cases hop : op.isNegated with
  | false =>
      rw [Operator.positive_of_not_isNegated hop] at htest
      rw [htest]
      cases a with
      | null => simp [Value.isNull, Operator.holds_null_left hop hv]
      | _ => simp [Value.isNull]
  | true =>
      have hnull := Operator.holds_null_left (Operator.isNegated_positive op) hv
      rw [literalCondition_of_isNegated hop hv, Operator.holds_of_isNegated hop, Condition.truth,
        Condition.truth, Condition.truth, htest]
      cases a with
      | null => simp [Value.isNull, hmissing, Truth.ofBool, hnull]
      | _ => simp [Value.isNull, hmissing, Truth.or_eq_yes]

end RecordQuery
