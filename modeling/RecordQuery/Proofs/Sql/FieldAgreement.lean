import RecordQuery.Proofs.Config.Fields
import RecordQuery.Proofs.Query.Soundness
import RecordQuery.Proofs.Sql.Literals
import RecordQuery.Proofs.Sql.Text
import RecordQuery.Proofs.Text.Lower
import RecordQuery.Query.Basic

/-!
# Comparisons between fields in SQL

A comparison of two fields has a form of its own for every operator, and each of them takes missing
values in its own way.  Between two numbers it is true exactly if the operator holds, and so it is
between two texts and between two names of enums, with two exceptions in which the operator holds
only because case is folded.  The names of enums are compared as they are, although the operator
does not regard their case.  And of a text that is looked for at the end of another one the
characters are counted before it is lowered, although its lower-case form may be longer.

Tests of two values come first and tests of a missing value second; the comparison of two fields is
put together from both.
-/

namespace RecordQuery

open Sql

section

variable {ρ : Type} {engine : Engine} {row : Row} {f g : Field ρ} {op : Operator}

/-- A test that is not negated holds of two values only because it folds case where the condition
does not: the names of two enums differ in case alone, or a text ends with another one whose
lower-case form is longer than itself. -/
def Operator.FoldingMissed (op : Operator) : Value → Value → Prop
  | .variant name, .variant other =>
    op = equal ∧ name ≠ other ∧ Value.sameText name other = true
  | .string s, .string t =>
    op = endsWith ∧ '\u0130' ∈ t.toList ∧ (Value.string s).endsWith (.string t) = true
  | _, _ => False

/-- Where case is missed the operator holds. -/
theorem Operator.FoldingMissed.holds {a b : Value} (h : op.FoldingMissed a b) :
    op.holds a b = true := by
  unfold Operator.FoldingMissed at h
  split at h
  · obtain ⟨rfl, -, hsame⟩ := h
    exact hsame
  · obtain ⟨rfl, -, hends⟩ := h
    exact hends
  · exact h.elim

/-- How a test of two fields comes out that hold two values: true if its operator holds and no case
is missed, and unknown only if a value is missing. -/
structure FieldTestAgrees (engine : Engine) (row : Row) (f g : Field ρ) (op : Operator)
    (a b : Value) : Prop where
  yes_iff : (fieldCondition f op g).truth engine row = .yes ↔
    op.holds a b = true ∧ ¬ op.FoldingMissed a b
  known : a.isNull = false → b.isNull = false →
    (fieldCondition f op g).truth engine row ≠ .unknown

/-! ## Tests of two values -/

/-- A test by equality or order relates the two columns as they are compared. -/
theorem truth_of_relation {r : Relation} (hop : op.relation? = some r) {d e : Datum}
    (hleft : (f.comparedColumn f.typeClass).datum engine row = d)
    (hright : (g.comparedColumn f.typeClass).datum engine row = e)
    (hd : d ≠ .null) (he : e ≠ .null) :
    (fieldCondition f op g).truth engine row = .ofBool (engine.related r d e) := by
  cases op <;> cases hop <;>
    simp only [fieldCondition, Condition.truth, hleft, hright, compareData_present hd he,
      sameData_present hd he]

/-- Columns that hold no text are compared as they are. -/
theorem datum_comparedColumn {cls : TypeClass} (hcls : cls ≠ .string) (f : Field ρ) :
    (f.comparedColumn cls).datum engine row = row f.name := by
  rw [Field.comparedColumn, if_neg hcls]
  rfl

/-- Columns of texts are compared in lower case. -/
theorem datum_comparedColumn_string (hengine : engine.Standard) {s : String}
    (hrow : row f.name = .text s) :
    (f.comparedColumn .string).datum engine row = .text (Text.lower s) := by
  simp only [Field.comparedColumn, if_true, Scalar.datum, Field.column, hrow, hengine.lower_eq]

theorem FieldTestAgrees.of_ofBool {a b : Value} {answer : Bool}
    (htruth : (fieldCondition f op g).truth engine row = .ofBool answer)
    (hanswer : answer = true ↔ op.holds a b = true ∧ ¬ op.FoldingMissed a b) :
    FieldTestAgrees engine row f g op a b where
  yes_iff := by rw [htruth, Truth.ofBool_eq_yes, hanswer]
  known _ _ := by
    rw [htruth]
    exact Truth.ofBool_ne_unknown answer

/-- Columns that hold no texts are related as they are. -/
theorem truth_of_relation_columns {r : Relation} (hop : op.relation? = some r)
    (hnot : f.typeClass ≠ .string) (hd : row f.name ≠ .null) (he : row g.name ≠ .null) :
    (fieldCondition f op g).truth engine row =
      .ofBool (engine.related r (row f.name) (row g.name)) :=
  truth_of_relation hop (datum_comparedColumn hnot f) (datum_comparedColumn hnot g) hd he

theorem truth_present_integer {m n : Int64} (hclass : f.typeClass = .int)
    (hop : op.isNegated = false) (hsupports : f.supports op = true) (hengine : engine.Standard)
    (hrow : row f.name = .integer m.toInt) (hrow' : row g.name = .integer n.toInt) :
    FieldTestAgrees engine row f g op (.integer m) (.integer n) := by
  rw [Field.supports, hclass] at hsupports
  obtain ⟨r, hr⟩ := exists_relation rfl hop hsupports
  have hnot : f.typeClass ≠ .string := by simp [hclass]
  apply FieldTestAgrees.of_ofBool
    (truth_of_relation_columns hr hnot (by simp [hrow]) (by simp [hrow']))
  rw [hrow, hrow', hengine.related_integer, holds_of_relation hr rfl]
  simp [Operator.FoldingMissed]

theorem truth_present_variant {name other : String} (hclass : f.typeClass = .enum)
    (hop : op.isNegated = false) (hsupports : f.supports op = true) (hengine : engine.Standard)
    (hrow : row f.name = .text name) (hrow' : row g.name = .text other) :
    FieldTestAgrees engine row f g op (.variant name) (.variant other) := by
  have hnot : f.typeClass ≠ .string := by simp [hclass]
  rw [Field.supports, hclass] at hsupports
  obtain rfl : op = .equal := Operator.eq_equal_of_supports_enum hop hsupports
  have hrelation : Operator.equal.relation? = some .eq := rfl
  apply FieldTestAgrees.of_ofBool
    (truth_of_relation_columns hrelation hnot (by simp [hrow]) (by simp [hrow']))
  rw [hrow, hrow', hengine.related_text, decide_eq_true_iff]
  show name = other ↔ Value.sameText name other = true ∧ _
  constructor
  · intro heq
    subst heq
    simp [Value.sameText, Operator.FoldingMissed]
  · rintro ⟨hsame, hmissed⟩
    by_cases heq : name = other
    · exact heq
    · exact absurd ⟨rfl, heq, hsame⟩ hmissed

/-! ## Tests of texts -/

section

variable {a b : Scalar} {s t : String}

theorem truth_startsCondition (hengine : engine.Measures) (ha : a.datum engine row = .text s)
    (hb : b.datum engine row = .text t) :
    (startsCondition a b).truth engine row = .ofBool ((Value.string s).startsWith (.string t)) := by
  simp only [startsCondition, Condition.truth, Scalar.datum, ha, hb, compareData,
    hengine.lower_eq, hengine.related_start, toList_lower]
  rfl

theorem truth_partCondition (hengine : engine.Measures) (ha : a.datum engine row = .text s)
    (hb : b.datum engine row = .text t) :
    (partCondition a b).truth engine row = .ofBool ((Value.string s).contains (.string t)) := by
  simp only [partCondition, Condition.truth, Scalar.datum, ha, hb, compareData,
    hengine.lower_eq, hengine.related_part, toList_lower]
  rfl

/-- As many last characters as a text has are its lower-case form only if that is no longer. -/
theorem right_eq_lower_iff (hengine : engine.Measures) (s t : String) :
    engine.right (Text.lower s) (engine.length t) = Text.lower t ↔
      '\u0130' ∉ t.toList ∧ (Value.string s).endsWith (.string t) = true := by
  have hlength : (Text.lower t).toList.length = Text.lowerLength t.toList := by
    rw [toList_lower, Text.length_lowerChars]
  have hle : t.toList.length ≤ (Text.lower t).toList.length := by
    rw [hlength]
    exact Text.length_le_lowerLength t.toList
  rw [hengine.length_eq, hengine.right_eq_iff _ hle, hlength, eq_comm,
    Text.lowerLength_eq_length_iff, toList_lower, toList_lower, ← List.isSuffixOf_iff_suffix]
  rfl

theorem truth_endsCondition (hengine : engine.Measures) (ha : a.datum engine row = .text s)
    (hb : b.datum engine row = .text t) :
    (endsCondition a b).truth engine row = .ofBool (decide
      ('\u0130' ∉ t.toList ∧ (Value.string s).endsWith (.string t) = true)) := by
  simp only [endsCondition, Condition.truth, Scalar.datum, ha, hb, compareData, hengine.lower_eq,
    hengine.related_text, right_eq_lower_iff hengine]

end

theorem truth_present_string {s t : String} (hclass : f.typeClass = .string)
    (hop : op.isNegated = false) (hsupports : f.supports op = true) (hengine : engine.Measures)
    (hrow : row f.name = .text s) (hrow' : row g.name = .text t) :
    FieldTestAgrees engine row f g op (.string s) (.string t) := by
  have hcolumn : f.column.datum engine row = .text s := hrow
  have hcolumn' : g.column.datum engine row = .text t := hrow'
  rw [Field.supports, hclass] at hsupports
  rcases Operator.string_test_cases hop hsupports with rfl | rfl | rfl | rfl
  · have hleft := datum_comparedColumn_string hengine.toStandard hrow
    have hright := datum_comparedColumn_string hengine.toStandard hrow'
    rw [← hclass] at hleft hright
    have hrelation : Operator.equal.relation? = some .eq := rfl
    have htruth := truth_of_relation hrelation hleft hright (by simp) (by simp)
    apply FieldTestAgrees.of_ofBool htruth
    rw [hengine.related_text]
    simp [Operator.FoldingMissed, Operator.holds, Value.looselyEqual, Value.sameText]
  · apply FieldTestAgrees.of_ofBool (truth_startsCondition hengine hcolumn hcolumn')
    simp [Operator.FoldingMissed, Operator.holds]
  · apply FieldTestAgrees.of_ofBool (truth_endsCondition hengine hcolumn hcolumn')
    rw [decide_eq_true_iff]
    show _ ↔ (Value.string s).endsWith (.string t) = true ∧ _
    constructor
    · rintro ⟨habsent, hends⟩
      exact ⟨hends, fun hmissed => habsent hmissed.2.1⟩
    · rintro ⟨hends, hmissed⟩
      exact ⟨fun hpresent => hmissed ⟨rfl, hpresent, hends⟩, hends⟩
  · apply FieldTestAgrees.of_ofBool (truth_partCondition hengine hcolumn hcolumn')
    simp [Operator.FoldingMissed, Operator.holds]

/-! ## Missing values -/

theorem datum_lower_missing {a : Scalar} (h : a.datum engine row = .null) :
    (Scalar.lower a).datum engine row = .null := by
  simp only [Scalar.datum, h]

/-- A part has no place if it or the text is missing. -/
theorem datum_position_missing {a b : Scalar}
    (h : a.datum engine row = .null ∨ b.datum engine row = .null) :
    (Scalar.position (.lower a) (.lower b)).datum engine row = .null := by
  rcases h with h | h
  · rw [Scalar.datum, datum_lower_missing h]
  · rw [Scalar.datum, datum_lower_missing h]
    cases (Scalar.lower a).datum engine row <;> rfl

/-- There are no last characters to compare if the text or its ending is missing. -/
theorem datum_right_missing {a b : Scalar}
    (h : a.datum engine row = .null ∨ b.datum engine row = .null) :
    (Scalar.right (.lower a) (.length b)).datum engine row = .null ∨
      (Scalar.lower b).datum engine row = .null := by
  rcases h with h | h
  · left
    rw [Scalar.datum, datum_lower_missing h]
  · exact .inr (datum_lower_missing h)

/-- A column is missing as it is compared if its value is. -/
theorem datum_comparedColumn_eq_null_iff (engine : Engine) {cls : TypeClass} {v : Value}
    (hv : v.Fits cls) (hrow : row f.name = Datum.ofValue v) :
    (f.comparedColumn cls).datum engine row = .null ↔ v.isNull = true := by
  rcases hv with rfl | hclass
  · exact iff_of_true (datum_comparedColumn_null engine hrow cls) rfl
  · rw [Value.isNull_of_typeClass? hclass]
    apply iff_of_false _ Bool.false_ne_true
    by_cases hstring : cls = .string
    · subst hstring
      cases v <;> cases hclass
      simp [Field.comparedColumn, Scalar.datum, Field.column, hrow, Datum.ofValue]
    · rw [datum_comparedColumn hstring, hrow, Datum.ofValue_eq_null_iff,
        Value.isNull_of_typeClass? hclass]
      exact Bool.false_ne_true

section

variable {a b : Value}

theorem looselyEqual_missing (h : a.isNull = true ∨ b.isNull = true) :
    a.looselyEqual b = true ↔ a.isNull = true ∧ b.isNull = true := by
  cases a <;> cases b <;> simp_all [Value.isNull, Value.looselyEqual]

/-- No test but that of equality holds of a missing value. -/
theorem holds_missing (hop : op.isNegated = false) (hequal : op ≠ .equal)
    (h : a.isNull = true ∨ b.isNull = true) : op.holds a b = false :=
  Operator.holds_of_unlike hop hequal (h.imp_right .inl)

theorem Operator.FoldingMissed.present (h : op.FoldingMissed a b) :
    a.isNull = false ∧ b.isNull = false := by
  unfold Operator.FoldingMissed at h
  split at h
  · exact ⟨rfl, rfl⟩
  · exact ⟨rfl, rfl⟩
  · exact h.elim

/-- A test of a missing value is unknown, except that of equality. -/
theorem truth_fieldCondition_missing (hop : op.isNegated = false) (hequal : op ≠ .equal)
    (hrow : row f.name = Datum.ofValue a) (hrow' : row g.name = Datum.ofValue b)
    (h : a.isNull = true ∨ b.isNull = true) :
    (fieldCondition f op g).truth engine row = .unknown := by
  have hmissing : row f.name = .null ∨ row g.name = .null := by
    rwa [hrow, hrow', Datum.ofValue_eq_null_iff, Datum.ofValue_eq_null_iff]
  have hcompared : (f.comparedColumn f.typeClass).datum engine row = .null ∨
      (g.comparedColumn f.typeClass).datum engine row = .null :=
    hmissing.imp (datum_comparedColumn_null engine · f.typeClass)
      (datum_comparedColumn_null engine · f.typeClass)
  cases op with
  | equal => exact absurd rfl hequal
  | notEqual => cases hop
  | notStartsWith => cases hop
  | notEndsWith => cases hop
  | notContains => cases hop
  | startsWith => exact compareData_missing (.inl (datum_position_missing hmissing))
  | contains => exact compareData_missing (.inl (datum_position_missing hmissing))
  | endsWith => exact compareData_missing (datum_right_missing hmissing)
  | _ => exact compareData_missing hcompared

/-- Tests of a missing value: only equality has an answer, and that is about both. -/
theorem truth_missing (hop : op.isNegated = false) (ha : a.Fits f.typeClass)
    (hb : b.Fits f.typeClass) (hrow : row f.name = Datum.ofValue a)
    (hrow' : row g.name = Datum.ofValue b) (h : a.isNull = true ∨ b.isNull = true) :
    FieldTestAgrees engine row f g op a b where
  yes_iff := by
    have hfolds : ¬ op.FoldingMissed a b := by
      intro hmissed
      obtain ⟨hpresent, hpresent'⟩ := hmissed.present
      simp [hpresent, hpresent'] at h
    by_cases hequal : op = .equal
    · subst hequal
      have hleft := datum_comparedColumn_eq_null_iff engine ha hrow
      have hright := datum_comparedColumn_eq_null_iff engine hb hrow'
      have hsame := sameData_missing engine (h.imp hleft.mpr hright.mpr)
      rw [hleft, hright] at hsame
      simp only [fieldCondition, Condition.truth, Truth.ofBool_eq_yes, hsame, hfolds,
        not_false_eq_true, and_true]
      exact (looselyEqual_missing h).symm
    · rw [truth_fieldCondition_missing hop hequal hrow hrow' h, holds_missing hop hequal h]
      simp
  known hpresent hpresent' := by simp [hpresent, hpresent'] at h

end

/-! ## Both together -/

section

variable {a b : Value}

/-- **Tests of two fields** are true if their operator holds and no case is missed. -/
theorem fieldTestAgrees (hengine : engine.Measures)
    (hclass : f.typeClass = .int ∨ f.typeClass = .string ∨ f.typeClass = .enum)
    (hop : op.isNegated = false) (hsupports : f.supports op = true) (ha : a.Fits f.typeClass)
    (hb : b.Fits f.typeClass) (hrow : row f.name = Datum.ofValue a)
    (hrow' : row g.name = Datum.ofValue b) : FieldTestAgrees engine row f g op a b := by
  by_cases hmissing : a.isNull = true ∨ b.isNull = true
  · exact truth_missing hop ha hb hrow hrow' hmissing
  · have ha : a.typeClass? = some f.typeClass :=
      ha.resolve_left fun hnull => hmissing (.inl (by rw [hnull]; rfl))
    have hb : b.typeClass? = some f.typeClass :=
      hb.resolve_left fun hnull => hmissing (.inr (by rw [hnull]; rfl))
    rcases Value.sameClass_cases ha hb with ⟨m, n, rfl, rfl⟩ | ⟨x, y, rfl, rfl⟩ |
      ⟨d, e, rfl, rfl⟩ | ⟨s, t, rfl, rfl⟩ | ⟨name, other, rfl, rfl⟩
    · exact truth_present_integer (Option.some.inj ha).symm hop hsupports hengine.toStandard hrow
        hrow'
    · rw [← Option.some.inj ha] at hclass
      simp at hclass
    · rw [← Option.some.inj ha] at hclass
      simp at hclass
    · exact truth_present_string (Option.some.inj ha).symm hop hsupports hengine hrow hrow'
    · exact truth_present_variant (Option.some.inj ha).symm hop hsupports hengine.toStandard hrow
        hrow'

/-- The negation of a test of texts also holds where one of the two is missing. -/
theorem fieldCondition_negatedMatch (hop : op.isNegated = true) (hne : op ≠ .notEqual) :
    fieldCondition f op g =
      .or (.or (.not (fieldCondition f op.positive g)) (.isNull f.column)) (.isNull g.column) := by
  cases op with
  | notStartsWith => rfl
  | notEndsWith => rfl
  | notContains => rfl
  | notEqual => exact absurd rfl hne
  | _ => cases hop

/-- **A negated comparison of two fields** is true exactly where its positive form is not. -/
theorem truth_fieldCondition_negated (hop : op.isNegated = true)
    (hrow : row f.name = Datum.ofValue a) (hrow' : row g.name = Datum.ofValue b)
    (htest : FieldTestAgrees engine row f g op.positive a b) :
    (fieldCondition f op g).truth engine row = .yes ↔
      (fieldCondition f op.positive g).truth engine row ≠ .yes := by
  by_cases hne : op = .notEqual
  · subst hne
    simp only [fieldCondition, Operator.positive, Condition.truth]
    cases sameData engine _ _ <;> decide
  · have hpositive : op.positive.isNegated = false := Operator.isNegated_positive op
    have hequal : op.positive ≠ .equal := by
      cases op with
      | notEqual => exact absurd rfl hne
      | notStartsWith => decide
      | notEndsWith => decide
      | notContains => decide
      | _ => cases hop
    rw [fieldCondition_negatedMatch hop hne]
    show (((fieldCondition f op.positive g).truth engine row).not.or
      ((Condition.isNull f.column).truth engine row)).or
        ((Condition.isNull g.column).truth engine row) = .yes ↔ _
    rw [truth_isNull hrow, truth_isNull hrow']
    apply Truth.not_or_missing _ htest.known
    intro hyes
    have hholds : op.positive.holds a b = true := (htest.yes_iff.mp hyes).1
    rw [← Bool.not_eq_true, ← Bool.not_eq_true, ← not_or]
    intro hmissing
    rw [holds_missing hpositive hequal hmissing] at hholds
    cases hholds

/-- **A comparison of two fields is true exactly if its operator holds**, unless case is missed. -/
theorem truth_fieldCondition_iff (hrow : row f.name = Datum.ofValue a)
    (hrow' : row g.name = Datum.ofValue b)
    (htest : FieldTestAgrees engine row f g op.positive a b) :
    ((fieldCondition f op g).truth engine row = .yes ↔ op.holds a b = true) ↔
      ¬ op.positive.FoldingMissed a b := by
  have hholds : op.positive.FoldingMissed a b → op.positive.holds a b = true := fun h => h.holds
  cases hop : op.isNegated with
  | false =>
      rw [Operator.positive_of_not_isNegated hop] at htest hholds ⊢
      rw [htest.yes_iff]
      by_cases hmissed : op.FoldingMissed a b
      · simp [hmissed, hholds hmissed]
      · simp [hmissed]
  | true =>
      rw [truth_fieldCondition_negated hop hrow hrow' htest, ne_eq, htest.yes_iff,
        Operator.holds_of_isNegated hop]
      by_cases hmissed : op.positive.FoldingMissed a b
      · simp [hmissed, hholds hmissed]
      · simp [hmissed]

end

/-- **Comparisons of fields mean in SQL what they mean to a query, but for two cases.**  In a row
that holds what two fields of numbers, texts or enums read from a record, the condition of their
comparison is true if and only if the comparison accepts the record, unless the two values pass the
test of the operator, or of the one that it negates, only because case is folded: names of enums
that differ in case, or a text that ends with another one in which a capital I with a dot stands. -/
theorem truth_field_condition_iff {config : SchemaConfig} {schema : Schema Json} {record : Json}
    {text : String} {q : Query Json} {c : Comparison Json} {g : Field Json}
    (hengine : engine.Measures) (hbuild : config.build = .ok schema)
    (hparse : Query.parse schema text = .ok q) (hc : c ∈ q.groups.flatten)
    (hoperand : c.operand = .field g)
    (hclass : c.target.typeClass = .int ∨ c.target.typeClass = .string ∨
      c.target.typeClass = .enum)
    (hrow : row c.target.name = Datum.ofValue (c.target.read record))
    (hrow' : row g.name = Datum.ofValue (g.read record)) :
    (c.condition.truth engine row = .yes ↔ c.accepts record = true) ↔
      ¬ c.operator.positive.FoldingMissed (c.target.read record) (g.read record) := by
  have hc := ((Query.checked_of_parse hparse).comparisons c hc).wellTyped
  have hreads := SchemaConfig.readsTyped hbuild
  have htarget := hc.fits_target hreads record
  have hvalue := hc.fits_operand hreads record
  rw [hoperand, Operand.value] at hvalue
  have hsupports : c.target.supports c.operator.positive = true := by
    rw [Field.supports, Operator.supports_positive]
    exact hc.supports
  have htest := fieldTestAgrees hengine hclass (Operator.isNegated_positive c.operator) hsupports
    htarget hvalue hrow hrow'
  rw [Comparison.condition, Comparison.accepts, hoperand, Operand.value]
  exact truth_fieldCondition_iff hrow hrow' htest

end

/-! ## Releases -/

namespace Releases

def title : FieldConfig := ⟨"title", none, .string, [], true, true⟩

def ending : FieldConfig := ⟨"ending", none, .string, [], true, true⟩

def genre : FieldConfig := ⟨"genre", none, .enum, ["Jazz", "Rock"], true, true⟩

def style : FieldConfig := ⟨"style", none, .enum, ["Jazz", "Rock"], true, true⟩

def config : SchemaConfig := ⟨"release", none, [title, ending, genre, style]⟩

def schema : Schema Json :=
  ⟨"release", [title.field, ending.field, genre.field, style.field], none⟩

def endsSo : Comparison Json := ⟨title.field, .endsWith, .field ending.field⟩

def sameGenre : Comparison Json := ⟨genre.field, .equal, .field style.field⟩

def endsOtherwise : Comparison Json := ⟨title.field, .notEndsWith, .field ending.field⟩

def query : Query Json := ⟨[[endsSo, sameGenre], [endsOtherwise]], none⟩

/-- A text that is its own ending, and two spellings of a genre that is not declared. -/
def dotted : Json :=
  .object [("title", .string "\u0130"), ("ending", .string "\u0130"), ("genre", .string "blues"),
    ("style", .string "Blues")]

def untitled : Json := .object [("ending", .string "\u0130")]

def row (record : Json) (column : String) : Datum :=
  if column = "title" then Datum.ofValue (title.read record)
  else if column = "ending" then Datum.ofValue (ending.read record)
  else if column = "genre" then Datum.ofValue (genre.read record)
  else if column = "style" then Datum.ofValue (style.read record)
  else .null

theorem parse_text :
    Query.parse schema "title $ ending & genre = style, title !$ ending" = .ok query := by
  have htokens : Lexed.ofText "title $ ending & genre = style, title !$ ending" =
      ⟨[.word "title", .word "$", .word "ending", .word "&", .word "genre", .word "=",
        .word "style", .word ",", .word "title", .word "!$", .word "ending"], none⟩ := by
    cbv
  exact Query.parse_eq_ok_iff.mpr ⟨_, htokens, rfl⟩

end Releases

/-- A text does not end with itself, a text that does not end otherwise does, and two spellings of a
genre are not the same. -/
theorem truth_field_condition_releases :
    Releases.config.build = .ok Releases.schema ∧
    Query.parse Releases.schema "title $ ending & genre = style, title !$ ending" =
      .ok Releases.query ∧
    Engine.reference.Measures ∧
    (∀ f ∈ Releases.schema.fields,
      Releases.row Releases.dotted f.name = Datum.ofValue (f.read Releases.dotted)) ∧
    Releases.endsSo.accepts Releases.dotted = true ∧
    Releases.endsSo.condition.truth Engine.reference (Releases.row Releases.dotted) = .no ∧
    Releases.endsOtherwise.accepts Releases.dotted = false ∧
    Releases.endsOtherwise.condition.truth Engine.reference (Releases.row Releases.dotted) = .yes ∧
    Releases.sameGenre.accepts Releases.dotted = true ∧
    Releases.sameGenre.condition.truth Engine.reference (Releases.row Releases.dotted) = .no := by
  have hrow : ∀ f ∈ Releases.schema.fields,
      Releases.row Releases.dotted f.name = Datum.ofValue (f.read Releases.dotted) := by
    simp only [Releases.schema, List.forall_mem_cons]
    exact ⟨rfl, rfl, rfl, rfl, by simp⟩
  exact ⟨rfl, Releases.parse_text, Engine.reference_measures, hrow, by decide, by decide, by decide,
    by decide, by decide, by decide⟩

/-- A text that is missing does not end with another one. -/
theorem truth_field_condition_untitled :
    Releases.row Releases.untitled "title" = .null ∧
    (Releases.endsOtherwise.condition.truth Engine.reference
        (Releases.row Releases.untitled) = .yes ↔
      Releases.endsOtherwise.accepts Releases.untitled = true) ∧
    Releases.endsOtherwise.accepts Releases.untitled = true := by
  have hmem : Releases.endsOtherwise ∈ Releases.query.groups.flatten := by
    simp [Releases.query]
  have hbuild : Releases.config.build = .ok Releases.schema := rfl
  have htitle : Releases.row Releases.untitled Releases.title.field.name =
      Datum.ofValue (Releases.title.field.read Releases.untitled) := rfl
  have hending : Releases.row Releases.untitled Releases.ending.field.name =
      Datum.ofValue (Releases.ending.field.read Releases.untitled) := rfl
  have hagree := truth_field_condition_iff Engine.reference_measures hbuild Releases.parse_text hmem
    rfl (.inr (.inl rfl)) htitle hending
  exact ⟨rfl, hagree.mpr fun hmissed => hmissed.elim, rfl⟩

end RecordQuery
