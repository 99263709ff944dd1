import RecordQuery.Proofs.Sql.Agreement

/-!
# Comparisons with null in SQL

No query text names null, but a query that is put together from its parts may compare fields with
it.  To the operators null is a value: `=` and `!=` ask whether the value of the field is missing,
an ordering or a match never holds, and a negated match always does.  The condition of such a
comparison knows two tests only, `IS NULL` for `=` and `IS NOT NULL` for every other operator.  So a
query means in SQL what it would mean if every operator but `=` were `!=`.  That is what the query
means itself where no ordering or match meets a value and no negated match meets a missing one.
-/

namespace RecordQuery

open Sql

/-! ## Operators against null -/

namespace Operator

/-- The operator that the condition of a comparison with null stands for. -/
def nullTest (op : Operator) : Operator := if op = equal then equal else notEqual

/-- An ordering or a match meets a value, or a negated match meets a missing one. -/
def PartsAtNull (op : Operator) (a : Value) : Prop :=
  (op.isOrdering = true ∨ op.isStringMatch = true) ∧ op.isNegated = a.isNull

theorem equal_null (a : Value) : equal.holds a .null = a.isNull := by
  cases a <;> rfl

theorem notEqual_null (a : Value) : notEqual.holds a .null = !a.isNull :=
  congrArg not (equal_null a)

/-- Against null an ordering or a match never holds, and a negated match always does. -/
theorem holds_null_right {op : Operator} (hop : op.isOrdering = true ∨ op.isStringMatch = true)
    (a : Value) : op.holds a .null = op.isNegated := by
  have hpositive : op.positive.isNegated = false ∧ op.positive ≠ equal := by
    revert hop
    cases op <;> decide
  have hfails : op.positive.holds a .null = false :=
    holds_of_unlike hpositive.1 hpositive.2 (.inr (.inl rfl))
  cases hnegated : op.isNegated with
  | false => rw [← hfails, positive_of_not_isNegated hnegated]
  | true => rw [holds_of_isNegated hnegated, hfails, Bool.not_false]

/-- **An operator and its condition agree** at all values but those at which they part ways. -/
theorem nullTest_agrees_iff (op : Operator) (a : Value) :
    (op.nullTest.holds a .null = true ↔ op.holds a .null = true) ↔ ¬ op.PartsAtNull a := by
  by_cases hop : op.isOrdering = true ∨ op.isStringMatch = true
  · have hne : op ≠ equal := by
      rintro rfl
      revert hop
      decide
    rw [nullTest, if_neg hne, notEqual_null, holds_null_right hop, PartsAtNull, and_iff_right hop]
    cases op.isNegated <;> cases a.isNull <;> decide
  · have hkept : op.nullTest = op := by
      revert hop
      cases op <;> decide
    rw [hkept, PartsAtNull]
    exact iff_of_true Iff.rfl fun hparts => hop hparts.1

end Operator

section

variable {ρ : Type} {engine : Engine} {row : Row} {record : ρ}

/-! ## Comparisons -/

/-- The comparison that the condition of a comparison with null stands for. -/
def Comparison.nullTest (c : Comparison ρ) : Comparison ρ :=
  { c with operator := c.operator.nullTest }

/-- The query with `!=` in the place of every operator but `=`. -/
def Query.nullTests (q : Query ρ) : Query ρ :=
  { q with groups := q.groups.map (List.map Comparison.nullTest) }

/-- The condition of a comparison with null asks whether the column is missing or whether it is
not. -/
theorem truth_literal_null {f : Field ρ} {a : Value} (op : Operator)
    (hrow : row f.name = Datum.ofValue a) :
    (literalCondition f op .null).truth engine row = .ofBool (op.nullTest.holds a .null) := by
  have hmissing : (Condition.isNull f.column).truth engine row = .ofBool a.isNull :=
    truth_isNull hrow
  by_cases hop : op = .equal
  · subst hop
    rw [Operator.nullTest, if_pos rfl, Operator.equal_null, ← hmissing]
    rfl
  · have hpresent : (Condition.isNotNull f.column).truth engine row =
        ((Condition.isNull f.column).truth engine row).not := by
      simp only [Condition.truth, Truth.not_ofBool, ne_eq, decide_not]
    rw [Operator.nullTest, if_neg hop, Operator.notEqual_null, ← Truth.not_ofBool, ← hmissing,
      ← hpresent]
    simp only [literalCondition, Value.isNull, if_true, if_neg hop]

theorem truth_comparison_null {c : Comparison ρ} (hnull : c.operand = .literal .null)
    (hrow : row c.target.name = Datum.ofValue (c.target.read record)) :
    c.condition.truth engine row = .yes ↔ c.nullTest.accepts record = true := by
  have htruth : (literalCondition c.target c.operator .null).truth engine row =
      .ofBool (c.operator.nullTest.holds (c.target.read record) .null) :=
    truth_literal_null c.operator hrow
  rw [Comparison.condition, Comparison.accepts, Comparison.nullTest, hnull]
  rw [htruth, Truth.ofBool_eq_yes]
  rfl

/-! ## Groups and queries -/

/-- **A query is true in SQL as its comparisons are.**  A group without comparisons is always
true. -/
theorem truth_query_iff {q : Query ρ} {condition : Condition} {holds : Comparison ρ → Bool}
    (hcondition : q.condition? = some condition)
    (hq : ∀ c ∈ q.groups.flatten, c.condition.truth engine row = .yes ↔ holds c = true) :
    condition.truth engine row = .yes ↔ q.groups.any (List.all · holds) = true := by
  have hgroup : ∀ g ∈ q.groups,
      (g.condition.truth engine row = .yes ↔ g.all holds = true) := by
    intro g hg
    cases g with
    | nil => exact iff_of_true rfl rfl
    | cons c cs =>
        apply truth_group_iff (List.cons_ne_nil c cs)
        intro d hd
        exact hq d (List.mem_flatten.mpr ⟨_, hg, hd⟩)
  unfold Query.condition? at hcondition
  cases hgroups : q.groups with
  | nil => simp [hgroups] at hcondition
  | cons g gs =>
      rw [hgroups] at hgroup
      simp only [hgroups, List.map_cons, Option.some.injEq] at hcondition
      rw [← hcondition, truth_foldl_or, ← List.map_cons, List.any_eq_true]
      simp only [List.mem_map]
      constructor
      · rintro ⟨_, ⟨h, hh, rfl⟩, htruth⟩
        exact ⟨h, hh, (hgroup h hh).mp htruth⟩
      · rintro ⟨h, hh, hholds⟩
        exact ⟨_, ⟨h, hh, rfl⟩, (hgroup h hh).mpr hholds⟩

theorem groups_ne_nil_of_condition? {q : Query ρ} {condition : Condition}
    (hcondition : q.condition? = some condition) : q.groups ≠ [] := by
  intro hnil
  rw [q.condition?_eq_none_iff.mpr hnil] at hcondition
  cases hcondition

/-- The rewritten query accepts what one of the groups does with its tests for null. -/
theorem nullTests_accepts {q : Query ρ} (hne : q.groups ≠ []) (record : ρ) :
    q.nullTests.accepts record =
      q.groups.any (List.all · fun c => c.nullTest.accepts record) := by
  have hmap : q.nullTests.groups ≠ [] := by
    simpa [Query.nullTests] using hne
  rw [Query.accepts_eq_any hmap, Query.nullTests, List.any_map]
  apply List.any_congr rfl
  intro g
  exact List.all_map

/-- **What the condition of a query for null means.**  In a row that holds what the fields of the
query read from a record, the condition is true exactly if the query would accept the record with
`!=` in the place of every operator but `=`.  A comparison and its condition agree unless they part
ways at the value that is read, and where none of the comparisons parts ways so do the query and its
condition.  Only a query without groups has no condition, and it accepts every record. -/
theorem condition_null_iff {q : Query ρ}
    (hnull : ∀ c ∈ q.groups.flatten, c.operand = .literal .null)
    (hrow : ∀ c ∈ q.groups.flatten, row c.target.name = Datum.ofValue (c.target.read record)) :
    (∀ condition, q.condition? = some condition →
      (condition.truth engine row = .yes ↔ q.nullTests.accepts record = true)) ∧
    (∀ c ∈ q.groups.flatten,
      (c.condition.truth engine row = .yes ↔ c.accepts record = true) ↔
        ¬ c.operator.PartsAtNull (c.target.read record)) ∧
    ((∀ c ∈ q.groups.flatten, ¬ c.operator.PartsAtNull (c.target.read record)) →
      ∀ condition, q.condition? = some condition →
        (condition.truth engine row = .yes ↔ q.accepts record = true)) ∧
    (q.condition? = none ↔ q.isEmpty = true) ∧
    (q.isEmpty = true → q.accepts record = true) := by
  have htests : ∀ c ∈ q.groups.flatten,
      (c.condition.truth engine row = .yes ↔ c.nullTest.accepts record = true) := by
    intro c hc
    exact truth_comparison_null (hnull c hc) (hrow c hc)
  have hagree : ∀ c ∈ q.groups.flatten,
      ((c.condition.truth engine row = .yes ↔ c.accepts record = true) ↔
        ¬ c.operator.PartsAtNull (c.target.read record)) := by
    intro c hc
    rw [htests c hc, ← Operator.nullTest_agrees_iff, Comparison.accepts, Comparison.accepts,
      Comparison.nullTest, hnull c hc]
    rfl
  refine ⟨?_, hagree, ?_, ?_, fun hempty => Query.accepts_of_isEmpty hempty record⟩
  · intro condition hcondition
    rw [nullTests_accepts (groups_ne_nil_of_condition? hcondition)]
    exact truth_query_iff hcondition htests
  · intro hparts condition hcondition
    rw [Query.accepts_eq_any (groups_ne_nil_of_condition? hcondition)]
    exact truth_query_iff hcondition fun c hc => (hagree c hc).mpr (hparts c hc)
  · rw [Query.condition?_eq_none_iff, Query.isEmpty, List.isEmpty_iff]

end

/-! ## Episodes -/

namespace Episodes

def title : FieldConfig := ⟨"title", none, .string, [], true, true⟩

def season : FieldConfig := ⟨"season", none, .int, [], true, true⟩

def config : SchemaConfig := ⟨"episode", some "title", [title, season]⟩

def schema : Schema Json := ⟨"episode", [title.field, season.field], some title.field⟩

def againstNull (k : FieldConfig) (op : Operator) : Comparison Json :=
  ⟨k.field, op, .literal .null⟩

/-- Episodes without a season that have a title, and those whose season is less than null. -/
def query : Query Json :=
  ⟨[[againstNull season .equal, againstNull title .notEqual], [againstNull season .lessThan]], none⟩

def pilot : Json := .object [("title", .string "Pilot")]

def finale : Json := .object [("title", .string "Finale"), ("season", .string "7")]

def untitled : Json := .object [("season", .string "7")]

def row (record : Json) (column : String) : Datum :=
  if column = "title" then Datum.ofValue (title.read record)
  else if column = "season" then Datum.ofValue (season.read record)
  else .null

/-- The truth value of the condition of a query in the row of a record, and whether the query
accepts the record. -/
def answers (q : Query Json) (record : Json) : Option Truth × Bool :=
  (q.condition?.map (·.truth Engine.reference (row record)), q.accepts record)

end Episodes

/-- The seventh season is not less than null, a title does not contain null, and a title that is
missing does not contain it either; the conditions say the opposite of each. -/
theorem condition_null_episodes :
    Episodes.config.build = .ok Episodes.schema ∧
    (∀ record, ∀ f ∈ Episodes.schema.fields,
      Episodes.row record f.name = Datum.ofValue (f.read record)) ∧
    Episodes.season.field.supports .lessThan = true ∧
    Episodes.title.field.supports .contains = true ∧
    Episodes.title.field.supports .notContains = true ∧
    Episodes.answers ⟨[[Episodes.againstNull Episodes.season .lessThan]], none⟩ Episodes.finale =
      (some .yes, false) ∧
    Episodes.answers ⟨[[Episodes.againstNull Episodes.title .contains]], none⟩ Episodes.finale =
      (some .yes, false) ∧
    Episodes.answers ⟨[[Episodes.againstNull Episodes.title .notContains]], none⟩
      Episodes.untitled = (some .no, true) := by
  have hrow : ∀ record, ∀ f ∈ Episodes.schema.fields,
      Episodes.row record f.name = Datum.ofValue (f.read record) := by
    intro record
    simp only [Episodes.schema, List.forall_mem_cons]
    exact ⟨rfl, rfl, by simp⟩
  exact ⟨rfl, hrow, rfl, rfl, rfl, by decide, by decide, by decide⟩

/-- The pilot belongs to no season, and no comparison parts ways at it. -/
theorem condition_null_pilot :
    (∀ c ∈ Episodes.query.groups.flatten, c.operand = .literal .null) ∧
    (∀ c ∈ Episodes.query.groups.flatten,
      Episodes.row Episodes.pilot c.target.name = Datum.ofValue (c.target.read Episodes.pilot)) ∧
    (∀ c ∈ Episodes.query.groups.flatten,
      ¬ c.operator.PartsAtNull (c.target.read Episodes.pilot)) ∧
    (∀ condition, Episodes.query.condition? = some condition →
      (condition.truth Engine.reference (Episodes.row Episodes.pilot) = .yes ↔
        Episodes.query.accepts Episodes.pilot = true)) ∧
    Episodes.query.accepts Episodes.pilot = true := by
  have hnull : ∀ c ∈ Episodes.query.groups.flatten, c.operand = .literal .null := by
    simp [Episodes.query, Episodes.againstNull]
  have hrow : ∀ c ∈ Episodes.query.groups.flatten,
      Episodes.row Episodes.pilot c.target.name =
        Datum.ofValue (c.target.read Episodes.pilot) := by
    simp only [Episodes.query, List.flatten_cons, List.flatten_nil, List.cons_append,
      List.nil_append, List.forall_mem_cons]
    exact ⟨rfl, rfl, rfl, by simp⟩
  have hparts : ∀ c ∈ Episodes.query.groups.flatten,
      ¬ c.operator.PartsAtNull (c.target.read Episodes.pilot) := by
    simp only [Episodes.query, List.flatten_cons, List.flatten_nil, List.cons_append,
      List.nil_append, List.forall_mem_cons, Operator.PartsAtNull]
    exact ⟨by decide, by decide, by decide, by simp⟩
  exact ⟨hnull, hrow, hparts, (condition_null_iff hnull hrow).2.2.1 hparts, rfl⟩

end RecordQuery
