import RecordQuery.Proofs.Config.Fields
import RecordQuery.Proofs.Query.Typing
import RecordQuery.Proofs.Sql.Literals
import RecordQuery.Proofs.Sql.Text
import RecordQuery.Proofs.Value.SortKey
import RecordQuery.Query.Basic

/-!
# Queries and their conditions accept the same records

A table holds a record as a row if every column holds the value that its field reads.  For a query
that compares fields with literals which a database holds exactly, the condition of the query is
true in such a row exactly if the query accepts the record.  Durations are left out, for the
database holds them as rounded numbers of seconds, and so are infinities and NaN, for which a
database has an order of its own.
-/

namespace RecordQuery

open Sql

variable {ρ : Type}

/-- The operand is a literal that a database holds exactly. -/
def Operand.IsExact : Operand ρ → Prop
  | .literal (.integer _) => True
  | .literal (.float x) => x.isFinite = true
  | .literal (.string _) => True
  | .literal (.variant _) => True
  | _ => False

/-- No field of the schema reads an infinity or NaN from the record. -/
def Schema.ReadsFinite (schema : Schema ρ) (record : ρ) : Prop :=
  ∀ f ∈ schema.fields, ∀ x, f.read record = .float x → x.isFinite = true

/-- The columns of the row hold what the fields of the schema read from the record. -/
def Schema.HeldBy (schema : Schema ρ) (record : ρ) (row : Row) : Prop :=
  ∀ f ∈ schema.fields, row f.name = Datum.ofValue (f.read record)

section

variable {config : SchemaConfig} {schema : Schema Json} {record : Json} {engine : Engine}
  {row : Row}

/-! ## Comparisons -/

/-- A literal operand is a value of the class of the target. -/
theorem Comparison.Checked.typeClass_literal {schema : Schema ρ} {c : Comparison ρ}
    (h : c.Checked schema) {v : Value} (hv : c.operand = .literal v) :
    v.typeClass? = some c.target.typeClass := by
  obtain ⟨s, hs⟩ := h.literal hv
  exact typeClass?_of_parseLiteral? hs

/-- A name that an enum field reads is equal to a literal without regard to case only if it is the
name of the literal. -/
theorem sameText_literal_iff {k : FieldConfig} {name declared s : String}
    (hclass : k.typeClass = .enum) (hread : k.read record = .variant name)
    (hliteral : k.field.parseLiteral? s = some (.variant declared)) :
    Value.sameText name declared = true ↔ name = declared := by
  obtain ⟨t, rfl⟩ := FieldConfig.read_variant hread
  have hdeclared : declaredName? k.variants s = some declared := by
    simpa [Field.parseLiteral?, FieldConfig.field, hclass, TypeClass.parseLiteral?] using hliteral
  exact sameText_declared_iff hdeclared

/-- The test of a comparison comes out as it has to. -/
theorem testAgrees_of_checked {c : Comparison Json} {v : Value} (hengine : engine.Standard)
    (hbuild : config.build = .ok schema) (hc : c.Checked schema) (hv : c.operand = .literal v)
    (hexact : c.operand.IsExact) (hfinite : schema.ReadsFinite record)
    (hheld : schema.HeldBy record row) :
    TestAgrees engine row c.target c.operator.positive (c.target.read record) v := by
  have hmem := hc.target.mem
  have hrow := hheld _ hmem
  have hop := Operator.isNegated_positive c.operator
  have hsupports : c.target.supports c.operator.positive = true := by
    rw [Field.supports, Operator.supports_positive]
    exact hc.supports
  have hliteral := hc.typeClass_literal hv
  obtain ⟨s, hs⟩ := hc.literal hv
  obtain ⟨k, -, hk⟩ := SchemaConfig.exists_config hbuild hmem
  rw [hv] at hexact
  rcases k.typeClass_read record with hread | hread
  · have hmissing : c.target.read record = .null := by
      rw [hk]
      exact hread
    rw [hmissing] at hrow ⊢
    exact truth_null hop (Value.isNull_of_typeClass? hliteral) hrow
  · have hclass : (c.target.read record).typeClass? = some c.target.typeClass := by
      rw [hk]
      exact hread
    -- The value has the class of the literal, which leaves one case for each class.
    rcases Value.sameClass_cases hclass hliteral with ⟨m, n, hvalue, rfl⟩ | ⟨x, y, hvalue, rfl⟩ |
      ⟨d, e, hvalue, rfl⟩ | ⟨t, u, hvalue, rfl⟩ | ⟨name, declared, hvalue, rfl⟩
    · rw [hvalue] at hrow ⊢
      exact truth_integer (Option.some.inj hliteral).symm hop hsupports hengine hrow
    · have hx : x.isFinite = true := hfinite _ hmem x hvalue
      rw [hvalue] at hrow ⊢
      exact truth_float hx hexact (Option.some.inj hliteral).symm hop hsupports hengine hrow
    · exact hexact.elim
    · rw [hvalue] at hrow ⊢
      exact truth_string (Option.some.inj hliteral).symm hop hsupports hengine hrow
    · have henum : c.target.typeClass = .enum := (Option.some.inj hliteral).symm
      have hspelling : Value.sameText name declared = true ↔ name = declared := by
        rw [hk] at hs henum hvalue
        exact sameText_literal_iff henum hvalue hs
      rw [hvalue] at hrow ⊢
      exact truth_variant henum hop hsupports hengine hrow hspelling

/-- **A comparison and its condition agree.** -/
theorem truth_condition_iff {c : Comparison Json} (hengine : engine.Standard)
    (hbuild : config.build = .ok schema) (hc : c.Checked schema) (hexact : c.operand.IsExact)
    (hfinite : schema.ReadsFinite record) (hheld : schema.HeldBy record row) :
    c.condition.truth engine row = .yes ↔ c.accepts record = true := by
  cases hv : c.operand with
  | field g => rw [hv] at hexact; cases hexact
  | literal v =>
      have htest := testAgrees_of_checked hengine hbuild hc hv hexact hfinite hheld
      have hnull : v.isNull = false := Value.isNull_of_typeClass? (hc.typeClass_literal hv)
      rw [Comparison.condition, Comparison.accepts, hv]
      exact truth_literal_iff hnull (hheld _ hc.target.mem) htest

/-! ## Groups and queries -/

/-- Comparisons that have to hold together are true if each of them is. -/
theorem truth_group_iff {g : Group ρ} {holds : Comparison ρ → Bool} (hne : g ≠ [])
    (hg : ∀ c ∈ g, c.condition.truth engine row = .yes ↔ holds c = true) :
    g.condition.truth engine row = .yes ↔ g.all holds = true := by
  obtain ⟨c, cs, rfl⟩ := List.exists_cons_of_ne_nil hne
  rw [Group.condition, List.map_cons, List.all_eq_true]
  simp only [truth_foldl_and]
  rw [← List.map_cons, List.forall_mem_map]
  exact forall₂_congr hg

/-- **A query and its condition agree.**  In a row that holds a record the condition of a query is
true exactly if the query accepts the record; a query without groups has no condition and accepts
every record. -/
theorem condition_iff_accepts {text : String} {q : Query Json} (hengine : engine.Standard)
    (hbuild : config.build = .ok schema) (hparse : Query.parse schema text = .ok q)
    (hexact : ∀ c ∈ q.groups.flatten, c.operand.IsExact) (hfinite : schema.ReadsFinite record)
    (hheld : schema.HeldBy record row) :
    (∀ condition, q.condition? = some condition →
      (condition.truth engine row = .yes ↔ q.accepts record = true)) ∧
    (q.condition? = none ↔ q.isEmpty = true) ∧
    (q.isEmpty = true → ∀ other, q.accepts other = true) := by
  have hq := Query.checked_of_parse hparse
  have hgroup : ∀ g ∈ q.groups,
      (g.condition.truth engine row = .yes ↔ g.accepts record = true) := by
    intro g hg
    apply truth_group_iff (hq.nonempty g hg)
    intro c hc
    have hmem : c ∈ q.groups.flatten := List.mem_flatten.mpr ⟨g, hg, hc⟩
    exact truth_condition_iff hengine hbuild (hq.comparisons c hmem) (hexact c hmem) hfinite hheld
  refine ⟨?_, ?_, ?_⟩
  · intro condition hcondition
    unfold Query.condition? at hcondition
    cases hgroups : q.groups with
    | nil => simp [hgroups] at hcondition
    | cons g gs =>
        rw [hgroups] at hgroup
        simp only [hgroups, List.map_cons, Option.some.injEq] at hcondition
        rw [← hcondition, truth_foldl_or, ← List.map_cons, Query.accepts, hgroups]
        simp only [List.isEmpty_cons, Bool.false_or, List.any_eq_true, List.mem_map]
        constructor
        · rintro ⟨_, ⟨h, hh, rfl⟩, htruth⟩
          exact ⟨h, hh, (hgroup h hh).mp htruth⟩
        · rintro ⟨h, hh, haccepts⟩
          exact ⟨_, ⟨h, hh, rfl⟩, (hgroup h hh).mpr haccepts⟩
  · rw [Query.condition?_eq_none_iff, Query.isEmpty, List.isEmpty_iff]
  · intro hempty other
    exact Query.accepts_of_isEmpty hempty other

end

/-! ## Cards -/

namespace Cards

def name : FieldConfig := ⟨"name", none, .string, [], true, true⟩

def kind : FieldConfig := ⟨"kind", none, .enum, ["Spell", "Unit"], true, true⟩

def cost : FieldConfig := ⟨"cost", none, .int, [], true, true⟩

def config : SchemaConfig := ⟨"card", some "name", [name, kind, cost]⟩

def schema : Schema Json := ⟨"card", [name.field, kind.field, cost.field], some name.field⟩

/-- A query with a percent sign to escape, a name in another case than the declared one, and a
comparison with a field that the card lacks. -/
def text : String := "name ^ '10%' & kind != 'SPELL', cost < 3"

def query : Query Json where
  groups :=
    [[⟨name.field, .startsWith, .literal (.string "10%")⟩,
      ⟨kind.field, .notEqual, .literal (.variant "Spell")⟩],
     [⟨cost.field, .lessThan, .literal (.integer 3)⟩]]
  sort := none

def card : Json := .object [("name", .string "10% OFF"), ("kind", .string "unit")]

def row (column : String) : Datum :=
  if column = "name" then .text "10% OFF" else if column = "kind" then .text "Unit" else .null

theorem parse_text : Query.parse schema text = .ok query := by
  have htokens : Lexed.ofText text =
      ⟨[.word "name", .word "^", .literal "10%", .word "&", .word "kind", .word "!=",
        .literal "SPELL", .word ",", .word "cost", .word "<", .literal "3"], none⟩ := by
    cbv
  exact Query.parse_eq_ok_iff.mpr ⟨_, htokens, rfl⟩

end Cards

theorem condition_iff_accepts_cards :
    Engine.reference.Standard ∧ Cards.config.build = .ok Cards.schema ∧
    Query.parse Cards.schema Cards.text = .ok Cards.query ∧
    (∀ c ∈ Cards.query.groups.flatten, c.operand.IsExact) ∧
    Cards.schema.ReadsFinite Cards.card ∧ Cards.schema.HeldBy Cards.card Cards.row ∧
    (∀ condition, Cards.query.condition? = some condition →
      (condition.truth Engine.reference Cards.row = .yes ↔
        Cards.query.accepts Cards.card = true)) ∧
    Cards.query.accepts Cards.card = true := by
  have hexact : ∀ c ∈ Cards.query.groups.flatten, c.operand.IsExact := by
    simp [Cards.query, Operand.IsExact]
  have hname : Cards.name.read Cards.card = .string "10% OFF" := rfl
  have hkind : Cards.kind.read Cards.card = .variant "Unit" := rfl
  have hcost : Cards.cost.read Cards.card = .null := rfl
  have hfinite : Cards.schema.ReadsFinite Cards.card := by
    simp [Schema.ReadsFinite, Cards.schema, FieldConfig.field, hname, hkind, hcost]
  have hheld : Cards.schema.HeldBy Cards.card Cards.row := by
    simp [Schema.HeldBy, Cards.schema, FieldConfig.field, hname, hkind, hcost, Datum.ofValue]
    exact ⟨rfl, rfl, rfl⟩
  have hbuild : Cards.config.build = .ok Cards.schema := rfl
  have hagree := condition_iff_accepts Engine.reference_standard hbuild Cards.parse_text hexact
    hfinite hheld
  exact ⟨Engine.reference_standard, hbuild, Cards.parse_text, hexact, hfinite, hheld, hagree.1, rfl⟩

end RecordQuery
