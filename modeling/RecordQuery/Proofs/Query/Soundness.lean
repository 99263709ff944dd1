import RecordQuery.Proofs.Config.Fields
import RecordQuery.Proofs.Query.Typing
import RecordQuery.Query.Basic

/-!
# Queries are well typed

An operator has a meaning for values of one class and for null, and a default for all else: two
values of different classes are unequal, unordered, and no text of the one lies in the other.  That
default never decides about a record.  A query that is read mentions only fields of its schema, asks
of every field only what its class supports, and compares it with a literal or another field of its
class.  And a configured field reads null or a value of its class, whatever JSON value the record
is, so that every operator is applied to values of the class that it was checked for.
-/

namespace RecordQuery

section

variable {ρ : Type} {schema : Schema ρ}

/-! ## Well-typed queries -/

/-- The literal is a value of the class of the field, and the name of an enum is a declared one. -/
structure Field.Admits (f : Field ρ) (v : Value) : Prop where
  ne_null : v ≠ .null
  typeClass : v.typeClass? = some f.typeClass
  declared : ∀ name, v = .variant name → name ∈ f.variants

/-- The comparison is one of a field of the schema by an operator of its class, with a literal that
the field admits or with a field of its class. -/
structure Comparison.WellTyped (schema : Schema ρ) (c : Comparison ρ) : Prop where
  target : c.target ∈ schema.fields
  supports : c.target.typeClass.supports c.operator = true
  literal : ∀ v, c.operand = .literal v → c.target.Admits v
  field : ∀ f, c.operand = .field f → f ∈ schema.fields ∧ f.typeClass = c.target.typeClass

/-- Every group has comparisons, all of them well typed, and the order is by a field of the
schema. -/
structure Query.WellTyped (schema : Schema ρ) (q : Query ρ) : Prop where
  nonempty : ∀ g ∈ q.groups, g ≠ []
  comparisons : ∀ g ∈ q.groups, ∀ c ∈ g, c.WellTyped schema
  sort : ∀ clause ∈ q.sort, clause.field ∈ schema.fields

/-- A text that is read as a literal of a field is read as one that the field admits. -/
theorem Field.admits_of_parseLiteral? {f : Field ρ} {s : String} {v : Value}
    (h : f.parseLiteral? s = some v) : f.Admits v := by
  have hclass := typeClass?_of_parseLiteral? h
  refine ⟨?_, hclass, ?_⟩
  · rintro rfl
    cases hclass
  · rintro name rfl
    have henum : f.typeClass = .enum := (Option.some.inj hclass).symm
    rw [Field.parseLiteral?, henum] at h
    have hdeclared : declaredName? f.variants s = some name := by
      simpa [TypeClass.parseLiteral?] using h
    exact List.mem_of_find?_eq_some hdeclared

/-- A comparison that has passed its checks is well typed. -/
theorem Comparison.Checked.wellTyped {c : Comparison ρ} (h : c.Checked schema) :
    c.WellTyped schema where
  target := h.target.mem
  supports := h.supports
  literal v hv := by
    obtain ⟨s, hs⟩ := h.literal hv
    exact Field.admits_of_parseLiteral? hs
  field f hf := by
    obtain ⟨hnamed, hclass⟩ := h.field hf
    exact ⟨hnamed.mem, hclass⟩

/-- A query that has passed its checks is well typed. -/
theorem Query.Checked.wellTyped {q : Query ρ} (h : q.Checked schema) : q.WellTyped schema where
  nonempty := h.nonempty
  comparisons g hg c hc := (h.comparisons c (List.mem_flatten.mpr ⟨g, hg, hc⟩)).wellTyped
  sort clause hclause := (h.sort clause hclause).mem

/-! ## Values that operators are applied to -/

/-- The value is null or of the class. -/
def Value.Fits (v : Value) (cls : TypeClass) : Prop := v = .null ∨ v.typeClass? = some cls

/-- Every field of the schema reads null or a value of its class, whatever the record is. -/
def Schema.ReadsTyped (schema : Schema ρ) : Prop :=
  ∀ f ∈ schema.fields, ∀ record, (f.read record).Fits f.typeClass

/-- The fields of a configured schema read values of their classes from any JSON value. -/
theorem SchemaConfig.readsTyped {config : SchemaConfig} {schema : Schema Json}
    (h : config.build = .ok schema) : schema.ReadsTyped := by
  intro f hf record
  obtain ⟨k, -, rfl⟩ := exists_config h hf
  exact k.typeClass_read record

namespace Comparison.WellTyped

variable {c : Comparison ρ}

/-- The value on the left of the operator fits the class of the target. -/
theorem fits_target (h : c.WellTyped schema) (hreads : schema.ReadsTyped) (record : ρ) :
    (c.target.read record).Fits c.target.typeClass :=
  hreads _ h.target record

/-- The value on the right of the operator fits the class of the target. -/
theorem fits_operand (h : c.WellTyped schema) (hreads : schema.ReadsTyped) (record : ρ) :
    (c.operand.value record).Fits c.target.typeClass := by
  cases hoperand : c.operand with
  | literal v => exact .inr (h.literal v hoperand).typeClass
  | field f =>
      obtain ⟨hmem, hclass⟩ := h.field f hoperand
      rw [← hclass]
      exact hreads f hmem record

end Comparison.WellTyped

end

/-- **Queries are well typed from their text to their evaluation.**  A query that is read is well
typed, the fields of its schema are those of queryable and readable keys, and the values that its
operators are applied to are null or of the class of the target, for every JSON value as a
record. -/
theorem Query.wellTyped_of_parse {config : SchemaConfig} {schema : Schema Json} {text : String}
    {q : Query Json} (hbuild : config.build = .ok schema)
    (hparse : Query.parse schema text = .ok q) :
    q.WellTyped schema ∧
    (∀ f ∈ schema.fields, ∃ k ∈ config.fields,
      k.queryable = true ∧ k.readable = true ∧ f = k.field) ∧
    ∀ record : Json, ∀ g ∈ q.groups, ∀ c ∈ g,
      (c.target.read record).Fits c.target.typeClass ∧
        (c.operand.value record).Fits c.target.typeClass := by
  have hq := (Query.checked_of_parse hparse).wellTyped
  have hreads := SchemaConfig.readsTyped hbuild
  refine ⟨hq, fun f hf => SchemaConfig.exists_queryable hbuild hf, ?_⟩
  intro record g hg c hc
  have hc := hq.comparisons g hg c hc
  exact ⟨hc.fits_target hreads record, hc.fits_operand hreads record⟩

/-! ## Films -/

namespace Films

def title : FieldConfig := ⟨"title", none, .string, [], true, true⟩

def rating : FieldConfig := ⟨"rating", none, .int, [], true, true⟩

def votes : FieldConfig := ⟨"votes", none, .int, [], true, true⟩

def genre : FieldConfig := ⟨"genre", some "kind", .enum, ["Drama", "Western"], true, true⟩

def notes : FieldConfig := ⟨"notes", none, .string, [], false, true⟩

def config : SchemaConfig := ⟨"film", some "title", [title, rating, votes, genre, notes]⟩

def schema : Schema Json :=
  ⟨"film", [title.field, rating.field, votes.field, genre.field], some title.field⟩

/-- A literal on its own, a comparison of two fields, a name in another case than the declared one,
and an order. -/
def text : String := "'dollars' & rating >= votes, kind = 'WESTERN' orderby votes"

def query : Query Json where
  groups :=
    [[⟨title.field, .contains, .literal (.string "dollars")⟩,
      ⟨rating.field, .greaterEqual, .field votes.field⟩],
     [⟨genre.field, .equal, .literal (.variant "Western")⟩]]
  sort := some ⟨votes.field, .ascending⟩

/-- A film whose title is a truth value, whose rating is a text and whose genre is a list. -/
def film : Json :=
  .object [("title", .bool true), ("rating", .string "7"), ("genre", .array [.string "Drama"])]

theorem parse_text : Query.parse schema text = .ok query := by
  have htokens : Lexed.ofText text =
      ⟨[.literal "dollars", .word "&", .word "rating", .word ">=", .word "votes", .word ",",
        .word "kind", .word "=", .literal "WESTERN", .word "orderby", .word "votes"], none⟩ := by
    cbv
  exact Query.parse_eq_ok_iff.mpr ⟨_, htokens, rfl⟩

end Films

theorem wellTyped_films :
    Films.config.build = .ok Films.schema ∧
    Query.parse Films.schema Films.text = .ok Films.query ∧
    Films.query.WellTyped Films.schema ∧
    (∀ g ∈ Films.query.groups, ∀ c ∈ g,
      (c.target.read Films.film).Fits c.target.typeClass ∧
        (c.operand.value Films.film).Fits c.target.typeClass) ∧
    Films.title.read Films.film = .string "true" ∧ Films.rating.read Films.film = .integer 7 ∧
    Films.votes.read Films.film = .null ∧ Films.genre.read Films.film = .null := by
  have hbuild : Films.config.build = .ok Films.schema := rfl
  obtain ⟨hquery, -, hvalues⟩ := Query.wellTyped_of_parse hbuild Films.parse_text
  exact ⟨hbuild, Films.parse_text, hquery, hvalues Films.film, rfl, rfl, rfl, rfl⟩

end RecordQuery
