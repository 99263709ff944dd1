import RecordQuery.Schema
import RecordQuery.Token
import RecordQuery.Value

/-!
# Queries

A query keeps the records that satisfy all comparisons of at least one of its groups, and perhaps
sorts them.  A query without groups keeps every record.  Comparisons refer to fields of a schema;
they compare a field with a literal of its class or with another field.

A query selects the records of a list that it accepts and sorts them if it says so.  Sorting is
stable in both directions: records with equal keys keep their order.
-/

namespace RecordQuery

/-- What a field is compared with. -/
inductive Operand (ρ : Type) where
  | literal (v : Value)
  /-- The value of another field of the same record. -/
  | field (f : Field ρ)

/-- One condition on a record. -/
structure Comparison (ρ : Type) where
  target : Field ρ
  operator : Operator
  operand : Operand ρ

/-- Conditions that have to hold together. -/
abbrev Group (ρ : Type) : Type := List (Comparison ρ)

/-- The order in which records are wanted. -/
structure SortClause (ρ : Type) where
  field : Field ρ
  direction : SortDirection

/-- Which records are wanted, and in which order. -/
structure Query (ρ : Type) where
  /-- The groups, of which one has to hold. -/
  groups : List (Group ρ)
  sort : Option (SortClause ρ)

/-- Whether a query keeps every record because it has no groups. -/
def Query.isEmpty {ρ : Type} (q : Query ρ) : Bool := q.groups.isEmpty

/-! ## Applying queries to records -/

variable {ρ α : Type}

/-- The value of an operand for a record. -/
def Operand.value (operand : Operand ρ) (record : ρ) : Value :=
  match operand with
  | literal v => v
  | field f => f.read record

/-- Whether a comparison accepts a record: its operator holds between the two values. -/
def Comparison.accepts (c : Comparison ρ) (record : ρ) : Bool :=
  c.operator.holds (c.target.read record) (c.operand.value record)

/-- Whether every comparison of a group accepts a record. -/
def Group.accepts (g : Group ρ) (record : ρ) : Bool := g.all (·.accepts record)

namespace SortClause

/-- The key by which a record is sorted. -/
def key (s : SortClause ρ) (record : ρ) : SortKey :=
  .ofValue s.field.variants (s.field.read record)

/-- Whether a record may stand before another one. -/
def inOrder (s : SortClause ρ) (a b : ρ) : Bool :=
  match s.direction with
  | .ascending => (s.key a).compare (s.key b) ≠ .gt
  | .descending => (s.key b).compare (s.key a) ≠ .gt

end SortClause

namespace Query

/-- Whether some group of a query accepts a record; a query without groups accepts every record. -/
def accepts (q : Query ρ) (record : ρ) : Bool :=
  q.groups.isEmpty || q.groups.any (Group.accepts · record)

/-- A query without groups accepts every record. -/
theorem accepts_of_isEmpty {q : Query ρ} (h : q.isEmpty = true) (record : ρ) :
    q.accepts record = true := by
  simp only [isEmpty] at h
  simp [Query.accepts, h]

/-- A query with groups accepts what one of them accepts. -/
theorem accepts_eq_any {q : Query ρ} (h : q.groups ≠ []) (record : ρ) :
    q.accepts record = q.groups.any (Group.accepts · record) := by
  rw [accepts, List.isEmpty_eq_false_iff.mpr h, Bool.false_or]

/-- The items whose records a query accepts, in the order that it asks for; `view` gives the record
of an item. -/
def select (q : Query ρ) (view : α → ρ) (items : List α) : List α :=
  let matching := items.filter fun item => q.accepts (view item)
  match q.sort with
  | none => matching
  | some s => matching.mergeSort fun a b => s.inOrder (view a) (view b)

/-- The records that a query accepts, in the order that it asks for. -/
def apply (q : Query ρ) (records : List ρ) : List ρ := q.select id records

/-- The positions of the records that a query accepts, in the order that it asks for. -/
def positions (q : Query ρ) (records : List ρ) : List Nat :=
  (q.select Prod.fst records.zipIdx).map Prod.snd

end Query

end RecordQuery
