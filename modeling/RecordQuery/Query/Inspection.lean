import RecordQuery.Query.Basic
import RecordQuery.Text.Shown
import RecordQuery.Value

/-!
# Queries as text

The canonical text of a query spells out every comparison as field, operator and operand with blanks
between them, joins the comparisons of a group with `&`, divides groups by `,` and puts the sort
clause at the end.

The inspection of a schema or a query shows its parts by name, texts between double quotes and
comparisons as in a query text.
-/

namespace RecordQuery

/-! ## Canonical texts -/

variable {ρ : Type}

/-- An operand as text: a value as a literal, a field by its query name. -/
def Operand.text : Operand ρ → String
  | literal v => v.text
  | field f => f.queryName

/-- A comparison as text. -/
def Comparison.text (c : Comparison ρ) : String :=
  c.target.queryName ++ " " ++ c.operator.symbol ++ " " ++ c.operand.text

/-- Comparisons that hold together, as text. -/
def Group.text (g : Group ρ) : String := String.intercalate " & " (g.map Comparison.text)

/-- A sort clause as text. -/
def SortClause.text (s : SortClause ρ) : String := s.direction.keyword ++ " " ++ s.field.queryName

namespace Query

/-- The groups of a query as text. -/
def groupsText (q : Query ρ) : String := String.intercalate ", " (q.groups.map Group.text)

/-- A query as text; a blank stands before the sort clause if there are groups. -/
def text (q : Query ρ) : String :=
  q.groupsText
    ++ match q.sort with
      | none => ""
      | some s => (if q.isEmpty then "" else " ") ++ s.text

end Query

/-! ## Inspections -/

open Text

/-- Named parts in braces behind the name of what they are parts of. -/
def inspectedParts (name : String) (parts : List String) : String :=
  name ++ " \x7b " ++ String.intercalate ", " parts ++ " \x7d"

/-- Pieces in square brackets. -/
def inspectedList (pieces : List String) : String :=
  "[" ++ String.intercalate ", " pieces ++ "]"

/-- A piece that may be absent. -/
def inspectedOption : Option String → String
  | none => "None"
  | some piece => "Some(" ++ piece ++ ")"

/-- The inspected name of a class. -/
def TypeClass.inspection : TypeClass → String
  | int => "Int"
  | float => "Float"
  | duration => "Duration"
  | string => "String"
  | enum => "Enum"

/-- A field by its parts; how it is read is left out. -/
def Field.inspection (f : Field ρ) : String :=
  inspectedParts "FieldDescriptor"
    ["name: " ++ shownText f.name, "query_name: " ++ shownText f.queryName,
      "type_class: " ++ f.typeClass.inspection,
      "variants: " ++ inspectedList (f.variants.map shownText), ".."]

/-- A schema by its parts. -/
def Schema.inspection (schema : Schema ρ) : String :=
  inspectedParts "EntitySchema"
    ["entity: " ++ shownText schema.entity,
      "fields: " ++ inspectedList (schema.fields.map Field.inspection),
      "default_field: "
        ++ inspectedOption (schema.defaultField.map fun f => shownText f.queryName)]

/-- A sort clause by its text. -/
def SortClause.inspection (s : SortClause ρ) : String := "SortClause(" ++ s.text ++ ")"

/-- A query by its parts. -/
def Query.inspection (q : Query ρ) : String :=
  inspectedParts "CompiledQuery"
    ["query: Query(" ++ q.groupsText ++ ")",
      "sort: " ++ inspectedOption (q.sort.map SortClause.inspection)]

end RecordQuery
