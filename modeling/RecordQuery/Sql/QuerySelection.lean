import RecordQuery.Query.Basic
import RecordQuery.Sql.Basic

/-!
# From queries to SQL

Every field is the column of its declared name.  Strings are compared in lower case, a negated
comparison also holds where a value is missing, and records without a value of the field that they
are ordered by come first in ascending direction and last in descending direction.  Only a query
without groups has no condition.
-/

namespace RecordQuery

open Sql

variable {ρ : Type}

namespace Field

/-- The column of a field. -/
def column (f : Field ρ) : Scalar := .column f.name

/-- The column of a field as the values of a class are compared: strings in lower case. -/
def comparedColumn (f : Field ρ) (cls : TypeClass) : Scalar :=
  if cls = .string then .lower f.column else f.column

/-- What records are ordered by: strings by their lower-case form and then by themselves, enums by
the place of their name, everything else by its value. -/
def orderExprs (f : Field ρ) : List OrderExpr :=
  match f.typeClass with
  | .string => [.scalar (.lower f.column), .scalar f.column]
  | .enum => [if f.variants.isEmpty then .scalar f.column else .placeIn f.column f.variants]
  | _ => [.scalar f.column]

end Field

/-! ## Comparisons with literals -/

/-- A value as it stands on the right of a comparison: strings in lower case, durations in
seconds. -/
def Value.scalar : Value → Scalar
  | null => .null
  | integer n => .integer n.toInt
  | float x => .double x
  | duration d => .double d.toSeconds
  | string s => .text (Text.lower s)
  | variant name => .text name

/-- The text of a string value; other values have none. -/
def Value.patternText : Value → String
  | string s => s
  | _ => ""

/-- Whether a character has a meaning of its own in a pattern. -/
def isPatternChar (c : Char) : Bool := c = '%' || c = '_' || c = '\\'

/-- The pattern that the lower-case form of a text matches, and nothing else. -/
def patternChars (s : String) : List Char :=
  (Text.lowerChars s.toList).flatMap fun c => if isPatternChar c then ['\\', c] else [c]

/-- The pattern of the texts that start with the lower-case form of a text. -/
def startPattern (s : String) : String := String.ofList (patternChars s ++ ['%'])

/-- The pattern of the texts that end with the lower-case form of a text. -/
def endPattern (s : String) : String := String.ofList ('%' :: patternChars s)

/-- The pattern of the texts that contain the lower-case form of a text. -/
def partPattern (s : String) : String := String.ofList ('%' :: patternChars s ++ ['%'])

/-- The condition that a field compares so with a literal. -/
def literalCondition (f : Field ρ) (op : Operator) (v : Value) : Condition :=
  if v.isNull then
    if op = .equal then .isNull f.column else .isNotNull f.column
  else
    let left := f.comparedColumn f.typeClass
    let orMissing (c : Condition) : Condition := .or (.not c) (.isNull f.column)
    match op with
    | .equal => .compare .eq left v.scalar
    | .notEqual => orMissing (.compare .eq left v.scalar)
    | .lessThan => .compare .lt left v.scalar
    | .lessEqual => .compare .le left v.scalar
    | .greaterThan => .compare .gt left v.scalar
    | .greaterEqual => .compare .ge left v.scalar
    | .startsWith => .like left (startPattern v.patternText)
    | .notStartsWith => orMissing (.like left (startPattern v.patternText))
    | .endsWith => .like left (endPattern v.patternText)
    | .notEndsWith => orMissing (.like left (endPattern v.patternText))
    | .contains => .like left (partPattern v.patternText)
    | .notContains => orMissing (.like left (partPattern v.patternText))

/-! ## Comparisons with fields -/

/-- The condition that the lower-case text of one column starts with that of another. -/
def startsCondition (a b : Scalar) : Condition :=
  .phrase (.compare .eq (.position (.lower a) (.lower b)) (.integer 1))

/-- The condition that the lower-case text of one column ends with that of another. -/
def endsCondition (a b : Scalar) : Condition :=
  .phrase (.compare .eq (.right (.lower a) (.length b)) (.lower b))

/-- The condition that the lower-case text of one column contains that of another. -/
def partCondition (a b : Scalar) : Condition :=
  .phrase (.compare .gt (.position (.lower a) (.lower b)) (.integer 0))

/-- The condition that two fields compare so. -/
def fieldCondition (f : Field ρ) (op : Operator) (g : Field ρ) : Condition :=
  let left := f.comparedColumn f.typeClass
  let right := g.comparedColumn f.typeClass
  let orMissing (c : Condition) : Condition :=
    .or (.or (.not c) (.isNull f.column)) (.isNull g.column)
  match op with
  | .equal => .notDistinct left right
  | .notEqual => .distinct left right
  | .lessThan => .compare .lt left right
  | .lessEqual => .compare .le left right
  | .greaterThan => .compare .gt left right
  | .greaterEqual => .compare .ge left right
  | .startsWith => startsCondition f.column g.column
  | .notStartsWith => orMissing (startsCondition f.column g.column)
  | .endsWith => endsCondition f.column g.column
  | .notEndsWith => orMissing (endsCondition f.column g.column)
  | .contains => partCondition f.column g.column
  | .notContains => orMissing (partCondition f.column g.column)

/-! ## Queries -/

/-- The condition of a comparison. -/
def Comparison.condition (c : Comparison ρ) : Condition :=
  match c.operand with
  | .literal v => literalCondition c.target c.operator v
  | .field f => fieldCondition c.target c.operator f

/-- The condition of comparisons that hold together. -/
def Group.condition (g : Group ρ) : Condition :=
  match g.map Comparison.condition with
  | [] => .always
  | c :: cs => cs.foldl .and c

/-- The keys of a sort clause. -/
def SortClause.orderKeys (s : SortClause ρ) : List OrderKey :=
  s.field.orderExprs.map fun expr => ⟨expr, s.direction⟩

namespace Query

/-- The condition of a query; one without groups has none. -/
def condition? (q : Query ρ) : Option Condition :=
  match q.groups.map Group.condition with
  | [] => none
  | c :: cs => some (cs.foldl .or c)

/-- Only a query without groups has no condition. -/
theorem condition?_eq_none_iff (q : Query ρ) : q.condition? = none ↔ q.groups = [] := by
  unfold condition?
  cases q.groups <;> simp

/-- The statement that selects from a table the rows that a query accepts. -/
def selection (q : Query ρ) (table : String) : Selection where
  table := table
  condition := q.condition?
  order := (q.sort.map SortClause.orderKeys).getD []

end Query

end RecordQuery
