/-!
# Operators and the classes of fields

A comparison tests two values for equality, by order, or by how one text lies in another.  Every
test of equality and of texts has a negated form.  An operator is known by its symbol and by nothing
else.

The type class of a field says which values it holds and which operators it accepts: every class
can be tested for equality, numbers and durations also by order, and strings by how they match.
-/

namespace RecordQuery

/-- An operator of a comparison. -/
inductive Operator where
  | equal
  | notEqual
  | startsWith
  | notStartsWith
  | endsWith
  | notEndsWith
  | contains
  | notContains
  | lessThan
  | lessEqual
  | greaterThan
  | greaterEqual
deriving DecidableEq

namespace Operator

/-- The operator of a literal that stands on its own. -/
def forBareLiteral : Operator := contains

/-- All operators, in the order in which they are listed. -/
def all : List Operator :=
  [equal, notEqual, startsWith, notStartsWith, endsWith, notEndsWith, contains, notContains,
    lessThan, lessEqual, greaterThan, greaterEqual]

/-- How an operator is written. -/
def symbol : Operator → String
  | equal => "="
  | notEqual => "!="
  | startsWith => "^"
  | notStartsWith => "!^"
  | endsWith => "$"
  | notEndsWith => "!$"
  | contains => "*"
  | notContains => "!*"
  | lessThan => "<"
  | lessEqual => "<="
  | greaterThan => ">"
  | greaterEqual => ">="

/-- The operator that is written so. -/
def ofSymbol? (symbol : String) : Option Operator := all.find? (·.symbol = symbol)

/-- Whether an operator compares by order. -/
def isOrdering : Operator → Bool
  | lessThan | lessEqual | greaterThan | greaterEqual => true
  | _ => false

/-- Whether an operator looks at how one text lies in another. -/
def isStringMatch : Operator → Bool
  | startsWith | notStartsWith | endsWith | notEndsWith | contains | notContains => true
  | _ => false

/-- Whether an operator is the negated form of another one. -/
def isNegated : Operator → Bool
  | notEqual | notStartsWith | notEndsWith | notContains => true
  | _ => false

/-- Every operator is found by its symbol. -/
@[simp] theorem ofSymbol?_symbol (op : Operator) : ofSymbol? op.symbol = some op := by
  cases op <;> decide

/-- An operator is found by its symbol and by nothing else. -/
theorem ofSymbol?_eq_some_iff {s : String} {op : Operator} :
    ofSymbol? s = some op ↔ s = op.symbol := by
  constructor
  · intro h
    have := List.find?_some h
    simpa [eq_comm] using this
  · rintro rfl
    exact ofSymbol?_symbol op

end Operator

/-! ## Type classes -/

/-- The class of the values of a field. -/
inductive TypeClass where
  | int
  | float
  | duration
  | string
  /-- Names out of a declared list. -/
  | enum
deriving DecidableEq

namespace TypeClass

/-- The name of a class. -/
def name : TypeClass → String
  | int => "int"
  | float => "float"
  | duration => "duration"
  | string => "string"
  | enum => "enum"

/-- Whether the values of a class are compared by order. -/
def isOrderable : TypeClass → Bool
  | int | float | duration => true
  | _ => false

/-- Whether the values of a class are matched as texts. -/
def isStringMatchable : TypeClass → Bool
  | string => true
  | _ => false

/-- Whether a field of the class accepts an operator. -/
def supports (cls : TypeClass) (op : Operator) : Bool :=
  if op.isOrdering then cls.isOrderable
  else if op.isStringMatch then cls.isStringMatchable
  else true

/-- Every class accepts the test of equality. -/
@[simp] theorem supports_equal (cls : TypeClass) : cls.supports .equal = true := rfl

/-- Only strings accept the operator of a bare literal. -/
theorem supports_forBareLiteral (cls : TypeClass) :
    cls.supports Operator.forBareLiteral = true ↔ cls = string := by
  cases cls <;> decide

end TypeClass

end RecordQuery
