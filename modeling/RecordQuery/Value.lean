import RecordQuery.Binary64.Basic
import RecordQuery.Binary64.Text
import RecordQuery.Duration
import RecordQuery.Operator
import RecordQuery.Text.Lower
import RecordQuery.Token

/-!
# Field values

A field of a record holds a value of its type class, or nothing.  Texts and enum names are compared
without regard to case.

The text of a literal is read as a value of the class of the field that it is compared with.  Every
text is a string; the other classes each have a grammar of their own.  A value is written so that
the lexer reads it as one literal.  A number stands bare if it begins with a digit; negative
numbers, infinities and NaN are quoted like everything else.  Null is written as a word, since no
literal stands for it.

An operator takes the value of a field on the left and a literal or the value of another field on
the right.  Null has no order and no text to match, so it satisfies no ordering and no positive
string match; a negated operator holds exactly when its positive form does not.

Records are sorted by a key made from the value of a field.  Null comes before everything else,
numbers and durations go by size, NaN and the two zeros having places of their own, texts go without
regard to case and then by their exact spelling, and enum names go in the order in which they are
declared, names that are not declared last.
-/

namespace RecordQuery

/-- The value of a field. -/
inductive Value where
  | null
  | integer (n : Int64)
  | float (x : Binary64)
  | duration (d : Duration)
  | string (s : String)
  /-- A name of an enum. -/
  | variant (name : String)
deriving DecidableEq

namespace Value

/-- Whether there is no value. -/
def isNull : Value → Bool
  | null => true
  | _ => false

/-- The class of a value, if there is one. -/
def typeClass? : Value → Option TypeClass
  | null => none
  | integer _ => some .int
  | float _ => some .float
  | duration _ => some .duration
  | string _ => some .string
  | variant _ => some .enum

/-- Whether two texts are equal without regard to case. -/
def sameText (a b : String) : Bool := Text.lower a = Text.lower b

theorem sameText_iff {a b : String} : sameText a b = true ↔ Text.lower a = Text.lower b := by
  simp [sameText]

/-- Equality of values: numbers and durations by size, texts and enum names without regard to case;
null equals null, and values of different classes differ. -/
def looselyEqual : Value → Value → Bool
  | null, null => true
  | integer a, integer b => a = b
  | float a, float b => a.numericEq b
  | duration a, duration b => a = b
  | string a, string b => sameText a b
  | variant a, variant b => sameText a b
  | _, _ => false

/-- The order of two numbers or two durations; other values, and NaN, have none. -/
def order? : Value → Value → Option Ordering
  | integer a, integer b => some (compare a.toInt b.toInt)
  | float a, float b => a.compare? b
  | duration a, duration b => some (a.compare b)
  | _, _ => none

end Value

/-! ## Reading literals -/

/-- The whole number of 64 bits with a given value, if there is one. -/
def int64? (n : Int) : Option Int64 :=
  if -2 ^ (63 : Nat) ≤ n ∧ n < 2 ^ (63 : Nat) then some (Int64.ofInt n) else none

/-- The whole number that a text names: a sign or none, then ASCII digits. -/
def parseInteger? (cs : List Char) : Option Int64 :=
  let (negative, digits) := Binary64.splitSign cs
  (Text.numeral? digits).bind fun n => int64? (if negative then -(n : Int) else n)

/-- The first of the declared names that equals a text without regard to case. -/
def declaredName? (variants : List String) (s : String) : Option String :=
  variants.find? fun name => Value.sameText name s

/-- The value of a class that a text names; an enum is one of the declared names and takes the
declared spelling. -/
def TypeClass.parseLiteral? (cls : TypeClass) (variants : List String) (s : String) :
    Option Value :=
  match cls with
  | .int => (parseInteger? s.toList).map .integer
  | .float => (Binary64.parse? s.toList).map .float
  | .duration => (Duration.parse? s.toList).map .duration
  | .string => some (.string s)
  | .enum => (declaredName? variants s).map .variant

/-- The value that is read has the class that was asked for. -/
theorem typeClass?_of_parseLiteral? {cls : TypeClass} {variants : List String} {s : String}
    {v : Value} (h : cls.parseLiteral? variants s = some v) : v.typeClass? = some cls := by
  cases cls <;> simp only [TypeClass.parseLiteral?, Option.map_eq_some_iff] at h
  case string => cases h; rfl
  all_goals
    obtain ⟨_, _, rfl⟩ := h
    rfl

/-! ## Writing values -/

open Text

namespace Value

/-- A text between single quotes, escaped. -/
def quoted (cs : List Char) : List Char := '\'' :: Token.escapeChars cs ++ ['\'']

/-- The numeral of an integer, with a minus sign for a negative one. -/
def integerDigits (n : Int) : List Char :=
  (if n < 0 then ['-'] else []) ++ decimal n.natAbs

/-- The text of a number, quoted unless it begins with a digit. -/
def numberChars (cs : List Char) : List Char :=
  if cs.head?.any isDigit then cs else '\'' :: cs ++ ['\'']

/-- The characters of a value in a query text. -/
def chars : Value → List Char
  | null => ['n', 'u', 'l', 'l']
  | integer n => numberChars (integerDigits n.toInt)
  | float x => numberChars (NumberFormat.plain.write x)
  | duration d => '\'' :: d.write ++ ['\'']
  | string s => quoted s.toList
  | variant name => quoted name.toList

/-- A value in a query text. -/
def text (v : Value) : String := String.ofList v.chars

end Value

/-! ## Applying operators -/

/-- Whether `pattern` stands somewhere in a text. -/
def occursIn (pattern : List Char) : List Char → Bool
  | [] => pattern.isEmpty
  | c :: cs => pattern.isPrefixOf (c :: cs) || occursIn pattern cs

namespace Value

/-- Whether two values are texts whose lower-case forms are in a relation. -/
def textsMatch (relation : List Char → List Char → Bool) : Value → Value → Bool
  | string a, string b => relation (Text.lowerChars a.toList) (Text.lowerChars b.toList)
  | _, _ => false

/-- Whether the left text starts with the right one. -/
def startsWith : Value → Value → Bool := textsMatch fun text start => start.isPrefixOf text

/-- Whether the left text ends with the right one. -/
def endsWith : Value → Value → Bool := textsMatch fun text ending => ending.isSuffixOf text

/-- Whether the left text contains the right one. -/
def contains : Value → Value → Bool := textsMatch fun text part => occursIn part text

end Value

namespace Operator

/-- Whether an operator holds between two values. -/
def holds : Operator → Value → Value → Bool
  | equal, a, b => a.looselyEqual b
  | notEqual, a, b => !a.looselyEqual b
  | startsWith, a, b => a.startsWith b
  | notStartsWith, a, b => !a.startsWith b
  | endsWith, a, b => a.endsWith b
  | notEndsWith, a, b => !a.endsWith b
  | contains, a, b => a.contains b
  | notContains, a, b => !a.contains b
  | lessThan, a, b => a.order? b = some .lt
  | lessEqual, a, b => a.order? b = some .lt || a.order? b = some .eq
  | greaterThan, a, b => a.order? b = some .gt
  | greaterEqual, a, b => a.order? b = some .gt || a.order? b = some .eq

end Operator

/-! ## Sort keys -/

/-- The key by which a value is sorted. -/
inductive SortKey where
  | null
  | integer (n : Int64)
  | float (x : Binary64)
  | duration (d : Duration)
  /-- The key of a text: its lower-case form, then the text. -/
  | text (folded exact : String)
  /-- The key of an enum name: its place among the declared names, then the name. -/
  | variant (index : Nat) (name : String)
deriving DecidableEq

namespace SortKey

/-- The place of a name among the declared ones without regard to case; the number of declared names
for a name that is not among them. -/
def variantIndex (variants : List String) (name : String) : Nat :=
  variants.findIdx fun declared => Value.sameText declared name

/-- The key of a value in a field with the declared names `variants`. -/
def ofValue (variants : List String) : Value → SortKey
  | .null => null
  | .integer n => integer n
  | .float x => float x
  | .duration d => duration d
  | .string s => text (Text.lower s) s
  | .variant name => variant (variantIndex variants name) name

/-- The place of a kind of key among the kinds. -/
def rank : SortKey → Nat
  | null => 0
  | integer _ => 1
  | float _ => 2
  | duration _ => 3
  | text _ _ => 4
  | variant _ _ => 5

/-- The order of two keys. -/
def compare : SortKey → SortKey → Ordering
  | null, null => .eq
  | integer a, integer b => Ord.compare a.toInt b.toInt
  | float a, float b => a.totalCompare b
  | duration a, duration b => a.compare b
  | text folded exact, text folded' exact' =>
    (Ord.compare folded folded').then (Ord.compare exact exact')
  | variant index name, variant index' name' =>
    (Ord.compare index index').then (Ord.compare name name')
  | a, b => Ord.compare a.rank b.rank

/-- Every key is equal to itself. -/
@[simp] theorem compare_self (k : SortKey) : k.compare k = .eq := by
  cases k <;> simp [compare, Binary64.totalCompare, Duration.compare, Std.ReflCmp.compare_self]

end SortKey

end RecordQuery
