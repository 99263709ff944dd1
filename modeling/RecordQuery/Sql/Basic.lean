import RecordQuery.Binary64.Basic
import RecordQuery.Binary64.Text
import RecordQuery.Token

/-!
# SQL statements

The part of SQL that queries need: a selection of all columns of one table, with a condition on its
rows and keys to order them by.

Statements are written in the dialect of PostgreSQL.  Identifiers stand between double quotes.  A
text stands between single quotes; if it has characters to escape, the opening quote is marked with
an `E` and they are escaped with backslashes.  A condition that is part of another one stands in
parentheses unless it is a plain test of values.  A conjunction that begins with a conjunction, or a
disjunction that begins with a disjunction, reads from left to right and needs none there.
-/

namespace RecordQuery.Sql

/-- An expression with a value. -/
inductive Scalar where
  | column (name : String)
  | null
  | integer (n : Int)
  | double (x : Binary64)
  | text (s : String)
  | lower (e : Scalar)
  | length (e : Scalar)
  /-- The place of the first occurrence of a text in another one, counted from 1; 0 if there is
  none. -/
  | position (text part : Scalar)
  /-- The last `count` characters of a text. -/
  | right (text count : Scalar)

/-- A comparison of two values that is unknown if either is missing. -/
inductive Relation where
  | eq
  | lt
  | le
  | gt
  | ge
deriving DecidableEq

/-- An expression that is true, false or unknown. -/
inductive Condition where
  | always
  | compare (relation : Relation) (left right : Scalar)
  /-- A text has the form of a pattern, in which a backslash escapes. -/
  | like (e : Scalar) (pattern : String)
  | isNull (e : Scalar)
  | isNotNull (e : Scalar)
  /-- Two values differ, where missing values are equal to each other. -/
  | distinct (left right : Scalar)
  /-- Two values are equal, where missing values are equal to each other. -/
  | notDistinct (left right : Scalar)
  /-- A condition that is kept together by parentheses wherever it is part of another one. -/
  | phrase (c : Condition)
  | not (c : Condition)
  | and (left right : Condition)
  | or (left right : Condition)

/-- What rows are ordered by. -/
inductive OrderExpr where
  | scalar (e : Scalar)
  /-- The place of a text in a list of texts, or the length of the list for any other text. -/
  | placeIn (e : Scalar) (texts : List String)

/-- A key to order rows by; missing values come before all others in ascending direction and behind
them in descending direction. -/
structure OrderKey where
  expr : OrderExpr
  direction : SortDirection

/-- A statement that selects all columns of a table. -/
structure Selection where
  table : String
  condition : Option Condition
  /-- The keys to order rows by, the first one deciding. -/
  order : List OrderKey

open RecordQuery.Text

/-! ## Names and texts -/

/-- An identifier between double quotes, with the quotes inside it doubled. -/
def identifier (name : String) : String :=
  String.ofList ('"' :: name.toList.flatMap (fun c => if c = '"' then ['"', '"'] else [c]) ++ ['"'])

/-- The letter behind the backslash in the escaped form of a character that has one. -/
def escapeLetter? (c : Char) : Option Char :=
  if c = '\\' ∨ c = '"' ∨ c = '\'' then some c
  else if c = '\x00' then some '0'
  else if c = '\x08' then some 'b'
  else if c = '\t' then some 't'
  else if c = '\x1a' then some 'z'
  else if c = '\n' then some 'n'
  else if c = '\r' then some 'r'
  else none

/-- The form of a character inside a text. -/
def escapeChar (c : Char) : List Char :=
  match escapeLetter? c with
  | some letter => ['\\', letter]
  | none => [c]

/-- A text between single quotes. -/
def textLiteral (s : String) : String :=
  let escaped := s.toList.flatMap escapeChar
  let opening := if s.toList.any (fun c => (escapeLetter? c).isSome) then ['E', '\''] else ['\'']
  String.ofList (opening ++ escaped ++ ['\''])

/-! ## Expressions -/

/-- A whole number as a numeral. -/
def integerText (n : Int) : String :=
  String.ofList ((if n < 0 then ['-'] else []) ++ decimal n.natAbs)

/-- An expression with a value. -/
def Scalar.toText : Scalar → String
  | column name => identifier name
  | null => "NULL"
  | integer n => integerText n
  | double x => String.ofList (NumberFormat.plain.write x)
  | text s => textLiteral s
  | lower e => "LOWER(" ++ e.toText ++ ")"
  | length e => "LENGTH(" ++ e.toText ++ ")"
  | position e part => "STRPOS(" ++ e.toText ++ ", " ++ part.toText ++ ")"
  | right e count => "RIGHT(" ++ e.toText ++ ", " ++ count.toText ++ ")"

/-- The sign of a relation. -/
def Relation.sign : Relation → String
  | eq => "="
  | lt => "<"
  | le => "<="
  | gt => ">"
  | ge => ">="

namespace Condition

/-- Whether a condition is a plain test of values. -/
def isPlain : Condition → Bool
  | always | compare _ _ _ | like _ _ | isNull _ | isNotNull _ => true
  | _ => false

/-- Whether a condition is a conjunction. -/
def isAnd : Condition → Bool
  | and _ _ => true
  | _ => false

/-- Whether a condition is a disjunction. -/
def isOr : Condition → Bool
  | or _ _ => true
  | _ => false

/-- A text that stands in parentheses unless it is `bare`. -/
def parenthesized (bare : Bool) (s : String) : String := if bare then s else "(" ++ s ++ ")"

/-- A condition as text. -/
def text : Condition → String
  | always => "TRUE"
  | compare relation l r => l.toText ++ " " ++ relation.sign ++ " " ++ r.toText
  | like e pattern => e.toText ++ " LIKE " ++ textLiteral pattern ++ " ESCAPE " ++ textLiteral "\\"
  | isNull e => e.toText ++ " IS NULL"
  | isNotNull e => e.toText ++ " IS NOT NULL"
  | distinct l r => l.toText ++ " IS DISTINCT FROM " ++ r.toText
  | notDistinct l r => l.toText ++ " IS NOT DISTINCT FROM " ++ r.toText
  | phrase c => c.text
  | not c => "NOT " ++ parenthesized c.isPlain c.text
  | and l r =>
    parenthesized (l.isPlain || l.isAnd) l.text ++ " AND " ++ parenthesized r.isPlain r.text
  | or l r =>
    parenthesized (l.isPlain || l.isOr) l.text ++ " OR " ++ parenthesized r.isPlain r.text

end Condition

/-! ## Statements -/

/-- What rows are ordered by, as text. -/
def OrderExpr.text : OrderExpr → String
  | scalar e => e.toText
  | placeIn e texts =>
    let branch (s : String) (place : Nat) : String :=
      " WHEN (" ++ e.toText ++ " = " ++ textLiteral s ++ ") THEN " ++ integerText place
    "(CASE" ++ String.join (texts.zipIdx.map fun (s, place) => branch s place)
      ++ " ELSE " ++ integerText texts.length ++ " END)"

/-- A key to order rows by, as text. -/
def OrderKey.text (k : OrderKey) : String :=
  k.expr.text ++ match k.direction with
    | .ascending => " ASC NULLS FIRST"
    | .descending => " DESC NULLS LAST"

/-- A statement as text. -/
def Selection.text (s : Selection) : String :=
  "SELECT * FROM " ++ identifier s.table
    ++ (match s.condition with
      | none => ""
      | some c => " WHERE " ++ c.text)
    ++ if s.order.isEmpty then ""
      else " ORDER BY " ++ String.intercalate ", " (s.order.map OrderKey.text)

end RecordQuery.Sql
