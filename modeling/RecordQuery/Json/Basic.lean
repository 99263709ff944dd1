import RecordQuery.Binary64.Basic
import RecordQuery.Binary64.Text
import RecordQuery.Text.Class

/-!
# JSON values

A JSON number is stored as a whole number if it is one that fits a 64-bit word, signed or unsigned,
and is written without a point and an exponent; any other number is stored as a finite binary64
number.  An object keeps its members as they were written; of members with the same key the last one
counts.

JSON is written with the members of every object in ascending order of their keys.  Inside a text
only quotes, backslashes and control characters are escaped.  The compact form has no blanks; the
indented form puts every element and every member on a line of its own, two blanks further in than
what holds it, and keeps empty arrays and objects together.
-/

namespace RecordQuery

/-- A JSON number. -/
inductive JsonNumber where
  | whole (n : Int) (lower : -2 ^ (63 : Nat) ≤ n) (upper : n < 2 ^ (64 : Nat))
  | double (x : Binary64) (finite : x.isFinite = true)
deriving DecidableEq

namespace JsonNumber

/-- The whole number `n`, if it fits a word. -/
def ofInt? (n : Int) : Option JsonNumber :=
  if h : -2 ^ (63 : Nat) ≤ n ∧ n < 2 ^ (64 : Nat) then some (whole n h.1 h.2) else none

/-- The number `x`, if it is finite. -/
def ofBinary64? (x : Binary64) : Option JsonNumber :=
  if h : x.isFinite = true then some (double x h) else none

/-- The binary64 number nearest to a number. -/
def toBinary64 : JsonNumber → Binary64
  | whole n _ _ => Binary64.ofInt n
  | double x _ => x

end JsonNumber

/-- How JSON writes binary64 numbers: always with a point or an exponent, the exponent from `1e16`
upwards and below `1e-5`; of two equally near decimals the even one. -/
def NumberFormat.json : NumberFormat := ⟨fun point => -5 < point ∧ point ≤ 16, true, .even⟩

/-- A JSON value. -/
inductive Json where
  | null
  | bool (b : Bool)
  | number (n : JsonNumber)
  | string (s : String)
  | array (elements : List Json)
  | object (members : List (String × Json))

namespace Json

/-! ## Members of an object -/

/-- The value of the last member with a key. -/
def lookup (key : String) : List (String × Json) → Option Json
  | [] => none
  | (k, v) :: rest =>
    match lookup key rest with
    | some found => some found
    | none => if k = key then some v else none

/-- A member that comes later hides those with the same key before it. -/
theorem lookup_append (key : String) (front back : List (String × Json)) :
    lookup key (front ++ back) = (lookup key back).or (lookup key front) := by
  induction front with
  | nil => simp [lookup]
  | cons member front ih =>
    obtain ⟨k, v⟩ := member
    simp only [List.cons_append, lookup, ih]
    cases lookup key back <;> cases lookup key front <;> simp

/-- The value under a key of an object; other values have no keys. -/
def get? (key : String) : Json → Option Json
  | object members => lookup key members
  | _ => none

/-! ## Canonical form -/

/-- Members in ascending order with one more put in its place, where it replaces a member with the
same key. -/
def putMember (key : String) (v : Json) : List (String × Json) → List (String × Json)
  | [] => [(key, v)]
  | (k, w) :: rest =>
    if key < k then (key, v) :: (k, w) :: rest
    else if key = k then (key, v) :: rest
    else (k, w) :: putMember key v rest

/-- Members in ascending order of their keys, of every key the last one. -/
def sortMembers (members : List (String × Json)) : List (String × Json) :=
  members.foldl (fun sorted (k, v) => putMember k v sorted) []

mutual

/-- The value with the members of all its objects in ascending order, each key once. -/
def canonical : Json → Json
  | array elements => array (canonicalElements elements)
  | object members => object (sortMembers (canonicalMembers members))
  | j => j

/-- The canonical forms of elements. -/
def canonicalElements : List Json → List Json
  | [] => []
  | j :: js => canonical j :: canonicalElements js

/-- Members with the canonical forms of their values. -/
def canonicalMembers : List (String × Json) → List (String × Json)
  | [] => []
  | (k, j) :: rest => (k, canonical j) :: canonicalMembers rest

end

end Json

/-! ## Numbers as text -/

open Text

namespace JsonNumber

/-- The numeral of a number. -/
def chars : JsonNumber → List Char
  | whole n _ _ => (if n < 0 then ['-'] else []) ++ decimal n.natAbs
  | double x _ => NumberFormat.json.write x

/-- The numeral of a number. -/
def text (n : JsonNumber) : String := String.ofList n.chars

end JsonNumber

namespace Json

/-! ## Texts -/

/-- The hexadecimal digit that is worth `n`. -/
def hexDigit (n : Nat) : Char := Char.ofNat (if n < 10 then 48 + n else 87 + n)

/-- The form of a character inside a text. -/
def escapeChar (c : Char) : List Char :=
  if c = '"' ∨ c = '\\' then ['\\', c]
  else if c = '\x08' then ['\\', 'b']
  else if c = '\x0c' then ['\\', 'f']
  else if c = '\n' then ['\\', 'n']
  else if c = '\r' then ['\\', 'r']
  else if c = '\t' then ['\\', 't']
  else if c.toNat < 0x20 then
    ['\\', 'u', '0', '0', hexDigit (c.toNat / 16), hexDigit (c.toNat % 16)]
  else [c]

/-- A text between quotes. -/
def quotedChars (s : String) : List Char := '"' :: s.toList.flatMap escapeChar ++ ['"']

/-! ## The compact form -/

/-- Pieces with commas between them. -/
def commaSeparated : List (List Char) → List Char
  | [] => []
  | [piece] => piece
  | piece :: rest => piece ++ ',' :: commaSeparated rest

mutual

/-- A value in compact form, members as they stand. -/
def compactChars : Json → List Char
  | null => ['n', 'u', 'l', 'l']
  | bool true => ['t', 'r', 'u', 'e']
  | bool false => ['f', 'a', 'l', 's', 'e']
  | number n => n.chars
  | string s => quotedChars s
  | array elements => '[' :: commaSeparated (compactElements elements) ++ [']']
  | object members => '\x7b' :: commaSeparated (compactMembers members) ++ ['\x7d']

/-- Elements in compact form. -/
def compactElements : List Json → List (List Char)
  | [] => []
  | j :: js => compactChars j :: compactElements js

/-- Members in compact form. -/
def compactMembers : List (String × Json) → List (List Char)
  | [] => []
  | (key, j) :: rest => (quotedChars key ++ ':' :: compactChars j) :: compactMembers rest

end

/-- A value as JSON text without blanks. -/
def text (j : Json) : String := String.ofList (compactChars j.canonical)

/-! ## The indented form -/

/-- A line break and the blanks at the start of a line `depth` levels in. -/
def newLine (depth : Nat) : List Char := '\n' :: List.replicate (2 * depth) ' '

/-- Pieces between brackets, each on a line of its own. -/
def block (opening closing : Char) (depth : Nat) (pieces : List (List Char)) : List Char :=
  if pieces.isEmpty then [opening, closing]
  else
    opening :: commaSeparated (pieces.map fun piece => newLine (depth + 1) ++ piece)
      ++ newLine depth ++ [closing]

mutual

/-- A value in indented form, members as they stand. -/
def indentedChars (depth : Nat) : Json → List Char
  | array elements => block '[' ']' depth (indentedElements (depth + 1) elements)
  | object members => block '\x7b' '\x7d' depth (indentedMembers (depth + 1) members)
  | j => compactChars j

/-- Elements in indented form. -/
def indentedElements (depth : Nat) : List Json → List (List Char)
  | [] => []
  | j :: js => indentedChars depth j :: indentedElements depth js

/-- Members in indented form. -/
def indentedMembers (depth : Nat) : List (String × Json) → List (List Char)
  | [] => []
  | (key, j) :: rest =>
    (quotedChars key ++ ':' :: ' ' :: indentedChars depth j) :: indentedMembers depth rest

end

/-- A value as JSON text over several lines. -/
def indentedText (j : Json) : String := String.ofList (indentedChars 0 j.canonical)

end Json

end RecordQuery
