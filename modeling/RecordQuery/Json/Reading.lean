import RecordQuery.Binary64.Text
import RecordQuery.Json.Basic

/-!
# Reading JSON

The reader takes one value with JSON's four blanks around it and nothing else.  Arrays and objects
may be nested 127 deep.  A text may not hold raw control characters, and an escaped surrogate has to
be one of a pair.

A number with a point or an exponent, or one that fits no word, is read as a binary64 number.  Its
digits are gathered into a 64-bit word for as long as they fit; the digits before the point that do
not fit count as powers of ten, those behind it do not count.  The word is rounded, and the power of
ten is then multiplied in or divided out, in steps of at most 308 places, with a rounding at each
step.  A result beyond the finite numbers is an error.
-/

namespace RecordQuery

open Text

namespace Json

/-- Whether a character is a blank between JSON tokens. -/
def isJsonBlank (c : Char) : Bool := c = ' ' || c = '\n' || c = '\t' || c = '\r'

/-- The text behind the blanks at its start. -/
def skip (cs : List Char) : List Char := cs.dropWhile isJsonBlank

/-! ## Numbers -/

/-- The word that digits make behind the word `n`, as many of them as fit, and what follows them. -/
def gather (n : Nat) : List Char → Nat × List Char
  | [] => (n, [])
  | c :: cs =>
    if isDigit c && 10 * n + digitValue c < 2 ^ (64 : Nat) then gather (10 * n + digitValue c) cs
    else (n, c :: cs)

/-- The number nearest to a power of ten from `10 ^ 0` to `10 ^ 308`. -/
def powerOfTen (e : Nat) : Binary64 := Binary64.ofDecimal false 1 e

/-- The number `x * 10 ^ e`, rounded at each step; none if it lies beyond the finite numbers. -/
def scaled? (x : Binary64) (e : Int) : Option Binary64 :=
  if 308 < e.natAbs ∧ x.magnitude = 0 then some x
  else if 308 < e then none
  else if 0 ≤ e then
    let product := x.mul (powerOfTen e.toNat)
    if product.isFinite then some product else none
  else if -308 ≤ e then some (x.div (powerOfTen e.natAbs))
  else scaled? (x.div (powerOfTen 308)) (e + 308)
termination_by e.natAbs
decreasing_by omega

/-- A word with its sign and a power of ten as a binary64 number. -/
def double? (negative : Bool) (n : Nat) (e : Int) : Option JsonNumber := do
  let x ← scaled? (Binary64.ofNat n) e
  JsonNumber.ofBinary64? (if negative then x.neg else x)

/-- A word with its sign as a number; negative zero is none of the whole numbers. -/
def wholeOrDouble? (negative : Bool) (n : Nat) : Option JsonNumber :=
  if negative then
    if n = 0 then double? true 0 0 else (JsonNumber.ofInt? (-n)).or (double? true n 0)
  else (JsonNumber.ofInt? n).or (double? false n 0)

/-- The exponent behind the letter E: a sign or none, then digits. -/
def exponentPart? (cs : List Char) : Option (Int × List Char) :=
  let (negative, body) := Binary64.splitSign cs
  (numeral? (body.takeWhile isDigit)).map fun n =>
    (if negative then -(n : Int) else n, body.dropWhile isDigit)

/-- The rest of a number behind its digits and its fraction. -/
def exponentOrEnd? (negative : Bool) (n : Nat) (e : Int) (cs : List Char) :
    Option (JsonNumber × List Char) := do
  match cs with
  | c :: rest =>
    if c = 'e' ∨ c = 'E' then
      let (written, rest) ← exponentPart? rest
      let x ← double? negative n (e + written)
      return (x, rest)
    else return (← double? negative n e, cs)
  | [] => return (← double? negative n e, cs)

/-- The rest of a number behind the digits before its point. -/
def fractionOrEnd? (negative : Bool) (n dropped : Nat) (cs : List Char) :
    Option (JsonNumber × List Char) := do
  match cs with
  | '.' :: fraction =>
    if fraction.head?.any isDigit then
      let (n, rest) := gather n fraction
      exponentOrEnd? negative n (dropped - (fraction.length - rest.length : Nat))
        (rest.dropWhile isDigit)
    else none
  | c :: _ =>
    if c = 'e' ∨ c = 'E' ∨ 0 < dropped then exponentOrEnd? negative n dropped cs
    else return (← wholeOrDouble? negative n, cs)
  | [] =>
    if 0 < dropped then exponentOrEnd? negative n dropped cs
    else return (← wholeOrDouble? negative n, cs)

/-- A number without its sign; it begins with a digit, and with a zero only if no digit follows. -/
def unsignedNumber? (negative : Bool) (cs : List Char) : Option (JsonNumber × List Char) :=
  let (n, rest) := gather 0 cs
  let dropped := (rest.takeWhile isDigit).length
  let wellFormed := match cs with
    | '0' :: next :: _ => !isDigit next
    | c :: _ => isDigit c
    | [] => false
  if wellFormed then fractionOrEnd? negative n dropped (rest.dropWhile isDigit) else none

/-- A number. -/
def number? : List Char → Option (JsonNumber × List Char)
  | '-' :: cs => unsignedNumber? true cs
  | cs => unsignedNumber? false cs

/-! ## Texts -/

/-- What a hexadecimal digit is worth. -/
def hexValue? (c : Char) : Option Nat :=
  if isDigit c then some (digitValue c)
  else if 'a' ≤ c ∧ c ≤ 'f' then some (c.toNat - 87)
  else if 'A' ≤ c ∧ c ≤ 'F' then some (c.toNat - 55)
  else none

/-- The number that four hexadecimal digits name. -/
def hex4? (a b c d : Char) : Option Nat := do
  return (← hexValue? a) * 4096 + (← hexValue? b) * 256 + (← hexValue? c) * 16 + (← hexValue? d)

/-- The character that a one-letter escape stands for. -/
def simpleEscape? (c : Char) : Option Char :=
  if c = '"' ∨ c = '\\' ∨ c = '/' then some c
  else if c = 'b' then some '\x08'
  else if c = 'f' then some '\x0c'
  else if c = 'n' then some '\n'
  else if c = 'r' then some '\r'
  else if c = 't' then some '\t'
  else none

/-- The character that two escaped surrogates stand for. -/
def paired? (leading trailing : Nat) : Option Char :=
  if 0xDC00 ≤ trailing ∧ trailing ≤ 0xDFFF then
    some (Char.ofNat (0x10000 + (leading - 0xD800) * 0x400 + (trailing - 0xDC00)))
  else none

/-- A text behind its opening quote, up to the closing one. -/
def stringBody? : List Char → Option (List Char × List Char)
  | [] => none
  | '"' :: rest => some ([], rest)
  | '\\' :: 'u' :: a :: b :: c :: d :: rest => do
    let n ← hex4? a b c d
    if 0xD800 ≤ n ∧ n ≤ 0xDBFF then
      match rest with
      | '\\' :: 'u' :: a :: b :: c :: d :: rest =>
        let character ← paired? n (← hex4? a b c d)
        let (body, rest) ← stringBody? rest
        return (character :: body, rest)
      | _ => none
    else if 0xDC00 ≤ n ∧ n ≤ 0xDFFF then none
    else
      let (body, rest) ← stringBody? rest
      return (Char.ofNat n :: body, rest)
  | '\\' :: letter :: rest => do
    let character ← simpleEscape? letter
    let (body, rest) ← stringBody? rest
    return (character :: body, rest)
  | c :: rest => do
    if c.toNat < 0x20 ∨ c = '\\' then none
    else
      let (body, rest) ← stringBody? rest
      return (c :: body, rest)

/-! ## Values -/

/-- The elements of an array behind its opening bracket and up to the closing one, at least one;
`fuel` bounds their number. -/
def elements? (item : List Char → Option (Json × List Char)) :
    (fuel : Nat) → List Char → Option (List Json × List Char)
  | 0, _ => none
  | fuel + 1, cs => do
    let (j, rest) ← item cs
    match skip rest with
    | ',' :: rest =>
      let (js, rest) ← elements? item fuel rest
      return (j :: js, rest)
    | ']' :: rest => return ([j], rest)
    | _ => none

/-- A key, a colon and a value. -/
def member? (item : List Char → Option (Json × List Char)) (cs : List Char) :
    Option ((String × Json) × List Char) := do
  match skip cs with
  | '"' :: rest =>
    let (key, rest) ← stringBody? rest
    match skip rest with
    | ':' :: rest =>
      let (j, rest) ← item rest
      return ((String.ofList key, j), rest)
    | _ => none
  | _ => none

/-- The members of an object behind its opening brace and up to the closing one, at least one;
`fuel` bounds their number. -/
def members? (item : List Char → Option (Json × List Char)) :
    (fuel : Nat) → List Char → Option ((List (String × Json)) × List Char)
  | 0, _ => none
  | fuel + 1, cs => do
    let (m, rest) ← member? item cs
    match skip rest with
    | ',' :: rest =>
      let (ms, rest) ← members? item fuel rest
      return (m :: ms, rest)
    | '\x7d' :: rest => return ([m], rest)
    | _ => none

/-- A value that is neither an array nor an object. -/
def scalar? : List Char → Option (Json × List Char)
  | 'n' :: 'u' :: 'l' :: 'l' :: rest => some (null, rest)
  | 't' :: 'r' :: 'u' :: 'e' :: rest => some (bool true, rest)
  | 'f' :: 'a' :: 'l' :: 's' :: 'e' :: rest => some (bool false, rest)
  | '"' :: rest => (stringBody? rest).map fun (body, rest) => (string (String.ofList body), rest)
  | cs => (number? cs).map fun (n, rest) => (number n, rest)

/-- A value in which arrays and objects are nested `depth` deep at most. -/
def value? : (depth : Nat) → List Char → Option (Json × List Char)
  | 0, cs =>
    match skip cs with
    | '[' :: _ => none
    | '\x7b' :: _ => none
    | rest => scalar? rest
  | depth + 1, cs =>
    match skip cs with
    | '[' :: rest =>
      match skip rest with
      | ']' :: rest => some (array [], rest)
      | _ => (elements? (value? depth) rest.length rest).map fun (js, rest) => (array js, rest)
    | '\x7b' :: rest =>
      match skip rest with
      | '\x7d' :: rest => some (object [], rest)
      | _ => (members? (value? depth) rest.length rest).map fun (ms, rest) => (object ms, rest)
    | rest => scalar? rest

/-- How deep arrays and objects may be nested. -/
def maxDepth : Nat := 127

/-- The value that a text holds. -/
def parseChars? (cs : List Char) : Option Json := do
  let (j, rest) ← value? maxDepth cs
  if (skip rest).isEmpty then some j else none

/-- The value that a text holds. -/
def parse? (s : String) : Option Json := parseChars? s.toList

end Json

end RecordQuery
