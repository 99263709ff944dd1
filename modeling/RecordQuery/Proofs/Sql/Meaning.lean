import RecordQuery.Sql.QuerySelection

/-!
# What SQL conditions mean

A condition is true, false or unknown in a row.  Comparisons with a missing value are unknown, and
unknown goes through `NOT`, `AND` and `OR` as in the logic of three values.  What the database does
with texts and numbers is not part of this library: it is an `Engine`, of which `Engine.Standard`
says as much as the conditions of queries rely on.
-/

namespace RecordQuery.Sql

/-! ## Truth values -/

/-- A truth value. -/
inductive Truth where
  | yes
  | no
  | unknown
deriving DecidableEq

namespace Truth

/-- The truth value of a test that was made. -/
def ofBool (b : Bool) : Truth := if b then yes else no

def not : Truth → Truth
  | yes => no
  | no => yes
  | unknown => unknown

def and : Truth → Truth → Truth
  | no, _ => no
  | _, no => no
  | yes, yes => yes
  | _, _ => unknown

def or : Truth → Truth → Truth
  | yes, _ => yes
  | _, yes => yes
  | no, no => no
  | _, _ => unknown

@[simp] theorem ofBool_eq_yes {b : Bool} : ofBool b = yes ↔ b = true := by
  cases b <;> simp [ofBool]

@[simp] theorem not_ofBool (b : Bool) : (ofBool b).not = ofBool !b := by
  cases b <;> rfl

@[simp] theorem or_yes (t : Truth) : t.or yes = yes := by cases t <;> rfl

theorem and_eq_yes {s t : Truth} : s.and t = yes ↔ s = yes ∧ t = yes := by
  cases s <;> cases t <;> simp [and]

theorem or_eq_yes {s t : Truth} : s.or t = yes ↔ s = yes ∨ t = yes := by
  cases s <;> cases t <;> simp [or]

/-- A test that comes out as a truth value is not unknown. -/
theorem ofBool_ne_unknown (b : Bool) : ofBool b ≠ unknown := by
  cases b <;> decide

/-- The negation of a test of which it is known whether it holds unless something is missing. -/
theorem not_or_missing {t : Truth} {missing missing' : Bool}
    (hyes : t = yes → missing = false ∧ missing' = false)
    (hknown : missing = false → missing' = false → t ≠ unknown) :
    (t.not.or (ofBool missing)).or (ofBool missing') = yes ↔ t ≠ yes := by
  cases t <;> cases missing <;> cases missing' <;> simp_all [not, or, ofBool]

end Truth

/-! ## Values -/

/-- The value of a column. -/
inductive Datum where
  | null
  | integer (n : Int)
  | double (x : Binary64)
  | text (s : String)
deriving DecidableEq

/-- How a row holds the value of a field: a duration is a number of seconds, an enum its name. -/
def Datum.ofValue : Value → Datum
  | .null => null
  | .integer n => integer n.toInt
  | .float x => double x
  | .duration d => double d.toSeconds
  | .string s => text s
  | .variant name => text name

theorem Datum.ofValue_eq_null_iff (v : Value) : Datum.ofValue v = .null ↔ v.isNull = true := by
  cases v <;> simp [Datum.ofValue, Value.isNull]

/-- The values of the columns of a row by their names. -/
abbrev Row : Type := String → Datum

/-- Whether two values in this order are in a relation. -/
def Relation.admits : Relation → Ordering → Bool
  | eq, o => o = .eq
  | lt, o => o = .lt
  | le, o => o ≠ .gt
  | gt, o => o = .gt
  | ge, o => o ≠ .lt

/-! ## Patterns -/

/-- `LikeMatches pattern text` says that `text` has the form of `pattern`: a percent sign stands for
any characters, an underscore for one, and a backslash takes the next character as it is. -/
inductive LikeMatches : List Char → List Char → Prop
  | nil : LikeMatches [] []
  | any {pattern skipped text : List Char} : LikeMatches pattern text →
      LikeMatches ('%' :: pattern) (skipped ++ text)
  | one {c : Char} {pattern text : List Char} : LikeMatches pattern text →
      LikeMatches ('_' :: pattern) (c :: text)
  | escaped {c : Char} {pattern text : List Char} : LikeMatches pattern text →
      LikeMatches ('\\' :: c :: pattern) (c :: text)
  | plain {c : Char} {pattern text : List Char} : c ≠ '%' → c ≠ '_' → c ≠ '\\' →
      LikeMatches pattern text → LikeMatches (c :: pattern) (c :: text)

/-- Every backslash of a pattern has a character behind it that it takes as it is. -/
inductive EscapesComplete : List Char → Prop
  | nil : EscapesComplete []
  | escaped {c : Char} {pattern : List Char} : EscapesComplete pattern →
      EscapesComplete ('\\' :: c :: pattern)
  | plain {c : Char} {pattern : List Char} : c ≠ '\\' → EscapesComplete pattern →
      EscapesComplete (c :: pattern)

/-! ## Databases -/

/-- The operations of a database on values that are not missing. -/
structure Engine where
  lower : String → String
  like (text pattern : String) : Bool
  length : String → Int
  /-- `STRPOS` -/
  position (text part : String) : Int
  right : String → Int → String
  related : Relation → Datum → Datum → Bool

/-- A database that lowers texts as this library does, matches patterns in the standard way, and
compares numbers by value and texts by their characters. -/
structure Engine.Standard (engine : Engine) : Prop where
  lower_eq : ∀ s, engine.lower s = Text.lower s
  like_iff : ∀ s pattern : String, EscapesComplete pattern.toList →
    (engine.like s pattern = true ↔ LikeMatches pattern.toList s.toList)
  related_integer : ∀ relation a b,
    engine.related relation (.integer a) (.integer b) = relation.admits (compare a b)
  related_double : ∀ relation x y, x.isFinite = true → y.isFinite = true →
    engine.related relation (.double x) (.double y) = relation.admits (compare x.units y.units)
  related_text : ∀ s t, engine.related .eq (.text s) (.text t) = decide (s = t)

/-! ## Expressions -/

variable (engine : Engine) (row : Row)

/-- The value of an expression; a function of a missing value is missing, and so is one of a value
that it does not take. -/
def Scalar.datum : Scalar → Datum
  | column name => row name
  | null => .null
  | integer n => .integer n
  | double x => .double x
  | text s => .text s
  | lower e =>
    match e.datum with
    | .text s => .text (engine.lower s)
    | _ => .null
  | length e =>
    match e.datum with
    | .text s => .integer (engine.length s)
    | _ => .null
  | position e part =>
    match e.datum, part.datum with
    | .text s, .text t => .integer (engine.position s t)
    | _, _ => .null
  | right e count =>
    match e.datum, count.datum with
    | .text s, .integer n => .text (engine.right s n)
    | _, _ => .null

/-- Whether two values are in a relation, which is unknown if one of them is missing. -/
def compareData (relation : Relation) : Datum → Datum → Truth
  | .null, _ => .unknown
  | _, .null => .unknown
  | a, b => .ofBool (engine.related relation a b)

/-- Whether two values are equal, where missing values are equal to each other. -/
def sameData : Datum → Datum → Bool
  | .null, .null => true
  | .null, _ => false
  | _, .null => false
  | a, b => engine.related .eq a b

section

variable {engine}

theorem compareData_present {relation : Relation} {d e : Datum} (hd : d ≠ .null) (he : e ≠ .null) :
    compareData engine relation d e = .ofBool (engine.related relation d e) := by
  cases d with
  | null => exact absurd rfl hd
  | _ => cases e with
    | null => exact absurd rfl he
    | _ => rfl

theorem sameData_present {d e : Datum} (hd : d ≠ .null) (he : e ≠ .null) :
    sameData engine d e = engine.related .eq d e := by
  cases d with
  | null => exact absurd rfl hd
  | _ => cases e with
    | null => exact absurd rfl he
    | _ => rfl

theorem sameData_missing (engine : Engine) {d e : Datum} (h : d = .null ∨ e = .null) :
    sameData engine d e = true ↔ d = .null ∧ e = .null := by
  rcases h with rfl | rfl
  · cases e <;> simp [sameData]
  · cases d <;> simp [sameData]

theorem compareData_missing {relation : Relation} {d e : Datum} (h : d = .null ∨ e = .null) :
    compareData engine relation d e = .unknown := by
  rcases h with rfl | rfl
  · rfl
  · cases d <;> rfl

end

/-- The truth value of a condition. -/
def Condition.truth : Condition → Truth
  | always => .yes
  | compare relation a b => compareData engine relation (a.datum engine row) (b.datum engine row)
  | like e pattern =>
    match e.datum engine row with
    | .text s => .ofBool (engine.like s pattern)
    | _ => .unknown
  | isNull e => .ofBool (e.datum engine row = .null)
  | isNotNull e => .ofBool (e.datum engine row ≠ .null)
  | distinct a b => .ofBool !sameData engine (a.datum engine row) (b.datum engine row)
  | notDistinct a b => .ofBool (sameData engine (a.datum engine row) (b.datum engine row))
  | phrase c => c.truth
  | not c => c.truth.not
  | and a b => a.truth.and b.truth
  | or a b => a.truth.or b.truth

/-! ## Many conditions -/

/-- Conditions that are joined by `AND` are true if each of them is. -/
theorem truth_foldl_and (c : Condition) (cs : List Condition) :
    (cs.foldl .and c).truth engine row = .yes ↔
      ∀ d ∈ c :: cs, d.truth engine row = .yes := by
  induction cs generalizing c with
  | nil => simp
  | cons d cs ih =>
      rw [List.foldl_cons, ih]
      simp [Condition.truth, Truth.and_eq_yes, and_assoc]

/-- Conditions that are joined by `OR` are true if one of them is. -/
theorem truth_foldl_or (c : Condition) (cs : List Condition) :
    (cs.foldl .or c).truth engine row = .yes ↔
      ∃ d ∈ c :: cs, d.truth engine row = .yes := by
  induction cs generalizing c with
  | nil => simp
  | cons d cs ih =>
      rw [List.foldl_cons, ih]
      simp [Condition.truth, Truth.or_eq_yes, or_assoc]

end RecordQuery.Sql
