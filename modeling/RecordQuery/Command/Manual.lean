import RecordQuery.Text.Lower

/-!
# The manual of the query language

The manual has an overview and one page for each of its topics.  A topic is found by its name or by
a shorter one, in any case.
-/

namespace RecordQuery.Manual

/-- Lines of text, each ended by a line break. -/
def page (lines : List String) : String := String.join (lines.map (· ++ "\n"))

/-- What the manual treats. -/
inductive Topic where
  /-- How comparisons, groups, bare literals and free text are written. -/
  | form
  | operators
  | types
  | sorting
  | errors
deriving DecidableEq

namespace Topic

/-- The topic with a name, in any case. -/
def ofName? (name : String) : Option Topic :=
  let name := Text.lower name
  if name = "syntax" then some form
  else if name = "operators" ∨ name = "ops" then some operators
  else if name = "types" ∨ name = "type" then some types
  else if name = "sorting" ∨ name = "sort" ∨ name = "orderby" then some sorting
  else if name = "errors" ∨ name = "error" then some errors
  else none

end Topic

/-- The list of the topics and a few examples. -/
def overview : String :=
  page [
    "USER QUERY LANGUAGE",
    "",
    "A small filter and sort language typed into a single search box. A query is",
    "a list of comparisons joined with & (and) and , (or), optionally followed by",
    "an orderby clause.",
    "",
    "DOCUMENTATION CATEGORIES",
    "",
    "  syntax            Comparisons, groups, bare literals and free text",
    "  operators         Comparison and string-match operators",
    "  types             Field type classes and literal formats",
    "  sorting           orderby and orderbydescending",
    "  errors            What the error messages mean",
    "",
    "QUICK REFERENCE",
    "",
    "  rating > 5                      Comparison",
    "  rating > 5 & title * 'beans'    Both must hold",
    "  rating = 1, rating = 5          Either may hold",
    "  'beans'                         Default field contains 'beans'",
    "  orderbydescending rating        Sort, highest first",
    "",
    "Run 'userquery syntax <category>' for detailed documentation.",
    "Run 'userquery fields --schema <file>' to list the queryable fields."]

/-- The page of the topic `Topic.form`. -/
def formPage : String :=
  page [
    "SYNTAX - Comparisons and Groups",
    "",
    "COMPARISON",
    "  <field> <operator> <literal>",
    "  <field> <operator> <field>",
    "",
    "    Field names are matched ignoring case. Literals are numbers or quoted",
    "    text; a field name on the right compares two fields of the same record.",
    "",
    "    Examples:",
    "      rating >= 5",
    "      title ^ \"The \"",
    "      rating > plays",
    "",
    "QUOTES",
    "  'text' or \"text\"",
    "    Quoted text is always a literal. Inside quotes:",
    "      \\n \\t \\' \\\" \\\\     Escapes",
    "    A quote left open is an error.",
    "",
    "NUMBERS",
    "  42  3.5",
    "    Unquoted numbers are literals. Negative numbers must be quoted: '-3'.",
    "",
    "GROUPS",
    "  a & b         Both comparisons must hold",
    "  a , b         Either group may hold",
    "    & binds tighter than , so",
    "      a & b , c   means   (a and b) or c",
    "",
    "BARE LITERALS",
    "  'beans'",
    "    A literal with no field is compared against the default field with *.",
    "      rating = 5 & 'beans'     same as   rating = 5 & title * 'beans'",
    "",
    "FREE TEXT",
    "  If the query does not start with a field name, orderby or a literal, the",
    "  whole query up to the first orderby is one literal for the default field.",
    "      waffles and beans        same as   title * 'wafflesandbeans'",
    "",
    "    Constraints:",
    "      - Whitespace between free-text words is dropped",
    "      - Only orderby clauses may follow free text"]

/-- The page of the topic `Topic.operators`. -/
def operatorsPage : String :=
  page [
    "OPERATORS",
    "",
    "EQUALITY (every type)",
    "  =     Equal (text and enums ignore case)",
    "  !=    Not equal",
    "",
    "ORDERING (int, float, duration)",
    "  <  <=  >  >=",
    "",
    "STRING MATCHING (string, case-insensitive)",
    "  ^     Starts with          !^    Does not start with",
    "  $     Ends with            !$    Does not end with",
    "  *     Contains             !*    Does not contain",
    "",
    "    Example:",
    "      title * 'beans' & title !^ 'the'",
    "",
    "MISSING VALUES",
    "  A field without a value matches = only when compared with another missing",
    "  value, never matches ordering or positive string matching, and always",
    "  matches the negated forms (!=, !^, !$, !*)."]

/-- The page of the topic `Topic.types`. -/
def typesPage : String :=
  page [
    "TYPES - Field Type Classes",
    "",
    "  int         Whole numbers                      5",
    "  float       Decimal numbers                    4.5",
    "  duration    Lengths of time                    '00:03:30'",
    "  string      Text                               'beans'",
    "  enum        One of a fixed list of names       'jazz'",
    "",
    "DURATION LITERALS",
    "  d                     Whole days             '2'",
    "  hh:mm                 Hours and minutes      '01:30'",
    "  hh:mm:ss              With seconds           '00:03:30'",
    "  d.hh:mm:ss.fffffff    Days and fraction      '1.02:00:00.5'",
    "",
    "    Hours must be below 24, minutes and seconds below 60.",
    "",
    "ENUM LITERALS",
    "  Matched against the declared names, ignoring case. Use",
    "  'userquery fields' to see the names of each enum field."]

/-- The page of the topic `Topic.sorting`. -/
def sortingPage : String :=
  page [
    "SORTING",
    "",
    "  orderby <field>",
    "  orderbydescending <field>",
    "",
    "    May appear at the start of the query or after any comparison. Only the",
    "    last sort clause counts. Sorting is stable: records with equal keys keep",
    "    their input order.",
    "",
    "ORDERING BY TYPE",
    "  int, float, duration    By magnitude",
    "  string                  Ignoring case, then by exact spelling",
    "  enum                    By declaration order",
    "  missing                 Before every value (after, when descending)",
    "",
    "    Example:",
    "      rating > 1 orderbydescending rating"]

/-- The page of the topic `Topic.errors`. -/
def errorsPage : String :=
  page [
    "ERRORS",
    "",
    "  property \"x\" not in type media",
    "      The field does not exist or is not queryable.",
    "",
    "  incomplete query: rating > ...",
    "      A comparison is missing its operator or right-hand side.",
    "",
    "  incomplete: include property to sort by",
    "      orderby was not followed by a field.",
    "",
    "  literal must be separated by `,` or `&`",
    "      Two comparisons were written without a separator.",
    "",
    "  unsupported or type-mismatched operator",
    "      The operator is unknown, or not valid for the field's type.",
    "",
    "  unable to parse literal",
    "      The literal does not fit the field's type.",
    "",
    "  unterminated quote",
    "      A quote was opened and never closed."]

/-- The page of a topic. -/
def Topic.page : Topic → String
  | form => formPage
  | operators => operatorsPage
  | types => typesPage
  | sorting => sortingPage
  | errors => errorsPage

end RecordQuery.Manual
