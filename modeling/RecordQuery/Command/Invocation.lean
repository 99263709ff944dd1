import RecordQuery.Command.Manual
import RecordQuery.Config
import RecordQuery.Query.Basic
import RecordQuery.Query.Reading
import RecordQuery.Schema
import RecordQuery.Sql.Basic
import RecordQuery.Sql.QuerySelection

/-!
# Invocations of the program

The program has three commands: it checks a query, lists the fields of a schema or shows the manual.
An invocation that is wrong ends with exit code 2 and prints nothing of its own; a command that
gives no result ends with exit code 1 and the wording of its error.

A command takes options and positional arguments in any order.  An option has a long name behind two
hyphens and perhaps a letter behind one; it may be given once.  The value of an option stands in the
same argument, behind an equals sign or directly behind the letter, or is the next argument, which
then must not look like an option.  Letters of options without values may be put together behind one
hyphen.  Behind the argument `--` everything is positional.  Arguments are taken in order, and the
first that is wrong, or that asks for help, ends the reading.

A check reads a query against a schema.  It then stops, or gives the SQL statement of the query, or
applies it to JSON records: an array of them, or a single object.  What comes first decides the
outcome: the schema, then the query, then the records.
-/

namespace RecordQuery.Command

/-! ## Arguments -/

/-- An option of a command. -/
structure OptionSpec where
  long : String
  short : Option Char
  takesValue : Bool
  allowsEmpty : Bool

/-- What a command takes. -/
structure CommandSpec where
  options : List OptionSpec
  /-- How many positional arguments there may be. -/
  positionals : Nat

/-- What arguments give. -/
structure Arguments where
  /-- The values of the options that are given, by their long names; without a value the text is
  empty. -/
  options : List (String × String)
  positionals : List String

namespace Arguments

/-- Nothing. -/
def empty : Arguments := ⟨[], []⟩

/-- The value of an option. -/
def option? (a : Arguments) (long : String) : Option String := a.options.lookup long

/-- Whether an option is given. -/
def has (a : Arguments) (long : String) : Bool := (a.option? long).isSome

end Arguments

/-- Why the reading of arguments ends early. -/
inductive Interruption where
  | misuse
  | help
deriving DecidableEq

namespace CommandSpec

/-- The arguments with one more option. -/
def give (a : Arguments) (o : OptionSpec) (value : String) : Except Interruption Arguments :=
  if a.has o.long ∨ (o.takesValue = true ∧ o.allowsEmpty = false ∧ value = "") then .error .misuse
  else .ok { a with options := a.options ++ [(o.long, value)] }

/-- The arguments with one more positional one. -/
def place (spec : CommandSpec) (a : Arguments) (value : String) : Except Interruption Arguments :=
  if a.positionals.length < spec.positionals then
    .ok { a with positionals := a.positionals ++ [value] }
  else .error .misuse

/-- Whether an argument looks like an option: a hyphen with something behind it. -/
def looksLikeOption (arg : String) : Bool :=
  match arg.toList with
  | '-' :: _ :: _ => true
  | _ => false

/-- What a group of letters gives, and the option whose value is still to come if the last of them
is the letter of one with a value. -/
def giveLetters (spec : CommandSpec) (a : Arguments) :
    List Char → Except Interruption (Arguments × Option OptionSpec)
  | [] => .ok (a, none)
  | c :: cs =>
    if c = 'h' then .error .help
    else
      match spec.options.find? (·.short = some c) with
      | none => .error .misuse
      | some o =>
        if o.takesValue then
          match cs with
          | [] => .ok (a, some o)
          | '=' :: value => (give a o (String.ofList value)).map (·, none)
          | value => (give a o (String.ofList value)).map (·, none)
        else do spec.giveLetters (← give a o "") cs

/-- What a long option gives, and the option if its value is still to come. -/
def giveLong (spec : CommandSpec) (a : Arguments) (body : List Char) :
    Except Interruption (Arguments × Option OptionSpec) :=
  let name := String.ofList (body.takeWhile (· ≠ '='))
  let value := match body.dropWhile (· ≠ '=') with
    | [] => none
    | _ :: value => some (String.ofList value)
  if name = "help" then .error (if value.isNone then .help else .misuse)
  else
    match spec.options.find? (·.long = name), value with
    | none, _ => .error .misuse
    | some o, none => if o.takesValue then .ok (a, some o) else (give a o "").map (·, none)
    | some o, some value =>
      if o.takesValue then (give a o value).map (·, none) else .error .misuse

/-- What one argument gives that is neither `--` nor the value of an option before it. -/
def giveArgument (spec : CommandSpec) (a : Arguments) (arg : String) :
    Except Interruption (Arguments × Option OptionSpec) :=
  match arg.toList with
  | '-' :: '-' :: body => spec.giveLong a body
  | '-' :: c :: cs => spec.giveLetters a (c :: cs)
  | _ => (spec.place a arg).map (·, none)

/-- What arguments give on top of what is given already; `pending` is an option whose value is the
next argument. -/
def readFrom (spec : CommandSpec) (pending : Option OptionSpec) (a : Arguments) :
    List String → Except Interruption Arguments
  | [] => if pending.isSome then .error .misuse else .ok a
  | arg :: rest =>
    match pending with
    | some o =>
      if looksLikeOption arg then .error .misuse
      else do spec.readFrom none (← give a o arg) rest
    | none =>
      if arg = "--" then rest.foldlM spec.place a
      else do
        let (a, pending) ← spec.giveArgument a arg
        spec.readFrom pending a rest

/-- What arguments give. -/
def read (spec : CommandSpec) (args : List String) : Except Interruption Arguments :=
  spec.readFrom none .empty args

end CommandSpec

/-! ## Checking queries -/

/-- Why a command gives no result. -/
inductive CommandError where
  | schemaFileNotFound (path : String)
  | malformedConfig
  | schema (e : SchemaError)
  | query (e : QueryError)
  | noInput
  | malformedInput
  /-- The records are JSON, but neither an array nor an object. -/
  | notRecords
  | unknownTopic (name : String)
deriving DecidableEq

/-- The wording of an error. -/
def CommandError.message : CommandError → String
  | schemaFileNotFound path =>
    "cannot read schema file " ++ path ++ ": No such file or directory (os error 2)"
  | malformedConfig => "invalid schema configuration: the text does not describe a schema"
  | schema e => e.message
  | query e => "Invalid query: " ++ e.message
  | noInput => "No input provided. Use --input or pipe JSON records to stdin."
  | malformedInput => "Invalid JSON: the text is not a JSON value"
  | notRecords => "Input must be a JSON array of objects or a single object"
  | unknownTopic name =>
    "Unknown category: '" ++ name ++ "'\nRun 'userquery syntax' to see available categories."

/-- The schema that a configuration text describes. -/
def schemaOfText (s : String) : Except CommandError (Schema Json) :=
  match SchemaConfig.parse? s with
  | none => .error .malformedConfig
  | some config => config.build.mapError .schema

/-- The schema in a file, of which the contents are given unless the file is missing. -/
def schemaOfFile (path : String) (contents : Option String) : Except CommandError (Schema Json) :=
  match contents with
  | none => .error (.schemaFileNotFound path)
  | some s => schemaOfText s

/-- What is to be checked. -/
structure CheckOptions where
  query : String
  /-- The text of the records. -/
  input : Option String
  /-- Whether to stop once the query is read. -/
  syntaxOnly : Bool
  /-- The table to select from in SQL, instead of applying the query. -/
  table : Option String

/-- What a check gives. -/
inductive CheckResult where
  | valid
  | sql (statement : String)
  | records (accepted : List Json)

/-- The records in a text. -/
def recordsOfText (s : String) : Except CommandError (List Json) :=
  match Json.parse? s with
  | none => .error .malformedInput
  | some (.array records) => .ok records
  | some (.object members) => .ok [.object members]
  | some _ => .error .notRecords

/-- The result of a check against a schema. -/
def check (schema : Schema Json) (options : CheckOptions) : Except CommandError CheckResult := do
  let q ← (Query.parse schema options.query).mapError .query
  if options.syntaxOnly then return .valid
  match options.table with
  | some table => return .sql (q.selection table).text
  | none =>
    match options.input with
    | none => throw .noInput
    | some s => return .records (q.apply (← recordsOfText s))

/-- The text of the manual on a topic; without one, the overview. -/
def manual (name : Option String) : Except CommandError String :=
  match name with
  | none => .ok Manual.overview
  | some name =>
    match Manual.Topic.ofName? name with
    | some topic => .ok topic.page
    | none => .error (.unknownTopic name)

/-! ## Help -/

/-- Lines of help, each ended by a line break. -/
def helpText (lines : List String) : String := String.join (lines.map (· ++ "\n"))

/-- Help on the program. -/
def programHelp : String :=
  helpText [
    "Filter and sort JSON records with a search-box query language",
    "",
    "Usage: userquery <COMMAND>",
    "",
    "Commands:",
    "  check   Compile a query and run it over JSON records",
    "  fields  List the queryable fields of a schema",
    "  syntax  Show the query language reference",
    "  help    Print this message or the help of the given subcommand(s)",
    "",
    "Options:",
    "  -h, --help     Print help",
    "  -V, --version  Print version"]

/-- Help on checking queries. -/
def checkHelp : String :=
  helpText [
    "Compile a query and run it over JSON records",
    "",
    "Usage: userquery check [OPTIONS] --schema <SCHEMA> <QUERY>",
    "",
    "Arguments:",
    "  <QUERY>  The query to run",
    "",
    "Options:",
    "  -s, --schema <SCHEMA>  Schema configuration file",
    "  -i, --input <INPUT>    JSON records (reads from stdin if not provided)",
    "  -p, --pretty           Pretty-print the output",
    "      --syntax-only      Only compile the query, don't run it",
    "      --sql <TABLE>      Print the query as SQL against this table",
    "  -h, --help             Print help"]

/-- Help on listing fields. -/
def fieldsHelp : String :=
  helpText [
    "List the queryable fields of a schema",
    "",
    "Usage: userquery fields --schema <SCHEMA>",
    "",
    "Options:",
    "  -s, --schema <SCHEMA>  Schema configuration file",
    "  -h, --help             Print help"]

/-- Help on the manual. -/
def manualHelp : String :=
  helpText [
    "Show the query language reference",
    "",
    "Usage: userquery syntax [CATEGORY]",
    "",
    "Arguments:",
    "  [CATEGORY]  Category name (omit to list categories)",
    "",
    "Options:",
    "  -h, --help  Print help"]

/-- Help on asking for help. -/
def helpHelp : String :=
  helpText [
    "Print this message or the help of the given subcommand(s)",
    "",
    "Usage: userquery help [COMMAND]...",
    "",
    "Arguments:",
    "  [COMMAND]...  Print help for the subcommand(s)"]

/-- Name and version of the program. -/
def versionText : String := "userquery 0.1.0\n"

/-! ## Invocations -/

/-- What the program is asked to do. -/
inductive Invocation where
  /-- To check a query against the schema in a file; records may be written over several lines. -/
  | check (schemaPath : String) (options : CheckOptions) (pretty : Bool)
  | fields (schemaPath : String)
  | manual (topic : Option String)
  /-- To print a text that does not depend on anything. -/
  | announce (text : String)
  | misuse

namespace Invocation

/-- The option for the schema file. -/
def schemaOption : OptionSpec := ⟨"schema", some 's', true, false⟩

/-- What the check of a query takes. -/
def checkSpec : CommandSpec where
  options :=
    [schemaOption, ⟨"input", some 'i', true, true⟩, ⟨"pretty", some 'p', false, true⟩,
      ⟨"syntax-only", none, false, true⟩, ⟨"sql", none, true, true⟩]
  positionals := 1

/-- What the listing of fields takes. -/
def fieldsSpec : CommandSpec := ⟨[schemaOption], 0⟩

/-- What the manual takes. -/
def manualSpec : CommandSpec := ⟨[], 1⟩

/-- The invocation of a command with its help, from its arguments. -/
def ofCommand (spec : CommandSpec) (help : String) (make : Arguments → Invocation)
    (args : List String) : Invocation :=
  match spec.read args with
  | .ok a => make a
  | .error .help => announce help
  | .error .misuse => misuse

/-- The check of a query; the query and the schema file have to be given. -/
def ofCheckArguments (a : Arguments) : Invocation :=
  match a.positionals, a.option? "schema" with
  | [query], some path =>
    check path ⟨query, a.option? "input", a.has "syntax-only", a.option? "sql"⟩ (a.has "pretty")
  | _, _ => misuse

/-- The listing of fields; the schema file has to be given. -/
def ofFieldsArguments (a : Arguments) : Invocation :=
  match a.option? "schema" with
  | some path => fields path
  | none => misuse

/-- Help on the command of a name. -/
def ofHelpArguments : List String → Invocation
  | [] => announce programHelp
  | ["check"] => announce checkHelp
  | ["fields"] => announce fieldsHelp
  | ["syntax"] => announce manualHelp
  | ["help"] => announce helpHelp
  | _ => misuse

/-- The invocation that letters behind a hyphen make where a command is wanted. -/
def ofLetters : List Char → Invocation
  | 'h' :: _ => announce programHelp
  | 'V' :: _ => announce versionText
  | _ => misuse

/-- The invocation that arguments make. -/
def ofArguments : List String → Invocation
  | [] => misuse
  | "check" :: args => ofCommand checkSpec checkHelp ofCheckArguments args
  | "fields" :: args => ofCommand fieldsSpec fieldsHelp ofFieldsArguments args
  | "syntax" :: args =>
    ofCommand manualSpec manualHelp (fun a => manual a.positionals.head?) args
  | "help" :: args => ofHelpArguments args
  | "--help" :: _ => announce programHelp
  | "--version" :: _ => announce versionText
  | arg :: _ =>
    match arg.toList with
    | '-' :: letters => ofLetters letters
    | _ => misuse

/-- The schema file that an invocation reads. -/
def schemaPath? : Invocation → Option String
  | check path _ _ => some path
  | fields path => some path
  | _ => none

/-- Whether an invocation takes the records from standard input. -/
def readsInput : Invocation → Bool
  | check _ options _ => options.input.isNone && !options.syntaxOnly && options.table.isNone
  | _ => false

/-! ## Running -/

/-- What a run of the program leaves behind. -/
structure Outcome where
  exitCode : UInt32
  stdout : String
  stderr : String
deriving DecidableEq

/-- The outcome of a command that prints a text or gives an error. -/
def Outcome.ofResult : Except CommandError String → Outcome
  | .ok text => ⟨0, text, ""⟩
  | .error e => ⟨1, "", e.message ++ "\n"⟩

/-- The result of a check as it is printed. -/
def resultText (pretty : Bool) : CheckResult → String
  | .valid => "Query is valid\n"
  | .sql statement => statement ++ "\n"
  | .records accepted =>
    (if pretty then (Json.array accepted).indentedText else (Json.array accepted).text) ++ "\n"

/-- The outcome of an invocation, where `contents` are those of its schema file unless the file is
missing, and `stdin` is standard input. -/
def run (invocation : Invocation) (contents : Option String) (stdin : String) : Outcome :=
  match invocation with
  | check path options pretty =>
    let options :=
      if invocation.readsInput then { options with input := some stdin } else options
    .ofResult do
      let schema ← schemaOfFile path contents
      return resultText pretty (← Command.check schema options)
  | fields path => .ofResult ((schemaOfFile path contents).map Schema.listing)
  | manual topic => .ofResult (Command.manual topic)
  | announce text => ⟨0, text, ""⟩
  | misuse => ⟨2, "", ""⟩

end Invocation

end RecordQuery.Command
