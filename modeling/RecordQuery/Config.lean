import RecordQuery.Binary64.Basic
import RecordQuery.Json.Basic
import RecordQuery.Json.Reading
import RecordQuery.Schema
import RecordQuery.Value

/-!
# Schema configurations

A schema for JSON records is described by a configuration: for every object key its class and the
name under which queries know it.  A key that is not queryable, or not readable, is hidden from
queries.

The JSON value under the key of a field is read as a value of the class of the field.  Text is read
as a literal of the class would be; what does not fit the class reads as null.

A configuration is read from a JSON object with the keys `entity`, `default_field` and `fields`, and
each field from one with the keys `name`, `query_name`, `type`, `variants`, `queryable` and
`readable`.  Unknown and repeated keys are refused, and so is every value of another shape.  Either
object may also be given as the array of its values in that order, values at the end left out if
they have a default.  A configuration is written with its keys in that order and without what is
absent or empty.
-/

namespace RecordQuery

/-! ## Values of fields -/

/-- The length of time that a JSON value names: seconds as a number, or the text of a duration. -/
def Duration.ofJson? : Json → Option Duration
  | .number n => Duration.ofSeconds? n.toBinary64
  | .string s => Duration.parse? s.toList
  | _ => none

/-- The word of 64 bits that a number is.  A whole number is taken as it is if it fits; every other
number is taken as the binary64 number nearest to it. -/
def JsonNumber.word? : JsonNumber → Option Int64
  | whole n _ _ => (int64? n).or (Binary64.ofInt n).word?
  | double x _ => x.word?

namespace TypeClass

/-- The value of a class that a JSON value holds.  Only numbers that are integers in range are read
as integers; numbers and truth values are strings in the form in which JSON writes them; and an
enum keeps a name that is not declared. -/
def readJson (variants : List String) : TypeClass → Json → Value
  | _, .null => .null
  | int, .number n => (n.word?.map .integer).getD .null
  | float, .number n => .float n.toBinary64
  | duration, j => ((Duration.ofJson? j).map .duration).getD .null
  | string, .string s => .string s
  | string, .number n => .string n.text
  | string, .bool b => .string (if b then "true" else "false")
  | enum, .string s => .variant ((declaredName? variants s).getD s)
  | cls, .string s => (cls.parseLiteral? variants s).getD .null
  | _, _ => .null

/-- A JSON null reads as null in every class. -/
@[simp] theorem readJson_null (variants : List String) (cls : TypeClass) :
    cls.readJson variants .null = .null := by
  cases cls <;> rfl

end TypeClass

/-- A value as JSON: durations are texts, and a number that is not finite is null. -/
def Value.toJson : Value → Json
  | null => .null
  | integer n =>
    .number (.whole n.toInt n.le_toInt (Int.lt_trans n.toInt_lt (by decide)))
  | float x => ((JsonNumber.ofBinary64? x).map .number).getD .null
  | duration d => .string (String.ofList d.write)
  | string s => .string s
  | variant name => .string name

/-! ## Configurations -/

/-- The configuration of one object key. -/
structure FieldConfig where
  /-- The object key. -/
  name : String
  /-- The name that users type, if it is not the key. -/
  queryName : Option String
  typeClass : TypeClass
  variants : List String
  queryable : Bool
  readable : Bool
deriving DecidableEq

namespace FieldConfig

/-- The value of the field in a record. -/
def read (f : FieldConfig) (record : Json) : Value :=
  match record.get? f.name with
  | some j => f.typeClass.readJson f.variants j
  | none => .null

/-- The field as declared. -/
def declaration (f : FieldConfig) : FieldDeclaration Json where
  name := f.name
  queryName := if f.queryable && f.readable then some (f.queryName.getD f.name) else none
  typeClass := f.typeClass
  variants := f.variants
  read := if f.readable then some f.read else none

end FieldConfig

/-- The configuration of a schema for JSON records. -/
structure SchemaConfig where
  entity : String
  /-- The object key that literals on their own are compared with. -/
  defaultField : Option String
  fields : List FieldConfig
deriving DecidableEq

namespace SchemaConfig

/-- The schema as declared. -/
def declaration (c : SchemaConfig) : SchemaDeclaration Json :=
  ⟨c.entity, c.fields.map FieldConfig.declaration, c.defaultField⟩

/-- The schema of a configuration, or the first thing wrong with it. -/
def build (c : SchemaConfig) : Except SchemaError (Schema Json) := c.declaration.build

end SchemaConfig

namespace Config

/-! ## Shapes -/

/-- The values under known keys, each given once, of an object or of the array of its values. -/
def members? (keys : List String) : Json → Option (List (String × Json))
  | .object members =>
    if members.all (fun m => keys.contains m.1) && (members.map Prod.fst).Nodup then some members
    else none
  | .array elements => if elements.length ≤ keys.length then some (keys.zip elements) else none
  | _ => none

/-- A text. -/
def string? : Json → Option String
  | .string s => some s
  | _ => none

/-- A text, or none for null. -/
def nullable? : Json → Option (Option String)
  | .null => some none
  | j => (string? j).map some

/-- A truth value. -/
def bool? : Json → Option Bool
  | .bool b => some b
  | _ => none

/-- A sequence of texts. -/
def strings? : Json → Option (List String)
  | .array elements => elements.mapM string?
  | _ => none

/-- The class with a name; the numeric classes have two. -/
def classNamed? (name : String) : Option TypeClass :=
  if name = "int" ∨ name = "integer" then some .int
  else if name = "float" ∨ name = "number" then some .float
  else if name = "duration" then some .duration
  else if name = "string" then some .string
  else if name = "enum" then some .enum
  else none

/-- The name of a class, on its own or as the only key of an object that holds null. -/
def class? : Json → Option TypeClass
  | .string name => classNamed? name
  | .object [(name, .null)] => classNamed? name
  | _ => none

/-- The value under a key, read in its shape; `otherwise` stands for a key that is absent. -/
def field? {α : Type} (members : List (String × Json)) (key : String) (read? : Json → Option α)
    (otherwise : Option α) : Option α :=
  match Json.lookup key members with
  | some j => read? j
  | none => otherwise

end Config

/-! ## Reading -/

namespace FieldConfig

/-- The keys of a field, in order. -/
def keys : List String := ["name", "query_name", "type", "variants", "queryable", "readable"]

/-- The field configuration that JSON holds; only the name has to be given. -/
def ofJson? (j : Json) : Option FieldConfig := do
  let members ← Config.members? keys j
  let name ← Config.field? members "name" Config.string? none
  let queryName ← Config.field? members "query_name" Config.nullable? (some none)
  let typeClass ← Config.field? members "type" Config.class? (some .string)
  let variants ← Config.field? members "variants" Config.strings? (some [])
  let queryable ← Config.field? members "queryable" Config.bool? (some true)
  let readable ← Config.field? members "readable" Config.bool? (some true)
  return ⟨name, queryName, typeClass, variants, queryable, readable⟩

/-- A field configuration as JSON. -/
def toJson (f : FieldConfig) : Json :=
  .object <|
    [("name", .string f.name)]
      ++ (f.queryName.map fun q => ("query_name", .string q)).toList
      ++ [("type", .string f.typeClass.name)]
      ++ (if f.variants.isEmpty then [] else [("variants", .array (f.variants.map .string))])
      ++ [("queryable", .bool f.queryable), ("readable", .bool f.readable)]

end FieldConfig

namespace SchemaConfig

/-- The keys of a configuration, in order. -/
def keys : List String := ["entity", "default_field", "fields"]

/-- A sequence of field configurations. -/
def fields? : Json → Option (List FieldConfig)
  | .array elements => elements.mapM FieldConfig.ofJson?
  | _ => none

/-- The configuration that JSON holds. -/
def ofJson? (j : Json) : Option SchemaConfig := do
  let members ← Config.members? keys j
  let entity ← Config.field? members "entity" Config.string? none
  let defaultField ← Config.field? members "default_field" Config.nullable? (some none)
  let fields ← Config.field? members "fields" fields? none
  return ⟨entity, defaultField, fields⟩

/-- The configuration that a JSON text holds. -/
def parse? (s : String) : Option SchemaConfig := (Json.parse? s).bind ofJson?

/-! ## Writing -/

/-- A configuration as JSON. -/
def toJson (c : SchemaConfig) : Json :=
  .object <|
    [("entity", .string c.entity)]
      ++ (c.defaultField.map fun name => ("default_field", .string name)).toList
      ++ [("fields", .array (c.fields.map FieldConfig.toJson))]

/-- A configuration as JSON text. -/
def text (c : SchemaConfig) : String := String.ofList (Json.compactChars c.toJson)

end SchemaConfig

end RecordQuery
