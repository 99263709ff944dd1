import RecordQuery.Value

/-!
# Schemas

A schema lists the fields of a kind of record that queries may mention.  Users know a field by its
query name, in any case; a field knows how to read its value out of a record.

A schema is declared field by field and checked once.  Every field that queries may mention has to
be readable, an enum has to declare names, and no two fields may share a query name, case not
counted.  The default field has to be declared, readable and not hidden; it is checked first.

A schema finds its fields by a search.  A registry finds them by their places: the fields stand in
an array, every key has its place in a map, and the default field is a place too.  It is filled in
one pass over the declarations of a schema, which stops at the first one that has a fault.

A listing shows the name of the entity and then one line for each field: a star in front of the
default field, the query name, the type class and the declared names of an enum.  The names stand in
a column whose width is the size of the longest name in UTF-8 bytes, and are filled up to that many
characters.
-/

namespace RecordQuery

/-- A field that queries may mention, of records of type `ρ`. -/
structure Field (ρ : Type) where
  /-- The name under which the field is declared, which is also the name of its column. -/
  name : String
  /-- The name that users type. -/
  queryName : String
  typeClass : TypeClass
  variants : List String
  read : ρ → Value

namespace Field

variable {ρ : Type}

/-- The form of the query name under which the field is looked up. -/
def key (f : Field ρ) : String := Text.lower f.queryName

/-- Whether the field accepts an operator. -/
def supports (f : Field ρ) (op : Operator) : Bool := f.typeClass.supports op

/-- The operators that the field accepts, in the order in which they are listed. -/
def operators (f : Field ρ) : List Operator := Operator.all.filter f.supports

/-- The value of the field that a literal names. -/
def parseLiteral? (f : Field ρ) (s : String) : Option Value :=
  f.typeClass.parseLiteral? f.variants s

end Field

/-- The fields of a kind of record that queries may mention. -/
structure Schema (ρ : Type) where
  entity : String
  fields : List (Field ρ)
  /-- The field that literals on their own are compared with. -/
  defaultField : Option (Field ρ)

namespace Schema

variable {ρ : Type}

/-- The field with a query name, in any case. -/
def field? (schema : Schema ρ) (name : String) : Option (Field ρ) :=
  schema.fields.find? (·.key = Text.lower name)

/-- Whether there is a field with a query name, in any case. -/
def contains (schema : Schema ρ) (name : String) : Bool := (schema.field? name).isSome

/-- The query names in the order of the declarations. -/
def queryNames (schema : Schema ρ) : List String := schema.fields.map Field.queryName

/-- A field that is found belongs to the schema and has the name asked for, in some case. -/
theorem field?_eq_some {schema : Schema ρ} {name : String} {f : Field ρ}
    (h : schema.field? name = some f) : f ∈ schema.fields ∧ f.key = Text.lower name :=
  ⟨List.mem_of_find?_eq_some h, by simpa using List.find?_some h⟩

/-- Names that differ only in case find the same field. -/
theorem field?_congr (schema : Schema ρ) {a b : String} (h : Text.lower a = Text.lower b) :
    schema.field? a = schema.field? b := by
  simp [field?, h]

end Schema

/-! ## Faults -/

/-- Why a declaration makes no schema. -/
inductive SchemaError where
  | unreadable (entity field : String)
  | defaultFieldNotFound (entity field : String)
  | defaultFieldNotQueryable (entity field : String)
  | duplicateQueryName (entity queryName : String)
  | enumWithoutVariants (entity field : String)
deriving DecidableEq

namespace SchemaError

/-- The wording of an error. -/
def message : SchemaError → String
  | unreadable entity field => "type " ++ entity ++ " field `" ++ field ++ "` is not readable"
  | defaultFieldNotFound entity field =>
    "type " ++ entity ++ " default field `" ++ field ++ "` not found"
  | defaultFieldNotQueryable entity field =>
    "type " ++ entity ++ " default field `" ++ field ++ "` is not user queryable"
  | duplicateQueryName entity queryName =>
    "type " ++ entity ++ " declares query name `" ++ queryName ++ "` more than once"
  | enumWithoutVariants entity field =>
    "type " ++ entity ++ " enum field `" ++ field ++ "` declares no variants"

end SchemaError

/-! ## Declarations -/

/-- A field as declared. -/
structure FieldDeclaration (ρ : Type) where
  name : String
  /-- The name that users type; a field without one is hidden from queries. -/
  queryName : Option String
  typeClass : TypeClass
  variants : List String
  read : Option (ρ → Value)

namespace FieldDeclaration

variable {ρ : Type}

/-- A field that users know by its own name, as yet without a way to read it. -/
def named (name : String) (cls : TypeClass) : FieldDeclaration ρ :=
  ⟨name, some name, cls, [], none⟩

/-- The field under another query name. -/
def withQueryName (d : FieldDeclaration ρ) (name : String) : FieldDeclaration ρ :=
  { d with queryName := some name }

/-- The field hidden from queries. -/
def hidden (d : FieldDeclaration ρ) : FieldDeclaration ρ := { d with queryName := none }

/-- The field with the declared names of its enum. -/
def withVariants (d : FieldDeclaration ρ) (variants : List String) : FieldDeclaration ρ :=
  { d with variants }

/-- The field with a way to read it. -/
def readBy (d : FieldDeclaration ρ) (read : ρ → Value) : FieldDeclaration ρ :=
  { d with read := some read }

/-- The field of a declaration that is neither hidden nor unreadable. -/
def field? (d : FieldDeclaration ρ) : Option (Field ρ) :=
  match d.queryName, d.read with
  | some queryName, some read => some ⟨d.name, queryName, d.typeClass, d.variants, read⟩
  | _, _ => none

end FieldDeclaration

/-- A schema as declared. -/
structure SchemaDeclaration (ρ : Type) where
  entity : String
  fields : List (FieldDeclaration ρ)
  /-- The name of the default field. -/
  defaultField : Option String

namespace SchemaDeclaration

variable {ρ : Type}

/-- A schema without fields. -/
def empty (entity : String) : SchemaDeclaration ρ := ⟨entity, [], none⟩

/-- The schema with one more field behind the others. -/
def withField (d : SchemaDeclaration ρ) (field : FieldDeclaration ρ) : SchemaDeclaration ρ :=
  { d with fields := d.fields ++ [field] }

/-- The schema with a default field. -/
def withDefaultField (d : SchemaDeclaration ρ) (name : String) : SchemaDeclaration ρ :=
  { d with defaultField := some name }

/-! ## Checking -/

/-- The query name of the default field, which the first declaration of its name decides. -/
def defaultQueryName (d : SchemaDeclaration ρ) : Except SchemaError (Option String) :=
  match d.defaultField with
  | none => .ok none
  | some name =>
    match d.fields.find? (·.name = name) with
    | none => .error (.defaultFieldNotFound d.entity name)
    | some field =>
      if field.read.isNone then .error (.unreadable d.entity name)
      else
        match field.queryName with
        | none => .error (.defaultFieldNotQueryable d.entity name)
        | some queryName => .ok (some queryName)

/-- The fields of declarations in order, `taken` being the keys of the fields before them. -/
def checkedFields (entity : String) (taken : List String) :
    List (FieldDeclaration ρ) → Except SchemaError (List (Field ρ))
  | [] => .ok []
  | d :: ds =>
    match d.queryName, d.read with
    | none, _ => checkedFields entity taken ds
    | some _, none => .error (.unreadable entity d.name)
    | some queryName, some read =>
      if d.typeClass = .enum ∧ d.variants = [] then
        .error (.enumWithoutVariants entity d.name)
      else
        let field : Field ρ := ⟨d.name, queryName, d.typeClass, d.variants, read⟩
        if field.key ∈ taken then .error (.duplicateQueryName entity queryName)
        else (checkedFields entity (field.key :: taken) ds).map (field :: ·)

/-- The schema of a declaration, or the first thing wrong with it. -/
def build (d : SchemaDeclaration ρ) : Except SchemaError (Schema ρ) := do
  let defaultName ← d.defaultQueryName
  let fields ← checkedFields d.entity [] d.fields
  let defaultField := defaultName.bind fun name => fields.find? (·.key = Text.lower name)
  return ⟨d.entity, fields, defaultField⟩

end SchemaDeclaration

variable {ρ : Type}

/-! ## Fields and places -/

/-- Fields and the places of their keys. -/
structure FieldIndex (ρ : Type) where
  fields : Array (Field ρ)
  /-- The keys with the places that they stand for, the latest first. -/
  places : List (String × Nat)

namespace FieldIndex

/-- The index without fields. -/
def empty : FieldIndex ρ := ⟨#[], []⟩

/-- The place that is stored for a key. -/
def place? (index : FieldIndex ρ) (key : String) : Option Nat := index.places.lookup key

/-- The index with one more field behind the others. -/
def add (index : FieldIndex ρ) (f : Field ρ) : FieldIndex ρ where
  fields := index.fields.push f
  places := (f.key, index.fields.size) :: index.places

/-- The index behind a declaration: unchanged if that is hidden, and with its field if it has no
fault. -/
def declare (entity : String) (index : FieldIndex ρ) (d : FieldDeclaration ρ) :
    Except SchemaError (FieldIndex ρ) :=
  match d.queryName, d.read with
  | none, _ => .ok index
  | some _, none => .error (.unreadable entity d.name)
  | some queryName, some read =>
    if d.typeClass = .enum ∧ d.variants = [] then
      .error (.enumWithoutVariants entity d.name)
    else if (index.place? (Text.lower queryName)).isSome then
      .error (.duplicateQueryName entity queryName)
    else
      .ok (index.add ⟨d.name, queryName, d.typeClass, d.variants, read⟩)

end FieldIndex

/-! ## Registries -/

/-- A schema with an index of its fields. -/
structure Registry (ρ : Type) where
  entity : String
  index : FieldIndex ρ
  defaultPlace : Option Nat

namespace Registry

/-- The field at the place of a query name, in any case. -/
def field? (r : Registry ρ) (name : String) : Option (Field ρ) :=
  (r.index.place? (Text.lower name)).bind fun place => r.index.fields[place]?

/-- Whether a query name has a place, in any case. -/
def contains (r : Registry ρ) (name : String) : Bool := (r.index.place? (Text.lower name)).isSome

/-- The field at the place of the default field. -/
def defaultField (r : Registry ρ) : Option (Field ρ) :=
  r.defaultPlace.bind fun place => r.index.fields[place]?

/-- The schema that a registry is an index of. -/
def schema (r : Registry ρ) : Schema ρ := ⟨r.entity, r.index.fields.toList, r.defaultField⟩

end Registry

/-- The registry of a declaration, or the first thing wrong with it. -/
def SchemaDeclaration.register (d : SchemaDeclaration ρ) : Except SchemaError (Registry ρ) := do
  let defaultName ← d.defaultQueryName
  let index ← d.fields.foldlM (FieldIndex.declare d.entity) .empty
  return ⟨d.entity, index, defaultName.bind fun name => index.place? (Text.lower name)⟩

/-! ## Listing the fields -/

namespace Schema

/-- The width of the column of names. -/
def nameWidth (schema : Schema ρ) : Nat :=
  (schema.queryNames.map String.utf8ByteSize).foldl max 0

/-- Whether a field has the query name of the default field. -/
def isDefault (schema : Schema ρ) (f : Field ρ) : Bool :=
  schema.defaultField.any (·.queryName = f.queryName)

/-- The line of one field. -/
def line (schema : Schema ρ) (f : Field ρ) : String :=
  (if schema.isDefault f then "* " else "  ")
    ++ f.queryName ++ String.ofList (List.replicate (schema.nameWidth - f.queryName.length) ' ')
    ++ "  " ++ f.typeClass.name
    ++ (if f.variants.isEmpty then "" else " (" ++ String.intercalate ", " f.variants ++ ")")
    ++ "\n"

/-- The listing of a schema. -/
def listing (schema : Schema ρ) : String :=
  schema.entity ++ "\n" ++ String.join (schema.fields.map schema.line)

end Schema

end RecordQuery
