import RecordQuery.Config
import RecordQuery.Proofs.Schema.Checking

/-!
# Fields of configured schemas

A schema that is built from a configuration has fields whose values are read from JSON, each from a
key that is queryable and readable.  Whatever a record holds, such a field reads null or a value of
its class, and an enum field reads a name in its declared spelling, if it has one.
-/

namespace RecordQuery

/-- The field that a configured key makes. -/
def FieldConfig.field (k : FieldConfig) : Field Json :=
  ⟨k.name, k.queryName.getD k.name, k.typeClass, k.variants, k.read⟩

/-- Only a key that is queryable and readable makes a field. -/
theorem FieldConfig.field?_declaration_eq_some_iff {k : FieldConfig} {f : Field Json} :
    k.declaration.field? = some f ↔ k.queryable = true ∧ k.readable = true ∧ f = k.field := by
  unfold FieldDeclaration.field? FieldConfig.declaration
  cases hreadable : k.readable with
  | false => simp
  | true =>
      cases hqueryable : k.queryable with
      | false => simp
      | true => simp [FieldConfig.field, eq_comm]

/-- Every field of a configured schema is that of a queryable and readable key. -/
theorem SchemaConfig.exists_queryable {config : SchemaConfig} {schema : Schema Json}
    (h : config.build = .ok schema) {f : Field Json} (hf : f ∈ schema.fields) :
    ∃ k ∈ config.fields, k.queryable = true ∧ k.readable = true ∧ f = k.field := by
  have hfields := SchemaDeclaration.build_fields h
  rw [hfields, List.mem_filterMap] at hf
  obtain ⟨d, hd, hdf⟩ := hf
  obtain ⟨k, hk, rfl⟩ := List.mem_map.mp hd
  exact ⟨k, hk, FieldConfig.field?_declaration_eq_some_iff.mp hdf⟩

/-- Every field of a configured schema is that of a key. -/
theorem SchemaConfig.exists_config {config : SchemaConfig} {schema : Schema Json}
    (h : config.build = .ok schema) {f : Field Json} (hf : f ∈ schema.fields) :
    ∃ k ∈ config.fields, f = k.field := by
  obtain ⟨k, hk, -, -, hfield⟩ := exists_queryable h hf
  exact ⟨k, hk, hfield⟩

/-! ## Values from JSON -/

theorem typeClass_getD_map {α : Type} {make : α → Value} {cls : TypeClass}
    (hmake : ∀ a, (make a).typeClass? = some cls) (o : Option α) :
    (o.map make).getD .null = .null ∨ ((o.map make).getD .null).typeClass? = some cls := by
  cases o with
  | none => exact .inl rfl
  | some a => exact .inr (hmake a)

theorem typeClass_getD_parseLiteral (cls : TypeClass) (variants : List String) (s : String) :
    (cls.parseLiteral? variants s).getD .null = .null ∨
      ((cls.parseLiteral? variants s).getD .null).typeClass? = some cls := by
  cases h : cls.parseLiteral? variants s with
  | none => exact .inl rfl
  | some v => exact .inr (typeClass?_of_parseLiteral? h)

/-- A JSON value reads as null or as a value of the class that was asked for. -/
theorem TypeClass.typeClass_readJson (cls : TypeClass) (variants : List String) (j : Json) :
    cls.readJson variants j = .null ∨ (cls.readJson variants j).typeClass? = some cls := by
  cases j with
  | null => exact .inl (readJson_null variants cls)
  | array js => cases cls <;> exact .inl rfl
  | object members => cases cls <;> exact .inl rfl
  | bool b =>
      cases cls with
      | string => exact .inr rfl
      | _ => exact .inl rfl
  | number n =>
      cases cls with
      | int => exact typeClass_getD_map (fun _ => rfl) _
      | float => exact .inr rfl
      | duration => exact typeClass_getD_map (fun _ => rfl) _
      | string => exact .inr rfl
      | enum => exact .inl rfl
  | string s =>
      cases cls with
      | int => exact typeClass_getD_parseLiteral _ _ _
      | float => exact typeClass_getD_parseLiteral _ _ _
      | duration => exact typeClass_getD_map (fun _ => rfl) _
      | string => exact .inr rfl
      | enum => exact .inr rfl

theorem FieldConfig.read_of_get? {k : FieldConfig} {record : Json} {j : Json}
    (h : record.get? k.name = some j) :
    k.read record = k.typeClass.readJson k.variants j := by
  rw [read, h]

/-- A record's value of a configured field is null or has the class of the field. -/
theorem FieldConfig.typeClass_read (k : FieldConfig) (record : Json) :
    k.read record = .null ∨ (k.read record).typeClass? = some k.typeClass := by
  unfold FieldConfig.read
  cases record.get? k.name with
  | none => exact .inl rfl
  | some j => exact k.typeClass.typeClass_readJson k.variants j

/-- A name that is read is a text in its declared spelling, if it has one. -/
theorem TypeClass.readJson_variant {cls : TypeClass} {variants : List String} {j : Json}
    {name : String} (h : cls.readJson variants j = .variant name) :
    ∃ s, name = (declaredName? variants s).getD s := by
  have hclass : cls = .enum := by
    rcases cls.typeClass_readJson variants j with hnull | hcls
    · rw [h] at hnull
      cases hnull
    · rw [h] at hcls
      exact (Option.some.inj hcls).symm
  rw [hclass] at h
  cases j with
  | string s => exact ⟨s, (Value.variant.inj h).symm⟩
  | _ => simp [readJson] at h

/-- The name that an enum field reads is a text of the record in its declared spelling, if it has
one. -/
theorem FieldConfig.read_variant {k : FieldConfig} {record : Json} {name : String}
    (h : k.read record = .variant name) :
    ∃ s, name = (declaredName? k.variants s).getD s := by
  unfold FieldConfig.read at h
  cases hj : record.get? k.name with
  | none => simp [hj] at h
  | some j =>
      rw [hj] at h
      exact TypeClass.readJson_variant h

end RecordQuery
