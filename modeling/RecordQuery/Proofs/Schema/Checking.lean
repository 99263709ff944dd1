import RecordQuery.Proofs.Reading
import RecordQuery.Schema

/-!
# Checking declarations

The declarations of fields are checked in order.  One that users may mention has a fault if nothing
reads it, else if it is an enum without names, and else if its key is that of an earlier one; any
other declaration passes.  The check ends well if all declarations pass, and else with the fault of
the first one that does not.

The default field is checked on its own: the first declaration of its name decides, whether that is
hidden or not.

A schema that is built has the fields of the declarations that are not hidden.  Their keys are all
different, so that every field is found under its own name, and its enums declare names.
-/

namespace RecordQuery

variable {ρ : Type}

/-! ## One declaration -/

namespace FieldDeclaration

/-- The key of a field that users may mention. -/
def key? (d : FieldDeclaration ρ) : Option String := d.queryName.map Text.lower

/-- Whether users may mention the field. -/
def isShown (d : FieldDeclaration ρ) : Bool := d.queryName.isSome

/-- A field that users may mention can be read, and declares names if it is an enum. -/
def Whole (d : FieldDeclaration ρ) : Prop :=
  d.isShown = true → d.read.isSome = true ∧ (d.typeClass = .enum → d.variants ≠ [])

/-- The declaration is whole, and its key is not taken. -/
structure Passes (taken : List String) (d : FieldDeclaration ρ) : Prop where
  whole : d.Whole
  fresh : ∀ key ∈ d.key?, key ∉ taken

end FieldDeclaration

/-- A declaration that passes is hidden, or it makes a field whose key is not taken. -/
theorem FieldDeclaration.Passes.hidden_or_field {taken : List String} {d : FieldDeclaration ρ}
    (h : d.Passes taken) :
    (d.queryName = none ∧ d.key? = none ∧ d.field? = none) ∨
      ∃ name read, d.queryName = some name ∧ d.read = some read ∧
        ¬ (d.typeClass = .enum ∧ d.variants = []) ∧ Text.lower name ∉ taken ∧
        d.key? = some (Text.lower name) ∧
        d.field? = some ⟨d.name, name, d.typeClass, d.variants, read⟩ := by
  cases hname : d.queryName with
  | none => exact .inl ⟨rfl, by simp [key?, hname], by simp [field?, hname]⟩
  | some name =>
      right
      obtain ⟨hread, henum⟩ := h.whole (by simp [isShown, hname])
      obtain ⟨read, hread⟩ := Option.isSome_iff_exists.mp hread
      have hkey : d.key? = some (Text.lower name) := by simp [key?, hname]
      exact ⟨name, read, rfl, hread, fun hnil => henum hnil.1 hnil.2, h.fresh _ hkey, hkey,
        by simp [field?, hname, hread]⟩

/-- The first fault of a declaration, `taken` being the keys of the declarations before it. -/
inductive FieldFault (entity : String) (taken : List String) (d : FieldDeclaration ρ) :
    SchemaError → Prop
  | unreadable {name : String} : d.queryName = some name → d.read = none →
      FieldFault entity taken d (.unreadable entity d.name)
  | withoutVariants {name : String} : d.queryName = some name → d.read.isSome = true →
      d.typeClass = .enum → d.variants = [] →
      FieldFault entity taken d (.enumWithoutVariants entity d.name)
  | duplicate {name : String} : d.queryName = some name → d.read.isSome = true →
      (d.typeClass = .enum → d.variants ≠ []) → Text.lower name ∈ taken →
      FieldFault entity taken d (.duplicateQueryName entity name)

/-- A declaration has a fault or passes. -/
theorem fault_or_passes (entity : String) (taken : List String) (d : FieldDeclaration ρ) :
    (∃ e, FieldFault entity taken d e) ∨ d.Passes taken := by
  cases hname : d.queryName with
  | none =>
      right
      constructor
      · simp [FieldDeclaration.Whole, FieldDeclaration.isShown, hname]
      · simp [FieldDeclaration.key?, hname]
  | some name =>
      cases hread : d.read with
      | none => exact .inl ⟨_, .unreadable hname hread⟩
      | some read =>
          have hsome : d.read.isSome = true := by rw [hread]; rfl
          by_cases hvariants : d.typeClass = .enum ∧ d.variants = []
          · exact .inl ⟨_, .withoutVariants hname hsome hvariants.1 hvariants.2⟩
          · have henum : d.typeClass = .enum → d.variants ≠ [] :=
              fun henum hnil => hvariants ⟨henum, hnil⟩
            by_cases htaken : Text.lower name ∈ taken
            · exact .inl ⟨_, .duplicate hname hsome henum htaken⟩
            · right
              constructor
              · exact fun _ => ⟨hsome, henum⟩
              · simpa [FieldDeclaration.key?, hname] using htaken

/-- Only which keys are taken matters to a fault. -/
theorem FieldFault.congr {entity : String} {taken taken' : List String} {d : FieldDeclaration ρ}
    {e : SchemaError} (h : FieldFault entity taken d e) (hkeys : ∀ key ∈ taken, key ∈ taken') :
    FieldFault entity taken' d e := by
  cases h with
  | unreadable hname hread => exact .unreadable hname hread
  | withoutVariants hname hread henum hnil => exact .withoutVariants hname hread henum hnil
  | duplicate hname hread henum htaken => exact .duplicate hname hread henum (hkeys _ htaken)

namespace SchemaDeclaration

variable {entity : String} {taken : List String} {d : FieldDeclaration ρ}
  {ds : List (FieldDeclaration ρ)} {e : SchemaError}

/-- The check ends with a declaration that has a fault. -/
theorem checkedFields_of_fault (h : FieldFault entity taken d e) (ds : List (FieldDeclaration ρ)) :
    checkedFields entity taken (d :: ds) = .error e := by
  cases h with
  | unreadable hname hread => simp only [checkedFields, hname, hread]
  | withoutVariants hname hread henum hnil =>
      obtain ⟨read, hread⟩ := Option.isSome_iff_exists.mp hread
      simp only [checkedFields, hname, hread, henum, hnil, and_self, if_true]
  | duplicate hname hread henum htaken =>
      obtain ⟨read, hread⟩ := Option.isSome_iff_exists.mp hread
      have hvariants : ¬ (d.typeClass = .enum ∧ d.variants = []) := fun h => henum h.1 h.2
      simp only [checkedFields, hname, hread, hvariants, if_false, Field.key, htaken, if_true]

/-- The check goes on behind a declaration that passes. -/
theorem checkedFields_of_passes (h : d.Passes taken) (ds : List (FieldDeclaration ρ)) :
    checkedFields entity taken (d :: ds) =
      (checkedFields entity (d.key?.toList ++ taken) ds).map (d.field?.toList ++ ·) := by
  rcases h.hidden_or_field with
    ⟨hname, hkey, hfield⟩ | ⟨name, read, hname, hread, hvariants, hfresh, hkey, hfield⟩
  · simp only [checkedFields, hname, hkey, hfield, Option.toList_none, List.nil_append]
    cases checkedFields entity taken ds <;> rfl
  · simp only [checkedFields, hname, hread, hvariants, if_false, Field.key, hfresh, hkey, hfield,
      Option.toList_some, List.cons_append, List.nil_append]

end SchemaDeclaration

/-! ## All declarations -/

/-- Every declaration is whole, the keys are different, and none of them is taken. -/
structure Sound (taken : List String) (ds : List (FieldDeclaration ρ)) : Prop where
  whole : ∀ d ∈ ds, d.Whole
  nodup : (ds.filterMap FieldDeclaration.key?).Nodup
  fresh : ∀ key ∈ ds.filterMap FieldDeclaration.key?, key ∉ taken

theorem sound_nil (taken : List String) : Sound taken ([] : List (FieldDeclaration ρ)) where
  whole := nofun
  nodup := List.nodup_nil
  fresh := nofun

/-- Where no key is taken, declarations are sound if they are whole and their keys are different. -/
theorem sound_iff_of_nil {ds : List (FieldDeclaration ρ)} :
    Sound [] ds ↔ (∀ d ∈ ds, d.Whole) ∧ (ds.filterMap FieldDeclaration.key?).Nodup := by
  constructor
  · exact fun h => ⟨h.whole, h.nodup⟩
  · exact fun h => ⟨h.1, h.2, fun _ _ => List.not_mem_nil⟩

theorem keys_cons (d : FieldDeclaration ρ) (ds : List (FieldDeclaration ρ)) :
    (d :: ds).filterMap FieldDeclaration.key? =
      d.key?.toList ++ ds.filterMap FieldDeclaration.key? := by
  rw [List.filterMap_cons]
  cases d.key? <;> rfl

/-- Declarations are sound if the first one passes and the others are sound behind it. -/
theorem sound_cons {taken : List String} {d : FieldDeclaration ρ}
    {ds : List (FieldDeclaration ρ)} :
    Sound taken (d :: ds) ↔ d.Passes taken ∧ Sound (d.key?.toList ++ taken) ds := by
  constructor
  · intro h
    have hwhole := List.forall_mem_cons.mp h.whole
    have hnodup := h.nodup
    have hfresh := h.fresh
    rw [keys_cons, List.nodup_append] at hnodup
    rw [keys_cons] at hfresh
    refine ⟨⟨hwhole.1, ?_⟩, hwhole.2, hnodup.2.1, ?_⟩
    · intro key hkey
      exact hfresh key (List.mem_append_left _ (Option.mem_toList.mpr hkey))
    · intro key hkey hmem
      rcases List.mem_append.mp hmem with hmem | hmem
      · exact hnodup.2.2 key hmem key hkey rfl
      · exact hfresh key (List.mem_append_right _ hkey) hmem
  · rintro ⟨hpasses, hsound⟩
    refine ⟨List.forall_mem_cons.mpr ⟨hpasses.whole, hsound.whole⟩, ?_, ?_⟩
    · rw [keys_cons, List.nodup_append]
      refine ⟨by cases d.key? <;> simp, hsound.nodup, ?_⟩
      rintro key hkey _ hkey' rfl
      exact hsound.fresh key hkey' (List.mem_append_left _ hkey)
    · intro key hkey
      rw [keys_cons] at hkey
      rcases List.mem_append.mp hkey with hkey | hkey
      · exact hpasses.fresh key (Option.mem_toList.mp hkey)
      · exact fun hmem => hsound.fresh key hkey (List.mem_append_right _ hmem)

namespace SchemaDeclaration

variable {entity : String} {taken : List String} {d : FieldDeclaration ρ}
  {ds : List (FieldDeclaration ρ)} {e : SchemaError}

/-- A declaration that passes has no fault. -/
theorem not_fault_of_passes (h : d.Passes taken) : ¬ FieldFault entity taken d e := by
  intro hfault
  have herror := checkedFields_of_fault hfault []
  rw [checkedFields_of_passes h] at herror
  cases herror

theorem fault_unique {e' : SchemaError} (h : FieldFault entity taken d e)
    (h' : FieldFault entity taken d e') : e = e' := by
  have herror := checkedFields_of_fault h []
  rw [checkedFields_of_fault h' []] at herror
  exact (Except.error.inj herror).symm

/-- **The check ends well** exactly if the declarations are sound. -/
theorem checkedFields_ok_iff (entity : String) :
    (∃ fields, checkedFields entity taken ds = .ok fields) ↔ Sound taken ds := by
  induction ds generalizing taken with
  | nil => exact iff_of_true ⟨[], rfl⟩ (sound_nil taken)
  | cons d ds ih =>
      rw [sound_cons]
      rcases fault_or_passes entity taken d with ⟨e, hfault⟩ | hpasses
      · apply iff_of_false
        · rintro ⟨fields, hfields⟩
          rw [checkedFields_of_fault hfault] at hfields
          cases hfields
        · exact fun h => not_fault_of_passes h.1 hfault
      · rw [checkedFields_of_passes hpasses, ← ih, and_iff_right hpasses]
        cases checkedFields entity (d.key?.toList ++ taken) ds with
        | error e => exact iff_of_false nofun nofun
        | ok fields => exact iff_of_true ⟨_, rfl⟩ ⟨_, rfl⟩

/-- **The check ends with a fault** exactly if it is that of a declaration behind sound ones. -/
theorem checkedFields_error_iff :
    checkedFields entity taken ds = .error e ↔
      ∃ front d back, ds = front ++ d :: back ∧ Sound taken front ∧
        FieldFault entity (front.filterMap FieldDeclaration.key? ++ taken) d e := by
  induction ds generalizing taken with
  | nil => simp [checkedFields]
  | cons d ds ih =>
      rcases fault_or_passes entity taken d with ⟨e', hfault⟩ | hpasses
      · rw [checkedFields_of_fault hfault]
        constructor
        · intro h
          cases h
          exact ⟨[], d, ds, rfl, sound_nil taken, hfault⟩
        · rintro ⟨front, d', back, hsplit, hsound, hfault'⟩
          cases front with
          | nil =>
              obtain ⟨rfl, rfl⟩ := List.cons.inj hsplit
              rw [fault_unique hfault hfault']
          | cons g front =>
              obtain ⟨rfl, rfl⟩ := List.cons.inj hsplit
              exact absurd hfault (not_fault_of_passes (sound_cons.mp hsound).1)
      · rw [checkedFields_of_passes hpasses, map_eq_error_iff, ih]
        constructor
        · rintro ⟨front, d', back, rfl, hsound, hfault⟩
          refine ⟨d :: front, d', back, rfl, sound_cons.mpr ⟨hpasses, hsound⟩, hfault.congr ?_⟩
          simp only [keys_cons, List.mem_append]
          exact fun key hkey => or_assoc.mpr (or_left_comm.mp hkey)
        · rintro ⟨front, d', back, hsplit, hsound, hfault⟩
          cases front with
          | nil =>
              obtain ⟨rfl, rfl⟩ := List.cons.inj hsplit
              exact absurd hfault (not_fault_of_passes hpasses)
          | cons g front =>
              obtain ⟨rfl, rfl⟩ := List.cons.inj hsplit
              refine ⟨front, d', back, rfl, (sound_cons.mp hsound).2, hfault.congr ?_⟩
              simp only [keys_cons, List.mem_append]
              exact fun key hkey => or_left_comm.mp (or_assoc.mp hkey)

/-! ## The default field -/

/-- The first declaration of a name. -/
def FirstNamed (d : SchemaDeclaration ρ) (name : String) (f : FieldDeclaration ρ) : Prop :=
  f.name = name ∧ ∃ front back, d.fields = front ++ f :: back ∧ ∀ g ∈ front, g.name ≠ name

theorem find?_eq_some_iff_firstNamed {d : SchemaDeclaration ρ} {name : String}
    {f : FieldDeclaration ρ} :
    d.fields.find? (fun f => f.name = name) = some f ↔ d.FirstNamed name f := by
  rw [List.find?_eq_some_iff_append]
  simp [FirstNamed]

/-- What is wrong with the default field. -/
inductive DefaultFault (d : SchemaDeclaration ρ) : SchemaError → Prop
  | notFound {name : String} : d.defaultField = some name → (∀ f ∈ d.fields, f.name ≠ name) →
      d.DefaultFault (.defaultFieldNotFound d.entity name)
  | unreadable {name : String} {f : FieldDeclaration ρ} : d.defaultField = some name →
      d.FirstNamed name f → f.read = none → d.DefaultFault (.unreadable d.entity name)
  | hidden {name : String} {f : FieldDeclaration ρ} : d.defaultField = some name →
      d.FirstNamed name f → f.read.isSome = true → f.queryName = none →
      d.DefaultFault (.defaultFieldNotQueryable d.entity name)

/-- There is no default field, or the first declaration of its name can be read and is not
hidden. -/
def DefaultUsable (d : SchemaDeclaration ρ) : Prop :=
  ∀ name, d.defaultField = some name →
    ∃ f, d.FirstNamed name f ∧ f.read.isSome = true ∧ f.isShown = true

section

variable {d : SchemaDeclaration ρ} {name : String} {f : FieldDeclaration ρ} {e : SchemaError}

/-- A default field is declared under its name or not. -/
theorem firstNamed_or_absent (d : SchemaDeclaration ρ) (name : String) :
    (∃ f, d.FirstNamed name f) ∨ ∀ f ∈ d.fields, f.name ≠ name := by
  cases hfind : d.fields.find? (fun f => f.name = name) with
  | none => exact .inr (by simpa using hfind)
  | some f => exact .inl ⟨f, find?_eq_some_iff_firstNamed.mp hfind⟩

theorem default_fault_or_usable (d : SchemaDeclaration ρ) :
    (∃ e, d.DefaultFault e) ∨ d.DefaultUsable := by
  cases hname : d.defaultField with
  | none =>
      right
      intro name h
      rw [hname] at h
      cases h
  | some name =>
      rcases d.firstNamed_or_absent name with ⟨f, hfirst⟩ | habsent
      · cases hread : f.read with
        | none => exact .inl ⟨_, .unreadable hname hfirst hread⟩
        | some read =>
            have hsome : f.read.isSome = true := by rw [hread]; rfl
            cases hquery : f.queryName with
            | none => exact .inl ⟨_, .hidden hname hfirst hsome hquery⟩
            | some queryName =>
                right
                intro other hother
                rw [hname] at hother
                cases hother
                exact ⟨f, hfirst, hsome, by simp [FieldDeclaration.isShown, hquery]⟩
      · exact .inl ⟨_, .notFound hname habsent⟩

theorem defaultQueryName_of_fault (h : d.DefaultFault e) : d.defaultQueryName = .error e := by
  unfold defaultQueryName
  cases h with
  | @notFound name hname habsent =>
      have hfind : d.fields.find? (fun f => f.name = name) = none := by simpa using habsent
      simp only [hname, hfind]
  | unreadable hname hfirst hread =>
      have hfind := find?_eq_some_iff_firstNamed.mpr hfirst
      simp only [hname, hfind, hread, Option.isNone_none, if_true]
  | hidden hname hfirst hread hquery =>
      obtain ⟨read, hread⟩ := Option.isSome_iff_exists.mp hread
      have hfind := find?_eq_some_iff_firstNamed.mpr hfirst
      simp [hname, hfind, hread, hquery]

/-- Without a default field there is no name for it. -/
theorem defaultQueryName_of_none (h : d.defaultField = none) : d.defaultQueryName = .ok none := by
  simp only [defaultQueryName, h]

/-- The default field is known by the query name of the first declaration of its name. -/
theorem defaultQueryName_of_first (hname : d.defaultField = some name)
    (hfirst : d.FirstNamed name f) (hread : f.read.isSome = true)
    (hshown : f.isShown = true) : d.defaultQueryName = .ok f.queryName := by
  obtain ⟨read, hread⟩ := Option.isSome_iff_exists.mp hread
  obtain ⟨queryName, hquery⟩ := Option.isSome_iff_exists.mp hshown
  have hfind := find?_eq_some_iff_firstNamed.mpr hfirst
  simp [defaultQueryName, hname, hfind, hread, hquery]

theorem exists_defaultQueryName_of_usable (h : d.DefaultUsable) :
    ∃ queryName, d.defaultQueryName = .ok queryName := by
  cases hname : d.defaultField with
  | none => exact ⟨none, defaultQueryName_of_none hname⟩
  | some name =>
      obtain ⟨f, hfirst, hread, hshown⟩ := h name hname
      exact ⟨f.queryName, defaultQueryName_of_first hname hfirst hread hshown⟩

/-- **The default field has a fault** exactly if its check ends with it. -/
theorem defaultQueryName_error_iff : d.defaultQueryName = .error e ↔ d.DefaultFault e := by
  constructor
  · intro h
    rcases d.default_fault_or_usable with ⟨e', hfault⟩ | husable
    · rw [defaultQueryName_of_fault hfault] at h
      cases h
      exact hfault
    · obtain ⟨queryName, hok⟩ := exists_defaultQueryName_of_usable husable
      rw [hok] at h
      cases h
  · exact defaultQueryName_of_fault

/-- **The default field can be used** exactly if its check ends well. -/
theorem defaultQueryName_ok_iff :
    (∃ queryName, d.defaultQueryName = .ok queryName) ↔ d.DefaultUsable := by
  constructor
  · rintro ⟨queryName, hok⟩
    rcases d.default_fault_or_usable with ⟨e, hfault⟩ | husable
    · rw [defaultQueryName_of_fault hfault] at hok
      cases hok
    · exact husable
  · exact exists_defaultQueryName_of_usable

end

end SchemaDeclaration

/-! ## Fields of schemas that are built -/

/-- The declaration that a field is made from. -/
def Field.declaration (f : Field ρ) : FieldDeclaration ρ :=
  ⟨f.name, some f.queryName, f.typeClass, f.variants, some f.read⟩

theorem FieldDeclaration.declaration_of_field? {d : FieldDeclaration ρ} {f : Field ρ}
    (h : d.field? = some f) : f.declaration = d := by
  obtain ⟨name, queryName, typeClass, variants, read⟩ := d
  cases queryName with
  | none => cases h
  | some queryName =>
      cases read with
      | none => cases h
      | some read =>
          cases h
          rfl

theorem fields_cons (d : FieldDeclaration ρ) (ds : List (FieldDeclaration ρ)) :
    (d :: ds).filterMap FieldDeclaration.field? =
      d.field?.toList ++ ds.filterMap FieldDeclaration.field? := by
  rw [List.filterMap_cons]
  cases d.field? <;> rfl

/-- The keys of fields are keys of their declarations. -/
theorem keys_sublist (ds : List (FieldDeclaration ρ)) :
    ((ds.filterMap FieldDeclaration.field?).map Field.key).Sublist
      (ds.filterMap FieldDeclaration.key?) := by
  induction ds with
  | nil => exact List.Sublist.refl []
  | cons d ds ih =>
      rw [fields_cons, keys_cons, List.map_append]
      refine List.Sublist.append ?_ ih
      cases hf : d.field? with
      | none => exact List.nil_sublist _
      | some f =>
          obtain rfl := FieldDeclaration.declaration_of_field? hf
          exact List.Sublist.refl [f.key]

namespace SchemaDeclaration

/-- Checked fields are made from the declarations that are not hidden. -/
theorem checkedFields_eq {entity : String} {taken : List String}
    {ds : List (FieldDeclaration ρ)} {fields : List (Field ρ)}
    (h : checkedFields entity taken ds = .ok fields) :
    fields = ds.filterMap FieldDeclaration.field? := by
  induction ds generalizing taken fields with
  | nil =>
      cases h
      rfl
  | cons d ds ih =>
      rcases fault_or_passes entity taken d with ⟨e, hfault⟩ | hpasses
      · rw [checkedFields_of_fault hfault] at h
        cases h
      · rw [checkedFields_of_passes hpasses] at h
        cases hrest : checkedFields entity (d.key?.toList ++ taken) ds with
        | error e =>
            rw [hrest] at h
            cases h
        | ok rest =>
            rw [hrest] at h
            cases h
            rw [ih hrest, fields_cons]

section

variable {d : SchemaDeclaration ρ} {schema : Schema ρ} (h : d.build = .ok schema)

include h

/-- A schema is built from a default field and checked fields. -/
theorem build_eq_ok :
    ∃ defaultName, d.defaultQueryName = .ok defaultName ∧
      checkedFields d.entity [] d.fields = .ok schema.fields ∧
      schema = ⟨d.entity, schema.fields,
        defaultName.bind fun name => schema.fields.find? (·.key = Text.lower name)⟩ := by
  obtain ⟨defaultName, hdefault, h⟩ := bind_eq_ok_iff.mp h
  obtain ⟨fields, hfields, h⟩ := bind_eq_ok_iff.mp h
  cases h
  exact ⟨defaultName, hdefault, hfields, rfl⟩

/-- The fields of a schema are made from the declarations that are not hidden. -/
theorem build_fields : schema.fields = d.fields.filterMap FieldDeclaration.field? := by
  obtain ⟨-, -, hfields, -⟩ := build_eq_ok h
  exact checkedFields_eq hfields

theorem sound_of_build : Sound [] d.fields := by
  obtain ⟨-, -, hfields, -⟩ := build_eq_ok h
  exact (checkedFields_ok_iff d.entity).mp ⟨_, hfields⟩

/-- **The keys of a schema are different.** -/
theorem nodup_keys : (schema.fields.map Field.key).Nodup := by
  rw [build_fields h]
  exact (sound_of_build h).nodup.sublist (keys_sublist d.fields)

/-- **The enums of a schema declare names.** -/
theorem variants_ne_nil {f : Field ρ} (hf : f ∈ schema.fields) (henum : f.typeClass = .enum) :
    f.variants ≠ [] := by
  rw [build_fields h] at hf
  obtain ⟨g, hg, hgf⟩ := List.mem_filterMap.mp hf
  obtain rfl := FieldDeclaration.declaration_of_field? hgf
  exact ((sound_of_build h).whole _ hg rfl).2 henum

end

end SchemaDeclaration

/-- A field whose key no other field has is found under its own name. -/
theorem Schema.field?_of_mem {schema : Schema ρ} (hnodup : (schema.fields.map Field.key).Nodup)
    {f : Field ρ} (hf : f ∈ schema.fields) : schema.field? f.queryName = some f := by
  unfold Schema.field?
  generalize schema.fields = fields at hnodup hf
  induction fields with
  | nil => cases hf
  | cons g fields ih =>
      rw [List.map_cons, List.nodup_cons] at hnodup
      rcases List.mem_cons.mp hf with rfl | hf
      · rw [List.find?_cons_of_pos (by simp [Field.key])]
      · have hkey : g.key ≠ Text.lower f.queryName := by
          intro heq
          exact hnodup.1 (List.mem_map.mpr ⟨f, hf, heq.symm⟩)
        rw [List.find?_cons_of_neg (by simpa using hkey)]
        exact ih hnodup.2 hf

/-- **Every field of a schema is found under its own name.** -/
theorem SchemaDeclaration.field?_queryName {d : SchemaDeclaration ρ} {schema : Schema ρ}
    (h : d.build = .ok schema) {f : Field ρ} (hf : f ∈ schema.fields) :
    schema.field? f.queryName = some f :=
  Schema.field?_of_mem (nodup_keys h) hf

end RecordQuery
