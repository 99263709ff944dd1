import RecordQuery.Proofs.Schema.Checking
import RecordQuery.Schema

/-!
# What building a schema amounts to

A declaration makes a schema exactly if its default field can be used and its fields are sound; the
schema then has the fields that are not hidden, in their order, each found under its own name in any
case and under no other, and the default field is the one that was named.  Any other declaration has
a first fault, with which the building ends: that of the default field, or else that of the first
declaration that does not pass.

The fields are collected in one pass, in which the places of their keys are kept next to them.  What
a registry has to keep together are three things: the fields, the places of their keys and the place
of the default field.  While it is filled, the place that is stored for a key is always that of the
first field with the key, and no stored place is out of range.  So a lookup by places finds what a
search finds, and the registry of a declaration is that of its schema.
-/

namespace RecordQuery

/-! ## Consistent places -/

variable {ρ : Type}

namespace FieldIndex

/-- The place that is stored for a key is that of the first field with the key, and no stored place
is out of range. -/
structure Consistent (index : FieldIndex ρ) : Prop where
  place?_eq : ∀ key, index.place? key = index.fields.toList.findIdx? (·.key = key)
  places_lt : ∀ entry ∈ index.places, entry.2 < index.fields.size

variable {index : FieldIndex ρ} {f : Field ρ} {d : FieldDeclaration ρ} {entity : String}

theorem consistent_empty : (empty : FieldIndex ρ).Consistent where
  place?_eq _ := rfl
  places_lt := nofun

theorem place?_add (index : FieldIndex ρ) (f : Field ρ) (key : String) :
    (index.add f).place? key =
      if f.key = key then some index.fields.size else index.place? key := by
  rw [place?, add, List.lookup_cons]
  by_cases hkey : f.key = key
  · rw [if_pos hkey, hkey, beq_self_eq_true]
  · rw [if_neg hkey, beq_eq_false_iff_ne.mpr (Ne.symm hkey)]
    rfl

/-- **A field whose key has no place may be added.** -/
theorem Consistent.add (h : index.Consistent) (hfree : index.place? f.key = none) :
    (index.add f).Consistent where
  place?_eq key := by
    have hfields : (index.add f).fields.toList = index.fields.toList ++ [f] := Array.toList_push
    rw [place?_add, hfields, List.findIdx?_append, ← h.place?_eq key, List.findIdx?_singleton]
    by_cases hkey : f.key = key
    · subst hkey
      simp [hfree]
    · simp [hkey]
  places_lt := by
    have hsize : (index.add f).fields.size = index.fields.size + 1 := Array.size_push f
    rw [hsize]
    intro entry hentry
    rcases List.mem_cons.mp hentry with rfl | hentry
    · exact Nat.lt_succ_self _
    · exact Nat.lt_succ_of_lt (h.places_lt entry hentry)

/-- The field at the place of a key is the one that a search for the key finds. -/
theorem Consistent.place?_bind (h : index.Consistent) (key : String) :
    (index.place? key).bind (fun place => index.fields[place]?) =
      index.fields.toList.find? (·.key = key) := by
  rw [h.place?_eq, List.find?_eq_bind_findIdx?_getElem?]
  simp only [Array.getElem?_toList]

/-- The place of a key is in range. -/
theorem Consistent.lt_of_place? {key : String} {place : Nat} (h : index.Consistent)
    (hplace : index.place? key = some place) : place < index.fields.size := by
  rw [h.place?_eq, List.findIdx?_eq_some_iff_getElem] at hplace
  exact hplace.1

/-! ## Declarations -/

/-- The keys that have a place are those that are taken. -/
def Takes (index : FieldIndex ρ) (taken : List String) : Prop :=
  ∀ key, (index.place? key).isSome = true ↔ key ∈ taken

theorem takes_empty : (empty : FieldIndex ρ).Takes [] := by
  intro key
  exact iff_of_false Bool.false_ne_true List.not_mem_nil

theorem Takes.add {taken : List String} (h : index.Takes taken) (f : Field ρ) :
    (index.add f).Takes (f.key :: taken) := by
  intro key
  rw [place?_add, List.mem_cons, ← h key]
  by_cases hkey : f.key = key
  · simp [hkey]
  · simp [hkey, Ne.symm hkey]

/-- The pass stops at a declaration that has a fault. -/
theorem declare_of_fault {taken : List String} {e : SchemaError} (h : index.Takes taken)
    (hfault : FieldFault entity taken d e) : declare entity index d = .error e := by
  cases hfault with
  | unreadable hname hread => simp only [declare, hname, hread]
  | withoutVariants hname hread henum hnil =>
      obtain ⟨read, hread⟩ := Option.isSome_iff_exists.mp hread
      simp only [declare, hname, hread, henum, hnil, and_self, if_true]
  | duplicate hname hread henum htaken =>
      obtain ⟨read, hread⟩ := Option.isSome_iff_exists.mp hread
      have hvariants : ¬ (d.typeClass = .enum ∧ d.variants = []) := fun h => henum h.1 h.2
      simp only [declare, hname, hread, hvariants, if_false, (h _).mpr htaken, if_true]

/-- A declaration that passes adds its field, if it is not hidden. -/
theorem declare_of_passes (entity : String) {taken : List String} (h : index.Takes taken)
    (hpasses : d.Passes taken) :
    declare entity index d = .ok (d.field?.elim index index.add) ∧
      (d.field?.elim index index.add).Takes (d.key?.toList ++ taken) := by
  rcases hpasses.hidden_or_field with
    ⟨hname, hkey, hfield⟩ | ⟨name, read, hname, hread, hvariants, hfresh, hkey, hfield⟩
  · simp only [declare, hname, hkey, hfield]
    exact ⟨rfl, h⟩
  · have hfree : ¬ (index.place? (Text.lower name)).isSome = true := fun hsome =>
      hfresh ((h _).mp hsome)
    simp only [declare, hname, hread, hvariants, if_false, hfree, hkey, hfield]
    exact ⟨rfl, h.add _⟩

/-- **One declaration** leaves an index consistent. -/
theorem Consistent.declare {index' : FieldIndex ρ} (h : index.Consistent)
    (hdeclare : declare entity index d = .ok index') : index'.Consistent := by
  unfold FieldIndex.declare at hdeclare
  split at hdeclare
  · cases hdeclare
    exact h
  · cases hdeclare
  · split at hdeclare
    · cases hdeclare
    · split at hdeclare
      · cases hdeclare
      · rename_i hfree
        cases hdeclare
        exact h.add (Option.not_isSome_iff_eq_none.mp hfree)

/-- **All declarations** leave an index consistent. -/
theorem Consistent.run {ds : List (FieldDeclaration ρ)} {index' : FieldIndex ρ}
    (h : index.Consistent) (hrun : ds.foldlM (FieldIndex.declare entity) index = .ok index') :
    index'.Consistent := by
  induction ds generalizing index with
  | nil =>
      cases hrun
      exact h
  | cons d ds ih =>
      rw [List.foldlM_cons, bind_eq_ok_iff] at hrun
      obtain ⟨next, hdeclare, hrun⟩ := hrun
      exact ih (h.declare hdeclare) hrun

/-- **The pass collects the fields that the check does**, or stops at the same fault. -/
theorem foldlM_declare (entity : String) {taken : List String} (ds : List (FieldDeclaration ρ))
    (h : index.Takes taken) :
    (ds.foldlM (declare entity) index).map (fun index => index.fields.toList) =
      (SchemaDeclaration.checkedFields entity taken ds).map (index.fields.toList ++ ·) := by
  induction ds generalizing index taken with
  | nil => simp [SchemaDeclaration.checkedFields, Except.map]
  | cons d ds ih =>
      rw [List.foldlM_cons]
      rcases fault_or_passes entity taken d with ⟨e, hfault⟩ | hpasses
      · rw [declare_of_fault h hfault, SchemaDeclaration.checkedFields_of_fault hfault]
        rfl
      · obtain ⟨hdeclare, htakes⟩ := declare_of_passes entity h hpasses
        rw [hdeclare, ok_bind, ih htakes, SchemaDeclaration.checkedFields_of_passes hpasses]
        have hfields (rest : List (Field ρ)) :
            (d.field?.elim index index.add).fields.toList ++ rest =
              index.fields.toList ++ (d.field?.toList ++ rest) := by
          cases d.field? with
          | none => rfl
          | some f => simp [add]
        cases SchemaDeclaration.checkedFields entity (d.key?.toList ++ taken) ds with
        | error e => rfl
        | ok rest => exact congrArg Except.ok (hfields rest)

end FieldIndex

/-! ## Registries -/

/-- Every stored place is in range, and lookups by places find what searches find. -/
structure Registry.Consistent (r : Registry ρ) : Prop where
  places_lt : ∀ entry ∈ r.index.places, entry.2 < r.index.fields.size
  default_lt : ∀ place, r.defaultPlace = some place → place < r.index.fields.size
  field?_eq : ∀ name, r.field? name = r.schema.field? name
  contains_eq : ∀ name, r.contains name = r.schema.contains name

namespace SchemaDeclaration

/-- **The registry of a declaration is that of its schema.** -/
theorem register_schema (d : SchemaDeclaration ρ) : d.register.map Registry.schema = d.build := by
  unfold register build
  cases d.defaultQueryName with
  | error e => rfl
  | ok defaultName =>
      have hcollect := FieldIndex.foldlM_declare d.entity d.fields FieldIndex.takes_empty
      show (d.fields.foldlM (FieldIndex.declare d.entity) .empty >>= _).map _ =
        checkedFields d.entity [] d.fields >>= _
      cases hrun : d.fields.foldlM (FieldIndex.declare d.entity) .empty with
      | error e =>
          rw [hrun] at hcollect
          rw [map_eq_error_iff.mp hcollect.symm]
          rfl
      | ok index =>
          have hindex : index.Consistent := FieldIndex.consistent_empty.run hrun
          have hchecked : checkedFields d.entity [] d.fields = .ok index.fields.toList := by
            rw [hrun] at hcollect
            cases hfields : checkedFields d.entity [] d.fields with
            | error e => rw [hfields] at hcollect; cases hcollect
            | ok fields =>
                rw [hfields] at hcollect
                exact hcollect.symm
          have hdefault : (defaultName.bind fun name => index.place? (Text.lower name)).bind
              (fun place => index.fields[place]?) =
              defaultName.bind fun name => index.fields.toList.find? (·.key = Text.lower name) := by
            cases defaultName with
            | none => rfl
            | some name => exact hindex.place?_bind (Text.lower name)
          rw [hchecked]
          exact congrArg (fun f => Except.ok (⟨d.entity, index.fields.toList, f⟩ : Schema ρ))
            hdefault

/-- **The registry of a declaration is consistent.** -/
theorem consistent_of_register {d : SchemaDeclaration ρ} {r : Registry ρ}
    (h : d.register = .ok r) : r.Consistent := by
  obtain ⟨defaultName, -, h⟩ := bind_eq_ok_iff.mp h
  obtain ⟨index, hrun, h⟩ := bind_eq_ok_iff.mp h
  have hindex : index.Consistent := FieldIndex.consistent_empty.run hrun
  cases h
  have hfield (name : String) := hindex.place?_bind (Text.lower name)
  refine ⟨hindex.places_lt, ?_, hfield, ?_⟩
  · intro place hplace
    obtain ⟨name, -, hplace⟩ := Option.bind_eq_some_iff.mp hplace
    exact hindex.lt_of_place? hplace
  · intro name
    show (index.place? (Text.lower name)).isSome = (index.fields.toList.find? _).isSome
    rw [← hfield name]
    cases hplace : index.place? (Text.lower name) with
    | none => rfl
    | some place => simp [hindex.lt_of_place? hplace]

end SchemaDeclaration

/-! ## Fields and their declarations -/

/-- A field that users may mention is made from its declaration if that is whole. -/
theorem FieldDeclaration.Whole.exists_field? {d : FieldDeclaration ρ} (h : d.Whole)
    (hshown : d.isShown = true) : ∃ f, d.field? = some f := by
  obtain ⟨read, hread⟩ := Option.isSome_iff_exists.mp (h hshown).1
  obtain ⟨queryName, hquery⟩ := Option.isSome_iff_exists.mp hshown
  exact ⟨⟨d.name, queryName, d.typeClass, d.variants, read⟩, by
    simp [FieldDeclaration.field?, hquery, hread]⟩

/-- Whole declarations make fields unless they are hidden. -/
theorem declarations_of_whole {ds : List (FieldDeclaration ρ)} (h : ∀ d ∈ ds, d.Whole) :
    (ds.filterMap FieldDeclaration.field?).map Field.declaration =
      ds.filter FieldDeclaration.isShown := by
  induction ds with
  | nil => rfl
  | cons d ds ih =>
      obtain ⟨hd, hds⟩ := List.forall_mem_cons.mp h
      by_cases hshown : d.isShown = true
      · obtain ⟨f, hf⟩ := hd.exists_field? hshown
        rw [List.filterMap_cons_some hf, List.map_cons, ih hds, List.filter_cons, if_pos hshown,
          FieldDeclaration.declaration_of_field? hf]
      · have hnone : d.queryName = none := Option.not_isSome_iff_eq_none.mp hshown
        have hf : d.field? = none := by simp [FieldDeclaration.field?, hnone]
        rw [List.filterMap_cons_none hf, ih hds, List.filter_cons, if_neg hshown]

namespace SchemaDeclaration

variable {d : SchemaDeclaration ρ} {schema : Schema ρ} {e : SchemaError}

/-- What a schema has of its declaration: the fields that are not hidden in their order, a lookup by
names in any case, and the default field. -/
structure Describes (d : SchemaDeclaration ρ) (schema : Schema ρ) : Prop where
  entity : schema.entity = d.entity
  fields : schema.fields.map Field.declaration = d.fields.filter FieldDeclaration.isShown
  field?_iff : ∀ name f, schema.field? name = some f ↔
    f ∈ schema.fields ∧ Text.lower name = Text.lower f.queryName
  contains_iff : ∀ name, schema.contains name = true ↔
    ∃ f ∈ schema.fields, Text.lower name = Text.lower f.queryName
  default_none : d.defaultField = none → schema.defaultField = none
  default_some : ∀ name, d.defaultField = some name →
    ∃ f ∈ schema.fields, schema.defaultField = some f ∧ d.FirstNamed name f.declaration

/-- What is wrong with a declaration first: its default field has a fault, or else a field behind
sound ones has one. -/
inductive FirstFault (d : SchemaDeclaration ρ) : SchemaError → Prop
  | ofDefault {e : SchemaError} : d.DefaultFault e → d.FirstFault e
  | ofField {front back : List (FieldDeclaration ρ)} {f : FieldDeclaration ρ} {e : SchemaError} :
      d.DefaultUsable → d.fields = front ++ f :: back → Sound [] front →
      FieldFault d.entity (front.filterMap FieldDeclaration.key?) f e → d.FirstFault e

/-! ## Outcomes -/

/-- **A schema is built** exactly if the default field can be used and the fields are sound. -/
theorem build_ok_iff :
    (∃ schema, d.build = .ok schema) ↔ d.DefaultUsable ∧ Sound [] d.fields := by
  rw [← defaultQueryName_ok_iff, ← checkedFields_ok_iff d.entity]
  constructor
  · rintro ⟨schema, h⟩
    obtain ⟨defaultName, hdefault, hfields, -⟩ := build_eq_ok h
    exact ⟨⟨defaultName, hdefault⟩, schema.fields, hfields⟩
  · rintro ⟨⟨defaultName, hdefault⟩, fields, hfields⟩
    rw [build, hdefault, ok_bind, hfields]
    exact ⟨_, rfl⟩

/-- **The building ends with a fault** exactly if that is the first one. -/
theorem build_error_iff : d.build = .error e ↔ d.FirstFault e := by
  rw [build, bind_eq_error_iff, defaultQueryName_error_iff]
  constructor
  · rintro (hfault | ⟨defaultName, hdefault, h⟩)
    · exact .ofDefault hfault
    · rcases bind_eq_error_iff.mp h with hchecked | ⟨fields, -, h⟩
      · obtain ⟨front, f, back, hfields, hsound, hfault⟩ := checkedFields_error_iff.mp hchecked
        rw [List.append_nil] at hfault
        exact .ofField (defaultQueryName_ok_iff.mp ⟨defaultName, hdefault⟩) hfields hsound hfault
      · cases h
  · intro h
    cases h with
    | ofDefault hfault => exact .inl hfault
    | ofField husable hfields hsound hfault =>
        right
        obtain ⟨defaultName, hdefault⟩ := defaultQueryName_ok_iff.mpr husable
        rw [← List.append_nil (List.filterMap _ _)] at hfault
        have hchecked := checkedFields_error_iff.mpr ⟨_, _, _, hfields, hsound, hfault⟩
        exact ⟨defaultName, hdefault, bind_eq_error_iff.mpr (.inl hchecked)⟩

/-! ## Schemas -/

/-- Only the field with the key of a name is found under it. -/
theorem field?_iff_of_build (h : d.build = .ok schema) (name : String) (f : Field ρ) :
    schema.field? name = some f ↔
      f ∈ schema.fields ∧ Text.lower name = Text.lower f.queryName := by
  constructor
  · intro hfound
    obtain ⟨hmem, hkey⟩ := Schema.field?_eq_some hfound
    exact ⟨hmem, hkey.symm⟩
  · rintro ⟨hmem, hkey⟩
    rw [schema.field?_congr hkey]
    exact field?_queryName h hmem

/-- The default field is the one that the first declaration of its name makes. -/
theorem default_of_build (h : d.build = .ok schema) {name : String}
    (hname : d.defaultField = some name) :
    ∃ f ∈ schema.fields, schema.defaultField = some f ∧ d.FirstNamed name f.declaration := by
  obtain ⟨husable, hsound⟩ := build_ok_iff.mp ⟨schema, h⟩
  obtain ⟨f, hfirst, hread, hshown⟩ := husable name hname
  obtain ⟨defaultName, hdefault, -, hschema⟩ := build_eq_ok h
  rw [defaultQueryName_of_first hname hfirst hread hshown] at hdefault
  cases hdefault
  obtain ⟨front, back, hfields, -⟩ := hfirst.2
  have hmem : f ∈ d.fields := by
    rw [hfields]
    exact List.mem_append_right _ List.mem_cons_self
  obtain ⟨g, hg⟩ := (hsound.whole f hmem).exists_field? hshown
  have hdeclared := FieldDeclaration.declaration_of_field? hg
  have hmade : g ∈ schema.fields := by
    rw [build_fields h]
    exact List.mem_filterMap.mpr ⟨f, hmem, hg⟩
  refine ⟨g, hmade, ?_, by rwa [hdeclared]⟩
  have hfound : schema.fields.find? (·.key = Text.lower g.queryName) = some g :=
    field?_queryName h hmade
  rw [hschema, ← hdeclared]
  exact hfound

/-- **What is built** is described by the declaration. -/
theorem describes_of_build (h : d.build = .ok schema) : d.Describes schema where
  entity := by
    obtain ⟨_, -, -, hschema⟩ := build_eq_ok h
    rw [hschema]
  fields := by
    rw [build_fields h]
    exact declarations_of_whole (sound_of_build h).whole
  field?_iff := field?_iff_of_build h
  contains_iff name := by
    rw [Schema.contains, Option.isSome_iff_exists]
    exact exists_congr (field?_iff_of_build h name)
  default_none hnone := by
    obtain ⟨defaultName, hdefault, -, hschema⟩ := build_eq_ok h
    rw [defaultQueryName_of_none hnone] at hdefault
    cases hdefault
    rw [hschema]
    rfl
  default_some _ hname := default_of_build h hname

/-- **Building is exact.**  A schema is built if and only if the default field, if there is one, can
be used, every declaration is whole, and the keys of those that are not hidden are different.  What
is built is described by the declaration.  Anything else ends with the first fault.  And the pass
over the declarations that keeps places builds the same or ends with the same fault; what it builds
has no place out of range, and finds by places what a search finds. -/
theorem build_exact (d : SchemaDeclaration ρ) :
    ((∃ schema, d.build = .ok schema) ↔
      d.DefaultUsable ∧ (∀ f ∈ d.fields, f.Whole) ∧
        (d.fields.filterMap FieldDeclaration.key?).Nodup) ∧
    (∀ schema, d.build = .ok schema → d.Describes schema) ∧
    (∀ e, d.build = .error e ↔ d.FirstFault e) ∧
    d.register.map Registry.schema = d.build ∧
    ∀ r, d.register = .ok r → r.Consistent := by
  refine ⟨?_, fun schema h => describes_of_build h, fun e => build_error_iff, d.register_schema,
    fun r h => consistent_of_register h⟩
  rw [build_ok_iff, sound_iff_of_nil]

end SchemaDeclaration

/-! ## Playlists -/

namespace Playlists

def text (name queryName : String) : FieldDeclaration String :=
  ((FieldDeclaration.named name .string).withQueryName queryName).readBy .string

/-- A hidden enum without names that nothing reads, and two declarations of one name. -/
def declaration : SchemaDeclaration String where
  entity := "playlist"
  fields :=
    [(FieldDeclaration.named "checksum" .enum).hidden, text "title" "Künstler",
      text "title" "title"]
  defaultField := some "title"

def artist : Field String := ⟨"title", "Künstler", .string, [], .string⟩

def title : Field String := ⟨"title", "title", .string, [], .string⟩

def schema : Schema String := ⟨"playlist", [artist, title], some artist⟩

/-- One more field under a name that differs from another one in case. -/
def clashing : SchemaDeclaration String := declaration.withField (text "singer" "KÜNSTLER")

theorem build_declaration : declaration.build = .ok schema := rfl

theorem firstFault_clashing :
    clashing.FirstFault (.duplicateQueryName "playlist" "KÜNSTLER") := by
  have husable : clashing.DefaultUsable := by
    intro name hname
    cases hname
    refine ⟨text "title" "Künstler", ⟨rfl, [_], _, rfl, ?_⟩, rfl, rfl⟩
    simp [FieldDeclaration.hidden, FieldDeclaration.named]
  have hsound : Sound [] declaration.fields :=
    SchemaDeclaration.sound_of_build build_declaration
  have hlower : Text.lowerChars "KÜNSTLER".toList = Text.lowerChars "Künstler".toList := by decide
  have htaken : Text.lower "KÜNSTLER" ∈ [Text.lower "Künstler", Text.lower "title"] :=
    List.mem_cons.mpr (.inl (congrArg String.ofList hlower))
  exact .ofField husable rfl hsound (.duplicate rfl rfl nofun htaken)

end Playlists

theorem build_exact_playlists :
    Playlists.declaration.build = .ok Playlists.schema ∧
    Playlists.declaration.Describes Playlists.schema ∧
    (∃ r, Playlists.declaration.register = .ok r ∧ r.Consistent) ∧
    Playlists.clashing.FirstFault (.duplicateQueryName "playlist" "KÜNSTLER") ∧
    Playlists.clashing.build = .error (.duplicateQueryName "playlist" "KÜNSTLER") := by
  obtain ⟨-, hdescribes, -, -, hconsistent⟩ := SchemaDeclaration.build_exact Playlists.declaration
  obtain ⟨-, -, hfault, -⟩ := SchemaDeclaration.build_exact Playlists.clashing
  obtain ⟨r, hregister⟩ : ∃ r, Playlists.declaration.register = .ok r := ⟨_, rfl⟩
  exact ⟨Playlists.build_declaration, hdescribes _ Playlists.build_declaration,
    ⟨r, hregister, hconsistent r hregister⟩, Playlists.firstFault_clashing,
    (hfault _).mpr Playlists.firstFault_clashing⟩

end RecordQuery
