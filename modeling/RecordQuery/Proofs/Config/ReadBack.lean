import RecordQuery.Config
import RecordQuery.Proofs.Json.TextReadBack

/-!
# Configurations read back

A configuration is written without the keys whose values are absent or empty, and the reader takes a
key that is not there for exactly such a value; all other keys are written, also where they have a
default.  So a configuration is read back from its JSON as it is, whatever its names are.  It nests
four deep, far from where the reader gives up, so it is read back from its text as well.

A text may hold a configuration in another form: with blanks, with its keys in another order, with
defaults written out or left out, with the other name of a class, or as an array.  What is read from
it is a configuration like any other, and its own text is the canonical form.
-/

namespace RecordQuery

namespace Config

/-! ## Keys that may be left out -/

/-- The members of those keys that have a value. -/
def present (entries : List (String × Option Json)) : List (String × Json) :=
  entries.filterMap fun (key, j?) => j?.map fun j => (key, j)

variable {entries : List (String × Option Json)} {key : String} {j? : Option Json}

theorem present_cons (key : String) (j? : Option Json) (entries : List (String × Option Json)) :
    present ((key, j?) :: entries) = (j?.map fun j => (key, j)).toList ++ present entries := by
  cases j? <;> rfl

theorem keys_present_sublist (entries : List (String × Option Json)) :
    ((present entries).map Prod.fst).Sublist (entries.map Prod.fst) := by
  induction entries with
  | nil => exact .slnil
  | cons entry entries ih =>
      obtain ⟨key, j?⟩ := entry
      rw [present_cons]
      cases j? with
      | none => exact ih.cons _
      | some j => exact ih.cons_cons _

/-- The reader finds no fault with the keys. -/
theorem members?_present (hnodup : (entries.map Prod.fst).Nodup) :
    members? (entries.map Prod.fst) (.object (present entries)) = some (present entries) := by
  have hsublist := keys_present_sublist entries
  have hknown : (present entries).all (fun m => (entries.map Prod.fst).contains m.1) = true := by
    rw [List.all_eq_true]
    intro m hm
    exact List.contains_iff_mem.mpr (hsublist.subset (List.mem_map_of_mem hm))
  have honce : ((present entries).map Prod.fst).Nodup := hnodup.sublist hsublist
  rw [members?, hknown, if_pos (by simpa using honce)]

theorem lookup_present_of_not_mem (h : key ∉ entries.map Prod.fst) :
    Json.lookup key (present entries) = none := by
  induction entries with
  | nil => rfl
  | cons entry entries ih =>
      obtain ⟨k, j?⟩ := entry
      rw [List.map_cons, List.mem_cons, not_or] at h
      rw [present_cons, Json.lookup_append, ih h.2, Option.none_or]
      cases j? with
      | none => rfl
      | some j => exact if_neg (Ne.symm h.1)

/-- What is written under a key is found there, and nothing is found under a key left out. -/
theorem lookup_present (hnodup : (entries.map Prod.fst).Nodup) (h : (key, j?) ∈ entries) :
    Json.lookup key (present entries) = j? := by
  induction entries with
  | nil => cases h
  | cons entry entries ih =>
      obtain ⟨first, value?⟩ := entry
      rw [List.map_cons, List.nodup_cons] at hnodup
      rcases List.mem_cons.mp h with heq | hmem
      · obtain ⟨rfl, rfl⟩ := Prod.mk.inj heq
        rw [present_cons, Json.lookup_append, lookup_present_of_not_mem hnodup.1, Option.none_or]
        cases j? with
        | none => rfl
        | some j => exact if_pos rfl
      · have hother : first ≠ key := by
          rintro rfl
          exact hnodup.1 (List.mem_map.mpr ⟨_, hmem, rfl⟩)
        have hfirst : Json.lookup key (value?.map fun j => (first, j)).toList = none := by
          cases value? with
          | none => rfl
          | some j => exact if_neg hother
        rw [present_cons, Json.lookup_append, ih hnodup.2 hmem, hfirst, Option.or_none]

/-- **What is found under a key** is read, and a key left out stands for its default. -/
theorem field?_present {α : Type} (hnodup : (entries.map Prod.fst).Nodup) (i : Nat)
    (h : entries[i]? = some (key, j?)) (read? : Json → Option α) (otherwise : Option α) :
    field? (present entries) key read? otherwise = (j?.map read?).getD otherwise := by
  rw [field?, lookup_present hnodup (List.mem_of_getElem? h)]
  cases j? <;> rfl

/-- An object nests one deeper than what is written in it. -/
theorem fits_present {depth : Nat} (h : ∀ entry ∈ entries, ∀ j ∈ entry.2, j.Fits depth) :
    (Json.object (present entries)).Fits (depth + 1) := by
  refine .object fun m hm => ?_
  obtain ⟨entry, hentry, hwritten⟩ := List.mem_filterMap.mp hm
  obtain ⟨j, hj, rfl⟩ := Option.map_eq_some_iff.mp hwritten
  exact h entry hentry j hj

/-! ## Shapes -/

/-- A sequence is read back if each of its parts is. -/
theorem mapM_map {α β : Type} (write : α → β) (read? : β → Option α)
    (h : ∀ a, read? (write a) = some a) (as : List α) : (as.map write).mapM read? = some as := by
  induction as with
  | nil => rfl
  | cons a as ih => simp [h, ih]

/-- A class is known by its name. -/
theorem class?_name (cls : TypeClass) : class? (.string cls.name) = some cls := by
  cases cls <;> rfl

/-- Null is not written, but the default of an absent text is the same as null. -/
theorem nullable?_string (s? : Option String) :
    ((s?.map Json.string).map nullable?).getD (some none) = some s? := by
  cases s? <;> rfl

end Config

namespace FieldConfig

/-- The keys of a field configuration with what is written under them. -/
def entries (f : FieldConfig) : List (String × Option Json) :=
  [("name", some (.string f.name)), ("query_name", f.queryName.map .string),
    ("type", some (.string f.typeClass.name)),
    ("variants", if f.variants.isEmpty then none else some (.array (f.variants.map .string))),
    ("queryable", some (.bool f.queryable)), ("readable", some (.bool f.readable))]

theorem toJson_eq (f : FieldConfig) : f.toJson = .object (Config.present f.entries) := by
  unfold toJson entries
  cases f.queryName <;> cases f.variants.isEmpty <;> rfl

/-- No variants are written as nothing, and nothing is read as no variants. -/
theorem variants_read_back (variants : List String) :
    (((if variants.isEmpty then none else some (Json.array (variants.map .string))).map
      Config.strings?).getD (some [])) = some variants := by
  cases variants with
  | nil => rfl
  | cons v vs => exact Config.mapM_map Json.string Config.string? (fun _ => rfl) (v :: vs)

theorem nodup_entries (f : FieldConfig) : (f.entries.map Prod.fst).Nodup := by
  change keys.Nodup
  decide

/-- **A field configuration is read back.** -/
theorem ofJson?_toJson (f : FieldConfig) : ofJson? f.toJson = some f := by
  have hnodup := f.nodup_entries
  have hmembers : Config.members? keys f.toJson = some (Config.present f.entries) := by
    rw [toJson_eq]
    exact Config.members?_present hnodup
  have hname : Config.field? (Config.present f.entries) "name" Config.string? none =
      some f.name := by
    rw [Config.field?_present hnodup 0 rfl]
    rfl
  have hqueryName : Config.field? (Config.present f.entries) "query_name" Config.nullable?
      (some none) = some f.queryName := by
    rw [Config.field?_present hnodup 1 rfl, Config.nullable?_string]
  have hclass : Config.field? (Config.present f.entries) "type" Config.class? (some .string) =
      some f.typeClass := by
    rw [Config.field?_present hnodup 2 rfl]
    exact Config.class?_name f.typeClass
  have hvariants : Config.field? (Config.present f.entries) "variants" Config.strings?
      (some []) = some f.variants := by
    rw [Config.field?_present hnodup 3 rfl, variants_read_back]
  have hqueryable : Config.field? (Config.present f.entries) "queryable" Config.bool?
      (some true) = some f.queryable := by
    rw [Config.field?_present hnodup 4 rfl]
    rfl
  have hreadable : Config.field? (Config.present f.entries) "readable" Config.bool?
      (some true) = some f.readable := by
    rw [Config.field?_present hnodup 5 rfl]
    rfl
  rw [ofJson?, hmembers]
  simp only [Option.bind_eq_bind, Option.bind_some, hname, hqueryName, hclass, hvariants,
    hqueryable, hreadable]
  rfl

/-- A field configuration nests two deep. -/
theorem fits_toJson (f : FieldConfig) (depth : Nat) : f.toJson.Fits (depth + 2) := by
  have hvariants : (Json.array (f.variants.map .string)).Fits (depth + 1) :=
    .array (by simp [Json.Fits.string])
  rw [toJson_eq]
  apply Config.fits_present
  simp only [entries, List.forall_mem_cons]
  refine ⟨?_, ?_, ?_, ?_, ?_, ?_, List.forall_mem_nil _⟩
  · simp [Json.Fits.string]
  · simp [Json.Fits.string]
  · simp [Json.Fits.string]
  · simp [hvariants]
  · simp [Json.Fits.bool]
  · simp [Json.Fits.bool]

end FieldConfig

namespace SchemaConfig

/-- The keys of a configuration with what is written under them. -/
def entries (c : SchemaConfig) : List (String × Option Json) :=
  [("entity", some (.string c.entity)), ("default_field", c.defaultField.map .string),
    ("fields", some (.array (c.fields.map FieldConfig.toJson)))]

theorem toJson_eq (c : SchemaConfig) : c.toJson = .object (Config.present c.entries) := by
  unfold toJson entries
  cases c.defaultField <;> rfl

theorem nodup_entries (c : SchemaConfig) : (c.entries.map Prod.fst).Nodup := by
  change keys.Nodup
  decide

/-- **A configuration is read back** from its JSON. -/
theorem ofJson?_toJson (c : SchemaConfig) : ofJson? c.toJson = some c := by
  have hnodup := c.nodup_entries
  have hmembers : Config.members? keys c.toJson = some (Config.present c.entries) := by
    rw [toJson_eq]
    exact Config.members?_present hnodup
  have hentity : Config.field? (Config.present c.entries) "entity" Config.string? none =
      some c.entity := by
    rw [Config.field?_present hnodup 0 rfl]
    rfl
  have hdefaultField : Config.field? (Config.present c.entries) "default_field" Config.nullable?
      (some none) = some c.defaultField := by
    rw [Config.field?_present hnodup 1 rfl, Config.nullable?_string]
  have hfields : Config.field? (Config.present c.entries) "fields" fields? none =
      some c.fields := by
    rw [Config.field?_present hnodup 2 rfl]
    exact Config.mapM_map FieldConfig.toJson FieldConfig.ofJson? FieldConfig.ofJson?_toJson c.fields
  rw [ofJson?, hmembers]
  simp only [Option.bind_eq_bind, Option.bind_some, hentity, hdefaultField, hfields]
  rfl

/-- A configuration nests four deep. -/
theorem fits_toJson (c : SchemaConfig) (depth : Nat) : c.toJson.Fits (depth + 4) := by
  have hfields : (Json.array (c.fields.map FieldConfig.toJson)).Fits (depth + 3) := by
    refine .array fun j hj => ?_
    obtain ⟨f, -, rfl⟩ := List.mem_map.mp hj
    exact f.fits_toJson depth
  rw [toJson_eq]
  apply Config.fits_present
  simp only [entries, List.forall_mem_cons]
  refine ⟨?_, ?_, ?_, List.forall_mem_nil _⟩
  · simp [Json.Fits.string]
  · simp [Json.Fits.string]
  · simpa using hfields

/-- A configuration is read back from its text. -/
theorem parse?_text (c : SchemaConfig) : parse? c.text = some c := by
  have hjson : Json.parse? c.text = some c.toJson := by
    rw [Json.parse?, text, String.toList_ofList]
    exact (c.fits_toJson 123).parseChars?_compactChars
  rw [parse?, hjson, Option.bind_some, ofJson?_toJson]

/-- **Configurations read back.**  Every configuration is read back from its text, whatever its
names are; so what is read from a text of any form is read back from the text that it is written
as. -/
theorem text_read_back :
    (∀ c : SchemaConfig, parse? c.text = some c) ∧
    ∀ s c, parse? s = some c → parse? c.text = some c :=
  ⟨parse?_text, fun _ c _ => parse?_text c⟩

/-! ## Catalogues -/

namespace Catalogue

/-- An array that leaves out the values at its end, and an object whose keys are in another
order. -/
def source : String :=
  "[\"album\", null, [[\"year\", null, \"integer\"], \x7b\"readable\": false, \"name\": \"cost\"\x7d]]"

def config : SchemaConfig :=
  ⟨"album", none, [⟨"year", none, .int, [], true, true⟩, ⟨"cost", none, .string, [], true, false⟩]⟩

/-- What is absent is left out, and the class goes by its own name. -/
def canonical : String :=
  "\x7b\"entity\":\"album\",\"fields\":[\x7b\"name\":\"year\",\"type\":\"int\",\"queryable\":true," ++
    "\"readable\":true\x7d,\x7b\"name\":\"cost\",\"type\":\"string\",\"queryable\":true," ++
    "\"readable\":false\x7d]\x7d"

end Catalogue

/-- A configuration is read from a text of another form and written in the canonical one. -/
theorem text_read_back_catalogue :
    parse? Catalogue.source = some Catalogue.config ∧
    Catalogue.config.text = Catalogue.canonical ∧
    parse? Catalogue.canonical = some Catalogue.config := by
  have hsource : parse? Catalogue.source = some Catalogue.config := by decide +kernel
  have htext : Catalogue.config.text = Catalogue.canonical := by decide +kernel
  have hback := text_read_back.2 Catalogue.source Catalogue.config hsource
  rw [htext] at hback
  exact ⟨hsource, htext, hback⟩

end SchemaConfig

end RecordQuery
