import RecordQuery.Proofs.Config.Fields
import RecordQuery.Proofs.Reading
import RecordQuery.Proofs.Value.SortKey
import RecordQuery.Query.Basic

/-!
# Names of enums

A name of an enum is looked up among the declared names in three places: where a literal is read,
where a record is read and where a value is sorted.  A literal that is no declared name is refused,
a record keeps such a name as it is, and it sorts behind the declared names.

A value has been through one of these before it meets another, and it may have changed its spelling
on the way.  Its lower-case form has not changed, and all three go by that form only, so that they
agree.  The declared names may repeat one another; it is the first one that counts, in all three.
-/

namespace RecordQuery

/-- What an enum field reads from a text. -/
def enumValue (variants : List String) (s : String) : Value :=
  TypeClass.enum.readJson variants (.string s)

/-- The key by which a record is sorted that has a text for an enum. -/
def enumKey (variants : List String) (s : String) : SortKey :=
  .ofValue variants (enumValue variants s)

/-- A text is one of the declared names but for case. -/
def IsDeclared (variants : List String) (s : String) : Prop :=
  ∃ name ∈ variants, Text.lower name = Text.lower s

/-- The place of the first declared name that a text is but for case; for a text that is none of
them, the number of declared names. -/
inductive FirstPlace (variants : List String) (s : String) : Nat → Prop
  | declared {front back : List String} {name : String} : variants = front ++ name :: back →
      Text.lower name = Text.lower s → (∀ other ∈ front, Text.lower other ≠ Text.lower s) →
      FirstPlace variants s front.length
  | undeclared : (∀ name ∈ variants, Text.lower name ≠ Text.lower s) →
      FirstPlace variants s variants.length

section

variable {variants : List String} {s t l : String}

/-- One more name in front, which the text is not, moves the place by one. -/
theorem FirstPlace.cons {i : Nat} (h : FirstPlace variants s i) {name : String}
    (hname : Text.lower name ≠ Text.lower s) : FirstPlace (name :: variants) s (i + 1) := by
  cases h with
  | declared hsplit hfound hbefore =>
      rw [hsplit, ← List.cons_append, ← List.length_cons]
      exact .declared rfl hfound (List.forall_mem_cons.mpr ⟨hname, hbefore⟩)
  | undeclared hnone => exact .undeclared (List.forall_mem_cons.mpr ⟨hname, hnone⟩)

/-! ## Names that are read -/

/-- **Names that are read** are equal if they were but for case. -/
theorem looselyEqual_enumValue_iff :
    (enumValue variants s).looselyEqual (enumValue variants t) = true ↔
      Text.lower s = Text.lower t := by
  rw [enumValue, enumValue, TypeClass.readJson, TypeClass.readJson, Value.looselyEqual,
    Value.sameText_iff, lower_getD_declaredName?, lower_getD_declaredName?]

theorem declaredName?_eq_none_iff :
    declaredName? variants s = none ↔ ¬ IsDeclared variants s := by
  simp [declaredName?, IsDeclared, Value.sameText_iff]

/-- A literal is refused if it is no declared name, whatever the case. -/
theorem parseLiteral?_enum_eq_none_iff :
    TypeClass.enum.parseLiteral? variants l = none ↔ ¬ IsDeclared variants l := by
  rw [TypeClass.parseLiteral?, Option.map_eq_none_iff, declaredName?_eq_none_iff]

/-- An enum field compares what a record holds with what a literal says. -/
theorem looselyEqual_parseLiteral?_iff {v : Value}
    (hl : TypeClass.enum.parseLiteral? variants l = some v) :
    (enumValue variants s).looselyEqual v = true ↔ Text.lower s = Text.lower l := by
  obtain ⟨name, hname, rfl⟩ := Option.map_eq_some_iff.mp hl
  rw [enumValue, TypeClass.readJson, Value.looselyEqual, Value.sameText_iff,
    lower_getD_declaredName?, lower_of_declaredName? hname]

theorem FieldConfig.read_string {k : FieldConfig} (hclass : k.typeClass = .enum) {record : Json}
    (hs : record.get? k.name = some (.string s)) : k.read record = enumValue k.variants s := by
  rw [read_of_get? hs, hclass]
  rfl

/-- **A literal that is accepted** for an enum makes a comparison by `=`, and the records that it
accepts are those whose text is the literal but for case. -/
theorem accepts_enumValue_iff {k : FieldConfig} (hclass : k.typeClass = .enum)
    {schema : Schema Json} {target : Token} (htarget : schema.resolve target = .ok k.field)
    {v : Value} (hl : TypeClass.enum.parseLiteral? k.variants l = some v) {record : Json}
    (hs : record.get? k.name = some (.string s)) :
    ∃ c, Comparison.ofTokens schema target (.literal l) (some (.word "=")) = .ok c ∧
      (c.accepts record = true ↔ Text.lower s = Text.lower l) := by
  refine ⟨⟨k.field, .equal, .literal v⟩, ?_, ?_⟩
  · have hsymbol : Operator.ofToken? (.word "=") = some .equal :=
      Operator.ofSymbol?_symbol .equal
    have hoperator : Comparison.checkedOperator k.field (some (.word "=")) = .ok .equal := by
      simp only [Comparison.checkedOperator, hsymbol, Field.supports, FieldConfig.field, hclass]
      rfl
    have hoperand : Comparison.checkedOperand schema k.field (.literal l) =
        .ok (.literal v) := by
      simp only [Comparison.checkedOperand, Field.parseLiteral?, FieldConfig.field, hclass, hl]
    exact Comparison.ofTokens_eq_ok.mpr ⟨htarget, hoperator, hoperand⟩
  · rw [← looselyEqual_parseLiteral?_iff hl, ← k.read_string hclass hs]
    rfl

/-! ## The order of names that are read -/

theorem variantIndex_congr (h : Text.lower s = Text.lower t) :
    SortKey.variantIndex variants s = SortKey.variantIndex variants t := by
  simp only [SortKey.variantIndex, Value.sameText, h]

/-- A name that is read is sorted by the place of the text. -/
theorem enumKey_eq (variants : List String) (s : String) :
    enumKey variants s =
      .variant (SortKey.variantIndex variants s) ((declaredName? variants s).getD s) := by
  rw [← variantIndex_congr (lower_getD_declaredName? variants s)]
  rfl

/-- The place that a text is sorted by is that of the first declared name which it is but for
case. -/
theorem firstPlace_variantIndex (variants : List String) (s : String) :
    FirstPlace variants s (SortKey.variantIndex variants s) := by
  induction variants with
  | nil => exact .undeclared (List.forall_mem_nil _)
  | cons name rest ih =>
      rw [SortKey.variantIndex, List.findIdx_cons]
      by_cases hname : Text.lower name = Text.lower s
      · rw [Value.sameText_iff.mpr hname]
        exact .declared (List.nil_append _).symm hname (List.forall_mem_nil _)
      · rw [Bool.eq_false_iff.mpr (mt Value.sameText_iff.mp hname)]
        exact ih.cons hname

theorem variantIndex_lt_iff :
    SortKey.variantIndex variants s < variants.length ↔ IsDeclared variants s := by
  simp only [SortKey.variantIndex, List.findIdx_lt_length, IsDeclared, Value.sameText_iff]

/-- At the place of a declared name stands the text but for case. -/
theorem getElem?_variantIndex (hs : IsDeclared variants s) :
    ∃ name, variants[SortKey.variantIndex variants s]? = some name ∧
      Text.lower name = Text.lower s := by
  have hlt := variantIndex_lt_iff.mpr hs
  exact ⟨_, List.getElem?_eq_getElem hlt, Value.sameText_iff.mp (List.findIdx_getElem (w := hlt))⟩

/-- Texts that share the place of a declared name are equal but for case. -/
theorem variantIndex_eq_iff (hs : IsDeclared variants s) :
    SortKey.variantIndex variants s = SortKey.variantIndex variants t ↔
      Text.lower s = Text.lower t := by
  constructor
  · intro h
    have ht : IsDeclared variants t := by
      rw [← variantIndex_lt_iff, ← h]
      exact variantIndex_lt_iff.mpr hs
    obtain ⟨name, hname, hlower⟩ := getElem?_variantIndex hs
    obtain ⟨name', hname', hlower'⟩ := getElem?_variantIndex ht
    rw [h, hname'] at hname
    rw [← hlower, ← Option.some.inj hname, hlower']
  · exact variantIndex_congr

/-- **A declared name is sorted by its place** among the declared names. -/
theorem compare_enumKey (hs : IsDeclared variants s) :
    (enumKey variants s).compare (enumKey variants t) =
      compare (SortKey.variantIndex variants s) (SortKey.variantIndex variants t) := by
  rw [enumKey_eq, enumKey_eq, SortKey.compare]
  cases hplaces : compare (SortKey.variantIndex variants s) (SortKey.variantIndex variants t) with
  | lt => rfl
  | gt => rfl
  | eq =>
      -- In one place there is one name, so the spellings cannot make a difference.
      have hlower := (variantIndex_eq_iff hs).mp (Nat.compare_eq_eq.mp hplaces)
      have hspelled : (declaredName? variants s).getD s = (declaredName? variants t).getD t := by
        rw [← declaredName?_congr variants hlower]
        cases hname : declaredName? variants s with
        | some name => rfl
        | none => exact absurd hs (declaredName?_eq_none_iff.mp hname)
      rw [hspelled]
      change compare _ _ = Ordering.eq
      exact Std.ReflCmp.compare_self

end

/-- **The three look-ups agree.**  Names that are read are equal if the texts were, but for case.  A
literal that is accepted is compared with a record as if both were texts, but for case, and one that
is refused is no declared name in any case.  A name that is read is sorted by the place of the first
declared name that the text is but for case.  So declared names go in the order of their
declarations and before all others, and two of them have equal keys if they are equal. -/
theorem enumLookups_agree (variants : List String) (s t l : String) :
    ((enumValue variants s).looselyEqual (enumValue variants t) = true ↔
      Text.lower s = Text.lower t) ∧
    (∀ v, TypeClass.enum.parseLiteral? variants l = some v →
      ∀ (k : FieldConfig) (schema : Schema Json) (target : Token) (record : Json),
        k.typeClass = .enum → k.variants = variants → schema.resolve target = .ok k.field →
        record.get? k.name = some (.string s) →
        ∃ c, Comparison.ofTokens schema target (.literal l) (some (.word "=")) = .ok c ∧
          (c.accepts record = true ↔ Text.lower s = Text.lower l)) ∧
    (TypeClass.enum.parseLiteral? variants l = none →
      ∀ name ∈ variants, Text.lower name ≠ Text.lower l) ∧
    ∃ i j, FirstPlace variants s i ∧ FirstPlace variants t j ∧
      enumKey variants s = .variant i ((declaredName? variants s).getD s) ∧
      (IsDeclared variants s →
        (enumKey variants s).compare (enumKey variants t) = compare i j ∧
        (¬ IsDeclared variants t → (enumKey variants s).compare (enumKey variants t) = .lt) ∧
        ((enumKey variants s).compare (enumKey variants t) = .eq ↔
          (enumValue variants s).looselyEqual (enumValue variants t) = true)) := by
  refine ⟨looselyEqual_enumValue_iff, ?_, ?_, _, _, firstPlace_variantIndex variants s,
    firstPlace_variantIndex variants t, enumKey_eq variants s, ?_⟩
  · rintro v hl k schema target record hclass rfl htarget hs
    exact accepts_enumValue_iff hclass htarget hl hs
  · intro hl name hname hlower
    exact parseLiteral?_enum_eq_none_iff.mp hl ⟨name, hname, hlower⟩
  · intro hs
    rw [compare_enumKey hs]
    refine ⟨rfl, ?_, ?_⟩
    · intro ht
      have hlast : variants.length ≤ SortKey.variantIndex variants t :=
        Nat.not_lt.mp (mt variantIndex_lt_iff.mp ht)
      exact Nat.compare_eq_lt.mpr (Nat.lt_of_lt_of_le (variantIndex_lt_iff.mpr hs) hlast)
    · rw [Nat.compare_eq_eq, variantIndex_eq_iff hs, looselyEqual_enumValue_iff]

/-! ## Styles -/

namespace Styles

def variants : List String := ["Jazz", "JAZZ", "Rock"]

def key : FieldConfig := ⟨"style", none, .enum, variants, true, true⟩

def schema : Schema Json := ⟨"album", [key.field], none⟩

def album : Json := .object [("style", .string "JAZZ")]

end Styles

/-- Of two declared names that differ in case only the first one counts, also for a text that is
spelled like the second one. -/
theorem enumLookups_agree_styles :
    (∃ c, Comparison.ofTokens Styles.schema (.word "Style") (.literal "jAZZ") (some (.word "=")) =
        .ok c ∧ c.accepts Styles.album = true) ∧
    enumKey Styles.variants "JAZZ" = .variant 0 "Jazz" ∧
    (enumKey Styles.variants "JAZZ").compare (enumKey Styles.variants "tango") = .lt := by
  obtain ⟨-, haccepts, -, i, j, -, -, -, horder⟩ :=
    enumLookups_agree Styles.variants "JAZZ" "tango" "jAZZ"
  have hjazz : IsDeclared Styles.variants "JAZZ" := ⟨"JAZZ", by decide, rfl⟩
  have htango : ¬ IsDeclared Styles.variants "tango" := by
    unfold IsDeclared
    decide +kernel
  obtain ⟨c, hc, hiff⟩ := haccepts (.variant "Jazz") (by decide +kernel) Styles.key Styles.schema
    (.word "Style") Styles.album rfl rfl rfl rfl
  exact ⟨⟨c, hc, hiff.mpr (by decide +kernel)⟩, by decide +kernel, (horder hjazz).2.1 htango⟩

end RecordQuery
