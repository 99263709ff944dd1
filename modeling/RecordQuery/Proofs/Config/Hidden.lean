import RecordQuery.Proofs.Config.Fields
import RecordQuery.Proofs.Query.Sorting
import RecordQuery.Proofs.Query.Soundness
import RecordQuery.Proofs.Schema.Checking

/-!
# Hidden keys

A key that is not queryable, or not readable, is hidden from queries: whatever the configuration
says about it and whatever the records hold under it makes no difference.  Without its hidden keys a
configuration has the same schema, or the same fault, unless it names one of them as the default
field.  And a query selects the same positions of two lists of records that hold the same under the
keys that are not hidden, for every field of the schema reads such a key and nothing else.
-/

namespace RecordQuery

/-! ## Hidden declarations -/

namespace SchemaDeclaration

variable {ρ : Type}

/-- The declaration without the fields that are hidden. -/
def shown (d : SchemaDeclaration ρ) : SchemaDeclaration ρ :=
  { d with fields := d.fields.filter FieldDeclaration.isShown }

/-- The check passes over hidden declarations. -/
theorem checkedFields_shown (entity : String) (taken : List String)
    (ds : List (FieldDeclaration ρ)) :
    checkedFields entity taken (ds.filter FieldDeclaration.isShown) =
      checkedFields entity taken ds := by
  induction ds generalizing taken with
  | nil => rfl
  | cons d ds ih =>
      cases hname : d.queryName with
      | none =>
          rw [List.filter_cons_of_neg (by simp [FieldDeclaration.isShown, hname]), ih]
          simp only [checkedFields, hname]
      | some name =>
          rw [List.filter_cons_of_pos (by simp [FieldDeclaration.isShown, hname])]
          simp only [checkedFields, hname, ih]

theorem find?_filter_of_imp {α : Type} {p shown : α → Bool} {items : List α}
    (h : ∀ item ∈ items, p item = true → shown item = true) :
    (items.filter shown).find? p = items.find? p := by
  induction items with
  | nil => rfl
  | cons item items ih =>
      have hrest := ih fun other hother => h other (List.mem_cons_of_mem item hother)
      by_cases hp : p item = true
      · rw [List.filter_cons_of_pos (h item List.mem_cons_self hp), List.find?_cons_of_pos hp,
          List.find?_cons_of_pos hp]
      · rw [List.find?_cons_of_neg hp, ← hrest, List.filter_cons]
        split
        · rw [List.find?_cons_of_neg hp]
        · rfl

/-- The first declaration of the name of the default field is found among those that are shown, if
none that is hidden has the name. -/
theorem defaultQueryName_shown {d : SchemaDeclaration ρ}
    (h : ∀ f ∈ d.fields, d.defaultField = some f.name → f.isShown = true) :
    d.shown.defaultQueryName = d.defaultQueryName := by
  unfold defaultQueryName
  cases hdefault : d.defaultField with
  | none => simp only [shown, hdefault]
  | some name =>
      have hfind : (d.shown.fields.find? fun f => f.name = name) =
          d.fields.find? fun f => f.name = name := by
        apply find?_filter_of_imp
        intro f hf hname
        exact h f hf (by rw [hdefault, of_decide_eq_true hname])
      have hname : d.shown.defaultField = some name := hdefault
      rw [hname]
      simp only [hfind]
      rfl

/-- **Hidden declarations do not matter to a schema**, unless one of them has the name of the
default field. -/
theorem build_shown {d : SchemaDeclaration ρ}
    (h : ∀ f ∈ d.fields, d.defaultField = some f.name → f.isShown = true) :
    d.shown.build = d.build := by
  have hchecked : checkedFields d.shown.entity [] d.shown.fields =
      checkedFields d.entity [] d.fields := checkedFields_shown d.entity [] d.fields
  unfold build
  rw [defaultQueryName_shown h, hchecked]
  rfl

end SchemaDeclaration

/-! ## Queries and fields -/

/-- A comparison of fields that read the same from two records accepts both or neither. -/
theorem Comparison.WellTyped.accepts_congr {ρ : Type} {schema : Schema ρ} {c : Comparison ρ}
    {a b : ρ} (hc : c.WellTyped schema) (h : ∀ f ∈ schema.fields, f.read a = f.read b) :
    c.accepts a = c.accepts b := by
  have hoperand : c.operand.value a = c.operand.value b := by
    cases hvalue : c.operand with
    | literal v => rfl
    | field f => exact h f (hc.field f hvalue).1
  rw [Comparison.accepts, Comparison.accepts, h c.target hc.target, hoperand]

/-- **Queries tell records apart by what fields read.** -/
theorem Query.alike_of_reads {ρ : Type} {schema : Schema ρ} {q : Query ρ} {a b : ρ}
    (hq : q.WellTyped schema) (h : ∀ f ∈ schema.fields, f.read a = f.read b) : q.Alike a b where
  accepts := by
    have hcomparison : ∀ g ∈ q.groups, ∀ c ∈ g, c.accepts a = c.accepts b := by
      intro g hg c hc
      exact (hq.comparisons g hg c hc).accepts_congr h
    have hgroup : ∀ g ∈ q.groups, g.accepts a = g.accepts b := by
      intro g hg
      rw [Group.accepts, Group.accepts, Bool.eq_iff_iff, List.all_eq_true, List.all_eq_true]
      exact forall₂_congr fun c hc => by rw [hcomparison g hg c hc]
    have hany : q.groups.any (Group.accepts · a) = q.groups.any (Group.accepts · b) := by
      rw [Bool.eq_iff_iff, List.any_eq_true, List.any_eq_true]
      exact exists_congr fun g => and_congr_right fun hg => by rw [hgroup g hg]
    rw [Query.accepts, Query.accepts, hany]
  key s hs := by
    rw [SortClause.key, SortClause.key, h s.field (hq.sort s hs)]

/-! ## Hidden keys -/

/-- Whether queries may see what stands under a key. -/
def FieldConfig.isVisible (k : FieldConfig) : Bool := k.queryable && k.readable

namespace SchemaConfig

/-- The configuration without its hidden keys. -/
def visible (c : SchemaConfig) : SchemaConfig :=
  { c with fields := c.fields.filter FieldConfig.isVisible }

/-- Two records hold the same value, or none, under every key that is not hidden. -/
def SameVisible (c : SchemaConfig) (a b : Json) : Prop :=
  ∀ k ∈ c.fields, k.isVisible = true → a.get? k.name = b.get? k.name

theorem sameVisible_iff {c : SchemaConfig} {a b : Json} :
    c.SameVisible a b ↔ ∀ k ∈ c.visible.fields, a.get? k.name = b.get? k.name := by
  simp only [SameVisible, visible, List.mem_filter, and_imp]

/-- A key is shown if it is not hidden. -/
theorem isShown_declaration (k : FieldConfig) : k.declaration.isShown = k.isVisible := by
  unfold FieldConfig.declaration FieldDeclaration.isShown FieldConfig.isVisible
  cases k.queryable && k.readable <;> rfl

theorem declaration_visible (c : SchemaConfig) : c.visible.declaration = c.declaration.shown := by
  simp only [declaration, SchemaDeclaration.shown, visible, List.filter_map, Function.comp_def,
    isShown_declaration]

/-- **Hidden keys do not matter to a schema**, unless one of them is the default field. -/
theorem build_visible {c : SchemaConfig}
    (h : ∀ k ∈ c.fields, k.isVisible = false → c.defaultField ≠ some k.name) :
    c.visible.build = c.build := by
  have hdefault : ∀ f ∈ c.declaration.fields,
      c.declaration.defaultField = some f.name → f.isShown = true := by
    intro f hf hname
    obtain ⟨k, hk, rfl⟩ := List.mem_map.mp hf
    rw [isShown_declaration]
    by_cases hvisible : k.isVisible = true
    · exact hvisible
    · exact absurd hname (h k hk (by simpa using hvisible))
  rw [build, declaration_visible, SchemaDeclaration.build_shown hdefault]
  rfl

/-- **Hidden data does not matter to a field.** -/
theorem read_congr {c : SchemaConfig} {schema : Schema Json} {a b : Json}
    (hbuild : c.build = .ok schema) (h : c.SameVisible a b) :
    ∀ f ∈ schema.fields, f.read a = f.read b := by
  intro f hf
  obtain ⟨k, hk, hqueryable, hreadable, rfl⟩ := exists_queryable hbuild hf
  have hvisible : k.isVisible = true := by
    rw [FieldConfig.isVisible, hqueryable, hreadable]
    rfl
  show k.read a = k.read b
  rw [FieldConfig.read, FieldConfig.read, h k hk hvisible]

/-- **Hidden keys are unobservable.**  A configuration and the same one without its hidden keys make
the same schema or have the same fault, and every text is read as the same query or has the same
fault, provided that no hidden key has the name of the default field.  And whatever else two lists
of records hold, a query selects the same positions of them, in the same order, if they hold the
same under the keys that are not hidden; those positions are where the records stand that it
selects. -/
theorem hidden_unobservable (c : SchemaConfig) (text : String) :
    ((∀ k ∈ c.fields, k.isVisible = false → c.defaultField ≠ some k.name) →
      c.visible.build = c.build ∧
        c.visible.build.map (Query.parse · text) = c.build.map (Query.parse · text)) ∧
    ∀ schema q, c.build = .ok schema → Query.parse schema text = .ok q →
      ∀ records records' : List Json, records.length = records'.length →
        (∀ pair ∈ records.zip records', c.SameVisible pair.1 pair.2) →
          q.positions records = q.positions records' ∧
          (q.apply records).map some = (q.positions records).map (records[·]?) ∧
          (q.apply records').map some = (q.positions records).map (records'[·]?) := by
  constructor
  · intro hdefault
    have hbuild := build_visible hdefault
    exact ⟨hbuild, by rw [hbuild]⟩
  · intro schema q hbuild hparse records records' hlength hsame
    have hq := (Query.checked_of_parse hparse).wellTyped
    have hpositions : q.positions records = q.positions records' := by
      apply Query.positions_congr hlength
      intro pair hpair
      exact Query.alike_of_reads hq (read_congr hbuild (hsame pair hpair))
    refine ⟨hpositions, (q.getElem?_positions records).symm, ?_⟩
    rw [hpositions]
    exact (q.getElem?_positions records').symm

end SchemaConfig

/-! ## Staff -/

namespace Staff

def person : FieldConfig := ⟨"name", none, .string, [], true, true⟩

def salary : FieldConfig := ⟨"salary", none, .int, [], false, true⟩

def office : FieldConfig := ⟨"office", none, .string, [], true, true⟩

/-- Another field of the key `office`. -/
def site : FieldConfig := ⟨"office", some "site", .enum, ["B1", "B2"], true, true⟩

/-- A hidden key under a name that another one has. -/
def secret : FieldConfig := ⟨"secret", some "site", .enum, [], true, false⟩

def config : SchemaConfig := ⟨"person", some "name", [person, salary, office, site, secret]⟩

def schema : Schema Json :=
  ⟨"person", [person.field, office.field, site.field], some person.field⟩

def query : Query Json where
  groups := [[⟨office.field, .startsWith, .literal (.string "b")⟩]]
  sort := some ⟨site.field, .descending⟩

def records : List Json :=
  [.object [("name", .string "Ann"), ("office", .string "b1"), ("salary", .string "low")],
    .object [("name", .string "Bob"), ("office", .string "B2"), ("secret", .bool true)]]

/-- The same without hidden data. -/
def published : List Json :=
  [.object [("name", .string "Ann"), ("office", .string "b1")],
    .object [("name", .string "Bob"), ("office", .string "B2")]]

theorem parse_text : Query.parse schema "office ^ 'b' orderbydescending site" = .ok query := by
  have htokens : Lexed.ofText "office ^ 'b' orderbydescending site" =
      ⟨[.word "office", .word "^", .literal "b", .word "orderbydescending", .word "site"],
        none⟩ := by
    cbv
  exact Query.parse_eq_ok_iff.mpr ⟨_, htokens, rfl⟩

theorem sameVisible : ∀ pair ∈ records.zip published, config.SameVisible pair.1 pair.2 := by
  have hvisible : config.visible.fields = [person, office, site] := rfl
  simp only [records, published, List.zip_cons_cons, List.zip_nil_left, List.forall_mem_cons,
    SchemaConfig.sameVisible_iff, hvisible]
  exact ⟨⟨rfl, rfl, rfl, nofun⟩, ⟨rfl, rfl, rfl, nofun⟩, nofun⟩

theorem mergeSort_pair {α : Type} (inOrder : α → α → Bool) (a b : α) :
    [a, b].mergeSort inOrder = if inOrder a b then [a, b] else [b, a] := by
  simp [List.mergeSort, List.MergeSort.Internal.splitInTwo, List.merge]

theorem positions_published : query.positions published = [1, 0] := by
  have hmatching : (published.zipIdx.filter fun item => query.accepts item.1) = published.zipIdx :=
    rfl
  rw [Query.positions, Query.select, hmatching]
  show (List.mergeSort [_, _] _).map Prod.snd = _
  rw [mergeSort_pair]
  rfl

end Staff

theorem hidden_unobservable_staff :
    (∀ k ∈ Staff.config.fields, k.isVisible = false → Staff.config.defaultField ≠ some k.name) ∧
    Staff.config.visible.build = Staff.config.build ∧
    Staff.config.build = .ok Staff.schema ∧
    Query.parse Staff.schema "office ^ 'b' orderbydescending site" = .ok Staff.query ∧
    (∀ pair ∈ Staff.records.zip Staff.published, Staff.config.SameVisible pair.1 pair.2) ∧
    Staff.query.positions Staff.records = Staff.query.positions Staff.published ∧
    Staff.query.positions Staff.published = [1, 0] := by
  have hdefault : ∀ k ∈ Staff.config.fields, k.isVisible = false →
      Staff.config.defaultField ≠ some k.name := by
    decide
  have hbuild : Staff.config.build = .ok Staff.schema := rfl
  obtain ⟨hvisible, hpositions⟩ :=
    SchemaConfig.hidden_unobservable Staff.config "office ^ 'b' orderbydescending site"
  have hsame := hpositions _ _ hbuild Staff.parse_text Staff.records Staff.published rfl
    Staff.sameVisible
  exact ⟨hdefault, (hvisible hdefault).1, hbuild, Staff.parse_text, Staff.sameVisible, hsame.1,
    Staff.positions_published⟩

end RecordQuery
