import RecordQuery.Query.Reading

/-!
# The grammar of queries

Which sequences of tokens make a query, and which query each of them makes, said without reading
the tokens from left to right.  A query text has one of three forms:

    sort*
    sort* text sort*
    sort* term ( ( "," | "&" ) term | sort )* ( "," | "&" )?

where `text` is a run of tokens without a sort keyword whose first one is a word that names no
field.  Terms are checked comparisons; a literal on its own is compared with the default field by
the operator `*`.  In the third form every `,` closes a group, and an open group goes on at `&`.
-/

namespace RecordQuery

variable {ρ : Type}

/-! ## Parts -/

/-- Sort keywords, each with the name of a field behind it, and the sort clauses they make. -/
inductive SortsSpell (schema : Schema ρ) : List Token → List (SortClause ρ) → Prop
  | nil : SortsSpell schema [] []
  | cons {keyword name : Token} {direction : SortDirection} {field : Field ρ}
      {rest : List Token} {clauses : List (SortClause ρ)} :
      keyword.sortDirection? = some direction → schema.resolve name = .ok field →
      SortsSpell schema rest clauses →
      SortsSpell schema (keyword :: name :: rest) (⟨field, direction⟩ :: clauses)

/-- `DefaultContains schema s c` says that `c` compares the default field with the literal `s` by
the operator `*`. -/
def DefaultContains (schema : Schema ρ) (s : String) (c : Comparison ρ) : Prop :=
  ∃ f, schema.defaultField = some f ∧
    Comparison.ofTokens schema (.word f.queryName) (.literal s) (some (.word "*")) = .ok c

/-- The tokens of a term and the comparison that it makes. -/
inductive TermSpells (schema : Schema ρ) : List Token → Comparison ρ → Prop
  | bare {s : String} {c : Comparison ρ} : DefaultContains schema s c →
      TermSpells schema [.literal s] c
  | full {target : String} {operator rhs : Token} {c : Comparison ρ} :
      Comparison.ofTokens schema (.word target) rhs (some operator) = .ok c →
      TermSpells schema [.word target, operator, rhs] c

/-- What may follow a term. -/
inductive Step (ρ : Type) where
  /-- A term of the same group. -/
  | joined (c : Comparison ρ)
  /-- A term that opens another group. -/
  | separated (c : Comparison ρ)
  | sorted (clause : SortClause ρ)

/-- The sort clause of a step that is one. -/
def Step.sort? : Step ρ → Option (SortClause ρ)
  | sorted clause => some clause
  | _ => none

/-- The tokens behind a term and the steps that they make; one separator may stand at their end. -/
inductive TailSpells (schema : Schema ρ) : List Token → List (Step ρ) → Prop
  | nil : TailSpells schema [] []
  | trailing {separator : Token} : separator = .word "," ∨ separator = .word "&" →
      TailSpells schema [separator] []
  | joined {term rest : List Token} {c : Comparison ρ} {steps : List (Step ρ)} :
      TermSpells schema term c → TailSpells schema rest steps →
      TailSpells schema (.word "&" :: term ++ rest) (.joined c :: steps)
  | separated {term rest : List Token} {c : Comparison ρ} {steps : List (Step ρ)} :
      TermSpells schema term c → TailSpells schema rest steps →
      TailSpells schema (.word "," :: term ++ rest) (.separated c :: steps)
  | sorted {keyword name : Token} {direction : SortDirection} {field : Field ρ}
      {rest : List Token} {steps : List (Step ρ)} :
      keyword.sortDirection? = some direction → schema.resolve name = .ok field →
      TailSpells schema rest steps →
      TailSpells schema (keyword :: name :: rest) (.sorted ⟨field, direction⟩ :: steps)

/-! ## Trees -/

/-- The groups of the steps behind a group that is still open. -/
def groupsFrom (openGroup : Group ρ) : List (Step ρ) → List (Group ρ)
  | [] => [openGroup]
  | .joined c :: steps => groupsFrom (openGroup ++ [c]) steps
  | .separated c :: steps => openGroup :: groupsFrom [c] steps
  | .sorted _ :: steps => groupsFrom openGroup steps

/-- Whether a query begins with terms at this token: a literal, or a word that names a field. -/
def Schema.OpensTerms (schema : Schema ρ) : Token → Prop
  | .literal _ => True
  | .word w => schema.contains w = true

/-- The tokens are read as free text: sort clauses, and then a word that is no sort keyword and
names no field. -/
inductive IsFreeText (schema : Schema ρ) : List Token → Prop
  | text {w : String} {rest : List Token} : (Token.word w).sortDirection? = none →
      schema.contains w = false → IsFreeText schema (.word w :: rest)
  | sorted {keyword name : Token} {direction : SortDirection} {field : Field ρ}
      {rest : List Token} : keyword.sortDirection? = some direction →
      schema.resolve name = .ok field → IsFreeText schema rest →
      IsFreeText schema (keyword :: name :: rest)

/-- The three forms of a query text and the query of each; of several sort clauses the last one
counts. -/
inductive Reads (schema : Schema ρ) : List Token → Query ρ → Prop
  | sorts {front : List Token} {clauses : List (SortClause ρ)} :
      SortsSpell schema front clauses → Reads schema front ⟨[], clauses.getLast?⟩
  | freeText {front words back : List Token} {w : String} {clauses later : List (SortClause ρ)}
      {c : Comparison ρ} : SortsSpell schema front clauses →
      (∀ t ∈ Token.word w :: words, t.sortDirection? = none) → schema.contains w = false →
      SortsSpell schema back later →
      DefaultContains schema (String.join ((Token.word w :: words).map Token.text)) c →
      Reads schema (front ++ (.word w :: words) ++ back) ⟨[[c]], (clauses ++ later).getLast?⟩
  | terms {front term rest : List Token} {t : Token} {clauses : List (SortClause ρ)}
      {c : Comparison ρ} {steps : List (Step ρ)} : SortsSpell schema front clauses →
      term.head? = some t → schema.OpensTerms t → TermSpells schema term c →
      TailSpells schema rest steps →
      Reads schema (front ++ term ++ rest)
        ⟨groupsFrom [c] steps, (clauses ++ steps.filterMap Step.sort?).getLast?⟩

/-! ## Free text -/

/-- Tokens with a literal or the name of a field behind their sort clauses are no free text. -/
theorem SortsSpell.not_isFreeText {schema : Schema ρ} {front rest : List Token} {t : Token}
    {clauses : List (SortClause ρ)} (hfront : SortsSpell schema front clauses)
    (hfirst : t.sortDirection? = none) (hopens : schema.OpensTerms t) :
    ¬ IsFreeText schema (front ++ t :: rest) := by
  intro h
  induction hfront with
  | nil =>
      cases h with
      | text _ hw =>
          rw [Schema.OpensTerms, hw] at hopens
          cases hopens
      | sorted hkeyword _ _ =>
          rw [hfirst] at hkeyword
          cases hkeyword
  | cons hkeyword _ _ ih =>
      cases h with
      | text hword _ =>
          rw [hkeyword] at hword
          cases hword
      | sorted _ _ hrest => exact ih hrest

theorem opensFreeText_eq_false_iff {schema : Schema ρ} {t : Token} :
    schema.opensFreeText t = false ↔ schema.OpensTerms t := by
  cases t with
  | literal s => simp [Schema.opensFreeText, Schema.OpensTerms]
  | word w => simp [Schema.opensFreeText, Schema.OpensTerms]

/-- Tokens that are no free text begin with a sort keyword, a literal or the name of a field. -/
theorem opensTerms_of_not_isFreeText {schema : Schema ρ} {t : Token} {rest : List Token}
    (hsort : t.sortDirection? = none) (htext : ¬ IsFreeText schema (t :: rest)) :
    schema.OpensTerms t := by
  cases t with
  | literal s => trivial
  | word w =>
      cases hw : schema.contains w with
      | true => exact hw
      | false => exact absurd (.text hsort hw) htext

/-! ## The shape of the trees -/

/-- The comparisons of the groups are those of the steps, in the same order. -/
theorem flatten_groupsFrom (openGroup : Group ρ) (steps : List (Step ρ)) :
    (groupsFrom openGroup steps).flatten = openGroup ++ steps.filterMap fun
      | .joined c | .separated c => some c
      | .sorted _ => none := by
  induction steps generalizing openGroup with
  | nil => simp [groupsFrom]
  | cons step steps ih => cases step <;> simp [groupsFrom, ih]

/-- No group is empty. -/
theorem groupsFrom_ne_nil {openGroup : Group ρ} (hopen : openGroup ≠ []) (steps : List (Step ρ)) :
    ∀ g ∈ groupsFrom openGroup steps, g ≠ [] := by
  induction steps generalizing openGroup with
  | nil => simpa [groupsFrom] using hopen
  | cons step steps ih =>
      cases step with
      | joined c => exact ih (by simp)
      | sorted clause => exact ih hopen
      | separated c =>
          intro g hg
          rcases List.mem_cons.mp hg with rfl | hg
          · exact hopen
          · exact ih (by simp) g hg

end RecordQuery
