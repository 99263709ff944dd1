import RecordQuery.Proofs.Query.Recognition

/-!
# Checked queries

Whatever text a query was read from, its comparisons have passed the checks that tokens have to
pass, and its order is by a field of the schema.  This is all that the meaning and the text of a
query rely on; how the text was divided into tokens does not matter any more.
-/

namespace RecordQuery

variable {ρ : Type} {schema : Schema ρ}

/-! ## What is checked -/

/-- The comparison is one that tokens make. -/
def Comparison.Checked (schema : Schema ρ) (c : Comparison ρ) : Prop :=
  ∃ target rhs operator, Comparison.ofTokens schema target rhs operator = .ok c

/-- The field is one that a token names. -/
def Field.Named (schema : Schema ρ) (f : Field ρ) : Prop := ∃ name, schema.resolve name = .ok f

/-- Every part of a query has passed its checks, and no group is empty. -/
structure Query.Checked (schema : Schema ρ) (q : Query ρ) : Prop where
  nonempty : ∀ g ∈ q.groups, g ≠ []
  comparisons : ∀ c ∈ q.groups.flatten, c.Checked schema
  sort : ∀ clause ∈ q.sort, clause.field.Named schema

/-! ## Reading checks -/

theorem DefaultContains.checked {s : String} {c : Comparison ρ} (h : DefaultContains schema s c) :
    c.Checked schema := by
  obtain ⟨f, -, hc⟩ := h
  exact ⟨_, _, _, hc⟩

theorem TermSpells.checked {term : List Token} {c : Comparison ρ} (h : TermSpells schema term c) :
    c.Checked schema := by
  cases h with
  | bare hdefault => exact hdefault.checked
  | full hterm => exact ⟨_, _, _, hterm⟩

theorem SortsSpell.named {ts : List Token} {clauses : List (SortClause ρ)}
    (h : SortsSpell schema ts clauses) : ∀ clause ∈ clauses, clause.field.Named schema := by
  induction h with
  | nil => simp
  | cons _ hname _ ih =>
      intro clause hclause
      rcases List.mem_cons.mp hclause with rfl | hclause
      · exact ⟨_, hname⟩
      · exact ih clause hclause

/-- The part of a step has passed its checks. -/
def Step.Checked (schema : Schema ρ) : Step ρ → Prop
  | joined c => c.Checked schema
  | separated c => c.Checked schema
  | sorted clause => clause.field.Named schema

theorem TailSpells.checked {ts : List Token} {steps : List (Step ρ)}
    (h : TailSpells schema ts steps) : ∀ step ∈ steps, step.Checked schema := by
  induction h with
  | nil => simp
  | trailing _ => simp
  | joined hterm _ ih => exact List.forall_mem_cons.mpr ⟨hterm.checked, ih⟩
  | separated hterm _ ih => exact List.forall_mem_cons.mpr ⟨hterm.checked, ih⟩
  | sorted _ hname _ ih => exact List.forall_mem_cons.mpr ⟨⟨_, hname⟩, ih⟩

/-- The comparisons of an open group and the steps behind it are those of the groups. -/
theorem checked_groupsFrom {c : Comparison ρ} {steps : List (Step ρ)} (hc : c.Checked schema)
    (hsteps : ∀ step ∈ steps, step.Checked schema) :
    ∀ d ∈ (groupsFrom [c] steps).flatten, d.Checked schema := by
  intro d hd
  rw [flatten_groupsFrom] at hd
  rcases List.mem_append.mp hd with hd | hd
  · rw [List.mem_singleton.mp hd]
    exact hc
  · obtain ⟨step, hstep, hd⟩ := List.mem_filterMap.mp hd
    have hchecked := hsteps step hstep
    cases step with
    | joined e => exact Option.some.inj hd ▸ hchecked
    | separated e => exact Option.some.inj hd ▸ hchecked
    | sorted clause => cases hd

theorem named_sorts {steps : List (Step ρ)} (hsteps : ∀ step ∈ steps, step.Checked schema) :
    ∀ clause ∈ steps.filterMap Step.sort?, clause.field.Named schema := by
  intro clause hclause
  obtain ⟨step, hstep, hclause⟩ := List.mem_filterMap.mp hclause
  have hchecked := hsteps step hstep
  cases step with
  | sorted clause' => exact Option.some.inj hclause ▸ hchecked
  | joined c => cases hclause
  | separated c => cases hclause

theorem Reads.checked {ts : List Token} {q : Query ρ} (h : Reads schema ts q) :
    q.Checked schema := by
  have hlast {clauses : List (SortClause ρ)}
      (hclauses : ∀ clause ∈ clauses, clause.field.Named schema) :
      ∀ clause ∈ clauses.getLast?, clause.field.Named schema :=
    fun clause hclause => hclauses clause (List.mem_of_mem_getLast? hclause)
  cases h with
  | sorts hfront => exact ⟨by simp, by simp, hlast hfront.named⟩
  | freeText hfront _ _ hback hc =>
      refine ⟨by simp, by simpa using hc.checked, hlast ?_⟩
      exact List.forall_mem_append.mpr ⟨hfront.named, hback.named⟩
  | terms hfront _ _ hterm hrest =>
      refine ⟨groupsFrom_ne_nil (by simp) _, checked_groupsFrom hterm.checked hrest.checked,
        hlast ?_⟩
      exact List.forall_mem_append.mpr ⟨hfront.named, named_sorts hrest.checked⟩

/-- A text makes a query if it has no fault and its tokens make the query. -/
theorem Query.parse_eq_ok_iff {s : String} {q : Query ρ} :
    Query.parse schema s = .ok q ↔
      ∃ tokens, Lexed.ofText s = ⟨tokens, none⟩ ∧ Query.ofTokens schema tokens = .ok q := by
  unfold Query.parse Query.ofLexed
  obtain ⟨tokens, failure⟩ := Lexed.ofText s
  cases failure <;> simp

/-- **Queries that are read are checked.** -/
theorem Query.checked_of_parse {s : String} {q : Query ρ} (h : Query.parse schema s = .ok q) :
    q.Checked schema := by
  obtain ⟨tokens, -, hq⟩ := Query.parse_eq_ok_iff.mp h
  exact (reads_of_ofTokens hq).checked

/-! ## What the checks say -/

/-- An operator is checked to be one that the token names and the field accepts. -/
theorem checkedOperator_eq_ok_iff {f : Field ρ} {t : Token} {op : Operator} :
    Comparison.checkedOperator f (some t) = .ok op ↔
      Operator.ofToken? t = some op ∧ f.supports op = true := by
  simp only [Comparison.checkedOperator]
  cases Operator.ofToken? t with
  | none => simp
  | some named =>
      simp only [Option.some.injEq]
      constructor
      · intro h
        split at h
        · rename_i hsupports
          exact Except.ok.inj h ▸ ⟨rfl, hsupports⟩
        · cases h
      · rintro ⟨rfl, hsupports⟩
        exact if_pos hsupports

theorem checkedOperator_symbol {f : Field ρ} {op : Operator} (h : f.supports op = true) :
    Comparison.checkedOperator f (some (.word op.symbol)) = .ok op :=
  checkedOperator_eq_ok_iff.mpr ⟨Operator.ofSymbol?_symbol op, h⟩

/-- What a right-hand side is checked to be: a literal of the class of the field, or another field
of that class. -/
theorem checkedOperand_eq_ok_iff {f : Field ρ} {rhs : Token} {operand : Operand ρ} :
    Comparison.checkedOperand schema f rhs = .ok operand ↔
      (∃ s v, rhs = .literal s ∧ f.parseLiteral? s = some v ∧ operand = .literal v) ∨
      ∃ w other, rhs = .word w ∧ schema.resolve rhs = .ok other ∧
        other.typeClass = f.typeClass ∧ operand = .field other := by
  unfold Comparison.checkedOperand
  cases rhs with
  | literal s =>
      cases hs : f.parseLiteral? s with
      | none => simp [hs]
      | some v => simp [hs, eq_comm]
  | word w =>
      cases hw : schema.resolve (.word w) with
      | error e => simp
      | ok other =>
          by_cases hclass : other.typeClass = f.typeClass
          · simp [hclass, eq_comm]
          · simp [hclass]

/-- A field that a token names is found under its own query name. -/
theorem Field.Named.field?_queryName {f : Field ρ} (h : f.Named schema) :
    schema.field? f.queryName = some f := by
  obtain ⟨t, ht⟩ := h
  have hf := Schema.field?_of_resolve ht
  have hkey : Text.lower f.queryName = Text.lower t.text := (Schema.field?_eq_some hf).2
  rw [schema.field?_congr hkey, hf]

theorem Field.Named.mem {f : Field ρ} (h : f.Named schema) : f ∈ schema.fields :=
  (Schema.field?_eq_some h.field?_queryName).1

namespace Comparison.Checked

variable {c : Comparison ρ}

theorem target (h : c.Checked schema) : c.target.Named schema := by
  obtain ⟨t, rhs, operator, hc⟩ := h
  exact ⟨t, (ofTokens_eq_ok.mp hc).1⟩

theorem supports (h : c.Checked schema) : c.target.supports c.operator = true := by
  obtain ⟨t, rhs, operator, hc⟩ := h
  exact supports_of_ofTokens hc

/-- A literal operand was read from a text in the class of the target. -/
theorem literal (h : c.Checked schema) {v : Value} (hv : c.operand = .literal v) :
    ∃ s, c.target.parseLiteral? s = some v := by
  obtain ⟨t, rhs, operator, hc⟩ := h
  have hoperand := (ofTokens_eq_ok.mp hc).2.2
  rw [hv] at hoperand
  rcases checkedOperand_eq_ok_iff.mp hoperand with ⟨s, w, -, hs, heq⟩ | ⟨w, other, -, -, -, heq⟩
  · cases heq
    exact ⟨s, hs⟩
  · cases heq

/-- A field operand is a field of the class of the target. -/
theorem field (h : c.Checked schema) {f : Field ρ} (hf : c.operand = .field f) :
    f.Named schema ∧ f.typeClass = c.target.typeClass := by
  obtain ⟨t, rhs, operator, hc⟩ := h
  have hoperand := (ofTokens_eq_ok.mp hc).2.2
  rw [hf] at hoperand
  rcases checkedOperand_eq_ok_iff.mp hoperand with ⟨s, v, -, -, heq⟩ |
    ⟨w, other, -, hother, hclass, heq⟩
  · cases heq
  · cases heq
    exact ⟨⟨rhs, hother⟩, hclass⟩

end Comparison.Checked

end RecordQuery
