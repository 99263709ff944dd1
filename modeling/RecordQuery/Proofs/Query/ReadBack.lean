import RecordQuery.Proofs.Query.Typing
import RecordQuery.Proofs.Token.Stream
import RecordQuery.Proofs.Value.ReadBack
import RecordQuery.Query.Inspection

/-!
# Queries read back

The canonical text of a query that was read is divided by the lexer into the tokens that it was
written from, and these make the same query again, but for the sign of NaN in its literals.  The
names of its fields have to be words of the lexer and no sort keywords, since they stand in the text
as they are.

A canonical text is a comparison with steps of the grammar behind it: the rest of the first group,
the further groups, and the sort clause.  Each step is written with its separator in front, so the
text behind a comparison always begins with a blank or a comma, and every token ends there.
-/

namespace RecordQuery

open Text

section

variable {ρ : Type} {schema : Schema ρ}

/-! ## Dividing texts into tokens -/

/-- The text has no fault and consists of these tokens, wherever it stands. -/
def Tokenizes (text : List Char) (tokens : List Token) : Prop :=
  ∀ position, Lexes position text tokens none

theorem Tokenizes.nil : Tokenizes [] [] := fun _ => .ended (by simp)

theorem Tokenizes.blank {text : List Char} {tokens : List Token} (h : Tokenizes text tokens) :
    Tokenizes (' ' :: text) tokens := by
  intro position
  have hgap : ∀ c ∈ [' '], isBlank c = true := List.forall_mem_singleton.mpr (by decide)
  exact Lexes.gap_append hgap (h _)

theorem Tokenizes.token {s rest : List Char} {t : Token} {tokens : List Token}
    (hs : Spells s t rest) (h : Tokenizes rest tokens) : Tokenizes (s ++ rest) (t :: tokens) := by
  intro position
  have hgap : ∀ c ∈ ([] : List Char), isBlank c = true := by simp
  exact Lexes.token hgap hs (h _)

theorem endsLiteral_nil : EndsLiteral [] := by
  intro c hc
  cases hc

theorem endsLiteral_blank (rest : List Char) : EndsLiteral (' ' :: rest) := by
  intro c hc
  exact .inl (Option.some.inj hc).symm

theorem endsLiteral_comma (rest : List Char) : EndsLiteral (',' :: rest) := by
  intro c hc
  exact .inr (Option.some.inj hc).symm

theorem spells_name {s : String} {rest : List Char} (h : IsName s.toList)
    (hrest : EndsLiteral rest) : Spells s.toList (.word s) rest := by
  have hspells : Spells s.toList (.word (String.ofList s.toList)) rest := by
    apply Spells.name h
    intro c hc
    rcases hrest c hc with rfl | rfl
    · decide
    · decide
  rwa [String.ofList_toList] at hspells

/-- A run of symbols ends at a blank. -/
theorem spells_symbols {s : String} (h : IsSymbolRun s.toList) (rest : List Char) :
    Spells s.toList (.word s) (' ' :: rest) := by
  have hspells : Spells s.toList (.word (String.ofList s.toList)) (' ' :: rest) := by
    apply Spells.symbols h
    intro c hc
    rw [← Option.some.inj hc]
    decide
  rwa [String.ofList_toList] at hspells

theorem isSymbolRun_symbol (op : Operator) : IsSymbolRun op.symbol.toList := by
  cases op <;> decide

/-! ## Fields -/

/-- The query name is a word of the lexer and no sort keyword. -/
def Field.Writable (f : Field ρ) : Prop :=
  IsName f.queryName.toList ∧ (Token.word f.queryName).sortDirection? = none

instance : DecidablePred (Field.Writable : Field ρ → Prop) := fun _ =>
  inferInstanceAs (Decidable (_ ∧ _))

/-- A field that is found by name is the one that its own query name names. -/
theorem Field.Named.resolve_queryName {f : Field ρ} (h : f.Named schema) (hf : f.Writable) :
    schema.resolve (.word f.queryName) = .ok f :=
  Schema.resolve_eq_ok_iff.mpr ⟨hf.2, h.field?_queryName⟩

/-- The fields of an operand. -/
def Operand.fields : Operand ρ → List (Field ρ)
  | literal _ => []
  | field f => [f]

/-- The fields that a query mentions. -/
def Query.mentionedFields (q : Query ρ) : List (Field ρ) :=
  q.groups.flatten.flatMap (fun c => c.target :: c.operand.fields) ++ q.sort.toList.map (·.field)

/-! ## Comparisons -/

/-- The operand, with the sign of NaN cleared. -/
def Operand.unsignNaN : Operand ρ → Operand ρ
  | literal v => literal v.unsignNaN
  | field f => field f

/-- The comparison, with the sign of NaN cleared in its operand. -/
def Comparison.unsignNaN (c : Comparison ρ) : Comparison ρ :=
  { c with operand := c.operand.unsignNaN }

namespace Comparison.Checked

variable {c : Comparison ρ}

/-- The text of an operand is a token that is checked to be that operand. -/
theorem operand (h : c.Checked schema) (hfields : ∀ f ∈ c.operand.fields, f.Writable) :
    ∃ t, (∀ rest, EndsLiteral rest → Spells c.operand.text.toList t rest) ∧
      checkedOperand schema c.target t = .ok c.operand.unsignNaN := by
  cases hoperand : c.operand with
  | literal v =>
      obtain ⟨s, hs⟩ := h.literal hoperand
      obtain ⟨t, hspells, hread⟩ := parseLiteral?_chars hs
      refine ⟨.literal t, ?_, ?_⟩
      · intro rest hrest
        rw [Operand.text, Value.text, String.toList_ofList]
        exact hspells rest hrest
      · exact checkedOperand_eq_ok_iff.mpr (.inl ⟨t, _, rfl, hread, rfl⟩)
  | field f =>
      obtain ⟨hnamed, hclass⟩ := h.field hoperand
      have hf : f.Writable := hfields f (by simp [hoperand, Operand.fields])
      refine ⟨.word f.queryName, ?_, ?_⟩
      · intro rest hrest
        exact spells_name hf.1 hrest
      · have hresolve := hnamed.resolve_queryName hf
        exact checkedOperand_eq_ok_iff.mpr (.inr ⟨_, f, rfl, hresolve, hclass, rfl⟩)

/-- **A comparison is read back from its text**, whatever follows it in a canonical text. -/
theorem term (h : c.Checked schema)
    (hfields : ∀ f ∈ c.target :: c.operand.fields, f.Writable) :
    ∃ operator operand,
      TermSpells schema [.word c.target.queryName, operator, operand] c.unsignNaN ∧
      ∀ rest tokens, EndsLiteral rest → Tokenizes rest tokens →
        Tokenizes (c.text.toList ++ rest)
          (.word c.target.queryName :: operator :: operand :: tokens) := by
  obtain ⟨htarget, hoperandFields⟩ := List.forall_mem_cons.mp hfields
  obtain ⟨t, hspells, hoperand⟩ := h.operand hoperandFields
  refine ⟨.word c.operator.symbol, t, .full ?_, ?_⟩
  · exact ofTokens_eq_ok.mpr ⟨h.target.resolve_queryName htarget,
      checkedOperator_symbol h.supports, hoperand⟩
  · intro rest tokens hrest htokens
    have htext : c.text.toList ++ rest = c.target.queryName.toList ++
        (' ' :: (c.operator.symbol.toList ++ (' ' :: (c.operand.text.toList ++ rest)))) := by
      simp [Comparison.text, String.toList_append]
    have hbehindOperator := (Tokenizes.token (hspells rest hrest) htokens).blank
    have hbehindTarget := (Tokenizes.token (spells_symbols (isSymbolRun_symbol c.operator) _)
      hbehindOperator).blank
    rw [htext]
    exact .token (spells_name htarget.1 (endsLiteral_blank _)) hbehindTarget

end Comparison.Checked

/-! ## Steps -/

namespace Step

/-- A step as text, with its separator in front. -/
def text : Step ρ → String
  | joined c => " & " ++ c.text
  | separated c => ", " ++ c.text
  | sorted clause => " " ++ clause.text

/-- The step, with the sign of NaN cleared. -/
def unsignNaN : Step ρ → Step ρ
  | joined c => joined c.unsignNaN
  | separated c => separated c.unsignNaN
  | sorted clause => sorted clause

/-- The fields of a step. -/
def fields : Step ρ → List (Field ρ)
  | joined c => c.target :: c.operand.fields
  | separated c => c.target :: c.operand.fields
  | sorted clause => [clause.field]

end Step

/-- The text of steps. -/
def stepsText (steps : List (Step ρ)) : List Char := steps.flatMap (·.text.toList)

/-- What stands in front of steps ends there. -/
theorem endsLiteral_stepsText (steps : List (Step ρ)) : EndsLiteral (stepsText steps) := by
  cases steps with
  | nil => exact endsLiteral_nil
  | cons step steps =>
      cases step with
      | joined c => simpa [stepsText, Step.text, String.toList_append] using endsLiteral_blank _
      | separated c => simpa [stepsText, Step.text, String.toList_append] using endsLiteral_comma _
      | sorted clause =>
          simpa [stepsText, Step.text, String.toList_append] using endsLiteral_blank _

theorem isName_keyword (direction : SortDirection) : IsName direction.keyword.toList := by
  cases direction with
  | ascending => decide
  | descending => decide

theorem sortDirection?_keyword (direction : SortDirection) :
    (Token.word direction.keyword).sortDirection? = some direction := by
  cases direction with
  | ascending => decide
  | descending => decide

/-- A sort clause is read back from its text. -/
theorem tokenizes_sortClause {clause : SortClause ρ} (hf : clause.field.Writable)
    {rest : List Char} {tokens : List Token} (hrest : EndsLiteral rest)
    (h : Tokenizes rest tokens) : Tokenizes (clause.text.toList ++ rest)
      (.word clause.direction.keyword :: .word clause.field.queryName :: tokens) := by
  have htext : clause.text.toList ++ rest = clause.direction.keyword.toList ++
      (' ' :: (clause.field.queryName.toList ++ rest)) := by
    simp [SortClause.text, String.toList_append]
  have hname := (Tokenizes.token (spells_name hf.1 hrest) h).blank
  rw [htext]
  exact .token (spells_name (isName_keyword _) (endsLiteral_blank _)) hname

/-- **Steps are read back from their text.** -/
theorem tailSpells_steps {steps : List (Step ρ)} (hsteps : ∀ step ∈ steps, step.Checked schema)
    (hfields : ∀ step ∈ steps, ∀ f ∈ step.fields, f.Writable) :
    ∃ tokens, TailSpells schema tokens (steps.map Step.unsignNaN) ∧
      Tokenizes (stepsText steps) tokens := by
  -- A step ends where the text of the steps behind it begins, with a blank, a comma or nothing.
  induction steps with
  | nil => exact ⟨[], .nil, .nil⟩
  | cons step steps ih =>
      obtain ⟨hstep, hsteps⟩ := List.forall_mem_cons.mp hsteps
      obtain ⟨hstepFields, hfields⟩ := List.forall_mem_cons.mp hfields
      obtain ⟨tokens, hspells, htokens⟩ := ih hsteps hfields
      have hrest := endsLiteral_stepsText steps
      cases step with
      | joined c =>
          obtain ⟨operator, operand, hterm, htext⟩ := Comparison.Checked.term hstep hstepFields
          have hbehind := (htext _ _ hrest htokens).blank
          have hand : IsSymbolRun "&".toList := by decide
          refine ⟨_, .joined hterm hspells, ?_⟩
          have hseparator := (Tokenizes.token (spells_symbols hand _) hbehind).blank
          simpa [stepsText, Step.text, String.toList_append] using hseparator
      | separated c =>
          obtain ⟨operator, operand, hterm, htext⟩ := Comparison.Checked.term hstep hstepFields
          have hbehind := (htext _ _ hrest htokens).blank
          have hcomma : IsSymbolRun ",".toList := by decide
          refine ⟨_, .separated hterm hspells, ?_⟩
          have hseparator := Tokenizes.token (spells_symbols hcomma _) hbehind
          simpa [stepsText, Step.text, String.toList_append] using hseparator
      | sorted clause =>
          have hf : clause.field.Writable := hstepFields _ (by simp [Step.fields])
          have hnamed : clause.field.Named schema := hstep
          refine ⟨_, .sorted (sortDirection?_keyword clause.direction)
            (hnamed.resolve_queryName hf) hspells, ?_⟩
          have hclause := (tokenizes_sortClause hf hrest htokens).blank
          simpa [stepsText, Step.text, String.toList_append] using hclause

/-! ## The steps behind the first comparison -/

/-- The steps of a group behind another one. -/
def groupSteps : Group ρ → List (Step ρ)
  | [] => []
  | c :: cs => .separated c :: cs.map .joined

namespace Tail

/-- The steps that a canonical text writes for a tail. -/
def steps (tail : Tail ρ) : List (Step ρ) :=
  tail.joined.map .joined ++ (tail.further.flatMap groupSteps ++ tail.sort.toList.map .sorted)

/-- The tail, with the sign of NaN cleared. -/
def unsignNaN (tail : Tail ρ) : Tail ρ :=
  ⟨tail.joined.map Comparison.unsignNaN, tail.further.map (·.map Comparison.unsignNaN), tail.sort⟩

theorem steps_unsignNaN (tail : Tail ρ) :
    tail.unsignNaN.steps = tail.steps.map Step.unsignNaN := by
  have hjoined (cs : Group ρ) : (cs.map Comparison.unsignNaN).map Step.joined =
      (cs.map Step.joined).map Step.unsignNaN := by
    rw [List.map_map, List.map_map]
    rfl
  have hgroup (g : Group ρ) :
      groupSteps (g.map Comparison.unsignNaN) = (groupSteps g).map Step.unsignNaN := by
    cases g with
    | nil => rfl
    | cons c cs =>
        rw [List.map_cons, groupSteps, hjoined, groupSteps, List.map_cons, Step.unsignNaN]
  have hsort : (tail.sort.toList.map Step.sorted).map Step.unsignNaN =
      tail.sort.toList.map Step.sorted := by
    rw [List.map_map]
    rfl
  simp only [steps, unsignNaN, List.map_append, hjoined, hsort, List.flatMap_map, hgroup,
    List.map_flatMap]

theorem ofSteps_joined_append (cs : Group ρ) (steps : List (Step ρ)) :
    ofSteps (cs.map .joined ++ steps) =
      { ofSteps steps with joined := cs ++ (ofSteps steps).joined } := by
  induction cs with
  | nil => rfl
  | cons c cs ih =>
      rw [List.map_cons, List.cons_append, ofSteps, ih]
      rfl

theorem ofSteps_further {gs : List (Group ρ)} (hgs : ∀ g ∈ gs, g ≠ [])
    (sort : Option (SortClause ρ)) :
    ofSteps (gs.flatMap groupSteps ++ sort.toList.map .sorted) = ⟨[], gs, sort⟩ := by
  induction gs with
  | nil =>
      cases sort with
      | none => rfl
      | some clause => rfl
  | cons g gs ih =>
      obtain ⟨hg, hfurther⟩ := List.forall_mem_cons.mp hgs
      cases g with
      | nil => exact absurd rfl hg
      | cons c cs =>
          rw [List.flatMap_cons, groupSteps, List.append_assoc, List.cons_append, ofSteps,
            ofSteps_joined_append, ih hfurther]
          simp [join, separate, groups]

/-- **The steps of a canonical text make the tail that they were written for.** -/
theorem ofSteps_steps {tail : Tail ρ} (h : ∀ g ∈ tail.further, g ≠ []) :
    ofSteps tail.steps = tail := by
  rw [steps, ofSteps_joined_append, ofSteps_further h]
  simp

/-- What holds of all comparisons and of the sort clause holds of the steps. -/
theorem forall_steps {tail : Tail ρ} {p : Step ρ → Prop}
    (hcomparisons : ∀ c ∈ tail.joined ++ tail.further.flatten, p (.joined c) ∧ p (.separated c))
    (hsort : ∀ clause ∈ tail.sort, p (.sorted clause)) : ∀ step ∈ tail.steps, p step := by
  obtain ⟨hjoined, hfurther⟩ := List.forall_mem_append.mp hcomparisons
  refine List.forall_mem_append.mpr ⟨?_, List.forall_mem_append.mpr ⟨?_, ?_⟩⟩
  · intro step hstep
    obtain ⟨c, hc, rfl⟩ := List.mem_map.mp hstep
    exact (hjoined c hc).1
  · intro step hstep
    obtain ⟨g, hg, hstep⟩ := List.mem_flatMap.mp hstep
    cases g with
    | nil => cases hstep
    | cons c cs =>
        have hmem (d : Comparison ρ) (hd : d ∈ c :: cs) : d ∈ tail.further.flatten :=
          List.mem_flatten.mpr ⟨_, hg, hd⟩
        rcases List.mem_cons.mp hstep with rfl | hstep
        · exact (hfurther c (hmem c (by simp))).2
        · obtain ⟨d, hd, rfl⟩ := List.mem_map.mp hstep
          exact (hfurther d (hmem d (List.mem_cons_of_mem c hd))).1
  · intro step hstep
    obtain ⟨clause, hclause, rfl⟩ := List.mem_map.mp hstep
    exact hsort clause (by simpa using hclause)

end Tail

/-! ## Whole queries -/

/-- The query, with the sign of NaN cleared in its literals. -/
def Query.unsignNaN (q : Query ρ) : Query ρ :=
  { q with groups := q.groups.map (·.map Comparison.unsignNaN) }

theorem stepsText_append (steps further : List (Step ρ)) :
    stepsText (steps ++ further) = stepsText steps ++ stepsText further := List.flatMap_append

theorem toList_groupText (c : Comparison ρ) (cs : Group ρ) :
    (Group.text (c :: cs)).toList = c.text.toList ++ stepsText (cs.map .joined) := by
  induction cs generalizing c with
  | nil => simp [Group.text, stepsText]
  | cons d cs ih =>
      have htail := ih d
      simp only [Group.text, List.map_cons, String.intercalate_cons_cons, String.toList_append]
        at htail ⊢
      rw [htail]
      simp [stepsText, Step.text, String.toList_append]

theorem toList_groupsText (g : Group ρ) {gs : List (Group ρ)} (hgs : ∀ h ∈ gs, h ≠ []) :
    (String.intercalate ", " ((g :: gs).map Group.text)).toList =
      g.text.toList ++ stepsText (gs.flatMap groupSteps) := by
  induction gs generalizing g with
  | nil => simp [stepsText]
  | cons h gs ih =>
      obtain ⟨hh, hgs⟩ := List.forall_mem_cons.mp hgs
      have htail := ih h hgs
      cases h with
      | nil => exact absurd rfl hh
      | cons c cs =>
          simp only [List.map_cons, String.intercalate_cons_cons, String.toList_append] at htail ⊢
          rw [htail, toList_groupText]
          simp [stepsText, Step.text, groupSteps, String.toList_append]

/-- The text of a query that has groups. -/
theorem Query.toList_text (c : Comparison ρ) (tail : Tail ρ) (h : ∀ g ∈ tail.further, g ≠ []) :
    (⟨(c :: tail.joined) :: tail.further, tail.sort⟩ : Query ρ).text.toList =
      c.text.toList ++ stepsText tail.steps := by
  have hgroups := toList_groupsText (c :: tail.joined) h
  rw [toList_groupText] at hgroups
  obtain ⟨joined, further, sort⟩ := tail
  rw [Tail.steps, stepsText_append, stepsText_append, ← List.append_assoc, ← List.append_assoc,
    ← hgroups]
  cases sort with
  | none => simp [text, groupsText, stepsText]
  | some clause => simp [text, groupsText, isEmpty, stepsText, Step.text]

/-- What a query without groups is written as. -/
theorem Query.toList_text_nil (clause : SortClause ρ) :
    (⟨[], some clause⟩ : Query ρ).text.toList = clause.text.toList ++ [] := by
  simp [text, groupsText, isEmpty]

/-- The text of a query that begins with `c` is divided into the tokens of `c` and those of the
steps behind it. -/
theorem reads_terms {c : Comparison ρ} {tail : Tail ρ} (hc : c.Checked schema)
    (hcFields : ∀ f ∈ c.target :: c.operand.fields, f.Writable)
    (hsteps : ∀ step ∈ tail.steps, step.Checked schema)
    (hstepsFields : ∀ step ∈ tail.steps, ∀ f ∈ step.fields, f.Writable)
    (hfurther : ∀ g ∈ tail.further, g ≠ []) :
    ∃ tokens, Reads schema tokens
        ⟨(c.unsignNaN :: tail.unsignNaN.joined) :: tail.unsignNaN.further, tail.sort⟩ ∧
      Tokenizes (⟨(c :: tail.joined) :: tail.further, tail.sort⟩ : Query ρ).text.toList tokens := by
  obtain ⟨operator, operand, hterm, htext⟩ := hc.term hcFields
  obtain ⟨tokens, htail, htokens⟩ := tailSpells_steps hsteps hstepsFields
  have hopens : schema.OpensTerms (.word c.target.queryName) := by
    have hfound := hc.target.field?_queryName
    simp [Schema.OpensTerms, Schema.contains, hfound]
  have hnonempty : ∀ g ∈ tail.unsignNaN.further, g ≠ [] := by
    intro g hg
    obtain ⟨h, hh, rfl⟩ := List.mem_map.mp hg
    have hne := hfurther h hh
    simpa using hne
  have hreads := Reads.terms .nil rfl hopens hterm htail
  rw [← Tail.steps_unsignNaN, groupsFrom_eq, List.nil_append, List.nil_append, ← sort_ofSteps,
    Tail.ofSteps_steps hnonempty] at hreads
  refine ⟨_, hreads, ?_⟩
  rw [Query.toList_text c tail hfurther]
  exact htext _ _ (endsLiteral_stepsText _) htokens

/-- The text of a checked query is divided into tokens from which the grammar makes the query. -/
theorem Query.Checked.reads_text {q : Query ρ} (h : q.Checked schema)
    (hfields : ∀ f ∈ q.mentionedFields, f.Writable) :
    ∃ tokens, Reads schema tokens q.unsignNaN ∧ Tokenizes q.text.toList tokens := by
  obtain ⟨hconditions, hsort⟩ := List.forall_mem_append.mp hfields
  obtain ⟨groups, sort⟩ := q
  match groups, sort with
  | [], none => exact ⟨[], .sorts .nil, .nil⟩
  | [], some clause =>
      have hf : clause.field.Writable := hsort _ (by simp)
      have hnamed : clause.field.Named schema := h.sort clause rfl
      refine ⟨_, .sorts (.cons (sortDirection?_keyword clause.direction)
        (hnamed.resolve_queryName hf) .nil), ?_⟩
      rw [Query.toList_text_nil]
      exact tokenizes_sortClause hf endsLiteral_nil .nil
  | [] :: gs, sort => exact absurd rfl (h.nonempty [] (by simp))
  | (c :: cs) :: gs, sort =>
      have hwritable : ∀ d ∈ ((c :: cs) :: gs).flatten, ∀ f ∈ d.target :: d.operand.fields,
          f.Writable := by
        intro d hd f hf
        exact hconditions f (List.mem_flatMap.mpr ⟨d, hd, hf⟩)
      obtain ⟨hc, hbehind⟩ := List.forall_mem_cons.mp h.comparisons
      obtain ⟨hcFields, hbehindFields⟩ := List.forall_mem_cons.mp hwritable
      have hsteps : ∀ step ∈ Tail.steps ⟨cs, gs, sort⟩, step.Checked schema :=
        Tail.forall_steps (fun d hd => ⟨hbehind d hd, hbehind d hd⟩) h.sort
      have hstepsFields : ∀ step ∈ Tail.steps ⟨cs, gs, sort⟩, ∀ f ∈ step.fields, f.Writable := by
        apply Tail.forall_steps
        · intro d hd
          exact ⟨hbehindFields d hd, hbehindFields d hd⟩
        · intro clause hclause f hf
          rw [List.mem_singleton.mp hf]
          exact hsort _ (List.mem_map_of_mem (Option.mem_toList.mpr hclause))
      exact reads_terms hc hcFields hsteps hstepsFields (List.forall_mem_cons.mp h.nonempty).2

/-- **Canonical text reads back.**  The text of a query that was read is read as the same query:
the same groups, comparisons and order, with NaN without its sign. -/
theorem Query.parse_text_of_parse {s : String} {q : Query ρ} (h : Query.parse schema s = .ok q)
    (hfields : ∀ f ∈ q.mentionedFields, f.Writable) :
    Query.parse schema q.text = .ok q.unsignNaN := by
  obtain ⟨tokens, hreads, htokens⟩ := (Query.checked_of_parse h).reads_text hfields
  exact Query.parse_eq_ok_iff.mpr ⟨tokens, (htokens 0).tokens_eq, ofTokens_of_reads hreads⟩

end

/-! ## Tracks -/

namespace Tracks

def field (name : String) (typeClass : TypeClass) (variants : List String) : Field Unit :=
  ⟨name, name, typeClass, variants, fun _ => .null⟩

def title : Field Unit := field "title" .string []

def plays : Field Unit := field "plays" .int []

def gain : Field Unit := field "gain" .float []

def length : Field Unit := field "length" .duration []

def genre : Field Unit := field "genre" .enum ["Jazz", "Rock"]

def schema : Schema Unit := ⟨"track", [title, plays, gain, length, genre], some title⟩

/-- A literal on its own, names in another case than the declared one, a negative number, NaN with a
sign, sort clauses between the comparisons, and a separator at the end. -/
def text : String :=
  "orderby title \"it's\" & PLAYS>'-3' orderbydescending plays, gain='-nan' & " ++
    "length<'0:01:30.5', genre='rock',"

def query : Query Unit where
  groups :=
    [[⟨title, .contains, .literal (.string "it's")⟩,
      ⟨plays, .greaterThan, .literal (.integer (-3))⟩],
     [⟨gain, .equal, .literal (.float (.nan true))⟩,
      ⟨length, .lessThan, .literal (.duration ⟨90, 500000000, by decide, by decide⟩)⟩],
     [⟨genre, .equal, .literal (.variant "Rock")⟩]]
  sort := some ⟨plays, .descending⟩

theorem parse_query : Query.parse schema text = .ok query := by
  have htokens : Lexed.ofText text =
      ⟨[.word "orderby", .word "title", .literal "it's", .word "&", .word "PLAYS", .word ">",
        .literal "-3", .word "orderbydescending", .word "plays", .word ",", .word "gain",
        .word "=", .literal "-nan", .word "&", .word "length", .word "<", .literal "0:01:30.5",
        .word ",", .word "genre", .word "=", .literal "rock", .word ","], none⟩ := by
    cbv
  exact Query.parse_eq_ok_iff.mpr ⟨_, htokens, rfl⟩

end Tracks

theorem parse_text_tracks :
    Query.parse Tracks.schema Tracks.text = .ok Tracks.query ∧
    (∀ f ∈ Tracks.query.mentionedFields, f.Writable) ∧
    Tracks.query.text = "title * 'it\\'s' & plays > '-3', gain = 'NaN' & " ++
      "length < '00:01:30.5', genre = 'Rock' orderbydescending plays" ∧
    Query.parse Tracks.schema Tracks.query.text = .ok Tracks.query.unsignNaN := by
  have hfields : ∀ f ∈ Tracks.query.mentionedFields, f.Writable := by decide
  have htext : Tracks.query.text = "title * 'it\\'s' & plays > '-3', gain = 'NaN' & " ++
      "length < '00:01:30.5', genre = 'Rock' orderbydescending plays" := rfl
  exact ⟨Tracks.parse_query, hfields, htext, Query.parse_text_of_parse Tracks.parse_query hfields⟩

end RecordQuery
