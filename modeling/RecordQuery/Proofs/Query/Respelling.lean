import Mathlib.Data.List.Forall2
import RecordQuery.Json.Basic
import RecordQuery.Proofs.Query.Faults
import RecordQuery.Proofs.Text.Ascii

/-!
# The case of words

Words are looked at in three ways.  The name of a field is looked up by its lower-case form in all
of Unicode, a sort keyword is recognised if ASCII capitals count as small letters, and a separator
or an operator has to be written as it is.  The three agree: the keywords are in ASCII and have no
`k`, so that no text from outside ASCII has their lower-case form, and the symbols have no letters.
Words with the same lower-case form are therefore read alike wherever they stand, and only the texts
of errors show how they were spelled.

Free text is the exception, since its words become a literal.
-/

namespace RecordQuery

/-! ## Spellings -/

/-- The same token but for the case of a word. -/
inductive Token.Respelled : Token → Token → Prop
  | literal (s : String) : Respelled (.literal s) (.literal s)
  | word {a b : String} : Text.lower a = Text.lower b → Respelled (.word a) (.word b)

/-- The same error but for the case of the words that it shows. -/
inductive QueryError.Respelled : QueryError → QueryError → Prop
  | refl (e : QueryError) : Respelled e e
  | unknownField {a b : String} (entity : String) : Text.lower a = Text.lower b →
      Respelled (.unknownField a entity) (.unknownField b entity)
  | unfinished {ts us : List Token} : List.Forall₂ Token.Respelled ts us →
      Respelled (.ofUnfinished ts) (.ofUnfinished us)
  | invalidOperator {a b : String} : Text.lower a = Text.lower b →
      Respelled (.invalidOperator a) (.invalidOperator b)
  | unsupportedOperator {a b : String} (field : String) : Text.lower a = Text.lower b →
      Respelled (.unsupportedOperator a field) (.unsupportedOperator b field)

/-- The same result, or the same error but for the case of the words that it shows. -/
inductive Alike {α : Type} : Except QueryError α → Except QueryError α → Prop
  | ok (a : α) : Alike (.ok a) (.ok a)
  | error {e e' : QueryError} : e.Respelled e' → Alike (.error e) (.error e')

namespace Alike

variable {α β : Type}

theorem refl (x : Except QueryError α) : Alike x x := by
  cases x with
  | ok a => exact .ok a
  | error e => exact .error (.refl e)

/-- Runs are alike if their first steps are and what follows each result is. -/
theorem bind {x y : Except QueryError α} {f g : α → Except QueryError β} (h : Alike x y)
    (hf : ∀ a, x = .ok a → Alike (f a) (g a)) : Alike (x >>= f) (y >>= g) := by
  cases h with
  | ok a => exact hf a rfl
  | error he => exact .error he

/-- What is like a result is that result. -/
theorem eq_ok {a : α} {y : Except QueryError α} (h : Alike (.ok a) y) : y = .ok a := by
  cases h with
  | ok a => rfl

end Alike

/-! ## Keywords and symbols -/

/-- The sort keywords are in ASCII and have no `k`. -/
theorem SortDirection.keyword_isOwnCase (direction : SortDirection) :
    direction.keyword.toList.all Text.isOwnCase = true := by
  cases direction <;> decide

/-- The symbols of operators are in ASCII and have no letters. -/
theorem Operator.symbol_isCaseless (op : Operator) :
    op.symbol.toList.all Text.isCaseless = true := by
  cases op <;> decide

/-- To agree with a keyword in ASCII is to have its lower-case form. -/
theorem sameIgnoringAsciiCase_keyword (s : String) (direction : SortDirection) :
    Token.sameIgnoringAsciiCase s direction.keyword =
      decide (Text.lower s = Text.lower direction.keyword) :=
  decide_eq_decide.mpr (Text.lower_eq_iff_toLower direction.keyword_isOwnCase).symm

namespace Token.Respelled

variable {t u : Token}

theorem sortDirection?_eq (h : Respelled t u) : t.sortDirection? = u.sortDirection? := by
  cases h with
  | literal s => rfl
  | word hlower => simp only [Token.sortDirection?, sameIgnoringAsciiCase_keyword, hlower]

theorem ofToken?_eq (h : Respelled t u) : Operator.ofToken? t = Operator.ofToken? u := by
  cases h with
  | literal s => rfl
  | word hlower =>
      ext op
      simp only [Operator.ofToken?, Operator.ofSymbol?_eq_some_iff,
        ← Text.lower_eq_iff op.symbol_isCaseless, hlower]

/-- A symbol in ASCII without letters is spelled in one way only. -/
theorem eq_word_iff (h : Respelled t u) {symbol : String}
    (hsymbol : symbol.toList.all Text.isCaseless = true) :
    t = .word symbol ↔ u = .word symbol := by
  cases h with
  | literal s => simp
  | word hlower =>
      simp only [Token.word.injEq, ← Text.lower_eq_iff hsymbol, hlower]

theorem isGroupSeparator_eq (h : Respelled t u) : t.isGroupSeparator = u.isGroupSeparator :=
  decide_eq_decide.mpr (h.eq_word_iff (by decide))

theorem isTermSeparator_eq (h : Respelled t u) : t.isTermSeparator = u.isTermSeparator :=
  decide_eq_decide.mpr (h.eq_word_iff (by decide))

end Token.Respelled

section

variable {ρ : Type} {schema : Schema ρ}

/-! ## Fields and comparisons -/

theorem Token.Respelled.lower_text {t u : Token} (h : Respelled t u) :
    Text.lower t.text = Text.lower u.text := by
  cases h with
  | literal s => rfl
  | word hlower => exact hlower

theorem Token.Respelled.opensTerms_iff {t u : Token} (h : Respelled t u) :
    schema.OpensTerms t ↔ schema.OpensTerms u := by
  cases h with
  | literal s => rfl
  | word hlower => simp only [Schema.OpensTerms, Schema.contains, schema.field?_congr hlower]

/-- Names that differ in case name the same field or none. -/
theorem Token.Respelled.resolve {t u : Token} (h : Respelled t u) :
    Alike (schema.resolve t) (schema.resolve u) := by
  unfold Schema.resolve
  rw [h.sortDirection?_eq, schema.field?_congr h.lower_text]
  split
  · exact .refl _
  · cases schema.field? u.text with
    | some f => exact .refl _
    | none => exact .error (.unknownField schema.entity h.lower_text)

namespace Comparison

theorem checkedOperator_alike (f : Field ρ) {t u : Token} (h : t.Respelled u) :
    Alike (checkedOperator f (some t)) (checkedOperator f (some u)) := by
  simp only [checkedOperator, h.ofToken?_eq]
  cases Operator.ofToken? u with
  | some op => exact .refl _
  | none => exact .error (.unsupportedOperator f.queryName h.lower_text)

/-- A word as right-hand side has to name a field of the same class. -/
theorem checkedOperand_word (f : Field ρ) (w : String) :
    checkedOperand schema f (.word w) = schema.resolve (.word w) >>= fun other =>
      if other.typeClass = f.typeClass then .ok (.field other)
      else .error (.fieldTypeMismatch f.queryName f.typeClass other.queryName other.typeClass) := by
  rw [checkedOperand]
  cases schema.resolve (.word w) <;> rfl

theorem checkedOperand_alike (f : Field ρ) {t u : Token} (h : t.Respelled u) :
    Alike (checkedOperand schema f t) (checkedOperand schema f u) := by
  cases h with
  | literal s => exact .refl _
  | word hlower =>
      rw [checkedOperand_word, checkedOperand_word]
      exact (Token.Respelled.word hlower).resolve.bind fun other _ => .refl _

/-- **Comparisons** whose tokens differ in case are the same, or are refused for the same reason. -/
theorem ofTokens_alike {target target' operator operator' rhs rhs' : Token}
    (htarget : target.Respelled target') (hoperator : operator.Respelled operator')
    (hrhs : rhs.Respelled rhs') :
    Alike (ofTokens schema target rhs (some operator))
      (ofTokens schema target' rhs' (some operator')) := by
  refine htarget.resolve.bind fun f _ => ?_
  refine (checkedOperator_alike f hoperator).bind fun op _ => ?_
  exact (checkedOperand_alike f hrhs).bind fun operand _ => .refl _

end Comparison

/-! ## Terms -/

/-- Terms that differ in case are read alike if what follows the first of them is. -/
theorem terms_alike {ts us : List Token} (h : List.Forall₂ Token.Respelled ts us)
    (hbehind : ∀ {ts' us' : List Token}, ts'.length < ts.length →
      List.Forall₂ Token.Respelled ts' us' →
      Alike (separators schema ts') (separators schema us')) :
    Alike (terms schema ts) (terms schema us) := by
  cases h with
  | nil => exact .refl _
  | @cons t u ts us htu hrest =>
      cases htu with
      | literal s =>
          rw [terms, terms]
          refine (Alike.refl _).bind fun c _ => ?_
          exact (hbehind (Nat.lt_succ_self _) hrest).bind fun tail _ => .refl _
      | @word a b hlower =>
          have htarget : (Token.word a).Respelled (.word b) := .word hlower
          cases hsort : (Token.word b).sortDirection? with
          | some direction =>
              have hsort' := htarget.sortDirection?_eq.trans hsort
              unfold terms
              simp only [hsort, hsort']
              exact .refl _
          | none =>
              have hsort' := htarget.sortDirection?_eq.trans hsort
              cases hrest with
              | nil =>
                  simp only [terms, hsort, hsort']
                  exact .error (.unfinished (.cons htarget .nil))
              | @cons operator _ _ _ hoperator hrest =>
                  cases hrest with
                  | nil =>
                      simp only [terms, hsort, hsort']
                      exact .error (.unfinished (.cons htarget (.cons hoperator .nil)))
                  | @cons rhs _ ts us hrhs hrest =>
                      have hlt : ts.length < (Token.word a :: operator :: rhs :: ts).length := by
                        rw [List.length_cons, List.length_cons, List.length_cons]
                        omega
                      simp only [terms, hsort, hsort']
                      refine (Comparison.ofTokens_alike htarget hoperator hrhs).bind
                        fun c _ => ?_
                      exact (hbehind hlt hrest).bind fun tail _ => .refl _

/-- What follows a term is read alike if it differs in case only. -/
theorem separators_alike {ts us : List Token} (h : List.Forall₂ Token.Respelled ts us) :
    Alike (separators schema ts) (separators schema us) := by
  -- What is read behind a term or a sort clause is shorter, so the induction is on the length.
  induction hn : ts.length using Nat.strongRecOn generalizing ts us with
  | _ n ih =>
    subst hn
    cases h with
    | nil => exact .refl _
    | @cons t u ts us htu hrest =>
        cases htu with
        | literal s => exact .refl _
        | @word a b hlower =>
            have hword : (Token.word a).Respelled (.word b) := .word hlower
            have hterms : Alike (terms schema ts) (terms schema us) :=
              terms_alike hrest fun hlt h => ih _ (Nat.lt_succ_of_lt hlt) h rfl
            rw [separators.eq_def schema (.word a :: ts), separators.eq_def schema (.word b :: us)]
            simp only [hword.isGroupSeparator_eq, hword.isTermSeparator_eq,
              hword.sortDirection?_eq]
            split
            · exact hterms.bind fun tail _ => .refl _
            · split
              · exact hterms
              · cases (Token.word b).sortDirection? with
                | none => exact .error (.invalidOperator hlower)
                | some direction =>
                    cases hrest with
                    | nil => exact .refl _
                    | @cons name _ ts us hname hrest =>
                        have hlt : ts.length < (Token.word a :: name :: ts).length := by
                          rw [List.length_cons, List.length_cons]
                          omega
                        refine hname.resolve.bind fun field _ => ?_
                        exact (ih _ hlt hrest rfl).bind fun tail _ => .refl _

/-! ## Queries -/

/-- **Words are read without regard to their case.**  Tokens that are no free text, and others that
differ from them in the case of words only, make the same query or the same error but for the
spelling of the words in it.  By `SortsSpell.not_isFreeText`, tokens are no free text if a literal
or the name of a field stands behind their sort clauses. -/
theorem ofTokens_respelled (schema : Schema ρ) {ts us : List Token}
    (hsame : List.Forall₂ Token.Respelled ts us) (htext : ¬ IsFreeText schema ts) :
    Alike (Query.ofTokens schema ts) (Query.ofTokens schema us) := by
  induction hn : ts.length using Nat.strongRecOn generalizing ts us with
  | _ n ih =>
    subst hn
    cases hsame with
    | nil => exact .refl _
    | @cons t u ts us htu hrest =>
        cases hsort : t.sortDirection? with
        | none =>
            have hsort' := htu.sortDirection?_eq.symm.trans hsort
            have hopens := opensTerms_of_not_isFreeText hsort htext
            rw [ofTokens_of_opensTerms hsort hopens,
              ofTokens_of_opensTerms hsort' (htu.opensTerms_iff.mp hopens)]
            have hterms : Alike (terms schema (t :: ts)) (terms schema (u :: us)) :=
              terms_alike (.cons htu hrest) fun _ h => separators_alike h
            exact hterms.bind fun tail _ => .refl _
        | some direction =>
            have hsort' := htu.sortDirection?_eq.symm.trans hsort
            cases hrest with
            | nil =>
                simp only [Query.ofTokens, hsort, hsort']
                exact .refl _
            | @cons name _ ts us hname hrest =>
                have hlt : ts.length < (t :: name :: ts).length := by
                  rw [List.length_cons, List.length_cons]
                  omega
                rw [ofTokens_keyword hsort, ofTokens_keyword hsort']
                refine hname.resolve.bind fun field hfield => ?_
                have hmore : ¬ IsFreeText schema ts := fun hmore =>
                  htext (.sorted hsort hfield hmore)
                exact (ih _ hlt hrest hmore rfl).bind fun q _ => .refl _

end

/-! ## Drinks -/

namespace Drinks

def kind : Field Json := ⟨"kind", "kind", .string, [], fun _ => .null⟩

def size : Field Json := ⟨"size", "größe", .int, [], fun _ => .null⟩

def schema : Schema Json := ⟨"drink", [kind, size], some kind⟩

def quiet : List Token :=
  [.word "orderby", .word "größe", .word "kind", .word "*", .literal "Tea", .word ",",
    .word "größe", .word ">", .literal "2"]

/-- The first letter of the third word is the Kelvin sign. -/
def loud : List Token :=
  [.word "OrderBy", .word "GRÖẞE", .word "\u212AIND", .word "*", .literal "Tea", .word ",",
    .word "Größe", .word ">", .literal "2"]

def query : Query Json :=
  ⟨[[⟨kind, .contains, .literal (.string "Tea")⟩],
    [⟨size, .greaterThan, .literal (.integer 2)⟩]], some ⟨size, .ascending⟩⟩

end Drinks

/-- Capitals from outside ASCII count as well. -/
theorem ofTokens_respelled_drinks :
    List.Forall₂ Token.Respelled Drinks.quiet Drinks.loud ∧
    ¬ IsFreeText Drinks.schema Drinks.quiet ∧
    Query.ofTokens Drinks.schema Drinks.quiet = .ok Drinks.query ∧
    Query.ofTokens Drinks.schema Drinks.loud = .ok Drinks.query := by
  have hsame : List.Forall₂ Token.Respelled Drinks.quiet Drinks.loud :=
    .cons (.word (by decide +kernel)) <| .cons (.word (by decide +kernel)) <|
    .cons (.word (by decide +kernel)) <| .cons (.word rfl) <| .cons (.literal "Tea") <|
    .cons (.word rfl) <| .cons (.word (by decide +kernel)) <| .cons (.word rfl) <|
    .cons (.literal "2") .nil
  have hfront : SortsSpell Drinks.schema [.word "orderby", .word "größe"]
      [⟨Drinks.size, .ascending⟩] := .cons rfl rfl .nil
  have htext : ¬ IsFreeText Drinks.schema Drinks.quiet :=
    hfront.not_isFreeText (t := .word "kind") rfl rfl
  have hquiet : Query.ofTokens Drinks.schema Drinks.quiet = .ok Drinks.query := rfl
  have halike := ofTokens_respelled Drinks.schema hsame htext
  rw [hquiet] at halike
  exact ⟨hsame, htext, hquiet, halike.eq_ok⟩

end RecordQuery
