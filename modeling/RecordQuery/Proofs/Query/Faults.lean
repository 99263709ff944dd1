import RecordQuery.Json.Basic
import RecordQuery.Proofs.Query.Recognition

/-!
# The first fault of a query

Tokens that make no query have a first place at which they stop making one.  Up to that place they
are a beginning of a query, and the last of them do not fit: a term whose comparison is refused, a
token that separates nothing, or a sort keyword with a name behind it that is none.  The rules below
say which tokens these are and which error they make, and whatever follows them is not looked at.

Two errors are left out, since further tokens may mend them: a comparison that ends too early, and a
sort keyword without a name.
-/

namespace RecordQuery

section

variable {ρ : Type} {schema : Schema ρ}

/-- Whether further tokens may mend the error. -/
def QueryError.isUnfinished : QueryError → Bool
  | incomplete _ | missingSortField => true
  | _ => false

/-! ## Faults -/

/-- The tokens of a term whose comparison is refused. -/
inductive TermFault (schema : Schema ρ) : List Token → QueryError → Prop
  | bare {s : String} {e : QueryError} : Comparison.ofBareLiteral schema s = .error e →
      TermFault schema [.literal s] e
  | full {target : String} {operator rhs : Token} {e : QueryError} :
      (Token.word target).sortDirection? = none →
      Comparison.ofTokens schema (.word target) rhs (some operator) = .error e →
      TermFault schema [.word target, operator, rhs] e

/-- The tokens behind a term up to one that does not fit. -/
inductive TailFault (schema : Schema ρ) : List Token → QueryError → Prop
  | unseparated {s : String} : TailFault schema [.literal s] (.unseparatedLiteral s)
  | noSeparator {w : String} : ¬ (Token.word w = .word "," ∨ Token.word w = .word "&") →
      (Token.word w).sortDirection? = none → TailFault schema [.word w] (.invalidOperator w)
  | term {separator : Token} {fault : List Token} {e : QueryError} :
      separator = .word "," ∨ separator = .word "&" → TermFault schema fault e →
      TailFault schema (separator :: fault) e
  | name {keyword name : Token} {direction : SortDirection} {e : QueryError} :
      keyword.sortDirection? = some direction → schema.resolve name = .error e →
      TailFault schema [keyword, name] e
  | behindTerm {separator : Token} {term fault : List Token} {c : Comparison ρ} {e : QueryError} :
      separator = .word "," ∨ separator = .word "&" → TermSpells schema term c →
      TailFault schema fault e → TailFault schema (separator :: (term ++ fault)) e
  | behindSort {keyword name : Token} {direction : SortDirection} {field : Field ρ}
      {fault : List Token} {e : QueryError} : keyword.sortDirection? = some direction →
      schema.resolve name = .ok field → TailFault schema fault e →
      TailFault schema (keyword :: name :: fault) e

/-- The tokens of a query of comparisons up to one that does not fit. -/
inductive QueryFault (schema : Schema ρ) : List Token → QueryError → Prop
  | term {t : Token} {fault : List Token} {e : QueryError} : schema.OpensTerms t →
      TermFault schema (t :: fault) e → QueryFault schema (t :: fault) e
  | name {keyword name : Token} {direction : SortDirection} {e : QueryError} :
      keyword.sortDirection? = some direction → schema.resolve name = .error e →
      QueryFault schema [keyword, name] e
  | behindTerm {t : Token} {term fault : List Token} {c : Comparison ρ} {e : QueryError} :
      schema.OpensTerms t → TermSpells schema (t :: term) c → TailFault schema fault e →
      QueryFault schema (t :: (term ++ fault)) e
  | behindSort {keyword name : Token} {direction : SortDirection} {field : Field ρ}
      {fault : List Token} {e : QueryError} : keyword.sortDirection? = some direction →
      schema.resolve name = .ok field → QueryFault schema fault e →
      QueryFault schema (keyword :: name :: fault) e

/-! ## What follows a fault -/

theorem TermFault.terms_append {fault : List Token} {e : QueryError}
    (h : TermFault schema fault e) (rest : List Token) :
    terms schema (fault ++ rest) = .error e := by
  cases h with
  | bare hrefused => rw [List.singleton_append, terms, hrefused, error_bind]
  | full hsort hrefused =>
      simp only [List.cons_append, List.nil_append, terms, hsort, hrefused]
      rfl

theorem separators_of_terms_error {separator : Token} {ts : List Token} {e : QueryError}
    (hsep : separator = .word "," ∨ separator = .word "&") (h : terms schema ts = .error e) :
    separators schema (separator :: ts) = .error e := by
  rcases hsep with rfl | rfl
  · rw [separators, if_pos (by decide), h, error_bind]
  · rw [separators, if_neg (by decide), if_pos (by decide), h]

/-- A word behind a term that is neither a separator nor a sort keyword does not fit. -/
theorem separators_word {w : String}
    (hsep : ¬ (Token.word w = .word "," ∨ Token.word w = .word "&"))
    (hsort : (Token.word w).sortDirection? = none) (rest : List Token) :
    separators schema (.word w :: rest) = .error (.invalidOperator w) := by
  obtain ⟨hgroup, hterm⟩ := isSeparator_eq_false hsep
  simp only [separators, hgroup, hterm, hsort]
  rfl

/-- **What follows a fault behind a term does not matter.** -/
theorem TailFault.separators_append {fault : List Token} {e : QueryError}
    (h : TailFault schema fault e) (rest : List Token) :
    separators schema (fault ++ rest) = .error e := by
  induction h with
  | unseparated => rfl
  | noSeparator hsep hsort => exact separators_word hsep hsort rest
  | term hsep hfault => exact separators_of_terms_error hsep (hfault.terms_append rest)
  | name hkeyword hname =>
      simp only [List.cons_append, List.nil_append]
      rw [separators_keyword hkeyword, hname, error_bind]
  | @behindTerm separator term fault c e hsep hterm _ ih =>
      rw [List.cons_append, List.append_assoc]
      refine separators_of_terms_error hsep ?_
      rw [RecordQuery.terms_append hterm, ih, error_bind]
  | behindSort hkeyword hname _ ih =>
      rw [List.cons_append, List.cons_append, separators_keyword hkeyword, hname, ok_bind, ih,
        error_bind]

theorem TermFault.head {t : Token} {fault : List Token} {e : QueryError}
    (h : TermFault schema (t :: fault) e) : t.sortDirection? = none := by
  cases h with
  | bare _ => rfl
  | full hsort _ => exact hsort

/-- **What follows the first fault of a query does not matter.** -/
theorem QueryFault.ofTokens_append {fault : List Token} {e : QueryError}
    (h : QueryFault schema fault e) (rest : List Token) :
    Query.ofTokens schema (fault ++ rest) = .error e := by
  induction h with
  | @term t fault e hopens hfault =>
      have hterms := hfault.terms_append rest
      rw [List.cons_append] at hterms ⊢
      rw [ofTokens_of_opensTerms hfault.head hopens, hterms, error_bind]
  | name hkeyword hname =>
      simp only [List.cons_append, List.nil_append]
      rw [ofTokens_keyword hkeyword, hname, error_bind]
  | @behindTerm t term fault c e hopens hterm hfault =>
      obtain ⟨t', ts, heq, hsort⟩ := hterm.head
      obtain ⟨rfl, -⟩ := List.cons.inj heq
      have hterms := terms_append hterm (fault ++ rest)
      rw [hfault.separators_append, error_bind] at hterms
      rw [List.cons_append, List.append_assoc, ofTokens_of_opensTerms hsort hopens]
      rw [List.cons_append] at hterms
      rw [hterms, error_bind]
  | behindSort hkeyword hname _ ih =>
      rw [List.cons_append, List.cons_append, ofTokens_keyword hkeyword, hname, ok_bind, ih,
        error_bind]

/-! ## Every error has a fault -/

/-- Where terms end with an error that cannot be mended, the first term is refused or the error is
behind it. -/
theorem terms_eq_error {ts : List Token} {e : QueryError} (h : terms schema ts = .error e)
    (hfinal : e.isUnfinished = false) :
    (∃ fault rest, ts = fault ++ rest ∧ TermFault schema fault e) ∨
      ∃ term c rest, ts = term ++ rest ∧ TermSpells schema term c ∧
        separators schema rest = .error e := by
  match ts with
  | [] => cases h
  | .literal s :: rest =>
      rw [terms] at h
      rcases bind_eq_error_iff.mp h with hrefused | ⟨c, hc, h⟩
      · exact .inl ⟨[.literal s], rest, rfl, .bare hrefused⟩
      · rcases bind_eq_error_iff.mp h with hrest | ⟨tail, -, h⟩
        · exact .inr ⟨[.literal s], c, rest, rfl, .bare (ofBareLiteral_eq_ok_iff.mp hc), hrest⟩
        · cases h
  | .word w :: rest =>
      cases hsort : (Token.word w).sortDirection? with
      | some direction =>
          unfold terms at h
          simp only [hsort, Option.isSome_some, if_true, Except.error.injEq] at h
          rw [← h] at hfinal
          cases hfinal
      | none =>
          cases rest with
          | nil =>
              simp only [terms, hsort] at h
              cases h
              cases hfinal
          | cons operator rest =>
              cases rest with
              | nil =>
                  simp only [terms, hsort] at h
                  cases h
                  cases hfinal
              | cons rhs rest =>
                  simp only [terms, hsort, Option.isSome_none] at h
                  rcases bind_eq_error_iff.mp h with hrefused | ⟨c, hc, h⟩
                  · exact .inl ⟨[.word w, operator, rhs], rest, rfl, .full hsort hrefused⟩
                  · rcases bind_eq_error_iff.mp h with hrest | ⟨tail, -, h⟩
                    · exact .inr ⟨[.word w, operator, rhs], c, rest, rfl, .full hc, hrest⟩
                    · cases h

/-- Where what follows a term ends with an error that cannot be mended, its first token does not
fit, or the error is behind a separator or behind a sort clause. -/
theorem separators_eq_error {ts : List Token} {e : QueryError} (h : separators schema ts = .error e)
    (hfinal : e.isUnfinished = false) :
    (∃ fault rest, ts = fault ++ rest ∧ TailFault schema fault e) ∨
    (∃ separator rest, ts = separator :: rest ∧
      (separator = .word "," ∨ separator = .word "&") ∧ terms schema rest = .error e) ∨
    ∃ keyword name rest direction field, ts = keyword :: name :: rest ∧
      keyword.sortDirection? = some direction ∧ schema.resolve name = .ok field ∧
      separators schema rest = .error e := by
  match ts with
  | [] => cases h
  | .literal s :: rest =>
      cases h
      exact .inl ⟨[.literal s], rest, rfl, .unseparated⟩
  | .word w :: rest =>
      by_cases hsep : Token.word w = .word "," ∨ Token.word w = .word "&"
      · refine .inr (.inl ⟨.word w, rest, rfl, hsep, ?_⟩)
        cases hterms : terms schema rest with
        | error e' => rw [separators_of_terms_error hsep hterms] at h; exact h
        | ok tail =>
            rcases hsep with heq | heq
            · rw [heq, separators, if_pos (by decide), hterms] at h
              cases h
            · rw [heq, separators, if_neg (by decide), if_pos (by decide), hterms] at h
              cases h
      · cases hsort : (Token.word w).sortDirection? with
        | none =>
            rw [separators_word hsep hsort] at h
            cases h
            exact .inl ⟨[.word w], rest, rfl, .noSeparator hsep hsort⟩
        | some direction =>
            cases rest with
            | nil =>
                obtain ⟨hgroup, hterm⟩ := isSeparator_eq_false hsep
                simp only [separators, hgroup, hterm, hsort] at h
                cases h
                cases hfinal
            | cons name rest =>
                rw [separators_keyword hsort] at h
                rcases bind_eq_error_iff.mp h with hname | ⟨field, hname, h⟩
                · exact .inl ⟨[.word w, name], rest, rfl, .name hsort hname⟩
                · rcases bind_eq_error_iff.mp h with hrest | ⟨tail, -, h⟩
                  · exact .inr (.inr ⟨_, name, rest, direction, field, rfl, hsort, hname, hrest⟩)
                  · cases h

/-- What follows a term ends with an error that cannot be mended only at a fault. -/
theorem exists_tailFault {ts : List Token} {e : QueryError} (h : separators schema ts = .error e)
    (hfinal : e.isUnfinished = false) :
    ∃ fault rest, ts = fault ++ rest ∧ TailFault schema fault e := by
  -- What is read behind a term or a sort clause is shorter, so the induction is on the length.
  induction hn : ts.length using Nat.strongRecOn generalizing ts with
  | _ n ih =>
    subst hn
    rcases separators_eq_error h hfinal with hhere | ⟨separator, behind, rfl, hsep, hterms⟩ |
      ⟨keyword, name, behind, direction, field, rfl, hkeyword, hname, hbehind⟩
    · exact hhere
    · rcases terms_eq_error hterms hfinal with ⟨fault, rest, rfl, hfault⟩ |
        ⟨term, c, behind, rfl, hterm, hbehind⟩
      · exact ⟨separator :: fault, rest, rfl, .term hsep hfault⟩
      · have hlt : behind.length < (separator :: (term ++ behind)).length := by
          rw [List.length_cons, List.length_append]
          omega
        obtain ⟨fault, rest, rfl, hfault⟩ := ih behind.length hlt hbehind rfl
        exact ⟨separator :: (term ++ fault), rest, by simp, .behindTerm hsep hterm hfault⟩
    · have hlt : behind.length < (keyword :: name :: behind).length := by
        rw [List.length_cons, List.length_cons]
        omega
      obtain ⟨fault, rest, rfl, hfault⟩ := ih behind.length hlt hbehind rfl
      exact ⟨keyword :: name :: fault, rest, rfl, .behindSort hkeyword hname hfault⟩

/-- A query of comparisons ends with an error that cannot be mended only at a fault. -/
theorem exists_queryFault {ts : List Token} {e : QueryError} (htext : ¬ IsFreeText schema ts)
    (h : Query.ofTokens schema ts = .error e) (hfinal : e.isUnfinished = false) :
    ∃ fault rest, ts = fault ++ rest ∧ QueryFault schema fault e := by
  induction hn : ts.length using Nat.strongRecOn generalizing ts with
  | _ n ih =>
    subst hn
    match ts with
    | [] => cases h
    | t :: rest =>
        cases hsort : t.sortDirection? with
        | none =>
            have hopens := opensTerms_of_not_isFreeText hsort htext
            rw [ofTokens_of_opensTerms hsort hopens] at h
            rcases bind_eq_error_iff.mp h with hterms | ⟨tail, -, h⟩
            · rcases terms_eq_error hterms hfinal with ⟨fault, rest', heq, hfault⟩ |
                ⟨term, c, behind, heq, hterm, hbehind⟩
              · cases fault with
                | nil => cases hfault
                | cons t' fault =>
                    obtain ⟨rfl, rfl⟩ := List.cons.inj heq
                    exact ⟨t :: fault, rest', rfl, .term hopens hfault⟩
              · obtain ⟨t', term, rfl, -⟩ := hterm.head
                obtain ⟨rfl, rfl⟩ := List.cons.inj heq
                obtain ⟨fault, rest', rfl, hfault⟩ := exists_tailFault hbehind hfinal
                exact ⟨t :: (term ++ fault), rest', by simp, .behindTerm hopens hterm hfault⟩
            · cases h
        | some direction =>
            cases rest with
            | nil =>
                simp only [Query.ofTokens, hsort] at h
                cases h
                cases hfinal
            | cons name behind =>
                rw [ofTokens_keyword hsort] at h
                rcases bind_eq_error_iff.mp h with hname | ⟨field, hname, h⟩
                · exact ⟨[t, name], behind, rfl, .name hsort hname⟩
                · rcases bind_eq_error_iff.mp h with hbehind | ⟨q, -, h⟩
                  · have hlt : behind.length < (t :: name :: behind).length := by
                      rw [List.length_cons, List.length_cons]
                      omega
                    have hmore : ¬ IsFreeText schema behind := fun hmore =>
                      htext (.sorted hsort hname hmore)
                    obtain ⟨fault, rest, rfl, hfault⟩ := ih behind.length hlt hmore hbehind rfl
                    exact ⟨t :: name :: fault, rest, rfl, .behindSort hsort hname hfault⟩
                  · cases h

/-- **An error that cannot be mended is that of a fault.**  Apart from free text, tokens end with
such an error exactly if they begin with a fault that makes it. -/
theorem ofTokens_eq_error_iff {ts : List Token} {e : QueryError} (htext : ¬ IsFreeText schema ts)
    (hfinal : e.isUnfinished = false) : Query.ofTokens schema ts = .error e ↔
      ∃ fault rest, ts = fault ++ rest ∧ QueryFault schema fault e := by
  constructor
  · intro h
    exact exists_queryFault htext h hfinal
  · rintro ⟨fault, rest, rfl, hfault⟩
    exact hfault.ofTokens_append rest

end

/-- **The first error of a query stays its error.**  If tokens that are no free text make an error
other than a comparison that ends too early or a missing sort field, the tokens with any others
behind them make the same error.  By `SortsSpell.not_isFreeText`, tokens are no free text if a
literal or the name of a field stands behind their sort clauses. -/
theorem ofTokens_append_eq_error {ρ : Type} (schema : Schema ρ) {ts : List Token} {e : QueryError}
    (htext : ¬ IsFreeText schema ts) (h : Query.ofTokens schema ts = .error e)
    (hcomplete : ∀ clause, e ≠ .incomplete clause) (hsorted : e ≠ .missingSortField)
    (us : List Token) : Query.ofTokens schema (ts ++ us) = .error e := by
  have hfinal : e.isUnfinished = false := by
    cases e with
    | incomplete clause => exact absurd rfl (hcomplete clause)
    | missingSortField => exact absurd rfl hsorted
    | _ => rfl
  obtain ⟨fault, rest, rfl, hfault⟩ := (ofTokens_eq_error_iff htext hfinal).mp h
  rw [List.append_assoc]
  exact hfault.ofTokens_append (rest ++ us)

/-! ## Concerts -/

namespace Concerts

def artist : Field Json := ⟨"artist", "artist", .string, [], fun _ => .null⟩

def seats : Field Json := ⟨"seats", "seats", .int, [], fun _ => .null⟩

def schema : Schema Json := ⟨"concert", [artist, seats], some artist⟩

def tokens : List Token :=
  [.word "orderby", .word "artist", .word "Seats", .word ">", .literal "200", .word "&",
    .word "seats", .word "*", .literal "0"]

end Concerts

/-- The operator `*` on a number is refused, whatever another group and a sort clause may add. -/
theorem ofTokens_append_eq_error_concerts :
    ¬ IsFreeText Concerts.schema Concerts.tokens ∧
    Query.ofTokens Concerts.schema Concerts.tokens = .error (.unsupportedOperator "*" "seats") ∧
    Query.ofTokens Concerts.schema
        (Concerts.tokens ++ [.word ",", .literal "choir", .word "orderby", .word "seats"]) =
      .error (.unsupportedOperator "*" "seats") := by
  have hfront : SortsSpell Concerts.schema [.word "orderby", .word "artist"]
      [⟨Concerts.artist, .ascending⟩] := .cons rfl rfl .nil
  have htext : ¬ IsFreeText Concerts.schema Concerts.tokens :=
    hfront.not_isFreeText (t := .word "Seats") rfl rfl
  have herror : Query.ofTokens Concerts.schema Concerts.tokens =
      .error (.unsupportedOperator "*" "seats") := rfl
  exact ⟨htext, herror,
    ofTokens_append_eq_error Concerts.schema htext herror (by simp) (by simp) _⟩

end RecordQuery
