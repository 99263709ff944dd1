import RecordQuery.Proofs.Query.Grammar
import RecordQuery.Proofs.Reading

/-!
# Reading follows the grammar

The reader takes the tokens from left to right.  It accepts exactly the sequences that the grammar
gives a query to, and the query it makes is that one.

What stands behind a term is read into a tail, from its end towards its beginning, while the grammar
lets groups grow from their beginning.  `Tail.ofSteps` is the tail of the steps of the grammar, and
`groupsFrom_eq` and `sort_ofSteps` say that both come to the same groups and the same order.
-/

namespace RecordQuery

variable {ρ : Type} {schema : Schema ρ}

/-! ## Terms -/

/-- A comparison without an operator is one by `*`. -/
theorem Comparison.ofTokens_none (schema : Schema ρ) (target rhs : Token) :
    ofTokens schema target rhs none = ofTokens schema target rhs (some (.word "*")) := by
  have hop (f : Field ρ) : checkedOperator f none = checkedOperator f (some (.word "*")) := by
    have hsymbol : Operator.ofToken? (.word "*") = some .contains :=
      Operator.ofSymbol?_symbol .contains
    simp only [checkedOperator, hsymbol, Operator.forBareLiteral]
    rfl
  simp only [ofTokens, hop]

theorem ofBareLiteral_eq_ok_iff {s : String} {c : Comparison ρ} :
    Comparison.ofBareLiteral schema s = .ok c ↔ DefaultContains schema s c := by
  rw [Comparison.ofBareLiteral, bind_eq_ok_iff, DefaultContains]
  simp only [Comparison.ofTokens_none, Schema.defaultTarget]
  cases schema.defaultField with
  | none => simp
  | some f => simp

/-- A keyword is neither of the separators. -/
theorem sortDirection?_separator {t : Token} (h : t = .word "," ∨ t = .word "&") :
    t.sortDirection? = none := by
  rcases h with rfl | rfl <;> decide

/-- What is neither of the separators is not taken for one. -/
theorem isSeparator_eq_false {t : Token} (h : ¬ (t = .word "," ∨ t = .word "&")) :
    t.isGroupSeparator = false ∧ t.isTermSeparator = false :=
  ⟨decide_eq_false (not_or.mp h).1, decide_eq_false (not_or.mp h).2⟩

/-- A sort keyword is a word. -/
theorem eq_word_of_sortDirection? {t : Token} {direction : SortDirection}
    (h : t.sortDirection? = some direction) : ∃ w, t = .word w := by
  cases t with
  | word w => exact ⟨w, rfl⟩
  | literal s => cases h

/-- A token names a field if it is no sort keyword and the field has that name. -/
theorem Schema.resolve_eq_ok_iff {t : Token} {f : Field ρ} :
    schema.resolve t = .ok f ↔ t.sortDirection? = none ∧ schema.field? t.text = some f := by
  unfold Schema.resolve
  cases t.sortDirection? with
  | some direction => simp
  | none => cases schema.field? t.text <;> simp

/-- The target of a comparison is no sort keyword. -/
theorem sortDirection?_of_ofTokens {target rhs : Token} {operator : Option Token}
    {c : Comparison ρ} (h : Comparison.ofTokens schema target rhs operator = .ok c) :
    target.sortDirection? = none :=
  (Schema.resolve_eq_ok_iff.mp (Comparison.ofTokens_eq_ok.mp h).1).1

/-! ## Tails -/

/-- The tail that consists of the given steps. -/
def Tail.ofSteps : List (Step ρ) → Tail ρ
  | [] => .empty
  | .joined c :: steps => (ofSteps steps).join c
  | .separated c :: steps => ((ofSteps steps).join c).separate
  | .sorted clause :: steps => (ofSteps steps).sortedBy clause

/-- The groups behind an open group: it goes on with what the tail joins to it. -/
theorem groupsFrom_eq (openGroup : Group ρ) (steps : List (Step ρ)) :
    groupsFrom openGroup steps =
      (openGroup ++ (Tail.ofSteps steps).joined) :: (Tail.ofSteps steps).further := by
  induction steps generalizing openGroup with
  | nil => simp [groupsFrom, Tail.ofSteps, Tail.empty]
  | cons step steps ih =>
      cases step <;>
        simp [groupsFrom, Tail.ofSteps, Tail.join, Tail.separate, Tail.sortedBy, Tail.groups, ih]

theorem groups_join (c : Comparison ρ) (steps : List (Step ρ)) :
    ((Tail.ofSteps steps).join c).groups = groupsFrom [c] steps := by
  rw [groupsFrom_eq]
  simp [Tail.join, Tail.groups]

/-- The last of a sequence of which the first element is split off. -/
theorem getLast?_cons_or {α : Type} (a : α) (as : List α) :
    (a :: as).getLast? = as.getLast?.or (some a) := by
  rw [List.getLast?_cons]
  cases as.getLast? <;> rfl

/-- The order of a tail is that of its last sort clause. -/
theorem sort_ofSteps (steps : List (Step ρ)) :
    (Tail.ofSteps steps).sort = (steps.filterMap Step.sort?).getLast? := by
  induction steps with
  | nil => rfl
  | cons step steps ih =>
      cases step with
      | joined c => simpa [Tail.ofSteps, Tail.join, Step.sort?] using ih
      | separated c => simpa [Tail.ofSteps, Tail.join, Tail.separate, Step.sort?] using ih
      | sorted clause =>
          simp [Tail.ofSteps, Tail.sortedBy, Step.sort?, getLast?_cons_or, ih]

/-- A term is read as its comparison, whatever follows it. -/
theorem terms_append {term : List Token} {c : Comparison ρ} (h : TermSpells schema term c)
    (rest : List Token) :
    terms schema (term ++ rest) = do return (← separators schema rest).join c := by
  cases h with
  | bare hdefault =>
      rw [List.singleton_append, terms, ofBareLiteral_eq_ok_iff.mpr hdefault, ok_bind]
  | full hterm =>
      have hsort := sortDirection?_of_ofTokens hterm
      simp only [List.cons_append, List.nil_append, terms, hsort, hterm]
      rfl

/-- Where terms are read, there is nothing or a term first. -/
theorem terms_eq_ok {ts : List Token} {tail : Tail ρ} (h : terms schema ts = .ok tail) :
    (ts = [] ∧ tail = .empty) ∨ ∃ term c rest tail', ts = term ++ rest ∧
      TermSpells schema term c ∧ separators schema rest = .ok tail' ∧ tail = tail'.join c := by
  match ts with
  | [] => exact .inl ⟨rfl, (Except.ok.inj h).symm⟩
  | .literal s :: rest =>
      rw [terms] at h
      obtain ⟨c, hc, h⟩ := bind_eq_ok_iff.mp h
      obtain ⟨tail', htail, h⟩ := bind_eq_ok_iff.mp h
      exact .inr ⟨[.literal s], c, rest, tail', rfl, .bare (ofBareLiteral_eq_ok_iff.mp hc), htail,
        (Except.ok.inj h).symm⟩
  | .word w :: rest =>
      cases hsort : (Token.word w).sortDirection? with
      | some direction =>
          unfold terms at h
          simp [hsort] at h
      | none =>
          match rest with
          | [] => simp [terms, hsort] at h
          | [operator] => simp [terms, hsort] at h
          | operator :: rhs :: rest =>
              simp only [terms, hsort, Option.isSome_none] at h
              obtain ⟨c, hc, h⟩ := bind_eq_ok_iff.mp h
              obtain ⟨tail', htail, h⟩ := bind_eq_ok_iff.mp h
              exact .inr ⟨[.word w, operator, rhs], c, rest, tail', rfl, .full hc, htail,
                (Except.ok.inj h).symm⟩

/-- Behind a term a sort keyword is read with the name behind it. -/
theorem separators_keyword {keyword : Token} {direction : SortDirection}
    (hkeyword : keyword.sortDirection? = some direction) (name : Token) (rest : List Token) :
    separators schema (keyword :: name :: rest) = do
      let field ← schema.resolve name
      return (← separators schema rest).sortedBy ⟨field, direction⟩ := by
  obtain ⟨w, rfl⟩ := eq_word_of_sortDirection? hkeyword
  have hsep : ¬ (Token.word w = .word "," ∨ Token.word w = .word "&") := by
    intro h
    rw [sortDirection?_separator h] at hkeyword
    cases hkeyword
  obtain ⟨hgroup, hterm⟩ := isSeparator_eq_false hsep
  simp only [separators, hgroup, hterm, hkeyword]
  rfl

/-- What follows a term is read as the steps of the grammar. -/
theorem separators_of_spells {ts : List Token} {steps : List (Step ρ)}
    (h : TailSpells schema ts steps) : separators schema ts = .ok (.ofSteps steps) := by
  induction h with
  | nil => rfl
  | trailing hsep =>
      rcases hsep with rfl | rfl
      · rfl
      · rfl
  | joined hterm _ ih =>
      have hread := terms_append hterm
      rw [List.cons_append, separators, if_neg (by decide), if_pos (by decide), hread, ih]
      rfl
  | separated hterm _ ih =>
      have hread := terms_append hterm
      rw [List.cons_append, separators, if_pos (by decide), hread, ih]
      rfl
  | sorted hkeyword hname _ ih =>
      rw [separators_keyword hkeyword, hname, ok_bind, ih]
      rfl

/-- Behind a term there is nothing, a separator with what may follow it, or a sort clause. -/
theorem separators_eq_ok {ts : List Token} {tail : Tail ρ} (h : separators schema ts = .ok tail) :
    (ts = [] ∧ tail = .empty) ∨
    (∃ rest tail', ts = .word "," :: rest ∧ terms schema rest = .ok tail' ∧
      tail = tail'.separate) ∨
    (∃ rest, ts = .word "&" :: rest ∧ terms schema rest = .ok tail) ∨
    ∃ keyword name rest direction field tail', ts = keyword :: name :: rest ∧
      keyword.sortDirection? = some direction ∧ schema.resolve name = .ok field ∧
      separators schema rest = .ok tail' ∧ tail = tail'.sortedBy ⟨field, direction⟩ := by
  match ts with
  | [] => exact .inl ⟨rfl, (Except.ok.inj h).symm⟩
  | .literal s :: rest => cases h
  | .word w :: rest =>
      rw [separators] at h
      by_cases hgroup : (Token.word w).isGroupSeparator = true
      · rw [if_pos hgroup] at h
        obtain ⟨tail', hterms, h⟩ := bind_eq_ok_iff.mp h
        have hcomma : Token.word w = .word "," := of_decide_eq_true hgroup
        rw [hcomma]
        exact .inr (.inl ⟨rest, tail', rfl, hterms, (Except.ok.inj h).symm⟩)
      rw [if_neg hgroup] at h
      by_cases hterm : (Token.word w).isTermSeparator = true
      · rw [if_pos hterm] at h
        have hand : Token.word w = .word "&" := of_decide_eq_true hterm
        rw [hand]
        exact .inr (.inr (.inl ⟨rest, rfl, h⟩))
      rw [if_neg hterm] at h
      cases hkeyword : (Token.word w).sortDirection? with
      | none =>
          rw [hkeyword] at h
          cases h
      | some direction =>
          rw [hkeyword] at h
          match rest with
          | [] => cases h
          | name :: rest =>
              obtain ⟨field, hname, h⟩ := bind_eq_ok_iff.mp h
              obtain ⟨tail', hrest, h⟩ := bind_eq_ok_iff.mp h
              exact .inr (.inr (.inr ⟨.word w, name, rest, direction, field, tail', rfl, hkeyword,
                hname, hrest, (Except.ok.inj h).symm⟩))

/-- What is read behind a term are steps of the grammar. -/
theorem spells_of_separators {ts : List Token} {tail : Tail ρ}
    (h : separators schema ts = .ok tail) :
    ∃ steps, TailSpells schema ts steps ∧ tail = .ofSteps steps := by
  -- A step takes up two tokens or more, so the induction is on the length.
  induction hn : ts.length using Nat.strongRecOn generalizing ts tail with
  | _ n ih =>
    subst hn
    rcases separators_eq_ok h with ⟨rfl, rfl⟩ | ⟨rest, tail', rfl, hterms, rfl⟩ |
      ⟨rest, rfl, hterms⟩ | ⟨keyword, name, rest, direction, field, tail', rfl, hkeyword, hname,
        hrest, rfl⟩
    · exact ⟨[], .nil, rfl⟩
    · rcases terms_eq_ok hterms with ⟨rfl, rfl⟩ | ⟨term, c, rest, tail', rfl, hterm, hrest, rfl⟩
      · exact ⟨[], .trailing (.inl rfl), rfl⟩
      · have hlt : rest.length < (.word "," :: (term ++ rest)).length := by
          rw [List.length_cons, List.length_append]
          omega
        obtain ⟨steps, hsteps, rfl⟩ := ih rest.length hlt hrest rfl
        exact ⟨.separated c :: steps, .separated hterm hsteps, rfl⟩
    · rcases terms_eq_ok hterms with ⟨rfl, rfl⟩ | ⟨term, c, rest, tail', rfl, hterm, hrest, rfl⟩
      · exact ⟨[], .trailing (.inr rfl), rfl⟩
      · have hlt : rest.length < (.word "&" :: (term ++ rest)).length := by
          rw [List.length_cons, List.length_append]
          omega
        obtain ⟨steps, hsteps, rfl⟩ := ih rest.length hlt hrest rfl
        exact ⟨.joined c :: steps, .joined hterm hsteps, rfl⟩
    · have hlt : rest.length < (keyword :: name :: rest).length := by
        rw [List.length_cons, List.length_cons]
        omega
      obtain ⟨steps, hsteps, rfl⟩ := ih rest.length hlt hrest rfl
      exact ⟨.sorted ⟨field, direction⟩ :: steps, .sorted hkeyword hname hsteps, rfl⟩

/-- **What may follow a term** is what the grammar says. -/
theorem separators_eq_ok_iff {ts : List Token} {tail : Tail ρ} :
    separators schema ts = .ok tail ↔
      ∃ steps, TailSpells schema ts steps ∧ tail = .ofSteps steps := by
  constructor
  · exact spells_of_separators
  · rintro ⟨steps, hsteps, rfl⟩
    exact separators_of_spells hsteps

/-! ## Sort clauses and free text -/

theorem sortClauses_of_spells {ts : List Token} {clauses : List (SortClause ρ)}
    (h : SortsSpell schema ts clauses) : sortClauses schema ts = .ok clauses.getLast? := by
  induction h with
  | nil => rfl
  | cons hkeyword hname _ ih =>
      simp only [sortClauses, hkeyword, hname, ih, getLast?_cons_or]
      rfl

/-- Where sort clauses are read, there is nothing or a sort clause first. -/
theorem sortClauses_eq_ok {ts : List Token} {clause : Option (SortClause ρ)}
    (h : sortClauses schema ts = .ok clause) :
    (ts = [] ∧ clause = none) ∨ ∃ keyword name rest direction field later,
      ts = keyword :: name :: rest ∧ keyword.sortDirection? = some direction ∧
      schema.resolve name = .ok field ∧ sortClauses schema rest = .ok later ∧
      clause = later.or (some ⟨field, direction⟩) := by
  match ts with
  | [] => exact .inl ⟨rfl, (Except.ok.inj h).symm⟩
  | keyword :: rest =>
      cases hkeyword : keyword.sortDirection? with
      | none =>
          unfold sortClauses at h
          simp [hkeyword] at h
      | some direction =>
          match rest with
          | [] => simp [sortClauses, hkeyword] at h
          | name :: rest =>
              simp only [sortClauses, hkeyword] at h
              obtain ⟨field, hname, h⟩ := bind_eq_ok_iff.mp h
              obtain ⟨later, hlater, h⟩ := bind_eq_ok_iff.mp h
              exact .inr ⟨keyword, name, rest, direction, field, later, rfl, hkeyword, hname,
                hlater, (Except.ok.inj h).symm⟩

theorem spells_of_sortClauses {ts : List Token} {clause : Option (SortClause ρ)}
    (h : sortClauses schema ts = .ok clause) :
    ∃ clauses, SortsSpell schema ts clauses ∧ clause = clauses.getLast? := by
  induction hn : ts.length using Nat.strongRecOn generalizing ts clause with
  | _ n ih =>
    subst hn
    rcases sortClauses_eq_ok h with ⟨rfl, rfl⟩ |
      ⟨keyword, name, rest, direction, field, later, rfl, hkeyword, hname, hlater, rfl⟩
    · exact ⟨[], .nil, rfl⟩
    · have hlt : rest.length < (keyword :: name :: rest).length := by
        rw [List.length_cons, List.length_cons]
        omega
      obtain ⟨clauses, hclauses, rfl⟩ := ih rest.length hlt hlater rfl
      refine ⟨⟨field, direction⟩ :: clauses, .cons hkeyword hname hclauses, ?_⟩
      rw [getLast?_cons_or]

/-- A text that sort clauses follow is taken whole. -/
theorem span_freeText {words back : List Token} {clauses : List (SortClause ρ)}
    (hwords : ∀ t ∈ words, t.sortDirection? = none) (hback : SortsSpell schema back clauses) :
    (words ++ back).takeWhile Token.isFreeText = words ∧
      (words ++ back).dropWhile Token.isFreeText = back := by
  have hfree : ∀ t ∈ words, t.isFreeText = true := by
    intro t ht
    simp [Token.isFreeText, hwords t ht]
  have hhead : ∀ t ∈ back.head?, t.isFreeText = false := by
    cases hback with
    | nil => simp
    | cons hkeyword _ _ => simp [Token.isFreeText, hkeyword]
  exact ⟨takeWhile_run hfree hhead, dropWhile_run hfree hhead⟩

theorem freeTextQuery_of_spells {words back : List Token} {clauses : List (SortClause ρ)}
    {c : Comparison ρ} (hwords : ∀ t ∈ words, t.sortDirection? = none)
    (hback : SortsSpell schema back clauses)
    (hc : DefaultContains schema (String.join (words.map Token.text)) c) :
    freeTextQuery schema (words ++ back) = .ok ⟨[[c]], clauses.getLast?⟩ := by
  obtain ⟨htake, hdrop⟩ := span_freeText hwords hback
  rw [freeTextQuery, freeText, htake, hdrop, sortClauses_of_spells hback, ok_bind,
    ofBareLiteral_eq_ok_iff.mpr hc, ok_bind, pure_eq_ok]

theorem spells_of_freeTextQuery {w : String} {rest : List Token} {q : Query ρ}
    (hw : (Token.word w).sortDirection? = none)
    (h : freeTextQuery schema (.word w :: rest) = .ok q) :
    ∃ words back clauses c, rest = words ++ back ∧
      (∀ t ∈ Token.word w :: words, t.sortDirection? = none) ∧ SortsSpell schema back clauses ∧
      DefaultContains schema (String.join ((Token.word w :: words).map Token.text)) c ∧
      q = ⟨[[c]], clauses.getLast?⟩ := by
  have hfree : (Token.word w).isFreeText = true := by simp [Token.isFreeText, hw]
  obtain ⟨clause, hclause, h⟩ := bind_eq_ok_iff.mp h
  obtain ⟨c, hc, h⟩ := bind_eq_ok_iff.mp h
  rw [List.dropWhile_cons_of_pos hfree] at hclause
  rw [freeText, List.takeWhile_cons_of_pos hfree, ofBareLiteral_eq_ok_iff] at hc
  obtain ⟨clauses, hclauses, rfl⟩ := spells_of_sortClauses hclause
  refine ⟨_, _, clauses, c, List.takeWhile_append_dropWhile.symm, ?_, hclauses, hc,
    (Except.ok.inj h).symm⟩
  intro t ht
  rcases List.mem_cons.mp ht with rfl | ht
  · exact hw
  · simpa [Token.isFreeText] using of_mem_takeWhile t ht

/-! ## Whole queries -/

/-- Tokens that begin with a literal or with the name of a field are read as terms. -/
theorem ofTokens_of_opensTerms {t : Token} (hsort : t.sortDirection? = none)
    (hopens : schema.OpensTerms t) (rest : List Token) :
    Query.ofTokens schema (t :: rest) = do
      let tail ← terms schema (t :: rest)
      return ⟨tail.groups, tail.sort⟩ := by
  rw [Query.ofTokens.eq_def]
  simp only [hsort, opensFreeText_eq_false_iff.mpr hopens]
  rfl

theorem ofTokens_keyword {keyword : Token} {direction : SortDirection}
    (hkeyword : keyword.sortDirection? = some direction) (name : Token) (rest : List Token) :
    Query.ofTokens schema (keyword :: name :: rest) = do
      let field ← schema.resolve name
      return (← Query.ofTokens schema rest).sortedBy ⟨field, direction⟩ := by
  simp only [Query.ofTokens, hkeyword]

/-- Sort clauses in front of a query count if the query has none of its own. -/
theorem ofTokens_sorts_append {front rest : List Token} {clauses : List (SortClause ρ)}
    {q : Query ρ} (hfront : SortsSpell schema front clauses)
    (hq : Query.ofTokens schema rest = .ok q) :
    Query.ofTokens schema (front ++ rest) = .ok ⟨q.groups, q.sort.or clauses.getLast?⟩ := by
  induction hfront with
  | nil => simpa using hq
  | cons hkeyword hname _ ih =>
      rw [List.cons_append, List.cons_append, ofTokens_keyword hkeyword, hname, ok_bind, ih,
        ok_bind, pure_eq_ok, Query.sortedBy, getLast?_cons_or, Option.or_assoc]

/-- One more sort clause in front of a query of the grammar. -/
theorem Reads.sortedBy {keyword name : Token} {direction : SortDirection} {field : Field ρ}
    {rest : List Token} {q : Query ρ} (hkeyword : keyword.sortDirection? = some direction)
    (hname : schema.resolve name = .ok field) (h : Reads schema rest q) :
    Reads schema (keyword :: name :: rest) (q.sortedBy ⟨field, direction⟩) := by
  cases h with
  | sorts hfront =>
      have h := Reads.sorts (.cons hkeyword hname hfront)
      simpa only [Query.sortedBy, getLast?_cons_or] using h
  | freeText hfront hwords hw hback hc =>
      have h := Reads.freeText (.cons hkeyword hname hfront) hwords hw hback hc
      simpa only [Query.sortedBy, List.cons_append, getLast?_cons_or] using h
  | terms hfront hhead hopens hterm hrest =>
      have h := Reads.terms (.cons hkeyword hname hfront) hhead hopens hterm hrest
      simpa only [Query.sortedBy, List.cons_append, getLast?_cons_or] using h

/-- The first token of a term is no sort keyword. -/
theorem TermSpells.head {term : List Token} {c : Comparison ρ} (h : TermSpells schema term c) :
    ∃ t ts, term = t :: ts ∧ t.sortDirection? = none := by
  cases h with
  | bare _ => exact ⟨_, _, rfl, rfl⟩
  | full hterm => exact ⟨_, _, rfl, sortDirection?_of_ofTokens hterm⟩

theorem ofTokens_of_reads {ts : List Token} {q : Query ρ} (h : Reads schema ts q) :
    Query.ofTokens schema ts = .ok q := by
  cases h with
  | sorts hfront =>
      have hnone : Query.ofTokens schema [] = .ok ⟨[], none⟩ := rfl
      have hread := ofTokens_sorts_append hfront hnone
      simpa using hread
  | @freeText front words back w clauses later c hfront hwords hw hback hc =>
      have hfirst : (Token.word w).sortDirection? = none := hwords _ (by simp)
      have hopens : schema.opensFreeText (.word w) = true := by simp [Schema.opensFreeText, hw]
      have hread : Query.ofTokens schema (.word w :: words ++ back) =
          .ok ⟨[[c]], later.getLast?⟩ := by
        rw [List.cons_append, Query.ofTokens.eq_def]
        simp only [hfirst, hopens, if_true]
        exact freeTextQuery_of_spells hwords hback hc
      rw [List.append_assoc, ofTokens_sorts_append hfront hread, List.getLast?_append]
  | @terms front term rest t clauses c steps hfront hhead hopens hterm hrest =>
      obtain ⟨t', term, rfl, hfirst⟩ := hterm.head
      obtain rfl : t' = t := by simpa using hhead
      have hread : Query.ofTokens schema (t' :: term ++ rest) =
          .ok ⟨groupsFrom [c] steps, (steps.filterMap Step.sort?).getLast?⟩ := by
        have hterms := terms_append hterm rest
        rw [separators_of_spells hrest] at hterms
        rw [List.cons_append] at hterms ⊢
        rw [ofTokens_of_opensTerms hfirst hopens, hterms, ok_bind, pure_eq_ok, ok_bind, pure_eq_ok,
          groups_join, ← sort_ofSteps]
        rfl
      rw [List.append_assoc, ofTokens_sorts_append hfront hread, List.getLast?_append]

/-- A query is nothing, a sort clause with a query behind it, free text, or terms. -/
theorem Query.ofTokens_eq_ok {ts : List Token} {q : Query ρ}
    (h : Query.ofTokens schema ts = .ok q) :
    (ts = [] ∧ q = ⟨[], none⟩) ∨
    (∃ keyword name rest direction field q', ts = keyword :: name :: rest ∧
      keyword.sortDirection? = some direction ∧ schema.resolve name = .ok field ∧
      Query.ofTokens schema rest = .ok q' ∧ q = q'.sortedBy ⟨field, direction⟩) ∨
    (∃ t rest, ts = t :: rest ∧ t.sortDirection? = none ∧ schema.opensFreeText t = true ∧
      freeTextQuery schema (t :: rest) = .ok q) ∨
    ∃ t rest tail, ts = t :: rest ∧ schema.opensFreeText t = false ∧
      terms schema (t :: rest) = .ok tail ∧ q = ⟨tail.groups, tail.sort⟩ := by
  match ts with
  | [] => exact .inl ⟨rfl, (Except.ok.inj h).symm⟩
  | t :: rest =>
      cases hkeyword : t.sortDirection? with
      | some direction =>
          match rest with
          | [] => simp [Query.ofTokens, hkeyword] at h
          | name :: rest =>
              rw [ofTokens_keyword hkeyword] at h
              obtain ⟨field, hname, h⟩ := bind_eq_ok_iff.mp h
              obtain ⟨q', hq', h⟩ := bind_eq_ok_iff.mp h
              exact .inr (.inl ⟨t, name, rest, direction, field, q', rfl, hkeyword, hname, hq',
                (Except.ok.inj h).symm⟩)
      | none =>
          rw [Query.ofTokens.eq_def] at h
          simp only [hkeyword] at h
          cases hopens : schema.opensFreeText t with
          | true =>
              rw [hopens, if_pos rfl] at h
              exact .inr (.inr (.inl ⟨t, rest, rfl, hkeyword, hopens, h⟩))
          | false =>
              rw [hopens, if_neg (by decide)] at h
              obtain ⟨tail, hterms, h⟩ := bind_eq_ok_iff.mp h
              exact .inr (.inr (.inr ⟨t, rest, tail, rfl, hopens, hterms,
                (Except.ok.inj h).symm⟩))

/-- What is read as terms from the first of them is a query of the grammar. -/
theorem reads_of_terms {t : Token} {rest : List Token} {tail : Tail ρ}
    (hclosed : schema.opensFreeText t = false) (h : terms schema (t :: rest) = .ok tail) :
    Reads schema (t :: rest) ⟨tail.groups, tail.sort⟩ := by
  rcases terms_eq_ok h with ⟨hnil, -⟩ | ⟨term, c, rest', tail', heq, hterm, hrest, rfl⟩
  · cases hnil
  · obtain ⟨steps, hsteps, rfl⟩ := separators_eq_ok_iff.mp hrest
    obtain ⟨t', term, rfl, -⟩ := hterm.head
    obtain ⟨rfl, rfl⟩ := List.cons.inj heq
    have hopens : schema.OpensTerms t := opensFreeText_eq_false_iff.mp hclosed
    have hreads := Reads.terms .nil rfl hopens hterm hsteps
    rw [List.nil_append, ← groups_join, List.nil_append, ← sort_ofSteps] at hreads
    exact hreads

theorem reads_of_ofTokens {ts : List Token} {q : Query ρ}
    (h : Query.ofTokens schema ts = .ok q) : Reads schema ts q := by
  -- Only sort clauses in front lead back to queries, and each takes up two tokens.
  induction hn : ts.length using Nat.strongRecOn generalizing ts q with
  | _ n ih =>
    subst hn
    rcases Query.ofTokens_eq_ok h with ⟨rfl, rfl⟩ |
      ⟨keyword, name, rest, direction, field, q', rfl, hkeyword, hname, hq', rfl⟩ |
      ⟨t, rest, rfl, hkeyword, hopens, htext⟩ | ⟨t, rest, tail, rfl, hclosed, hterms, rfl⟩
    · exact .sorts .nil
    · have hlt : rest.length < (keyword :: name :: rest).length := by
        rw [List.length_cons, List.length_cons]
        omega
      exact (ih rest.length hlt hq' rfl).sortedBy hkeyword hname
    · cases t with
      | literal s => cases hopens
      | word w =>
          obtain ⟨words, back, later, c, rfl, hwords, hback, hc, rfl⟩ :=
            spells_of_freeTextQuery hkeyword htext
          have hw : schema.contains w = false := by
            simpa [Schema.opensFreeText] using hopens
          exact Reads.freeText .nil hwords hw hback hc
    · exact reads_of_terms hclosed hterms

/-- **The reader accepts exactly the grammar and makes the query that the grammar gives.**  Every
group of such a query has a comparison. -/
theorem ofTokens_eq_ok_iff (schema : Schema ρ) (ts : List Token) (q : Query ρ) :
    (Query.ofTokens schema ts = .ok q ↔ Reads schema ts q) ∧
      (Reads schema ts q → ∀ g ∈ q.groups, g ≠ []) := by
  constructor
  · constructor
    · exact reads_of_ofTokens
    · exact ofTokens_of_reads
  · intro h
    cases h with
    | sorts _ => simp
    | freeText _ _ _ _ _ => simp
    | terms _ _ _ _ _ => exact groupsFrom_ne_nil (by simp) _

end RecordQuery
