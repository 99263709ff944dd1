import RecordQuery.Operator
import RecordQuery.Query.Basic
import RecordQuery.Text.Shown
import RecordQuery.Token

/-!
# From tokens to queries

A query is a sequence of terms with separators between them.  A term is a comparison, or a literal
that the default field has to contain.  `&` joins a term to the group before it and `,` opens a new
group; one separator may stand at the end.  Sort clauses may stand before the first term and behind
any term; of several the last one counts.

A query whose first word is no field of the schema is free text instead: everything up to the first
sort keyword is one literal for the default field, and only sort clauses may follow.

    query  :=  sort* ( text | term ( separator term | sort )* separator? )? sort*
    term   :=  literal | field operator ( literal | field )
    sort   :=  ( "orderby" | "orderbydescending" ) field

A comparison is made from the tokens of a target, an operator and a right-hand side.  They are
checked in that order: the target names a field, the operator is one that the field accepts, and the
right-hand side is a literal of the class of the field or a field of the same class.

Tokens are taken from left to right, and the first of them that does not fit decides the error.  A
query text that makes no query has something wrong in it that its writer can mend, and the message
of the error says what.
-/

namespace RecordQuery

/-! ## Errors -/

/-- What is wrong with a query text. -/
inductive QueryError where
  | lex (e : LexError)
  | unknownField (field entity : String)
  /-- A sort keyword has no field behind it, or stands where a field is wanted. -/
  | missingSortField
  /-- A comparison lacks its operator or its right-hand side; `clause` is what there is of it. -/
  | incomplete (clause : String)
  /-- A literal follows a comparison without a separator. -/
  | unseparatedLiteral (literal : String)
  /-- A word that separates nothing stands behind a comparison. -/
  | invalidOperator (word : String)
  /-- The operator is none, or the field does not accept it. -/
  | unsupportedOperator (operator field : String)
  | invalidLiteral (literal field : String) (typeClass : TypeClass)
  /-- A literal stands on its own, and the schema has no default field. -/
  | noDefaultField (entity literal : String)
  | fieldTypeMismatch (left : String) (leftClass : TypeClass) (right : String)
    (rightClass : TypeClass)
deriving DecidableEq

namespace QueryError

/-- The wording of an error. -/
def message : QueryError → String
  | lex e => e.message
  | unknownField field entity => "property \"" ++ field ++ "\" not in type " ++ entity
  | missingSortField => "incomplete: include property to sort by"
  | incomplete clause => "incomplete query: " ++ clause ++ " ..."
  | unseparatedLiteral literal => "literal must be separated by `,` or `&`: " ++ literal
  | invalidOperator word => "invalid operator: " ++ word
  | unsupportedOperator operator field =>
    "unsupported or type-mismatched operator \"" ++ operator ++ "\" for property \"" ++ field
      ++ "\""
  | invalidLiteral literal field cls =>
    "unable to parse literal \"" ++ literal ++ "\" as " ++ cls.name ++ " for property \"" ++ field
      ++ "\""
  | noDefaultField entity literal =>
    "type " ++ entity ++ " has no default property; name a property to compare "
      ++ Text.shownText literal ++ " against"
  | fieldTypeMismatch left leftClass right rightClass =>
    "cannot compare property \"" ++ left ++ "\" (" ++ leftClass.name ++ ") with property \""
      ++ right ++ "\" (" ++ rightClass.name ++ ")"

end QueryError

/-! ## Checked comparisons -/

variable {ρ : Type}

namespace Schema

/-- The field that a token names; a sort keyword names none. -/
def resolve (schema : Schema ρ) (t : Token) : Except QueryError (Field ρ) :=
  if t.sortDirection?.isSome then .error .missingSortField
  else
    match schema.field? t.text with
    | some f => .ok f
    | none => .error (.unknownField t.text schema.entity)

/-- A field that a token names is found under the text of the token. -/
theorem field?_of_resolve {schema : Schema ρ} {t : Token} {f : Field ρ}
    (h : schema.resolve t = .ok f) : schema.field? t.text = some f := by
  unfold resolve at h
  split at h
  · cases h
  · split at h
    · rename_i hf
      rw [hf, Except.ok.inj h]
    · cases h

end Schema

/-- The operator that a token names. -/
def Operator.ofToken? : Token → Option Operator
  | .word symbol => ofSymbol? symbol
  | .literal _ => none

namespace Comparison

/-- The operator of a comparison of `f`; a comparison without one is that of a bare literal. -/
def checkedOperator (f : Field ρ) (operator : Option Token) : Except QueryError Operator :=
  match operator with
  | none =>
    if f.supports .forBareLiteral then .ok .forBareLiteral
    else .error (.unsupportedOperator Operator.forBareLiteral.symbol f.queryName)
  | some t =>
    match Operator.ofToken? t with
    | none => .error (.unsupportedOperator t.text f.queryName)
    | some op =>
      if f.supports op then .ok op else .error (.unsupportedOperator op.symbol f.queryName)

/-- What `f` is compared with. -/
def checkedOperand (schema : Schema ρ) (f : Field ρ) (rhs : Token) :
    Except QueryError (Operand ρ) :=
  match rhs with
  | .literal s =>
    match f.parseLiteral? s with
    | some v => .ok (.literal v)
    | none => .error (.invalidLiteral s f.queryName f.typeClass)
  | .word _ =>
    match schema.resolve rhs with
    | .error e => .error e
    | .ok other =>
      if other.typeClass = f.typeClass then .ok (.field other)
      else .error (.fieldTypeMismatch f.queryName f.typeClass other.queryName other.typeClass)

/-- The comparison that tokens make, or the first thing wrong with them. -/
def ofTokens (schema : Schema ρ) (target rhs : Token) (operator : Option Token) :
    Except QueryError (Comparison ρ) := do
  let f ← schema.resolve target
  let op ← checkedOperator f operator
  let operand ← checkedOperand schema f rhs
  return ⟨f, op, operand⟩

/-- The parts of a comparison that tokens make. -/
theorem ofTokens_eq_ok {schema : Schema ρ} {target rhs : Token} {operator : Option Token}
    {c : Comparison ρ} :
    ofTokens schema target rhs operator = .ok c ↔
      schema.resolve target = .ok c.target ∧ checkedOperator c.target operator = .ok c.operator
        ∧ checkedOperand schema c.target rhs = .ok c.operand := by
  unfold ofTokens
  cases hf : schema.resolve target with
  | error e => simp [bind, Except.bind]
  | ok f =>
    cases hop : checkedOperator f operator with
    | error e =>
      simp only [bind, Except.bind, hop, Except.ok.injEq, reduceCtorEq, false_iff]
      rintro ⟨rfl, hc, -⟩
      rw [hop] at hc
      cases hc
    | ok op =>
      cases hrhs : checkedOperand schema f rhs with
      | error e =>
        simp only [bind, Except.bind, hop, hrhs, Except.ok.injEq, reduceCtorEq, false_iff]
        rintro ⟨rfl, -, hc⟩
        rw [hrhs] at hc
        cases hc
      | ok operand =>
        simp only [bind, Except.bind, hop, hrhs, pure, Except.pure, Except.ok.injEq]
        constructor
        · rintro rfl
          exact ⟨rfl, hop, hrhs⟩
        · obtain ⟨f', op', operand'⟩ := c
          rintro ⟨rfl, hop', hrhs'⟩
          rw [hop] at hop'
          rw [hrhs] at hrhs'
          cases hop'
          cases hrhs'
          rfl

/-- The target of a comparison accepts its operator. -/
theorem supports_of_ofTokens {schema : Schema ρ} {target rhs : Token} {operator : Option Token}
    {c : Comparison ρ} (h : ofTokens schema target rhs operator = .ok c) :
    c.target.supports c.operator = true := by
  have hop := (ofTokens_eq_ok.mp h).2.1
  unfold checkedOperator at hop
  split at hop
  · split at hop
    · rename_i hs
      exact Except.ok.inj hop ▸ hs
    · cases hop
  · split at hop
    · cases hop
    · split at hop
      · rename_i hs
        exact Except.ok.inj hop ▸ hs
      · cases hop

end Comparison

/-! ## Terms and sort clauses -/

/-- The token that names the default field, for a literal that stands on its own. -/
def Schema.defaultTarget (schema : Schema ρ) (literal : String) : Except QueryError Token :=
  match schema.defaultField with
  | some f => .ok (.word f.queryName)
  | none => .error (.noDefaultField schema.entity literal)

/-- The comparison of the default field with a literal that stands on its own. -/
def Comparison.ofBareLiteral (schema : Schema ρ) (literal : String) :
    Except QueryError (Comparison ρ) := do
  let target ← schema.defaultTarget literal
  ofTokens schema target (.literal literal) none

/-- The error of a comparison that ends too early, with the tokens it consists of. -/
def QueryError.ofUnfinished (tokens : List Token) : QueryError :=
  .incomplete (String.intercalate " " (tokens.map Token.shown))

/-- What stands behind a term: the rest of its group, the groups behind it and the last of the sort
clauses in between. -/
structure Tail (ρ : Type) where
  /-- The comparisons joined to the term. -/
  joined : Group ρ
  /-- The groups behind the one of the term. -/
  further : List (Group ρ)
  /-- The last sort clause. -/
  sort : Option (SortClause ρ)

namespace Tail

/-- Nothing. -/
def empty : Tail ρ := ⟨[], [], none⟩

/-- The groups, if the group of the term consists of the joined comparisons alone. -/
def groups (tail : Tail ρ) : List (Group ρ) :=
  if tail.joined.isEmpty then tail.further else tail.joined :: tail.further

/-- The tail behind one more comparison of the same group. -/
def join (c : Comparison ρ) (tail : Tail ρ) : Tail ρ := { tail with joined := c :: tail.joined }

/-- The tail behind the separator of groups. -/
def separate (tail : Tail ρ) : Tail ρ := ⟨[], tail.groups, tail.sort⟩

/-- The tail behind a sort clause, which counts only if no other follows. -/
def sortedBy (clause : SortClause ρ) (tail : Tail ρ) : Tail ρ :=
  { tail with sort := tail.sort.or (some clause) }

end Tail

mutual

/-- The terms from the place where one is wanted; nothing may follow a separator. -/
def terms (schema : Schema ρ) : List Token → Except QueryError (Tail ρ)
  | [] => .ok .empty
  | .literal s :: rest => do
    let c ← Comparison.ofBareLiteral schema s
    return (← separators schema rest).join c
  | .word w :: rest =>
    if (Token.word w).sortDirection?.isSome then .error .missingSortField
    else
      match rest with
      | [] => .error (.ofUnfinished [.word w])
      | [operator] => .error (.ofUnfinished [.word w, operator])
      | operator :: rhs :: rest => do
        let c ← Comparison.ofTokens schema (.word w) rhs (some operator)
        return (← separators schema rest).join c

/-- What follows a term from the place where it is complete. -/
def separators (schema : Schema ρ) : List Token → Except QueryError (Tail ρ)
  | [] => .ok .empty
  | .literal s :: _ => .error (.unseparatedLiteral s)
  | .word w :: rest =>
    if (Token.word w).isGroupSeparator then do return (← terms schema rest).separate
    else if (Token.word w).isTermSeparator then terms schema rest
    else
      match (Token.word w).sortDirection? with
      | none => .error (.invalidOperator w)
      | some direction =>
        match rest with
        | [] => .error .missingSortField
        | name :: rest => do
          let field ← schema.resolve name
          return (← separators schema rest).sortedBy ⟨field, direction⟩

end

/-! ## Free text -/

/-- The last of a sequence of sort clauses, among which nothing else may stand. -/
def sortClauses (schema : Schema ρ) : List Token → Except QueryError (Option (SortClause ρ))
  | [] => .ok none
  | t :: rest =>
    match t.sortDirection? with
    | none => .error (.invalidOperator t.text)
    | some direction =>
      match rest with
      | [] => .error .missingSortField
      | name :: rest => do
        let field ← schema.resolve name
        let later ← sortClauses schema rest
        return later.or (some ⟨field, direction⟩)

/-- Whether a token belongs to free text: all but sort keywords do. -/
def Token.isFreeText (t : Token) : Bool := t.sortDirection?.isNone

/-- The literal that free text makes: its tokens without what stood between them. -/
def freeText (tokens : List Token) : String :=
  String.join ((tokens.takeWhile Token.isFreeText).map Token.text)

/-- The query of free text and the sort clauses behind it. -/
def freeTextQuery (schema : Schema ρ) (tokens : List Token) : Except QueryError (Query ρ) := do
  let sort ← sortClauses schema (tokens.dropWhile Token.isFreeText)
  let c ← Comparison.ofBareLiteral schema (freeText tokens)
  return ⟨[[c]], sort⟩

/-! ## Whole queries -/

/-- Whether a query that begins with this token is free text. -/
def Schema.opensFreeText (schema : Schema ρ) : Token → Bool
  | .literal _ => false
  | .word w => !schema.contains w

namespace Query

/-- The query behind one more sort clause, which counts only if no other follows. -/
def sortedBy (clause : SortClause ρ) (q : Query ρ) : Query ρ :=
  { q with sort := q.sort.or (some clause) }

/-- The query that tokens make, or the error of the first of them that does not fit. -/
def ofTokens (schema : Schema ρ) : List Token → Except QueryError (Query ρ)
  | [] => .ok ⟨[], none⟩
  | t :: rest =>
    match t.sortDirection? with
    | some direction =>
      match rest with
      | [] => .error .missingSortField
      | name :: rest => do
        let field ← schema.resolve name
        return (← ofTokens schema rest).sortedBy ⟨field, direction⟩
    | none =>
      if schema.opensFreeText t then freeTextQuery schema (t :: rest)
      else do
        let tail ← terms schema (t :: rest)
        return ⟨tail.groups, tail.sort⟩

/-- The query that the tokens of a text make; a fault in the text comes before all else. -/
def ofLexed (schema : Schema ρ) (lexed : Lexed) : Except QueryError (Query ρ) :=
  match lexed.failure with
  | some e => .error (.lex e)
  | none => ofTokens schema lexed.tokens

/-- The query that a text makes. -/
def parse (schema : Schema ρ) (s : String) : Except QueryError (Query ρ) :=
  ofLexed schema (Lexed.ofText s)

end Query

end RecordQuery
