import RecordQuery.Proofs.Config.Fields
import RecordQuery.Proofs.Query.Naming
import RecordQuery.Proofs.Text.Lower
import RecordQuery.Proofs.Value.Matching
import RecordQuery.Proofs.Value.ReadBack
import RecordQuery.Query.Basic

/-!
# Texts of records in queries

A record should be found by a part of the text that it holds: by its beginning, by its end and by
whatever stands in it.  Both the text and the literal are lowered as wholes before they are
compared, and lowering looks at neighbours: a capital sigma at the end of a word is lowered to the
final form.  So a literal that breaks a word off behind a capital sigma does not match the text that
it was taken from, and neither does one that begins with the last capital sigma of a word.  This is
the only exception.  A text starts or ends with its own part, as the operators see it, if and only
if no sigma turns at the place where the part was broken off; and where none turns, the text
contains the part.

A field meets texts in two places: as literals of queries and as JSON strings of records.  A text
that is a literal of the class of the field is the same value in both places, so a record with one
text is found by a query for another text if the two values are equal.  Hence a record is found by
its own text, unless that names NaN, which is not equal to itself.

A text that is no literal of the class makes no query, and a record that holds it reads null.  Only
an enum keeps such a text as a name; it differs from all declared names, also in case, and since
literals are declared names the record is not found either way.  The text of a duration whose
reading does not come to an answer counts as no literal, in both places.
-/

namespace RecordQuery

open Text

/-! ## Queries for a text -/

section

variable {ρ : Type} {schema : Schema ρ} {f : Field ρ} {quote : Char}

/-- Strings accept every test of texts. -/
theorem supports_string {op : Operator} :
    op.isStringMatch = true → TypeClass.string.supports op = true := by
  cases op <;> decide

/-- The text of a query that compares a field with a quoted and escaped text. -/
def Field.matchText (f : Field ρ) (op : Operator) (quote : Char) (s : String) : String :=
  f.queryName ++ (" " ++ op.symbol ++ " ") ++
    String.ofList (quote :: Token.escapeChars s.toList ++ [quote])

/-- The query that compares a field with a text. -/
def Field.matchQuery (f : Field ρ) (op : Operator) (s : String) : Query ρ :=
  ⟨[[⟨f, op, .literal (.string s)⟩]], none⟩

theorem Lexed.ofText_matchText (hname : f.Mentionable) (hquote : isQuote quote = true)
    (op : Operator) (s : String) :
    Lexed.ofText (f.matchText op quote s) =
      ⟨[.word f.queryName, .word op.symbol, .literal s], none⟩ := by
  have hliteral := Lexed.ofText_quoted hquote (quotedBody_escapeChars hquote s.toList)
  have hsymbol : IsWord op.symbol.toList := by cases op <;> decide
  have htokens := Lexed.ofText_word_between (Lexed.ofText_word hname.1) hsymbol hliteral
  rwa [String.ofList_toList] at htokens

/-- A field, an operator and a literal are a query of one comparison, unless the literal names no
value of the class of the field. -/
theorem ofTokens_comparison (hresolve : schema.resolve (.word f.queryName) = .ok f) {op : Operator}
    (hsupports : f.supports op = true) (s : String) :
    Query.ofTokens schema [.word f.queryName, .word op.symbol, .literal s] =
      match f.parseLiteral? s with
      | some v => .ok ⟨[[⟨f, op, .literal v⟩]], none⟩
      | none => .error (.invalidLiteral s f.queryName f.typeClass) := by
  obtain ⟨hsort, hfound⟩ := Schema.resolve_eq_ok_iff.mp hresolve
  have hopens : schema.OpensTerms (.word f.queryName) := congrArg Option.isSome hfound
  rw [ofTokens_of_opensTerms hsort hopens]
  simp only [terms, hsort, Comparison.ofTokens, hresolve, checkedOperator_symbol hsupports,
    Comparison.checkedOperand, ok_bind, separators]
  cases f.parseLiteral? s <;> rfl

/-- **A query for a quoted text** is read as the comparison that it is, or refused for its
literal. -/
theorem parse_matchText_eq (hfound : schema.field? f.queryName = some f) (hname : f.Mentionable)
    (hquote : isQuote quote = true) {op : Operator} (hsupports : f.supports op = true)
    (s : String) :
    Query.parse schema (f.matchText op quote s) =
      match f.parseLiteral? s with
      | some v => .ok ⟨[[⟨f, op, .literal v⟩]], none⟩
      | none => .error (.invalidLiteral s f.queryName f.typeClass) := by
  have hresolve : schema.resolve (.word f.queryName) = .ok f :=
    Schema.resolve_eq_ok_iff.mpr ⟨hname.2, hfound⟩
  rw [← ofTokens_comparison hresolve hsupports, Query.parse,
    Lexed.ofText_matchText hname hquote, Query.ofLexed]

/-- A query for a quoted text of a string field is read as what it says. -/
theorem parse_matchText (hfound : schema.field? f.queryName = some f) (hname : f.Mentionable)
    (hclass : f.typeClass = .string) (hquote : isQuote quote = true) {op : Operator}
    (hop : op.isStringMatch = true) (s : String) :
    Query.parse schema (f.matchText op quote s) = .ok (f.matchQuery op s) := by
  have hsupports : f.supports op = true := by
    rw [Field.supports, hclass]
    exact supports_string hop
  have hvalue : f.parseLiteral? s = some (.string s) := by
    rw [Field.parseLiteral?, hclass]
    rfl
  rw [parse_matchText_eq hfound hname hquote hsupports, hvalue, Field.matchQuery]

/-- The query accepts a record if its operator holds. -/
theorem accepts_matchQuery (op : Operator) (s : String) (record : ρ) :
    (f.matchQuery op s).accepts record = op.holds (f.read record) (.string s) := by
  simp [Field.matchQuery, Query.accepts, Group.accepts, Comparison.accepts, Operand.value]

end

/-! ## Texts and their parts -/

/-- **A text starts with its own beginning** if and only if no sigma of the beginning turns. -/
theorem startsWith_own_iff (a b : String) :
    Operator.startsWith.holds (.string (a ++ b)) (.string a) = true ↔
      ¬ SigmaTurns [] a.toList b.toList := by
  rw [← lowerChars_prefix_iff, ← List.isPrefixOf_iff_prefix, ← String.toList_append]
  rfl

/-- **A text ends with its own end** if and only if no sigma of the end turns. -/
theorem endsWith_own_iff (a b : String) :
    Operator.endsWith.holds (.string (a ++ b)) (.string b) = true ↔
      ¬ SigmaTurns a.toList b.toList [] := by
  rw [← lowerChars_suffix_iff, ← List.isSuffixOf_iff_suffix, ← String.toList_append]
  rfl

/-- **A text contains its own part** if no sigma of the part turns, and else only by coincidence. -/
theorem contains_own_iff (a b c : String) :
    Operator.contains.holds (.string (a ++ b ++ c)) (.string b) = true ↔
      ¬ SigmaTurns a.toList b.toList c.toList ∨ FoundElsewhere a.toList b.toList c.toList := by
  rw [← lowerChars_infix_iff, ← occursIn_iff, ← String.toList_append,
    ← String.toList_append]
  rfl

/-- **Texts found by their own parts.**  A query for the beginning of a text, for its end or for
another part of it, quoted and escaped, is read as such.  It accepts every record that holds the
text if no capital sigma of the part turns.  If one turns, the queries for the beginning and the end
do not accept the record, and the query for a part in the middle accepts it only if the form of the
part is found at another place. -/
theorem SchemaDeclaration.accepts_own_text_iff {ρ : Type} {d : SchemaDeclaration ρ}
    {schema : Schema ρ} {f : Field ρ} {quote : Char} (hbuild : d.build = .ok schema)
    (hf : f ∈ schema.fields) (hname : f.Mentionable) (hclass : f.typeClass = .string)
    (hquote : isQuote quote = true) (a b c : String) :
    (Query.parse schema (f.matchText .contains quote b) = .ok (f.matchQuery .contains b) ∧
      ∀ record, f.read record = .string (a ++ b ++ c) →
        ((f.matchQuery .contains b).accepts record = true ↔
          ¬ SigmaTurns a.toList b.toList c.toList ∨
            FoundElsewhere a.toList b.toList c.toList)) ∧
    (Query.parse schema (f.matchText .startsWith quote a) = .ok (f.matchQuery .startsWith a) ∧
      ∀ record, f.read record = .string (a ++ b) →
        ((f.matchQuery .startsWith a).accepts record = true ↔
          ¬ SigmaTurns [] a.toList b.toList)) ∧
    (Query.parse schema (f.matchText .endsWith quote b) = .ok (f.matchQuery .endsWith b) ∧
      ∀ record, f.read record = .string (a ++ b) →
        ((f.matchQuery .endsWith b).accepts record = true ↔
          ¬ SigmaTurns a.toList b.toList [])) := by
  have hfound := field?_queryName hbuild hf
  refine ⟨⟨?_, ?_⟩, ⟨?_, ?_⟩, ?_, ?_⟩
  · exact parse_matchText hfound hname hclass hquote rfl b
  · intro record hread
    rw [accepts_matchQuery, hread, contains_own_iff]
  · exact parse_matchText hfound hname hclass hquote rfl a
  · intro record hread
    rw [accepts_matchQuery, hread, startsWith_own_iff]
  · exact parse_matchText hfound hname hclass hquote rfl b
  · intro record hread
    rw [accepts_matchQuery, hread, endsWith_own_iff]

/-! ## Streets -/

namespace Streets

def title : FieldConfig := ⟨"title", none, .string, [], true, true⟩

def config : SchemaConfig := ⟨"street", some "title", [title]⟩

def schema : Schema Json := ⟨"street", [title.field], some title.field⟩

/-- A word whose sigma stands inside of it. -/
def signs : Json := .object [("title", .string "ΟΔΟΣΗΜΑΝΣΗ")]

def street : Json := .object [("title", .string "ΟΔΟΣ")]

/-- Two words, of which the first one ends with a sigma. -/
def hermes : Json := .object [("title", .string "ΟΔΟΣ ΕΡΜΟΥ")]

end Streets

/-- A word is not found by its beginning up to a sigma, nor by a sigma at its end. -/
theorem accepts_own_text_streets :
    Streets.config.build = .ok Streets.schema ∧
    Streets.title.field ∈ Streets.schema.fields ∧ Streets.title.field.Mentionable ∧
    Query.parse Streets.schema "title * 'ΟΔΟΣ'" =
      .ok (Streets.title.field.matchQuery .contains "ΟΔΟΣ") ∧
    Streets.title.read Streets.signs = .string ("" ++ "ΟΔΟΣ" ++ "ΗΜΑΝΣΗ") ∧
    (Streets.title.field.matchQuery .contains "ΟΔΟΣ").accepts Streets.signs = false ∧
    (Streets.title.field.matchQuery .startsWith "ΟΔΟΣ").accepts Streets.signs = false ∧
    Streets.title.read Streets.street = .string ("ΟΔΟ" ++ "Σ") ∧
    (Streets.title.field.matchQuery .endsWith "Σ").accepts Streets.street = false := by
  have hmem : Streets.title.field ∈ Streets.schema.fields := List.mem_singleton.mpr rfl
  have hname : Streets.title.field.Mentionable := by decide
  have hquote : isQuote '\'' = true := by decide
  have hparse : Query.parse Streets.schema (Streets.title.field.matchText .contains '\'' "ΟΔΟΣ") =
      .ok (Streets.title.field.matchQuery .contains "ΟΔΟΣ") :=
    parse_matchText rfl hname rfl hquote rfl "ΟΔΟΣ"
  exact ⟨rfl, hmem, hname, hparse, rfl, rfl, rfl, rfl, rfl⟩

/-- A sigma that ends a word in the part and in the text does not turn. -/
theorem accepts_own_text_hermes :
    ¬ SigmaTurns [] "ΟΔΟΣ ".toList "ΕΡΜΟΥ".toList ∧
    Query.parse Streets.schema "title ^ \"ΟΔΟΣ \"" =
      .ok (Streets.title.field.matchQuery .startsWith "ΟΔΟΣ ") ∧
    (Streets.title.field.matchQuery .startsWith "ΟΔΟΣ ").accepts Streets.hermes = true := by
  have hbuild : Streets.config.declaration.build = .ok Streets.schema := rfl
  have hmem : Streets.title.field ∈ Streets.schema.fields := List.mem_singleton.mpr rfl
  have hturns : ¬ SigmaTurns [] "ΟΔΟΣ ".toList "ΕΡΜΟΥ".toList := by decide
  have hquote : isQuote '"' = true := by decide
  obtain ⟨-, ⟨hparse, hread⟩, -⟩ := SchemaDeclaration.accepts_own_text_iff hbuild hmem (by decide)
    rfl hquote "ΟΔΟΣ " "ΕΡΜΟΥ" ""
  exact ⟨hturns, hparse, (hread Streets.hermes rfl).mpr hturns⟩

/-! ## Values equal to themselves -/

/-- The value is NaN. -/
def Value.IsNaN (v : Value) : Prop := ∃ x, v = .float x ∧ x.isNaN = true

theorem Binary64.numericEq_self_iff {x : Binary64} : x.numericEq x = true ↔ x.isNaN = false := by
  simp only [numericEq, compare?, Bool.or_self, beq_iff_eq]
  cases x.isNaN with
  | true => simp
  | false => simp [Std.ReflCmp.compare_self]

/-- Every value but NaN equals itself. -/
theorem Value.looselyEqual_self_iff {v : Value} : v.looselyEqual v = true ↔ ¬ v.IsNaN := by
  cases v with
  | float x => simp [looselyEqual, IsNaN, Binary64.numericEq_self_iff]
  | _ => simp [looselyEqual, IsNaN, sameText]

/-! ## Texts of records -/

namespace TypeClass

variable {cls : TypeClass} {variants : List String} {s l : String}

/-- **The text of a record is read as a literal is**; a text that is none is null, or a name of its
own in an enum. -/
theorem readJson_string (cls : TypeClass) (variants : List String) (s : String) :
    cls.readJson variants (.string s) =
      (cls.parseLiteral? variants s).getD (if cls = .enum then .variant s else .null) := by
  cases cls with
  | int => rfl
  | float => rfl
  | duration => rfl
  | string => rfl
  | enum =>
      rw [readJson, parseLiteral?]
      cases declaredName? variants s <;> rfl

/-- **A text that is no literal equals no literal.** -/
theorem looselyEqual_of_refused (hs : cls.parseLiteral? variants s = none) {v : Value}
    (hl : cls.parseLiteral? variants l = some v) :
    (cls.readJson variants (.string s)).looselyEqual v = false := by
  rw [readJson_string, hs, Option.getD_none]
  by_cases henum : cls = .enum
  · -- A name equal to a declared one but for case would have that one as its spelling.
    subst henum
    obtain ⟨name, hname, rfl⟩ := Option.map_eq_some_iff.mp hl
    rw [if_pos rfl, Value.looselyEqual, Bool.eq_false_iff]
    intro hsame
    rw [parseLiteral?, declaredName?_congr variants (Value.sameText_iff.mp hsame),
      declaredName?_self hname] at hs
    cases hs
  · rw [if_neg henum]
    have hclass := typeClass?_of_parseLiteral? hl
    cases v with
    | null => cases hclass
    | _ => rfl

end TypeClass

/-- **Records with a text and queries for a text.**  A text that a record holds is read as the
literal that it is.  A query by `=` for a literal accepts a record with another one if the values
are equal, so it accepts the record with the same text unless the value is NaN.  A text that is no
literal is refused as such in a query; a record with such a text reads null, or the text itself as
the name of an enum, and is accepted by no query by `=` for a literal. -/
theorem SchemaConfig.recordTexts_agree {config : SchemaConfig} {schema : Schema Json}
    {f : Field Json}
    {quote : Char} (hbuild : config.build = .ok schema) (hf : f ∈ schema.fields)
    (hname : f.Mentionable) (hquote : isQuote quote = true) (s l : String) :
    (∀ v, f.parseLiteral? l = some v →
      ∃ q, Query.parse schema (f.matchText .equal quote l) = .ok q ∧
        ∀ record : Json, record.get? f.name = some (.string s) →
          (∀ w, f.parseLiteral? s = some w →
            (q.accepts record = true ↔ w.looselyEqual v = true)) ∧
          (s = l → (q.accepts record = true ↔ ¬ v.IsNaN)) ∧
          (f.parseLiteral? s = none → q.accepts record = false)) ∧
    (f.parseLiteral? l = none → Query.parse schema (f.matchText .equal quote l) =
      .error (.invalidLiteral l f.queryName f.typeClass)) ∧
    ∀ record : Json, record.get? f.name = some (.string s) → f.read record =
      (f.parseLiteral? s).getD (if f.typeClass = .enum then .variant s else .null) := by
  have hfound := SchemaDeclaration.field?_queryName hbuild hf
  have hsupports : f.supports .equal = true := f.typeClass.supports_equal
  have hparse := parse_matchText_eq hfound hname hquote hsupports l
  obtain ⟨k, -, rfl⟩ := exists_config hbuild hf
  have hread (record : Json) (hs : record.get? k.name = some (.string s)) :
      k.field.read record = k.typeClass.readJson k.variants (.string s) :=
    FieldConfig.read_of_get? hs
  refine ⟨?_, ?_, ?_⟩
  · intro v hl
    rw [hl] at hparse
    refine ⟨_, hparse, fun record hs => ?_⟩
    have haccepts : (⟨[[⟨k.field, .equal, .literal v⟩]], none⟩ : Query Json).accepts record =
        (k.typeClass.readJson k.variants (.string s)).looselyEqual v := by
      rw [← hread record hs]
      simp [Query.accepts, Group.accepts, Comparison.accepts, Operand.value, Operator.holds]
    have hequal (w : Value) (hw : k.field.parseLiteral? s = some w) :
        k.typeClass.readJson k.variants (.string s) = w := by
      have hliteral : k.typeClass.parseLiteral? k.variants s = some w := hw
      rw [TypeClass.readJson_string, hliteral, Option.getD_some]
    rw [haccepts]
    refine ⟨fun w hw => by rw [hequal w hw], ?_, fun hrefused => ?_⟩
    · rintro rfl
      rw [hequal v hl, Value.looselyEqual_self_iff]
    · exact TypeClass.looselyEqual_of_refused hrefused hl
  · intro hl
    rw [hparse, hl]
  · intro record hs
    rw [hread record hs]
    exact TypeClass.readJson_string _ _ _

/-! ## Reviews -/

namespace Reviews

def rating : FieldConfig := ⟨"rating", none, .float, [], true, true⟩

def config : SchemaConfig := ⟨"review", none, [rating]⟩

def schema : Schema Json := ⟨"review", [rating.field], none⟩

def review : Json := .object [("rating", .string "4.50")]

def unrated : Json := .object [("rating", .string "nan")]

end Reviews

/-- A rating is found in another spelling; one that is NaN is not found in its own. -/
theorem recordTexts_agree_reviews :
    (∃ q, Query.parse Reviews.schema "rating = '45e-1'" = .ok q ∧
      q.accepts Reviews.review = true) ∧
    (∃ q, Query.parse Reviews.schema "rating = 'nan'" = .ok q ∧
      q.accepts Reviews.unrated = false) ∧
    Query.parse Reviews.schema "rating = 'high'" =
      .error (.invalidLiteral "high" "rating" .float) := by
  have hbuild : Reviews.config.build = .ok Reviews.schema := rfl
  have hmem : Reviews.rating.field ∈ Reviews.schema.fields := List.mem_singleton.mpr rfl
  have hname : Reviews.rating.field.Mentionable := by decide
  have hquote : isQuote '\'' = true := by decide
  have hagree := SchemaConfig.recordTexts_agree hbuild hmem hname hquote
  refine ⟨?_, ?_, ?_⟩
  · have hliteral : Reviews.rating.field.parseLiteral? "45e-1" =
        some (.float ⟨0x4012000000000000⟩) := by decide +kernel
    have htext : Reviews.rating.field.parseLiteral? "4.50" =
        some (.float ⟨0x4012000000000000⟩) := by decide +kernel
    obtain ⟨q, hparse, haccepts⟩ := (hagree "4.50" "45e-1").1 _ hliteral
    exact ⟨q, hparse, ((haccepts Reviews.review rfl).1 _ htext).mpr (by decide)⟩
  · have hliteral : Reviews.rating.field.parseLiteral? "nan" =
        some (.float (.nan false)) := by decide +kernel
    obtain ⟨q, hparse, haccepts⟩ := (hagree "nan" "nan").1 _ hliteral
    have hself := (haccepts Reviews.unrated rfl).2.1 rfl
    have hnan : Value.IsNaN (.float (.nan false)) := ⟨_, rfl, by decide⟩
    exact ⟨q, hparse, Bool.eq_false_iff.mpr fun h => hself.mp h hnan⟩
  · have hrefused : Reviews.rating.field.parseLiteral? "high" = none := by decide +kernel
    exact (hagree "high" "high").2.1 hrefused

end RecordQuery
