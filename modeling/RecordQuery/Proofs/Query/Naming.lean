import RecordQuery.Json.Basic
import RecordQuery.Proofs.Query.Typing
import RecordQuery.Proofs.Schema.Checking
import RecordQuery.Proofs.Text.Lower
import RecordQuery.Proofs.Token.Concatenation

/-!
# Fields that queries can mention

A schema takes any text as the name of a field, but a query has a field only where its name is one
word of the lexer.  A name with a digit in front is a number or a fault, a name with a blank or with
symbols next to letters is divided into several tokens, and a sort keyword is never read as a name.
A field whose name is one word and no keyword can be compared with itself, and no other can: the
first token of any other name is a proper part of it, and no text has the lower-case form of a
proper part of it.

The default field is mentioned by its name even where that is not written, so that a literal on its
own has to pass the test for keywords, but not that for words.
-/

namespace RecordQuery

open Text

section

variable {ρ : Type} {schema : Schema ρ} {f : Field ρ}

/-- The query name is a word of the lexer and no sort keyword. -/
def Field.Mentionable (f : Field ρ) : Prop :=
  IsWord f.queryName.toList ∧ (Token.word f.queryName).sortDirection? = none

instance : DecidablePred (Field.Mentionable : Field ρ → Prop) := fun _ =>
  inferInstanceAs (Decidable (_ ∧ _))

/-! ## Single comparisons -/

/-- A literal on its own makes a comparison by `*`. -/
theorem DefaultContains.operator {s : String} {c : Comparison ρ} (h : DefaultContains schema s c) :
    c.operator = .contains := by
  obtain ⟨f, -, hc⟩ := h
  have hop := (checkedOperator_eq_ok_iff.mp (Comparison.ofTokens_eq_ok.mp hc).2.1).1
  exact Option.some.inj (hop.symm.trans (Operator.ofSymbol?_symbol .contains))

/-- Where there is no order, there are no sort clauses in front. -/
theorem SortsSpell.eq_nil {front : List Token} {clauses : List (SortClause ρ)}
    (h : SortsSpell schema front clauses) (hnone : clauses = []) : front = [] := by
  cases h with
  | nil => rfl
  | cons _ _ _ => cases hnone

/-- **A query of one comparison by another operator than `*`** begins with the tokens of it. -/
theorem Reads.full_of_singleton {ts : List Token} {q : Query ρ} {c : Comparison ρ}
    (h : Reads schema ts q) (hq : q = ⟨[[c]], none⟩) (hop : c.operator ≠ .contains) :
    ∃ target operator rhs rest, ts = .word target :: operator :: rhs :: rest ∧
      Comparison.ofTokens schema (.word target) rhs (some operator) = .ok c := by
  cases h with
  | sorts _ => cases hq
  | freeText _ _ _ _ hc =>
      obtain ⟨hgroups, -⟩ := Query.mk.inj hq
      obtain rfl : _ = c := List.singleton_inj.mp (List.singleton_inj.mp hgroups)
      exact absurd hc.operator hop
  | @terms front term rest t clauses c' steps hfront _ _ hterm _ =>
      obtain ⟨hgroups, hsort⟩ := Query.mk.inj hq
      have hflat := congrArg List.flatten hgroups
      rw [flatten_groupsFrom] at hflat
      obtain ⟨rfl, -⟩ := List.cons.inj hflat
      have hclauses := (List.append_eq_nil_iff.mp (List.getLast?_eq_none_iff.mp hsort)).1
      rw [hfront.eq_nil hclauses]
      cases hterm with
      | bare hdefault => exact absurd hdefault.operator hop
      | full hfull => exact ⟨_, _, _, rest, rfl, hfull⟩

/-! ## Fields compared with themselves -/

/-- A first span without white space is a part of what stands in front of a blank, unless nothing
but the gap does. -/
theorem span_in_front {gap s rest front behind : List Char}
    (hs : ∀ c ∈ s, isBlank c = false) (h : gap ++ s ++ rest = front ++ ' ' :: behind) :
    (∃ back, front = gap ++ s ++ back) ∨ ∃ inner, gap = front ++ inner := by
  rcases List.append_eq_append_iff.mp h with ⟨back, hfront, -⟩ | ⟨more, hspan, hbehind⟩
  · exact .inl ⟨back, hfront⟩
  cases more with
  | nil => exact .inl ⟨[], by simpa using hspan.symm⟩
  | cons b more =>
      have hb : b = ' ' := (List.cons.inj hbehind).1.symm
      rcases List.append_eq_append_iff.mp hspan with ⟨inner, -, hinner⟩ | ⟨inner, hgap, -⟩
      · have hblank := hs b (by simp [hinner])
        rw [hb] at hblank
        exact absurd hblank (by decide)
      · exact .inr ⟨inner, hgap⟩

/-- Between white space there is nothing but the sign of equality. -/
theorem Lexed.ofText_of_blank {s : String} (h : ∀ c ∈ s.toList, isBlank c = true) :
    Lexed.ofText (s ++ " = " ++ s) = ⟨[.word "="], none⟩ := by
  have hs : Lexed.ofText s = ⟨[], none⟩ := Lexed.ofText_eq_iff.mpr (.ended h)
  have hword : IsWord "=".toList := by decide
  simpa using Lexed.ofText_word_between hs hword hs

/-- A field whose name is a word and no keyword is compared with itself. -/
theorem parse_of_mentionable (hfound : schema.field? f.queryName = some f) (h : f.Mentionable) :
    Query.parse schema (f.queryName ++ " = " ++ f.queryName) =
      .ok ⟨[[⟨f, .equal, .field f⟩]], none⟩ := by
  have hname := Lexed.ofText_word h.1
  have hword : IsWord "=".toList := by decide
  have htokens := Lexed.ofText_word_between hname hword hname
  have hresolve : schema.resolve (.word f.queryName) = .ok f :=
    Schema.resolve_eq_ok_iff.mpr ⟨h.2, hfound⟩
  have hsupports : f.supports .equal = true := f.typeClass.supports_equal
  have hterm : TermSpells schema [.word f.queryName, .word "=", .word f.queryName]
      ⟨f, .equal, .field f⟩ := by
    refine .full (Comparison.ofTokens_eq_ok.mpr ⟨hresolve, checkedOperator_symbol hsupports, ?_⟩)
    exact checkedOperand_eq_ok_iff.mpr (.inr ⟨_, f, rfl, hresolve, rfl, rfl⟩)
  have hopens : schema.OpensTerms (.word f.queryName) := by
    simp [Schema.OpensTerms, Schema.contains, hfound]
  have hreads := Reads.terms .nil rfl hopens hterm .nil
  exact Query.parse_eq_ok_iff.mpr ⟨_, by simpa using htokens, ofTokens_of_reads hreads⟩

/-- A name that agrees but for case with the first of several tokens is that token, for it is not
longer. -/
theorem Lexed.eq_of_first_word {name w : String} {ts : List Token}
    (htokens : Lexed.ofText (name ++ " = " ++ name) = ⟨.word w :: ts, none⟩) (hts : ts ≠ [])
    (hlower : lower name = lower w) : name = w ∧ IsWord name.toList := by
  have hlexes := Lexed.ofText_eq_iff.mp htokens
  generalize htext : (name ++ " = " ++ name).toList = text at hlexes
  cases hlexes with
  | @token _ gap s behind _ _ _ hgap hspan _ =>
      obtain ⟨rfl, hword⟩ := hspan.eq_toList
      have hfront : gap ++ w.toList ++ behind =
          name.toList ++ ' ' :: ('=' :: ' ' :: name.toList) := by
        rw [← htext]
        simp
      rcases span_in_front hword.isBlank hfront with ⟨back, hback⟩ | ⟨inner, hinner⟩
      · -- The token is a part of the name, and both have the same lower-case form.
        have hchars := congrArg String.toList hlower
        simp only [lower, String.toList_ofList, hback] at hchars
        obtain ⟨rfl, rfl⟩ := eq_nil_of_lowerChars_eq hchars
        obtain rfl : name = w := String.toList_injective (by simpa using hback)
        exact ⟨rfl, hword⟩
      · have hblank : ∀ c ∈ name.toList, isBlank c = true := by
          intro c hc
          exact hgap c (by simp [hinner, hc])
        rw [Lexed.ofText_of_blank hblank] at htokens
        cases htokens
        exact absurd rfl hts

/-- Only a field whose name is a word and no keyword is compared with itself. -/
theorem mentionable_of_parse
    (h : Query.parse schema (f.queryName ++ " = " ++ f.queryName) =
      .ok ⟨[[⟨f, .equal, .field f⟩]], none⟩) : f.Mentionable := by
  obtain ⟨tokens, htokens, hread⟩ := Query.parse_eq_ok_iff.mp h
  obtain ⟨target, operator, rhs, rest, rfl, hc⟩ :=
    (reads_of_ofTokens hread).full_of_singleton rfl (by simp)
  obtain ⟨hsort, hfound⟩ := Schema.resolve_eq_ok_iff.mp (Comparison.ofTokens_eq_ok.mp hc).1
  have hkey : lower f.queryName = lower target := (Schema.field?_eq_some hfound).2
  obtain ⟨hname, hword⟩ := Lexed.eq_of_first_word htokens (List.cons_ne_nil _ _) hkey
  refine ⟨hword, ?_⟩
  rw [hname]
  exact hsort

/-! ## Literals on their own -/

/-- A quoted literal is read as one token. -/
theorem Lexed.ofText_quoted {quote : Char} {source value : List Char}
    (hquote : isQuote quote = true)
    (hbody : QuotedBody quote source value) :
    Lexed.ofText (String.ofList (quote :: source ++ [quote])) =
      ⟨[.literal (String.ofList value)], none⟩ := by
  apply ofText_span
  rw [String.toList_ofList]
  exact .quoted hquote hbody

/-- The comparison of the default field that a literal on its own makes. -/
theorem defaultContains_iff {s : String} (hdefault : schema.defaultField = some f)
    (hfound : schema.field? f.queryName = some f) (hclass : f.typeClass = .string) :
    DefaultContains schema s ⟨f, .contains, .literal (.string s)⟩ ↔
      (Token.word f.queryName).sortDirection? = none := by
  constructor
  · rintro ⟨g, hg, hc⟩
    obtain rfl : g = f := Option.some.inj (hg.symm.trans hdefault)
    exact sortDirection?_of_ofTokens hc
  · intro hsort
    have hresolve : schema.resolve (.word f.queryName) = .ok f :=
      Schema.resolve_eq_ok_iff.mpr ⟨hsort, hfound⟩
    have hsupports : f.supports .contains = true := f.typeClass.supports_forBareLiteral.mpr hclass
    have hliteral : f.parseLiteral? s = some (.string s) := by
      unfold Field.parseLiteral?
      rw [hclass]
      rfl
    refine ⟨f, hdefault, Comparison.ofTokens_eq_ok.mpr
      ⟨hresolve, checkedOperator_symbol hsupports, ?_⟩⟩
    exact checkedOperand_eq_ok_iff.mpr (.inl ⟨s, _, rfl, hliteral, rfl⟩)

/-- A literal is a query of its own, if it makes a comparison. -/
theorem ofTokens_literal (s : String) :
    Query.ofTokens schema [.literal s] =
      (Comparison.ofBareLiteral schema s).map fun c => ⟨[[c]], none⟩ := by
  have hclosed : schema.opensFreeText (.literal s) = false := rfl
  rw [Query.ofTokens.eq_def]
  simp only [Token.sortDirection?_literal, hclosed, terms]
  cases Comparison.ofBareLiteral schema s <;> rfl

/-- **A quoted literal on its own** is a comparison of the default field, if its name is no sort
keyword. -/
theorem parse_quoted_iff {quote : Char} {source value : List Char}
    (hdefault : schema.defaultField = some f) (hfound : schema.field? f.queryName = some f)
    (hclass : f.typeClass = .string) (hquote : isQuote quote = true)
    (hbody : QuotedBody quote source value) :
    Query.parse schema (String.ofList (quote :: source ++ [quote])) =
        .ok ⟨[[⟨f, .contains, .literal (.string (String.ofList value))⟩]], none⟩ ↔
      (Token.word f.queryName).sortDirection? = none := by
  rw [← defaultContains_iff hdefault hfound hclass, ← ofBareLiteral_eq_ok_iff,
    Query.parse, Lexed.ofText_quoted hquote hbody, Query.ofLexed, ofTokens_literal]
  cases Comparison.ofBareLiteral schema (String.ofList value) with
  | error e => simp [Except.map]
  | ok c => simp [Except.map]

end

/-- **Fields that queries can mention.**  A field of a schema is compared with itself by a query
that has its name on both sides if and only if the name is a word of the lexer and no sort keyword.
If the field is the default field and of class string, every quoted literal on its own is a
comparison of it if and only if its name is no sort keyword. -/
theorem SchemaDeclaration.parse_queryName_iff {ρ : Type} {d : SchemaDeclaration ρ}
    {schema : Schema ρ} {f : Field ρ} (hbuild : d.build = .ok schema) (hf : f ∈ schema.fields) :
    (Query.parse schema (f.queryName ++ " = " ++ f.queryName) =
        .ok ⟨[[⟨f, .equal, .field f⟩]], none⟩ ↔ f.Mentionable) ∧
    (schema.defaultField = some f → f.typeClass = .string →
      ∀ quote source value, isQuote quote = true → QuotedBody quote source value →
        (Query.parse schema (String.ofList (quote :: source ++ [quote])) =
            .ok ⟨[[⟨f, .contains, .literal (.string (String.ofList value))⟩]], none⟩ ↔
          (Token.word f.queryName).sortDirection? = none)) := by
  have hfound := field?_queryName hbuild hf
  refine ⟨⟨mentionable_of_parse, parse_of_mentionable hfound⟩, ?_⟩
  intro hdefault hclass quote source value hquote hbody
  exact parse_quoted_iff hdefault hfound hclass hquote hbody

/-! ## Albums -/

namespace Albums

def title : FieldDeclaration Json := (FieldDeclaration.named "title" .string).readBy fun _ => .null

/-- A name that the lexer divides at the underscore. -/
def trackCount : FieldDeclaration Json :=
  (FieldDeclaration.named "track_count" .int).readBy fun _ => .null

def declaration : SchemaDeclaration Json :=
  (((SchemaDeclaration.empty "album").withField title).withField trackCount).withDefaultField
    "title"

def titleField : Field Json := ⟨"title", "title", .string, [], fun _ => .null⟩

def trackCountField : Field Json := ⟨"track_count", "track_count", .int, [], fun _ => .null⟩

def schema : Schema Json := ⟨"album", [titleField, trackCountField], some titleField⟩

/-- A declaration whose only field has a keyword as its name. -/
def ordered : SchemaDeclaration Json :=
  ((SchemaDeclaration.empty "album").withField
    ((FieldDeclaration.named "orderby" .string).readBy fun _ => .null)).withDefaultField "orderby"

def orderedField : Field Json := ⟨"orderby", "orderby", .string, [], fun _ => .null⟩

def orderedSchema : Schema Json := ⟨"album", [orderedField], some orderedField⟩

theorem parse_trackCount : Query.parse schema "track_count = track_count" =
    .ok ⟨[[⟨titleField, .contains, .literal (.string "track_count=track_count")⟩]], none⟩ := by
  have htokens : Lexed.ofText "track_count = track_count" =
      ⟨[.word "track", .word "_", .word "count", .word "=", .word "track", .word "_",
        .word "count"], none⟩ := by
    cbv
  exact Query.parse_eq_ok_iff.mpr ⟨_, htokens, rfl⟩

theorem parse_quoted : Query.parse orderedSchema "'x'" = .error .missingSortField := by
  have htokens : Lexed.ofText "'x'" = ⟨[.literal "x"], none⟩ := by cbv
  rw [Query.parse, htokens]
  rfl

end Albums

/-- A field whose name is divided into tokens makes free text, and a default field with the name of
a keyword leaves no query to a literal. -/
theorem parse_queryName_albums :
    (Albums.declaration.build = .ok Albums.schema ∧
      Albums.trackCountField ∈ Albums.schema.fields ∧
      Query.parse Albums.schema "track_count = track_count" =
        .ok ⟨[[⟨Albums.titleField, .contains,
          .literal (.string "track_count=track_count")⟩]], none⟩ ∧
      Query.parse Albums.schema "track_count = track_count" ≠
        .ok ⟨[[⟨Albums.trackCountField, .equal, .field Albums.trackCountField⟩]], none⟩) ∧
    Albums.ordered.build = .ok Albums.orderedSchema ∧
      Albums.orderedField ∈ Albums.orderedSchema.fields ∧
      Albums.orderedSchema.defaultField = some Albums.orderedField ∧
      Albums.orderedField.typeClass = .string ∧
      Query.parse Albums.orderedSchema "'x'" = .error .missingSortField := by
  have hmem : Albums.trackCountField ∈ Albums.schema.fields := by simp [Albums.schema]
  have hother : Query.parse Albums.schema "track_count = track_count" ≠
      .ok ⟨[[⟨Albums.trackCountField, .equal, .field Albums.trackCountField⟩]], none⟩ := by
    rw [Albums.parse_trackCount]
    simp
  have hordered : Albums.orderedField ∈ Albums.orderedSchema.fields := List.mem_singleton.mpr rfl
  exact ⟨⟨rfl, hmem, Albums.parse_trackCount, hother⟩, rfl, hordered, rfl, rfl,
    Albums.parse_quoted⟩

theorem parse_queryName_title :
    Query.parse Albums.schema "title = title" =
      .ok ⟨[[⟨Albums.titleField, .equal, .field Albums.titleField⟩]], none⟩ ∧
    Query.parse Albums.schema "'x'" =
      .ok ⟨[[⟨Albums.titleField, .contains, .literal (.string "x")⟩]], none⟩ := by
  have hbuild : Albums.declaration.build = .ok Albums.schema := rfl
  have hmem : Albums.titleField ∈ Albums.schema.fields := by simp [Albums.schema]
  obtain ⟨hself, hliteral⟩ := SchemaDeclaration.parse_queryName_iff hbuild hmem
  constructor
  · exact hself.mpr (by decide)
  · have hbody : QuotedBody '\'' ['x'] ['x'] := .plain (by decide) (by decide) .nil
    exact (hliteral rfl rfl '\'' ['x'] ['x'] (by decide) hbody).mpr (by decide)

end RecordQuery
