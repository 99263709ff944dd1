import RecordQuery.Proofs.Token.Stream

/-!
# Texts put together and tokens printed

White space ends every token that stands before it, and the rules for a token do not look at what
stands in front of it.  So a text without a fault, white space and another text have the tokens of
the one and then those of the other; a fault of the second text stays where it was, counted from the
start of the whole.

A list of tokens is printed with white space between them: each word as it is, and each literal
escaped and between quotes of either kind.  Reading the printed text gives the same list back,
because a word ends at the white space behind it and nowhere before, and an escaped text closes none
of the two quotes.  Nothing else can be read: the words of any text are names or runs of symbols, so
whatever a text yields can be printed.
-/

namespace RecordQuery

open Text

/-! ## Spans in front of white space -/

theorem isBlank_blank : ∀ c ∈ " ".toList, isBlank c = true := List.all_eq_true.mp (by decide)

/-- White space is no digit. -/
theorem isDigit_of_isBlank {c : Char} (h : isBlank c = true) : isDigit c = false := by
  cases hd : isDigit c with
  | false => rfl
  | true => rw [isBlank_of_isDigit hd] at h; cases h

/-- White space is no symbol. -/
theorem isSymbol_of_isBlank {c : Char} (h : isBlank c = true) : isSymbol c = false := by
  simp [isSymbol, h]

/-- White space is no point. -/
theorem ne_point_of_isBlank {c : Char} (h : isBlank c = true) : c ≠ '.' := by
  rintro rfl
  exact absurd h (by decide)

/-- White space behind a text does not lengthen its spans. -/
theorem Spells.append {s rest more : List Char} {t : Token} (h : Spells s t rest)
    (hmore : ∀ c ∈ more.head?, isBlank c = true) : Spells s t (rest ++ more) := by
  cases h with
  | name hname hrest =>
      refine .name hname (forall_head?_append hrest ?_)
      intro c hc
      exact ⟨isLetter_of_isBlank (hmore c hc), isDigit_of_isBlank (hmore c hc)⟩
  | symbols hsymbols hrest =>
      refine .symbols hsymbols (forall_head?_append hrest ?_)
      intro c hc
      exact isSymbol_of_isBlank (hmore c hc)
  | number hnumber hrest =>
      refine .number hnumber (forall_head?_append hrest ?_)
      intro c hc
      exact ⟨isDigit_of_isBlank (hmore c hc), isLetter_of_isBlank (hmore c hc),
        ne_point_of_isBlank (hmore c hc)⟩
  | quoted hquote hbody => exact .quoted hquote hbody

/-! ## Words -/

/-- A name or a run of symbols. -/
def IsWord (s : List Char) : Prop := IsName s ∨ IsSymbolRun s

instance : DecidablePred IsWord := fun _ => inferInstanceAs (Decidable (_ ∨ _))

/-- A word stands for itself at the end of a text. -/
theorem spells_word {s : String} (h : IsWord s.toList) : Spells s.toList (.word s) [] := by
  have hend {p : Char → Prop} : ∀ c ∈ ([] : List Char).head?, p c := by
    intro c hc
    cases hc
  have hspells : Spells s.toList (.word (String.ofList s.toList)) [] := by
    rcases h with hname | hsymbols
    · exact .name hname hend
    · exact .symbols hsymbols hend
  rwa [String.ofList_toList] at hspells

/-- Only a word makes a token that is one, and it makes itself. -/
theorem Spells.eq_toList {s rest : List Char} {w : String} (h : Spells s (.word w) rest) :
    s = w.toList ∧ IsWord s := by
  cases h with
  | name hname _ => exact ⟨String.toList_ofList.symm, .inl hname⟩
  | symbols hsymbols _ => exact ⟨String.toList_ofList.symm, .inr hsymbols⟩

/-- There is no white space in a word. -/
theorem IsWord.isBlank {s : List Char} (h : IsWord s) : ∀ c ∈ s, isBlank c = false := by
  intro c hc
  rcases h with ⟨d, ds, rfl, hd, hds⟩ | ⟨-, hall⟩
  · rcases List.mem_cons.mp hc with rfl | hc
    · exact isBlank_of_isLetter hd
    · rcases hds c hc with hletter | hdigit
      · exact isBlank_of_isLetter hletter
      · exact isBlank_of_isDigit hdigit
  · exact (isSymbol_iff.mp (hall c hc)).1

/-! ## Faults farther behind -/

/-- The fault, if `n` more characters stand in front of the text. -/
def LexError.shift (n : Nat) : LexError → LexError
  | unterminatedQuote quote position => unterminatedQuote quote (n + position)
  | invalidEscape character position => invalidEscape character (n + position)
  | multipleDecimalPoints position => multipleDecimalPoints (n + position)
  | letterInNumber character position => letterInNumber character (n + position)

theorem Malformed.shift {position : Nat} {text : List Char} {e : LexError}
    (h : Malformed position text e) (n : Nat) : Malformed (n + position) text (e.shift n) := by
  cases h with
  | @secondPoint s rest hs hpoint =>
      have h : Malformed (n + position) (s ++ '.' :: rest) _ := .secondPoint hs hpoint
      simpa [LexError.shift, Nat.add_assoc] using h
  | @letter s rest c hs hc =>
      have h : Malformed (n + position) (s ++ c :: rest) _ := .letter hs hc
      simpa [LexError.shift, Nat.add_assoc] using h
  | @noEscape quote c source value rest hquote hbody hnone =>
      have h : Malformed (n + position) (quote :: source ++ '\\' :: c :: rest) _ :=
        .noEscape hquote hbody hnone
      simpa [LexError.shift, Nat.add_assoc] using h
  | unclosed hquote hbody htail => exact .unclosed hquote hbody htail

/-- More characters in front of a text move its fault and nothing else. -/
theorem Lexes.shift {position : Nat} {text : List Char} {tokens : List Token}
    {failure : Option LexError} (h : Lexes position text tokens failure) (n : Nat) :
    Lexes (n + position) text tokens (failure.map (·.shift n)) := by
  induction h with
  | ended hgap => exact .ended hgap
  | fault hgap hbad =>
      refine .fault hgap ?_
      rw [Nat.add_assoc]
      exact hbad.shift n
  | token hgap hspan _ ih =>
      refine .token hgap hspan ?_
      rw [Nat.add_assoc, Nat.add_assoc, ← Nat.add_assoc _ _ (List.length _)]
      exact ih

/-! ## Texts with white space between them -/

/-- **The tokens of two texts with white space between them** are those of the one and then those of
the other. -/
theorem Lexes.append {position : Nat} {text gap rest : List Char} {tokens further : List Token}
    {failure : Option LexError} (h : Lexes position text tokens none) (hne : gap ≠ [])
    (hgap : ∀ c ∈ gap, isBlank c = true)
    (hrest : Lexes (position + text.length + gap.length) rest further failure) :
    Lexes position (text ++ (gap ++ rest)) (tokens ++ further) failure := by
  have hhead : ∀ c ∈ (gap ++ rest).head?, isBlank c = true := by
    obtain ⟨d, ds, rfl⟩ := List.exists_cons_of_ne_nil hne
    intro c hc
    exact hgap c (List.mem_of_mem_head? hc)
  -- The first text has no fault, so its last part is white space, which the gap goes on with.
  generalize hnone : (none : Option LexError) = first at h
  induction h with
  | ended hinner => exact gap_append hinner (gap_append hgap hrest)
  | fault _ _ => cases hnone
  | @token position inner s behind t tokens _ hinner hspan _ ih =>
      have hlength : position + (inner ++ s ++ behind).length + gap.length =
          position + inner.length + s.length + behind.length + gap.length := by
        simp [Nat.add_assoc]
      rw [hlength] at hrest
      rw [List.append_assoc (inner ++ s), List.cons_append]
      exact .token hinner (hspan.append hhead) (ih hrest hnone)

/-- What is read of a text is what the rules say of it. -/
theorem Lexed.ofText_eq_iff {s : String} {tokens : List Token} {failure : Option LexError} :
    Lexed.ofText s = ⟨tokens, failure⟩ ↔ Lexes 0 s.toList tokens failure := by
  constructor
  · intro h
    have hread := lexes_tokens (Cursor.ofText s)
    rw [show (Cursor.ofText s).tokens = ⟨tokens, failure⟩ from h] at hread
    exact hread
  · exact Lexes.tokens_eq

/-- A text that is one span is read as one token. -/
theorem Lexed.ofText_span {s : String} {t : Token} (h : Spells s.toList t []) :
    Lexed.ofText s = ⟨[t], none⟩ := by
  rw [ofText_eq_iff]
  have hnothing : ∀ c ∈ ([] : List Char), isBlank c = true := by simp
  simpa using Lexes.token hnothing h (.ended hnothing)

/-- A word is read as one token. -/
theorem Lexed.ofText_word {s : String} (h : IsWord s.toList) :
    Lexed.ofText s = ⟨[.word s], none⟩ :=
  ofText_span (spells_word h)

/-- **White space keeps texts apart**: behind a text without a fault and white space, a text has the
tokens and the fault that it has on its own. -/
theorem Lexed.ofText_append {a gap b : String} {tokens further : List Token}
    {failure : Option LexError} (ha : Lexed.ofText a = ⟨tokens, none⟩) (hne : gap.toList ≠ [])
    (hgap : ∀ c ∈ gap.toList, isBlank c = true) (hb : Lexed.ofText b = ⟨further, failure⟩) :
    Lexed.ofText (a ++ gap ++ b) =
      ⟨tokens ++ further, failure.map (·.shift (a ++ gap).length)⟩ := by
  rw [ofText_eq_iff] at ha hb ⊢
  have hlength : (a ++ gap).length + 0 = 0 + a.toList.length + gap.toList.length := by
    simp [String.length_toList]
  have hbehind := hb.shift (a ++ gap).length
  rw [hlength] at hbehind
  simpa using ha.append hne hgap hbehind

/-- A word between two texts without faults, with white space around it. -/
theorem Lexed.ofText_word_between {a w b : String} {tokens further : List Token}
    (ha : Lexed.ofText a = ⟨tokens, none⟩) (hw : IsWord w.toList)
    (hb : Lexed.ofText b = ⟨further, none⟩) :
    Lexed.ofText (a ++ (" " ++ w ++ " ") ++ b) = ⟨tokens ++ .word w :: further, none⟩ := by
  have hne : " ".toList ≠ [] := by decide
  have hbehind := ofText_append (ofText_word hw) hne isBlank_blank hb
  have htext := ofText_append ha hne isBlank_blank hbehind
  simpa [String.append_assoc] using htext

/-! ## Items of texts with white space between them -/

/-- An item, if `n` more characters stand in front of the text. -/
def shiftItem (n : Nat) : Except LexError Token → Except LexError Token :=
  Except.mapError (·.shift n)

/-- Tokens in front of a text stand in front of its items, and a fault moves with the text. -/
theorem Lexed.items_behind (tokens : List Token) (lexed : Lexed) (n : Nat) :
    (⟨tokens ++ lexed.tokens, lexed.failure.map (·.shift n)⟩ : Lexed).items =
      tokens.map .ok ++ lexed.items.map (shiftItem n) := by
  obtain ⟨further, failure⟩ := lexed
  have htokens : (further.map .ok).map (shiftItem n) = further.map .ok := by
    rw [List.map_map]
    exact List.map_congr_left fun t _ => rfl
  have hfailure : (failure.map (·.shift n)).toList.map .error =
      (failure.toList.map .error).map (shiftItem n) := by
    cases failure with
    | none => rfl
    | some e => rfl
  simp only [items, List.map_append, htokens, hfailure, List.append_assoc]

/-- **A lexer goes on behind white space as if the text began there.**  Behind a text without a
fault and white space, a lexer gives the items of the first text, and then those of the second with
a fault counted from the start of the whole. -/
theorem lexer_append {a gap : String} (ha : (Lexed.ofText a).failure = none) (hne : gap ≠ "")
    (hgap : ∀ c ∈ gap.toList, isBlank c = true) (b : String) :
    Lexed.ofText (a ++ gap ++ b) = ⟨(Lexed.ofText a).tokens ++ (Lexed.ofText b).tokens,
      (Lexed.ofText b).failure.map (·.shift (a ++ gap).length)⟩ ∧
    ∀ n, (Lexer.ofText (a ++ gap ++ b)).item n =
      if n < (Lexed.ofText a).tokens.length then (Lexer.ofText a).item n
      else ((Lexer.ofText b).item (n - (Lexed.ofText a).tokens.length)).map
        (shiftItem (a ++ gap).length) := by
  have htokens : Lexed.ofText a = ⟨(Lexed.ofText a).tokens, none⟩ := by rw [← ha]
  have htext := Lexed.ofText_append htokens (by simpa using hne) hgap rfl (b := b)
  have hfirst : (Lexed.ofText a).items = (Lexed.ofText a).tokens.map .ok := by
    rw [Lexed.items, ha]
    exact List.append_nil _
  refine ⟨htext, fun n => ?_⟩
  have hwhole : (Lexer.ofText (a ++ gap ++ b)).item n = (Lexed.ofText (a ++ gap ++ b)).items[n]? :=
    Lexer.item_eq _ n
  rw [hwhole, htext, Lexed.items_behind, ← hfirst]
  by_cases hn : n < (Lexed.ofText a).tokens.length
  · have hlength : n < (Lexed.ofText a).items.length := by rwa [hfirst, List.length_map]
    rw [if_pos hn, List.getElem?_append_left hlength]
    exact (Lexer.item_eq _ n).symm
  · have hlength : (Lexed.ofText a).items.length ≤ n := by
      rw [hfirst, List.length_map]
      omega
    rw [if_neg hn, List.getElem?_append_right hlength, List.getElem?_map, hfirst, List.length_map]
    exact congrArg _ (Lexer.item_eq _ _).symm

/-- The second point of a number stands nine characters behind the white space, and 22 behind the
start. -/
theorem lexer_append_shelf :
    (Lexed.ofText "rating >= 5").failure = none ∧
    Lexed.ofText "shelf 1.2.3" = ⟨[.word "shelf"], some (.multipleDecimalPoints 9)⟩ ∧
    Lexed.ofText "rating >= 5 \tshelf 1.2.3" =
      ⟨[.word "rating", .word ">=", .literal "5", .word "shelf"],
        some (.multipleDecimalPoints 22)⟩ ∧
    (Lexer.ofText "rating >= 5 \tshelf 1.2.3").item 4 =
      some (.error (.multipleDecimalPoints 22)) := by
  have hrating : Lexed.ofText "rating >= 5" =
      ⟨[.word "rating", .word ">=", .literal "5"], none⟩ := by decide +kernel
  have hshelf : Lexed.ofText "shelf 1.2.3" =
      ⟨[.word "shelf"], some (.multipleDecimalPoints 9)⟩ := by decide +kernel
  have hitem : (Lexer.ofText "shelf 1.2.3").item 1 = (Lexed.ofText "shelf 1.2.3").items[1]? :=
    Lexer.item_eq _ 1
  have hne : " \t" ≠ "" := by decide
  have hblank : ∀ c ∈ " \t".toList, isBlank c = true := List.all_eq_true.mp (by decide)
  have hwhole := lexer_append (congrArg Lexed.failure hrating) hne hblank "shelf 1.2.3"
  rw [show "rating >= 5" ++ " \t" ++ "shelf 1.2.3" = "rating >= 5 \tshelf 1.2.3" by decide, hrating,
    hshelf] at hwhole
  refine ⟨congrArg Lexed.failure hrating, hshelf, hwhole.1, ?_⟩
  rw [hwhole.2 4, if_neg (by decide)]
  show ((Lexer.ofText "shelf 1.2.3").item 1).map (shiftItem 13) = _
  rw [hitem, hshelf]
  rfl

/-! ## Tokens that can be printed -/

namespace Token

/-- A literal may be any text, and a word is a name or a run of symbols. -/
def WellFormed : Token → Prop
  | word s => IsWord s.toList
  | literal _ => True

instance : DecidablePred WellFormed
  | word _ => inferInstanceAs (Decidable (IsWord _))
  | literal _ => isTrue trivial

end Token

/-- A span makes a token that can be printed. -/
theorem Spells.wellFormed {s rest : List Char} {t : Token} (h : Spells s t rest) :
    t.WellFormed := by
  cases t with
  | word w =>
      obtain ⟨rfl, hword⟩ := h.eq_toList
      exact hword
  | literal v => trivial

/-- So do all spans of a text, also those in front of a fault. -/
theorem Lexes.wellFormed {position : Nat} {text : List Char} {tokens : List Token}
    {failure : Option LexError} (h : Lexes position text tokens failure) :
    ∀ t ∈ tokens, t.WellFormed := by
  induction h with
  | ended _ => exact List.forall_mem_nil _
  | fault _ _ => exact List.forall_mem_nil _
  | token _ hspan _ ih => exact List.forall_mem_cons.mpr ⟨hspan.wellFormed, ih⟩

/-! ## Printing -/

/-- The escaped form of a text stands between quotes of either kind for the text. -/
theorem quotedBody_escapeChars {quote : Char} (hquote : isQuote quote = true) (cs : List Char) :
    QuotedBody quote (Token.escapeChars cs) cs := by
  induction cs with
  | nil => exact .nil
  | cons c cs ih =>
      rw [Token.escapeChars, List.flatMap_cons, Token.escapeChar]
      cases hletter : Token.escapeLetter? c with
      | some letter =>
          exact .escaped (escape_iff.mpr (Token.unescape_escapeLetter hletter)) ih
      | none =>
          -- A quote or a backslash has an escaped form.
          have hplain : c ≠ quote := by
            rintro rfl
            rcases isQuote_iff.mp hquote with rfl | rfl
            · cases hletter
            · cases hletter
          have hback : c ≠ '\\' := by
            rintro rfl
            cases hletter
          exact .plain hplain hback ih

/-- A token as it is printed. -/
structure PrintedToken where
  token : Token
  /-- The quote on either side if the token is a literal. -/
  quote : Char
  /-- The white space behind the token if another one follows. -/
  gap : String
  wellFormed : token.WellFormed
  isQuote_quote : isQuote quote = true
  gap_ne : gap ≠ ""
  isBlank_gap : ∀ c ∈ gap.toList, isBlank c = true

/-- The text of a token. -/
def PrintedToken.text (p : PrintedToken) : String :=
  match p.token with
  | .word s => s
  | .literal s => p.quote.toString ++ Token.escape s ++ p.quote.toString

/-- The text of a list of tokens. -/
def printTokens : List PrintedToken → String
  | [] => ""
  | [p] => p.text
  | p :: q :: ps => p.text ++ p.gap ++ printTokens (q :: ps)

example : printTokens [⟨.word "title", '\'', " ", by decide, rfl, by decide, isBlank_blank⟩,
    ⟨.word "=", '"', " ", by decide, rfl, by decide, isBlank_blank⟩,
    ⟨.literal "Ain't", '"', " ", by decide, rfl, by decide, isBlank_blank⟩] =
      "title = \"Ain\\'t\"" := by
  decide

/-- A printed token is its own span. -/
theorem PrintedToken.spells (p : PrintedToken) : Spells p.text.toList p.token [] := by
  obtain ⟨token, quote, gap, hwellFormed, hquote, -, -⟩ := p
  cases token with
  | word s => exact spells_word hwellFormed
  | literal s =>
      have hspan : Spells (quote :: Token.escapeChars s.toList ++ [quote])
          (.literal (String.ofList s.toList)) [] :=
        .quoted hquote (quotedBody_escapeChars hquote s.toList)
      rw [String.ofList_toList] at hspan
      simpa [text, Token.escape, Char.toString] using hspan

/-- **A printed list of tokens is read back.** -/
theorem Lexed.ofText_printTokens (ps : List PrintedToken) :
    Lexed.ofText (printTokens ps) = ⟨ps.map (·.token), none⟩ := by
  induction ps with
  | nil => exact ofText_eq_iff.mpr (.ended (List.forall_mem_nil _))
  | cons p ps ih =>
      have hfirst := ofText_span p.spells
      cases ps with
      | nil => exact hfirst
      | cons q ps =>
          have hne : p.gap.toList ≠ [] := by simpa using p.gap_ne
          exact ofText_append hfirst hne p.isBlank_gap ih

/-- **The lists that can be read are those that can be printed.** -/
theorem exists_ofText_iff {tokens : List Token} :
    (∃ s, Lexed.ofText s = ⟨tokens, none⟩) ↔ ∀ t ∈ tokens, t.WellFormed := by
  constructor
  · intro h
    obtain ⟨s, hs⟩ := h
    exact (Lexed.ofText_eq_iff.mp hs).wellFormed
  · intro h
    -- Any quotes and any white space will do.
    let printed (t : Token) (ht : t.WellFormed) : PrintedToken :=
      ⟨t, '\'', " ", ht, rfl, by decide, isBlank_blank⟩
    refine ⟨printTokens (tokens.pmap printed h), ?_⟩
    rw [Lexed.ofText_printTokens, List.map_pmap]
    simp [printed]

/-- **Tokens are read back from their text, and only tokens that have a text are read.**  A lexer
gives back the tokens that were printed and nothing else, and all tokens that a text yields can be
printed. -/
theorem tokens_read_back :
    (∀ ps : List PrintedToken, Lexed.ofText (printTokens ps) = ⟨ps.map (·.token), none⟩ ∧
      ∀ n, (Lexer.ofText (printTokens ps)).item n = ps[n]?.map fun p => .ok p.token) ∧
    ∀ s, ∀ t ∈ (Lexed.ofText s).tokens, t.WellFormed := by
  refine ⟨fun ps => ⟨Lexed.ofText_printTokens ps, fun n => ?_⟩, fun s => ?_⟩
  · have hitem : (Lexer.ofText (printTokens ps)).item n =
        (Lexed.ofText (printTokens ps)).items[n]? := Lexer.item_eq _ n
    rw [hitem, Lexed.ofText_printTokens, Lexed.items]
    simp [Function.comp_def]
  · exact (lexes_tokens (Cursor.ofText s)).wellFormed

end RecordQuery
