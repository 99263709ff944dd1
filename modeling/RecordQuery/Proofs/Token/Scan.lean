import RecordQuery.Proofs.Reading
import RecordQuery.Token

/-!
# Scanners and the spans of tokens

The rules for tokens, said without the scanners that read them.  A token takes up a span of the
text.  Names, runs of symbols and numbers are taken as long as possible, so the rule for a span
also looks at the first character behind it; a quoted literal ends by itself.  Where no rule gives
a span, one of four faults does, and its place is counted from the start of the whole text.

Each scanner reads the span that the rules give.  The scanners for quoted literals and numbers
keep a state, so what is proved of them first is how they pass a piece of text: they add its value
to whatever they make of the rest.  Apart from the scanners, every text that does not begin with
white space begins with a span or with a fault; hence the scanners can do nothing else.
-/

namespace RecordQuery

open Text

/-! ## The spans of tokens -/

/-- `Escape letter c` says that a backslash and `letter` stand for `c` inside quotes. -/
inductive Escape : Char → Char → Prop
  | lineFeed : Escape 'n' '\n'
  | tab : Escape 't' '\t'
  | apostrophe : Escape '\'' '\''
  | quotation : Escape '"' '"'
  | backslash : Escape '\\' '\\'

/-- `QuotedBody quote source value` says that `source` may stand behind an opening `quote` without
closing it, and that its value is `value`: escapes are decoded and all else is kept. -/
inductive QuotedBody (quote : Char) : List Char → List Char → Prop
  | nil : QuotedBody quote [] []
  | plain {c : Char} {source value : List Char} : c ≠ quote → c ≠ '\\' →
      QuotedBody quote source value → QuotedBody quote (c :: source) (c :: value)
  | escaped {letter c : Char} {source value : List Char} : Escape letter c →
      QuotedBody quote source value → QuotedBody quote ('\\' :: letter :: source) (c :: value)

/-- A letter followed by letters and ASCII digits. -/
def IsName (s : List Char) : Prop :=
  ∃ c cs, s = c :: cs ∧ isLetter c = true ∧ ∀ d ∈ cs, isLetter d = true ∨ isDigit d = true

theorem isName_cons {c : Char} {cs : List Char} : IsName (c :: cs) ↔
    isLetter c = true ∧ ∀ d ∈ cs, isLetter d = true ∨ isDigit d = true := by
  constructor
  · rintro ⟨_, _, heq, h⟩
    obtain ⟨rfl, rfl⟩ := List.cons.inj heq
    exact h
  · intro h
    exact ⟨c, cs, rfl, h⟩

instance : DecidablePred IsName
  | [] => isFalse fun ⟨_, _, heq, _⟩ => by cases heq
  | c :: cs =>
    decidable_of_iff (isLetter c = true ∧ (cs.all fun d => isLetter d || isDigit d) = true) (by
      simp [isName_cons])

/-- A non-empty run of symbols. -/
def IsSymbolRun (s : List Char) : Prop := s ≠ [] ∧ ∀ c ∈ s, isSymbol c = true

instance : DecidablePred IsSymbolRun := fun s =>
  decidable_of_iff (s ≠ [] ∧ s.all isSymbol = true) (by simp [IsSymbolRun])

/-- A run of ASCII digits with at most one point, which does not come first. -/
def IsNumeral (s : List Char) : Prop :=
  ∃ c cs, s = c :: cs ∧ isDigit c = true ∧ (∀ d ∈ cs, isDigit d = true ∨ d = '.') ∧
    cs.count '.' ≤ 1

/-- `Spells s t rest` says that the span `s` makes the token `t` if `rest` follows it. -/
inductive Spells : List Char → Token → List Char → Prop
  | name {s rest : List Char} : IsName s →
      (∀ c ∈ rest.head?, isLetter c = false ∧ isDigit c = false) →
      Spells s (.word (String.ofList s)) rest
  | symbols {s rest : List Char} : IsSymbolRun s → (∀ c ∈ rest.head?, isSymbol c = false) →
      Spells s (.word (String.ofList s)) rest
  | number {s rest : List Char} : IsNumeral s →
      (∀ c ∈ rest.head?, isDigit c = false ∧ isLetter c = false ∧ c ≠ '.') →
      Spells s (.literal (String.ofList s)) rest
  | quoted {quote : Char} {source value rest : List Char} : isQuote quote = true →
      QuotedBody quote source value →
      Spells (quote :: source ++ [quote]) (.literal (String.ofList value)) rest

/-! ## Faults -/

/-- `Malformed position text e` says that `text`, which has `position` characters before it, does
not begin with a token, and that `e` is the fault. -/
inductive Malformed (position : Nat) : List Char → LexError → Prop
  | secondPoint {s rest : List Char} : IsNumeral s → '.' ∈ s →
      Malformed position (s ++ '.' :: rest) (.multipleDecimalPoints (position + s.length))
  | letter {s rest : List Char} {c : Char} : IsNumeral s → isLetter c = true →
      Malformed position (s ++ c :: rest) (.letterInNumber c (position + s.length))
  | noEscape {quote c : Char} {source value rest : List Char} : isQuote quote = true →
      QuotedBody quote source value → (∀ d, ¬ Escape c d) →
      Malformed position (quote :: source ++ '\\' :: c :: rest)
        (.invalidEscape c (position + (quote :: source ++ ['\\']).length))
  | unclosed {quote : Char} {source value tail : List Char} : isQuote quote = true →
      QuotedBody quote source value → tail = [] ∨ tail = ['\\'] →
      Malformed position (quote :: source ++ tail) (.unterminatedQuote quote position)

/-! ## Whole texts -/

/-- `Lexes position text tokens failure` says that `text`, which has `position` characters before
it, consists of the spans of `tokens` with white space before and between them, and then of white
space up to its end or of white space and the fault `failure`. -/
inductive Lexes : Nat → List Char → List Token → Option LexError → Prop
  | ended {position : Nat} {gap : List Char} : (∀ c ∈ gap, isBlank c = true) →
      Lexes position gap [] none
  | fault {position : Nat} {gap text : List Char} {e : LexError} :
      (∀ c ∈ gap, isBlank c = true) → Malformed (position + gap.length) text e →
      Lexes position (gap ++ text) [] (some e)
  | token {position : Nat} {gap s rest : List Char} {t : Token} {tokens : List Token}
      {failure : Option LexError} : (∀ c ∈ gap, isBlank c = true) → Spells s t rest →
      Lexes (position + gap.length + s.length) rest tokens failure →
      Lexes position (gap ++ s ++ rest) (t :: tokens) failure

/-- White space in front of a text does not change its tokens. -/
theorem Lexes.gap_append {position : Nat} {gap text : List Char} {tokens : List Token}
    {failure : Option LexError} (hgap : ∀ c ∈ gap, isBlank c = true)
    (h : Lexes (position + gap.length) text tokens failure) :
    Lexes position (gap ++ text) tokens failure := by
  have happ {inner : List Char} (hinner : ∀ c ∈ inner, isBlank c = true) :
      ∀ c ∈ gap ++ inner, isBlank c = true := by
    intro c hc
    rcases List.mem_append.mp hc with hc | hc
    · exact hgap c hc
    · exact hinner c hc
  cases h with
  | ended hinner => exact .ended (happ hinner)
  | @fault _ inner text _ hinner hbad =>
      rw [← List.append_assoc]
      exact .fault (happ hinner) (by simpa [Nat.add_assoc] using hbad)
  | @token _ inner s rest _ _ _ hinner hspan hrest =>
      rw [show gap ++ (inner ++ s ++ rest) = gap ++ inner ++ s ++ rest by simp]
      exact .token (happ hinner) hspan (by simpa [Nat.add_assoc] using hrest)

/-! ## Outcomes of scanners -/

namespace Scan

@[simp] theorem map_ok {α β : Type} (f : α → β) (a : α) (cursor : Cursor) :
    Scan.map f ⟨.ok a, cursor⟩ = ⟨.ok (f a), cursor⟩ := rfl

@[simp] theorem map_error {α β : Type} (f : α → β) (e : LexError) (cursor : Cursor) :
    Scan.map f ⟨.error e, cursor⟩ = ⟨.error e, cursor⟩ := rfl

@[simp] theorem map_map {α β γ : Type} (f : α → β) (g : β → γ) (s : Scan α) :
    (s.map f).map g = s.map fun a => g (f a) := by
  obtain ⟨result, cursor⟩ := s
  cases result <;> rfl

@[simp] theorem map_id {α : Type} (s : Scan α) : (s.map fun a => a) = s := by
  obtain ⟨result, cursor⟩ := s
  cases result <;> rfl

end Scan

/-! ## Quoted literals -/

/-- The escapes are those that the reader of literals knows. -/
theorem escape_iff {letter c : Char} : Escape letter c ↔ Token.unescape? letter = some c := by
  constructor
  · rintro (_ | _ | _ | _ | _) <;> decide
  · intro h
    unfold Token.unescape? at h
    split at h
    · rename_i hself
      cases h
      rcases hself with rfl | rfl | rfl
      · exact .backslash
      · exact .apostrophe
      · exact .quotation
    · split at h
      · rename_i hn
        cases h
        exact hn ▸ .lineFeed
      · split at h
        · rename_i ht
          cases h
          exact ht ▸ .tab
        · cases h

/-- A character without an escape is none that the reader of literals knows. -/
theorem no_escape_iff {c : Char} : (∀ d, ¬ Escape c d) ↔ Token.unescape? c = none := by
  simp only [escape_iff, Option.eq_none_iff_forall_ne_some, ne_eq]

theorem quotedBody_quote (quote : Char) (opened position : Nat) (cs : List Char) :
    quotedBody quote opened position (quote :: cs) = ⟨.ok [], position + 1, cs⟩ := by
  cases cs <;> simp [quotedBody]

theorem quotedBody_plain {quote c : Char} (hc : c ≠ quote) (hback : c ≠ '\\')
    (opened position : Nat) (cs : List Char) :
    quotedBody quote opened position (c :: cs) =
      (quotedBody quote opened (position + 1) cs).map (c :: ·) := by
  cases cs <;> simp [quotedBody, hc, hback]

/-- The scanner of literals passes a body and puts its value in front of the rest. -/
theorem quotedBody_append {quote : Char} {source value : List Char} (hquote : quote ≠ '\\')
    (h : QuotedBody quote source value) (opened position : Nat) (tail : List Char) :
    quotedBody quote opened position (source ++ tail) =
      (quotedBody quote opened (position + source.length) tail).map (value ++ ·) := by
  induction h generalizing position with
  | nil => simp
  | @plain c source value hc hback _ ih =>
      rw [List.cons_append, quotedBody_plain hc hback, ih]
      simp [Nat.add_assoc, Nat.add_comm 1]
  | @escaped letter c source value hletter _ ih =>
      rw [List.cons_append, List.cons_append, quotedBody, if_neg hquote.symm, if_pos rfl]
      simp only [escape_iff.mp hletter, ih]
      simp [Nat.add_assoc, Nat.add_comm 2]

/-- Every text is a body up to its closing quote, up to a backslash without an escape, or up to
its end. -/
theorem exists_quotedBody (quote : Char) (cs : List Char) :
    ∃ source value tail, cs = source ++ tail ∧ QuotedBody quote source value ∧
      ((∃ rest, tail = quote :: rest) ∨
        (∃ c rest, tail = '\\' :: c :: rest ∧ ∀ d, ¬ Escape c d) ∨ tail = [] ∨ tail = ['\\']) := by
  -- An escape takes up two characters, so the induction is on the length.
  induction hn : cs.length using Nat.strongRecOn generalizing cs with
  | _ n ih =>
    subst hn
    match cs with
    | [] => exact ⟨[], [], [], rfl, .nil, .inr (.inr (.inl rfl))⟩
    | c :: cs =>
        by_cases hc : c = quote
        · exact ⟨[], [], c :: cs, rfl, .nil, .inl ⟨cs, by rw [hc]⟩⟩
        by_cases hback : c = '\\'
        · subst hback
          match cs with
          | [] => exact ⟨[], [], ['\\'], rfl, .nil, .inr (.inr (.inr rfl))⟩
          | letter :: cs =>
              cases hletter : Token.unescape? letter with
              | none =>
                  exact ⟨[], [], _, rfl, .nil,
                    .inr (.inl ⟨letter, cs, rfl, no_escape_iff.mpr hletter⟩)⟩
              | some d =>
                  obtain ⟨source, value, tail, rfl, hbody, htail⟩ :=
                    ih cs.length (by simp only [List.length_cons]; omega) cs rfl
                  exact ⟨'\\' :: letter :: source, d :: value, tail, rfl,
                    .escaped (escape_iff.mpr hletter) hbody, htail⟩
        · obtain ⟨source, value, tail, rfl, hbody, htail⟩ := ih cs.length (by simp) cs rfl
          exact ⟨c :: source, c :: value, tail, rfl, .plain hc hback hbody, htail⟩

/-! ## Numbers -/

/-- A run of digits with at most one point, counting a point that was seen before it. -/
def IsNumeralTail (seenPoint : Bool) (cs : List Char) : Prop :=
  (∀ d ∈ cs, isDigit d = true ∨ d = '.') ∧ cs.count '.' + seenPoint.toNat ≤ 1

/-- A number is a digit and what may stand behind it. -/
theorem isNumeral_cons {c : Char} {cs : List Char} :
    IsNumeral (c :: cs) ↔ isDigit c = true ∧ IsNumeralTail false cs := by
  constructor
  · rintro ⟨d, ds, heq, hd, hds⟩
    cases heq
    exact ⟨hd, by simpa [IsNumeralTail] using hds⟩
  · rintro ⟨hc, hcs⟩
    exact ⟨c, cs, rfl, hc, by simpa [IsNumeralTail] using hcs⟩

/-- A digit in front of a run takes no point. -/
theorem isNumeralTail_digit {seenPoint : Bool} {c : Char} {cs : List Char}
    (hc : isDigit c = true) :
    IsNumeralTail seenPoint (c :: cs) ↔ IsNumeralTail seenPoint cs := by
  have hne : c ≠ '.' := ne_point_of_isDigit hc
  simp [IsNumeralTail, hc, hne]

/-- A point in front of a run is its only one. -/
theorem isNumeralTail_point {seenPoint : Bool} {cs : List Char} :
    IsNumeralTail seenPoint ('.' :: cs) ↔ seenPoint = false ∧ IsNumeralTail true cs := by
  cases seenPoint <;> simp [IsNumeralTail]

/-- The scanner of numbers passes a run and puts it in front of the rest. -/
theorem numberTail_append {seenPoint : Bool} {run : List Char} (h : IsNumeralTail seenPoint run)
    (position : Nat) (rest : List Char) :
    numberTail seenPoint position (run ++ rest) =
      (numberTail (seenPoint || decide ('.' ∈ run)) (position + run.length) rest).map
        (run ++ ·) := by
  induction run generalizing seenPoint position with
  | nil => simp
  | cons c run ih =>
      by_cases hc : isDigit c = true
      · have hne : '.' ≠ c := by
          rintro rfl
          exact absurd hc (by decide)
        rw [List.cons_append, numberTail, if_pos hc, ih ((isNumeralTail_digit hc).mp h)]
        simp [hne, Nat.add_assoc, Nat.add_comm 1]
      · have hpoint : c = '.' := (h.1 c (by simp)).resolve_left hc
        subst hpoint
        obtain ⟨rfl, hrun⟩ := isNumeralTail_point.mp h
        rw [List.cons_append, numberTail, if_neg hc, if_pos rfl, if_neg (by simp), ih hrun]
        simp [Nat.add_assoc, Nat.add_comm 1]

/-- Every text begins with a run that ends at a second point, at a letter or at a character that
may follow a number. -/
theorem exists_numeralTail (seenPoint : Bool) (cs : List Char) :
    ∃ run rest, cs = run ++ rest ∧ IsNumeralTail seenPoint run ∧
      ((∀ c ∈ rest.head?, isDigit c = false ∧ isLetter c = false ∧ c ≠ '.') ∨
        (∃ rest', rest = '.' :: rest' ∧ (seenPoint || decide ('.' ∈ run)) = true) ∨
        ∃ c rest', rest = c :: rest' ∧ isLetter c = true) := by
  induction cs generalizing seenPoint with
  | nil => exact ⟨[], [], rfl, by cases seenPoint <;> simp [IsNumeralTail], .inl (by simp)⟩
  | cons c cs ih =>
      have hempty : IsNumeralTail seenPoint [] := by cases seenPoint <;> simp [IsNumeralTail]
      by_cases hc : isDigit c = true
      · obtain ⟨run, rest, rfl, hrun, hrest⟩ := ih seenPoint
        have hne : '.' ≠ c := (ne_point_of_isDigit hc).symm
        exact ⟨c :: run, rest, rfl, (isNumeralTail_digit hc).mpr hrun, by simpa [hne] using hrest⟩
      by_cases hpoint : c = '.'
      · subst hpoint
        cases seenPoint with
        | true => exact ⟨[], _, rfl, hempty, .inr (.inl ⟨cs, rfl, rfl⟩)⟩
        | false =>
            obtain ⟨run, rest, rfl, hrun, hrest⟩ := ih true
            exact ⟨'.' :: run, rest, rfl, isNumeralTail_point.mpr ⟨rfl, hrun⟩,
              by simpa using hrest⟩
      by_cases hletter : isLetter c = true
      · exact ⟨[], _, rfl, hempty, .inr (.inr ⟨c, cs, rfl, hletter⟩)⟩
      · exact ⟨[], _, rfl, hempty, .inl (by simp [hc, hletter, hpoint])⟩

/-! ## Runs -/

/-- A run that the next character does not continue is taken whole. -/
theorem runOf_append {p : Char → Bool} {run rest : List Char} (hrun : ∀ c ∈ run, p c = true)
    (hrest : ∀ c ∈ rest.head?, p c = false) (position : Nat) :
    runOf p position (run ++ rest) = ⟨.ok run, position + run.length, rest⟩ := by
  rw [runOf, takeWhile_run hrun hrest, dropWhile_run hrun hrest]

/-! ## Whole tokens -/

/-- A token that begins with a digit is scanned as a number, of which `cs` is passed. -/
theorem scanToken_digit {c : Char} {cs : List Char} (hc : isDigit c = true)
    (hcs : IsNumeralTail false cs) (position : Nat) (rest : List Char) :
    scanToken position c (cs ++ rest) =
      (numberTail (decide ('.' ∈ cs)) (position + 1 + cs.length) rest).map
        fun tail => .literal (String.ofList (c :: (cs ++ tail))) := by
  simp [scanToken, isQuote_of_isDigit hc, hc, numberTail_append hcs]

/-- A token that begins with a quote is scanned as a literal, of which `source` is passed. -/
theorem scanToken_quote {quote : Char} {source value : List Char} (hquote : isQuote quote = true)
    (hbody : QuotedBody quote source value) (position : Nat) (tail : List Char) :
    scanToken position quote (source ++ tail) =
      (quotedBody quote position (position + 1 + source.length) tail).map
        fun rest => .literal (String.ofList (value ++ rest)) := by
  simp [scanToken, hquote, quotedBody_append (ne_backslash_of_isQuote hquote) hbody]

/-- A span begins with a character that is not white space, and its scanner gives its token. -/
theorem scanToken_spells {s rest : List Char} {t : Token} (h : Spells s t rest) (position : Nat) :
    ∃ c cs, s ++ rest = c :: cs ∧ isBlank c = false ∧
      scanToken position c cs = ⟨.ok t, position + s.length, rest⟩ := by
  cases h with
  | name hname hrest =>
      obtain ⟨c, cs, rfl, hc, hcs⟩ := hname
      have htail : ∀ d ∈ cs, isNameChar d = true := by simpa [isNameChar] using hcs
      have hstop : ∀ d ∈ rest.head?, isNameChar d = false := by simpa [isNameChar] using hrest
      have hrun := runOf_append htail hstop (position + 1)
      refine ⟨c, cs ++ rest, rfl, isBlank_of_isLetter hc, ?_⟩
      simp [scanToken, isQuote_of_isLetter hc, isDigit_of_isLetter hc, hc, hrun,
        Nat.add_assoc, Nat.add_comm 1]
  | symbols hsymbols hrest =>
      obtain ⟨hne, hall⟩ := hsymbols
      obtain ⟨c, cs, rfl⟩ := List.exists_cons_of_ne_nil hne
      obtain ⟨hblank, hletter, hdigit, hquote⟩ := isSymbol_iff.mp (hall c (by simp))
      have htail : ∀ d ∈ cs, isSymbol d = true := fun d hd => hall d (by simp [hd])
      have hrun := runOf_append htail hrest (position + 1)
      refine ⟨c, cs ++ rest, rfl, hblank, ?_⟩
      simp [scanToken, hquote, hdigit, hletter, hrun, Nat.add_assoc, Nat.add_comm 1]
  | number hnumber hrest =>
      obtain ⟨c, cs, rfl, hc, hcs⟩ := hnumber
      have htail : IsNumeralTail false cs := (isNumeral_cons.mp ⟨c, cs, rfl, hc, hcs⟩).2
      have hstop (seenPoint : Bool) (p : Nat) :
          numberTail seenPoint p rest = ⟨.ok [], p, rest⟩ := by
        cases rest with
        | nil => rfl
        | cons d rest =>
            obtain ⟨hdigit, hletter, hpoint⟩ := hrest d rfl
            simp [numberTail, hdigit, hletter, hpoint]
      refine ⟨c, cs ++ rest, rfl, isBlank_of_isDigit hc, ?_⟩
      rw [scanToken_digit hc htail, hstop]
      simp [Nat.add_assoc, Nat.add_comm 1]
  | @quoted quote source value rest hquote hbody =>
      refine ⟨quote, source ++ [quote] ++ rest, by simp, isBlank_of_isQuote hquote, ?_⟩
      rw [List.append_assoc, scanToken_quote hquote hbody, List.singleton_append,
        quotedBody_quote]
      simp [Nat.add_assoc, Nat.add_comm 1]

/-- A fault begins with a character that is not white space, and the scanner reports it. -/
theorem scanToken_malformed {position : Nat} {text : List Char} {e : LexError}
    (h : Malformed position text e) :
    ∃ c cs, text = c :: cs ∧ isBlank c = false ∧ (scanToken position c cs).result = .error e := by
  cases h with
  | @secondPoint s rest hs hpoint =>
      obtain ⟨c, cs, rfl, hc, hcs⟩ := hs
      have htail := (isNumeral_cons.mp ⟨c, cs, rfl, hc, hcs⟩).2
      have hmem : '.' ∈ cs :=
        (List.mem_cons.mp hpoint).resolve_left (ne_point_of_isDigit hc).symm
      refine ⟨c, cs ++ '.' :: rest, rfl, isBlank_of_isDigit hc, ?_⟩
      rw [scanToken_digit hc htail]
      simp [numberTail, isDigit_point, hmem, Nat.add_assoc, Nat.add_comm 1]
  | @letter s rest d hs hd =>
      obtain ⟨c, cs, rfl, hc, hcs⟩ := hs
      have htail := (isNumeral_cons.mp ⟨c, cs, rfl, hc, hcs⟩).2
      have hne : d ≠ '.' := ne_point_of_isLetter hd
      refine ⟨c, cs ++ d :: rest, rfl, isBlank_of_isDigit hc, ?_⟩
      rw [scanToken_digit hc htail]
      simp [numberTail, isDigit_of_isLetter hd, hd, hne, Nat.add_assoc, Nat.add_comm 1]
  | @noEscape quote c source value rest hquote hbody hnone =>
      refine ⟨quote, source ++ '\\' :: c :: rest, rfl, isBlank_of_isQuote hquote, ?_⟩
      rw [scanToken_quote hquote hbody, quotedBody, if_neg (ne_backslash_of_isQuote hquote).symm,
        if_pos rfl]
      simp only [no_escape_iff.mp hnone]
      simp [Nat.add_assoc, Nat.add_comm 1]
  | @unclosed quote source value tail hquote hbody htail =>
      refine ⟨quote, source ++ tail, rfl, isBlank_of_isQuote hquote, ?_⟩
      rw [scanToken_quote hquote hbody]
      rcases htail with rfl | rfl
      · simp [quotedBody]
      · simp [quotedBody, (ne_backslash_of_isQuote hquote).symm]

/-- Every text that does not begin with white space begins with a span or with a fault. -/
theorem spells_or_malformed (position : Nat) {c : Char} (cs : List Char)
    (hc : isBlank c = false) :
    (∃ s t rest, c :: cs = s ++ rest ∧ Spells s t rest) ∨ ∃ e, Malformed position (c :: cs) e := by
  by_cases hquote : isQuote c = true
  · obtain ⟨source, value, tail, rfl, hbody, htail⟩ := exists_quotedBody c cs
    rcases htail with ⟨rest, rfl⟩ | ⟨d, rest, rfl, hd⟩ | htail
    · exact .inl ⟨_, _, rest, by simp, .quoted hquote hbody⟩
    · exact .inr ⟨_, .noEscape hquote hbody hd⟩
    · exact .inr ⟨_, .unclosed hquote hbody htail⟩
  by_cases hdigit : isDigit c = true
  · obtain ⟨run, rest, rfl, hrun, hrest⟩ := exists_numeralTail false cs
    have hnumeral : IsNumeral (c :: run) := isNumeral_cons.mpr ⟨hdigit, hrun⟩
    rcases hrest with hrest | ⟨rest', rfl, hpoint⟩ | ⟨d, rest', rfl, hd⟩
    · exact .inl ⟨c :: run, _, rest, rfl, .number hnumeral hrest⟩
    · exact .inr ⟨_, .secondPoint hnumeral (by simpa using Or.inr hpoint)⟩
    · exact .inr ⟨_, .letter hnumeral hd⟩
  by_cases hletter : isLetter c = true
  · obtain ⟨run, rest, rfl, hrun, hrest⟩ := exists_run isNameChar cs
    exact .inl ⟨c :: run, _, rest, rfl,
      .name ⟨c, run, rfl, hletter, by simpa [isNameChar] using hrun⟩
        (by simpa [isNameChar] using hrest)⟩
  · obtain ⟨run, rest, rfl, hrun, hrest⟩ := exists_run isSymbol cs
    have hsymbol : isSymbol c = true := by
      simp only [Bool.not_eq_true] at hquote hdigit hletter
      exact isSymbol_iff.mpr ⟨hc, hletter, hdigit, hquote⟩
    exact .inl ⟨c :: run, _, rest, rfl, .symbols ⟨by simp, by simpa [hsymbol] using hrun⟩ hrest⟩

end RecordQuery
