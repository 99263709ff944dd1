import RecordQuery.Text.Class

/-!
# Tokens

A query text is a sequence of tokens.  A token is either a literal, whose text is already unquoted,
or a word: a field name, an operator, a separator or a sort keyword.  Which of these a word is
depends on where it stands.

White space separates tokens and is otherwise skipped.  The first character of a token decides its
kind: a quote opens a quoted literal, an ASCII digit begins a number, a letter begins a name and
any other character begins a run of symbols.  Names go on with letters and ASCII digits, symbols
with symbols.  A number has at most one point and must not run into a letter.  Inside a quoted
literal five characters have an escaped form: the backslash, both quotes, the line feed and the tab.
A writer escapes all five; a reader takes the other quote as it is too.

Reading goes on from a cursor: the number of characters already passed and those still to come.  A
malformed token leaves the cursor at the character at fault, and any other one leaves fewer
characters to come.
-/

namespace RecordQuery

open Text

/-- A direction in which records are sorted. -/
inductive SortDirection where
  | ascending
  | descending
deriving DecidableEq

namespace SortDirection

/-- The keyword that asks for a direction. -/
def keyword : SortDirection → String
  | ascending => "orderby"
  | descending => "orderbydescending"

end SortDirection

/-- A token of a query text. -/
inductive Token where
  | word (text : String)
  | literal (text : String)
deriving DecidableEq

namespace Token

/-- The text of a token, for a literal what stands between its quotes. -/
def text : Token → String
  | word s => s
  | literal s => s

/-- Whether a token is a literal. -/
def isLiteral : Token → Bool
  | word _ => false
  | literal _ => true

/-- How a message shows a token: a literal between quotes, with nothing escaped. -/
def shown : Token → String
  | word s => s
  | literal s => "'" ++ s ++ "'"

/-- Whether a token is the separator of groups, the word `,`. -/
def isGroupSeparator (t : Token) : Bool := t = word ","

/-- Whether a token is the separator of the terms in a group, the word `&`. -/
def isTermSeparator (t : Token) : Bool := t = word "&"

/-- Whether two texts agree when ASCII capitals count as small letters. -/
def sameIgnoringAsciiCase (a b : String) : Bool :=
  a.toList.map Char.toLower = b.toList.map Char.toLower

/-- The direction that a sort keyword asks for; ASCII case does not matter. -/
def sortDirection? : Token → Option SortDirection
  | literal _ => none
  | word s =>
    if sameIgnoringAsciiCase s SortDirection.ascending.keyword then some .ascending
    else if sameIgnoringAsciiCase s SortDirection.descending.keyword then some .descending
    else none

/-- A literal is no sort keyword, whatever its text. -/
@[simp] theorem sortDirection?_literal (s : String) : (literal s).sortDirection? = none := rfl

/-! ## Quoted literals -/

/-- The letter behind the backslash in the escaped form of a character that has one. -/
def escapeLetter? (c : Char) : Option Char :=
  if c = '\\' ∨ c = '\'' ∨ c = '"' then some c
  else if c = '\n' then some 'n'
  else if c = '\t' then some 't'
  else none

/-- The character that an escape with the letter `c` stands for. -/
def unescape? (c : Char) : Option Char :=
  if c = '\\' ∨ c = '\'' ∨ c = '"' then some c
  else if c = 'n' then some '\n'
  else if c = 't' then some '\t'
  else none

/-- The letter of an escape stands for the character it was made from. -/
theorem unescape_escapeLetter {c letter : Char} (h : escapeLetter? c = some letter) :
    unescape? letter = some c := by
  unfold escapeLetter? at h
  split at h
  · rename_i hself
    cases h
    simp [unescape?, hself]
  · split at h
    · rename_i hc
      cases h
      subst hc
      decide
    · split at h
      · rename_i hc
        cases h
        subst hc
        decide
      · cases h

/-- The form of one character inside quotes. -/
def escapeChar (c : Char) : List Char :=
  match escapeLetter? c with
  | some letter => ['\\', letter]
  | none => [c]

/-- The form of a text inside quotes. -/
def escapeChars (cs : List Char) : List Char := cs.flatMap escapeChar

/-- The form of a text inside quotes. -/
def escape (s : String) : String := String.ofList (escapeChars s.toList)

end Token

/-! ## Faults and outcomes -/

/-- Why a text breaks off into no token; positions count characters from the start. -/
inductive LexError where
  /-- The quote opened at `position` is never closed. -/
  | unterminatedQuote (quote : Char) (position : Nat)
  | invalidEscape (character : Char) (position : Nat)
  | multipleDecimalPoints (position : Nat)
  | letterInNumber (character : Char) (position : Nat)
deriving DecidableEq

namespace LexError

/-- The wording of a fault. -/
def message : LexError → String
  | unterminatedQuote quote position =>
    "unterminated quote: missing closing " ++ quote.toString
      ++ " for the string opened at position " ++ toString position
  | invalidEscape character position =>
    "invalid escape character '" ++ character.toString ++ "' at position " ++ toString position
  | multipleDecimalPoints position =>
    "numbers cannot contain more than one decimal point (position " ++ toString position ++ ")"
  | letterInNumber character position =>
    "numbers cannot contain letters: '" ++ character.toString ++ "' at position "
      ++ toString position

end LexError

/-- A place in a text. -/
structure Cursor where
  /-- How many characters are passed. -/
  position : Nat
  rest : List Char
deriving DecidableEq

/-- What reading some characters gives, and where it stops. -/
structure Scan (α : Type) where
  result : Except LexError α
  /-- The place behind them, or the place of the fault. -/
  cursor : Cursor

namespace Scan

/-- The scan with its meaning changed. -/
def map {α β : Type} (f : α → β) (s : Scan α) : Scan β := ⟨s.result.map f, s.cursor⟩

end Scan

/-! ## Classes of characters -/

/-- Whether a character opens and closes quoted literals. -/
def isQuote (c : Char) : Bool := c = '"' || c = '\''

/-- Whether a character may stand in a name behind its first letter. -/
def isNameChar (c : Char) : Bool := isLetter c || isDigit c

/-- Whether a character is neither white space, a letter, an ASCII digit nor a quote. -/
def isSymbol (c : Char) : Bool := !isBlank c && !isLetter c && !isDigit c && !isQuote c

/-! ## Reading one token -/

/-- The body of a literal that was opened by `quote` at the place `opened`, up to the same quote. -/
def quotedBody (quote : Char) (opened : Nat) : Nat → List Char → Scan (List Char)
  | position, [] => ⟨.error (.unterminatedQuote quote opened), position, []⟩
  | position, c :: cs =>
    if c = quote then ⟨.ok [], position + 1, cs⟩
    else if c = '\\' then
      match cs with
      | [] => ⟨.error (.unterminatedQuote quote opened), position + 1, []⟩
      | letter :: cs =>
        match Token.unescape? letter with
        | some character => (quotedBody quote opened (position + 2) cs).map (character :: ·)
        | none => ⟨.error (.invalidEscape letter (position + 1)), position + 1, letter :: cs⟩
    else (quotedBody quote opened (position + 1) cs).map (c :: ·)

/-- The rest of a number behind its first digit. -/
def numberTail (seenPoint : Bool) : Nat → List Char → Scan (List Char)
  | position, [] => ⟨.ok [], position, []⟩
  | position, c :: cs =>
    if isDigit c then (numberTail seenPoint (position + 1) cs).map (c :: ·)
    else if c = '.' then
      if seenPoint then ⟨.error (.multipleDecimalPoints position), position, c :: cs⟩
      else (numberTail true (position + 1) cs).map (c :: ·)
    else if isLetter c then ⟨.error (.letterInNumber c position), position, c :: cs⟩
    else ⟨.ok [], position, c :: cs⟩

/-- The longest run of characters with a property. -/
def runOf (p : Char → Bool) (position : Nat) (cs : List Char) : Scan (List Char) :=
  ⟨.ok (cs.takeWhile p), position + (cs.takeWhile p).length, cs.dropWhile p⟩

/-- The token that begins with the character `c`, which is not white space. -/
def scanToken (position : Nat) (c : Char) (cs : List Char) : Scan Token :=
  if isQuote c then
    (quotedBody c position (position + 1) cs).map fun body => .literal (String.ofList body)
  else if isDigit c then
    (numberTail false (position + 1) cs).map fun tail => .literal (String.ofList (c :: tail))
  else if isLetter c then
    (runOf isNameChar (position + 1) cs).map fun tail => .word (String.ofList (c :: tail))
  else
    (runOf isSymbol (position + 1) cs).map fun tail => .word (String.ofList (c :: tail))

/-! ## Progress -/

theorem quotedBody_length_le (quote : Char) (opened position : Nat) (cs : List Char) :
    (quotedBody quote opened position cs).cursor.rest.length ≤ cs.length := by
  fun_induction quotedBody quote opened position cs <;> simp_all [Scan.map] <;> omega

theorem numberTail_length_le (seenPoint : Bool) (position : Nat) (cs : List Char) :
    (numberTail seenPoint position cs).cursor.rest.length ≤ cs.length := by
  fun_induction numberTail seenPoint position cs <;> simp_all [Scan.map] <;> omega

theorem runOf_length_le (p : Char → Bool) (position : Nat) (cs : List Char) :
    (runOf p position cs).cursor.rest.length ≤ cs.length :=
  (List.dropWhile_sublist p).length_le

/-- A token takes up its first character at least. -/
theorem scanToken_length_le (position : Nat) (c : Char) (cs : List Char) :
    (scanToken position c cs).cursor.rest.length ≤ cs.length := by
  unfold scanToken
  split
  · simpa [Scan.map] using quotedBody_length_le c position (position + 1) cs
  · split
    · simpa [Scan.map] using numberTail_length_le false (position + 1) cs
    · split
      · simpa [Scan.map] using runOf_length_le isNameChar (position + 1) cs
      · simpa [Scan.map] using runOf_length_le isSymbol (position + 1) cs

/-! ## Reading on from a cursor -/

namespace Cursor

/-- The start of a text. -/
def ofText (s : String) : Cursor := ⟨0, s.toList⟩

/-- The next token from a cursor, nothing at the end of the text, and the cursor afterwards. -/
def token (cursor : Cursor) : Except LexError (Option Token) × Cursor :=
  let position := cursor.position + (cursor.rest.takeWhile isBlank).length
  match dropBlanks cursor.rest with
  | [] => (.ok none, ⟨position, []⟩)
  | c :: cs =>
    let scan := scanToken position c cs
    (scan.result.map some, scan.cursor)

/-- A token that is read leaves fewer characters to come. -/
theorem token_length_lt {cursor after : Cursor} {t : Token}
    (h : cursor.token = (.ok (some t), after)) : after.rest.length < cursor.rest.length := by
  have hle : (dropBlanks cursor.rest).length ≤ cursor.rest.length :=
    (List.dropWhile_sublist _).length_le
  unfold token at h
  split at h
  · simp at h
  · rename_i c cs heq
    have hscan := scanToken_length_le
      (cursor.position + (cursor.rest.takeWhile isBlank).length) c cs
    have hafter := congrArg (fun r => r.2.rest.length) h
    simp only at hafter
    rw [heq] at hle
    simp only [List.length_cons] at hle
    omega

end Cursor

/-- All that a text yields: tokens, and the fault that ends them if there is one. -/
structure Lexed where
  tokens : List Token
  failure : Option LexError
deriving DecidableEq

namespace Cursor

/-- All tokens from a cursor up to the end of the text or the first fault. -/
def tokens (cursor : Cursor) : Lexed :=
  match _h : cursor.token with
  | (.error e, _) => ⟨[], some e⟩
  | (.ok none, _) => ⟨[], none⟩
  | (.ok (some t), after) =>
    let further := tokens after
    ⟨t :: further.tokens, further.failure⟩
termination_by cursor.rest.length
decreasing_by exact token_length_lt ‹_›

end Cursor

/-- All tokens of a text up to its end or the first fault. -/
def Lexed.ofText (s : String) : Lexed := (Cursor.ofText s).tokens

/-! ## Reading token by token -/

/-- A cursor that remembers whether a fault has ended its stream of tokens. -/
structure Lexer where
  cursor : Cursor
  /-- Whether the stream has ended with a fault. -/
  failed : Bool
deriving DecidableEq

namespace Lexer

/-- A lexer at the start of a text. -/
def ofText (s : String) : Lexer := ⟨Cursor.ofText s, false⟩

/-- The next token regardless of faults before it; a fault leaves the stream open. -/
def token (lexer : Lexer) : Except LexError (Option Token) × Lexer :=
  let (result, cursor) := lexer.cursor.token
  (result, { lexer with cursor })

/-- The next item of the stream; a fault is its last one. -/
def next (lexer : Lexer) : Option (Except LexError Token) × Lexer :=
  if lexer.failed then (none, lexer)
  else
    match lexer.cursor.token with
    | (.error e, cursor) => (some (.error e), ⟨cursor, true⟩)
    | (.ok none, cursor) => (none, ⟨cursor, false⟩)
    | (.ok (some t), cursor) => (some (.ok t), ⟨cursor, false⟩)

end Lexer

end RecordQuery
