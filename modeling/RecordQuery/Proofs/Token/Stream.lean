import RecordQuery.Proofs.Token.Scan

/-!
# The stream of tokens

A lexer hands out its tokens one at a time.  What it hands out is what the rules for tokens say of
the text: the spans of the tokens in their order with nothing but white space between them, then
the fault if there is one, and then nothing any more.  `lexes_tokens` says so of a text that is read
to its end, and `lexer_items` of a lexer that is asked for one item after the other.
-/

namespace RecordQuery

open Text

/-! ## One token -/

namespace Cursor

/-- White space in front of other text is passed whole. -/
theorem token_gap {gap cs : List Char} {c : Char} (hgap : ∀ d ∈ gap, isBlank d = true)
    (hc : isBlank c = false) (position : Nat) :
    (⟨position, gap ++ c :: cs⟩ : Cursor).token =
      ((scanToken (position + gap.length) c cs).result.map some,
        (scanToken (position + gap.length) c cs).cursor) := by
  have hhead : ∀ d ∈ (c :: cs).head?, isBlank d = false := fun d hd => Option.some.inj hd ▸ hc
  have htake : (gap ++ c :: cs).takeWhile isBlank = gap := takeWhile_run hgap hhead
  have hdrop : dropBlanks (gap ++ c :: cs) = c :: cs := dropWhile_run hgap hhead
  simp only [token, htake, hdrop]

/-- Behind white space the token of a span is read, and reading goes on behind the span. -/
theorem token_spells {gap s rest : List Char} {t : Token} (hgap : ∀ d ∈ gap, isBlank d = true)
    (h : Spells s t rest) (position : Nat) :
    (⟨position, gap ++ s ++ rest⟩ : Cursor).token =
      (.ok (some t), ⟨position + gap.length + s.length, rest⟩) := by
  obtain ⟨c, cs, heq, hc, hscan⟩ := scanToken_spells h (position + gap.length)
  rw [List.append_assoc, heq, token_gap hgap hc, hscan]
  rfl

/-- Behind white space a fault is reported. -/
theorem token_malformed {gap text : List Char} {e : LexError} {position : Nat}
    (hgap : ∀ d ∈ gap, isBlank d = true) (h : Malformed (position + gap.length) text e) :
    (⟨position, gap ++ text⟩ : Cursor).token.1 = .error e := by
  obtain ⟨c, cs, rfl, hc, hscan⟩ := scanToken_malformed h
  rw [token_gap hgap hc, hscan]
  rfl

/-- In white space alone there is no token. -/
theorem token_blank {gap : List Char} (hgap : ∀ d ∈ gap, isBlank d = true) (position : Nat) :
    (⟨position, gap⟩ : Cursor).token = (.ok none, ⟨position + gap.length, []⟩) := by
  have hhead : ∀ d ∈ ([] : List Char).head?, isBlank d = false := by simp
  have htake := takeWhile_run hgap hhead
  have hdrop : dropBlanks (gap ++ []) = [] := dropWhile_run hgap hhead
  rw [List.append_nil] at htake hdrop
  simp only [token, htake, hdrop]

/-- Where no token is left, no text is left. -/
theorem rest_of_token_none (cursor : Cursor) {after : Cursor}
    (h : cursor.token = (.ok none, after)) : after.rest = [] := by
  unfold token at h
  split at h
  · exact congrArg (fun r => r.2.rest) h.symm
  · rename_i c cs _
    have hresult := congrArg Prod.fst h
    simp only at hresult
    cases hscan : (scanToken (cursor.position + (cursor.rest.takeWhile isBlank).length) c cs).result
      with
    | error e => simp [hscan, Except.map] at hresult
    | ok t => simp [hscan, Except.map] at hresult

/-! ## All tokens -/

theorem tokens_of_error {cursor after : Cursor} {e : LexError}
    (h : cursor.token = (.error e, after)) : cursor.tokens = ⟨[], some e⟩ := by
  rw [tokens]
  split <;> simp_all

theorem tokens_of_none {cursor after : Cursor} (h : cursor.token = (.ok none, after)) :
    cursor.tokens = ⟨[], none⟩ := by
  rw [tokens]
  split <;> simp_all

theorem tokens_of_some {cursor after : Cursor} {t : Token}
    (h : cursor.token = (.ok (some t), after)) :
    cursor.tokens = ⟨t :: after.tokens.tokens, after.tokens.failure⟩ := by
  rw [tokens]
  split <;> simp_all

end Cursor

/-- A text that the rules divide into tokens is read so. -/
theorem Lexes.tokens_eq {position : Nat} {text : List Char} {tokens : List Token}
    {failure : Option LexError} (h : Lexes position text tokens failure) :
    (⟨position, text⟩ : Cursor).tokens = ⟨tokens, failure⟩ := by
  induction h with
  | ended hgap => exact Cursor.tokens_of_none (Cursor.token_blank hgap _)
  | fault hgap hbad =>
      exact Cursor.tokens_of_error (Prod.ext (Cursor.token_malformed hgap hbad) rfl)
  | token hgap hspan _ ih => rw [Cursor.tokens_of_some (Cursor.token_spells hgap hspan _), ih]

/-- A span is not empty. -/
theorem Spells.length_pos {s rest : List Char} {t : Token} (h : Spells s t rest) :
    0 < s.length := by
  cases h with
  | name hname _ =>
      obtain ⟨c, cs, rfl, -⟩ := hname
      simp
  | symbols hsymbols _ => exact List.length_pos_iff.mpr hsymbols.1
  | number hnumber _ =>
      obtain ⟨c, cs, rfl, -⟩ := hnumber
      simp
  | quoted _ _ => simp

/-- The rules divide every text into tokens. -/
theorem exists_lexes (position : Nat) (text : List Char) :
    ∃ tokens failure, Lexes position text tokens failure := by
  -- Each span shortens the text, so the induction is on its length.
  induction hn : text.length using Nat.strongRecOn generalizing position text with
  | _ n ih =>
    subst hn
    obtain ⟨gap, behind, rfl, hgap, hbehind⟩ := exists_run isBlank text
    cases behind with
    | nil => exact ⟨[], none, by simpa using Lexes.ended hgap⟩
    | cons c cs =>
        rcases spells_or_malformed (position + gap.length) cs (hbehind c rfl) with
          ⟨s, t, rest, heq, hspan⟩ | ⟨e, hbad⟩
        · have hpos := hspan.length_pos
          have hlen : rest.length < (gap ++ c :: cs).length := by
            rw [heq]
            simp
            omega
          obtain ⟨tokens, failure, hrest⟩ :=
            ih rest.length hlen (position + gap.length + s.length) rest rfl
          refine ⟨t :: tokens, failure, ?_⟩
          rw [heq, ← List.append_assoc]
          exact .token hgap hspan hrest
        · exact ⟨[], some e, .fault hgap hbad⟩

/-- What is read of a text follows the rules. -/
theorem lexes_tokens (cursor : Cursor) :
    Lexes cursor.position cursor.rest cursor.tokens.tokens cursor.tokens.failure := by
  obtain ⟨tokens, failure, h⟩ := exists_lexes cursor.position cursor.rest
  have heq : cursor.tokens = ⟨tokens, failure⟩ := h.tokens_eq
  rw [heq]
  exact h

/-! ## One item after the other -/

/-- The items of a stream: the tokens and the fault behind them. -/
def Lexed.items (lexed : Lexed) : List (Except LexError Token) :=
  lexed.tokens.map .ok ++ lexed.failure.toList.map .error

namespace Lexer

/-- What a lexer gives when it is asked for its next item for the `n`th time, counted from zero. -/
def item (lexer : Lexer) : Nat → Option (Except LexError Token)
  | 0 => lexer.next.1
  | n + 1 => lexer.next.2.item n

/-- A lexer whose stream has ended with a fault gives nothing any more. -/
theorem item_failed (cursor : Cursor) (n : Nat) : (⟨cursor, true⟩ : Lexer).item n = none := by
  induction n with
  | zero => rfl
  | succ n ih => exact ih

/-- A lexer at the end of its text gives nothing any more. -/
theorem item_ended (position n : Nat) : (⟨⟨position, []⟩, false⟩ : Lexer).item n = none := by
  have hnext : (⟨⟨position, []⟩, false⟩ : Lexer).next = (none, ⟨⟨position, []⟩, false⟩) := by
    have htoken := Cursor.token_blank (List.forall_mem_nil fun c => isBlank c = true) position
    simp [next, htoken]
  induction n with
  | zero => rw [item, hnext]
  | succ n ih => rw [item, hnext, ih]

/-- The items of a lexer are what is read of the text from its cursor. -/
theorem item_eq (cursor : Cursor) (n : Nat) :
    (⟨cursor, false⟩ : Lexer).item n = cursor.tokens.items[n]? := by
  induction n generalizing cursor with
  | zero =>
      rw [item, next]
      cases htoken : cursor.token with
      | mk result after =>
          rcases result with e | _ | t
          · simp [Cursor.tokens_of_error htoken, Lexed.items]
          · simp [Cursor.tokens_of_none htoken, Lexed.items]
          · simp [Cursor.tokens_of_some htoken, Lexed.items]
  | succ n ih =>
      rw [item, next]
      cases htoken : cursor.token with
      | mk result after =>
          rcases result with e | _ | t
          · simp [Cursor.tokens_of_error htoken, Lexed.items, item_failed]
          · have hended : after.rest = [] := cursor.rest_of_token_none htoken
            obtain ⟨position, rest⟩ := after
            cases hended
            simp [Cursor.tokens_of_none htoken, Lexed.items, item_ended]
          · simpa [Cursor.tokens_of_some htoken, Lexed.items] using ih after

end Lexer

/-- **The lexer follows the rules for tokens.**  The items it gives are the tokens of the text and
the fault behind them, and the rules divide the text into these and no others. -/
theorem lexer_items (s : String) :
    (∀ n, (Lexer.ofText s).item n = (Lexed.ofText s).items[n]?) ∧
      ∀ tokens failure, Lexes 0 s.toList tokens failure ↔ Lexed.ofText s = ⟨tokens, failure⟩ := by
  constructor
  · exact Lexer.item_eq _
  · intro tokens failure
    constructor
    · exact Lexes.tokens_eq
    · intro h
      have hread := lexes_tokens (Cursor.ofText s)
      rw [show (Cursor.ofText s).tokens = ⟨tokens, failure⟩ from h] at hread
      exact hread

end RecordQuery
