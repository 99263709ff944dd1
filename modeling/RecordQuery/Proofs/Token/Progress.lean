import RecordQuery.Proofs.Token.Stream

/-!
# Progress of a lexer

A lexer answers two kinds of requests: for the next item of its stream, which ends with the first
fault, and for the next token, which goes on behind a fault from the place where it was noticed.  A
user may mix them, so reading can go on from places inside a number or a quoted literal.

Wherever it goes on, an answer takes up at least one character, and only characters of the text.  So
a lexer gives no more answers than its text has characters, and once a token was asked for in vain
it stands at the end for good.  A stream that has ended stays ended, even if tokens are read behind
it.

One place of a text lies behind another one if the one cursor leads to the other.  Every scanner
stops at such a place, and therefore one request does, and any number of requests.
-/

namespace RecordQuery

open Text

/-! ## Places in a text -/

namespace Cursor

/-- The second place lies behind the first one, with the characters in between passed. -/
def LeadsTo (before after : Cursor) : Prop :=
  ∃ passed, before.rest = passed ++ after.rest ∧ after.position = before.position + passed.length

namespace LeadsTo

theorem refl (cursor : Cursor) : cursor.LeadsTo cursor := ⟨[], rfl, rfl⟩

theorem trans {a b c : Cursor} (hab : a.LeadsTo b) (hbc : b.LeadsTo c) : a.LeadsTo c := by
  obtain ⟨first, hfirst, hb⟩ := hab
  obtain ⟨second, hsecond, hc⟩ := hbc
  refine ⟨first ++ second, ?_, ?_⟩
  · rw [hfirst, hsecond, List.append_assoc]
  · rw [hc, hb, List.length_append, Nat.add_assoc]

/-- One character is passed. -/
theorem cons (position : Nat) (c : Char) (cs : List Char) :
    LeadsTo ⟨position, c :: cs⟩ ⟨position + 1, cs⟩ :=
  ⟨[c], rfl, rfl⟩

theorem position_le {before after : Cursor} (h : before.LeadsTo after) :
    before.position ≤ after.position := by
  obtain ⟨passed, -, hposition⟩ := h
  omega

/-- What is passed and what is to come is the whole text. -/
theorem position_add_length {before after : Cursor} (h : before.LeadsTo after) :
    after.position + after.rest.length = before.position + before.rest.length := by
  obtain ⟨passed, hrest, hposition⟩ := h
  rw [hposition, hrest, List.length_append, Nat.add_assoc]

/-- Behind the end of a text there is nothing but its end. -/
theorem rest_eq_nil {before after : Cursor} (h : before.LeadsTo after) (hend : before.rest = []) :
    after.rest = [] := by
  obtain ⟨passed, hrest, -⟩ := h
  rw [hend] at hrest
  exact (List.append_eq_nil_iff.mp hrest.symm).2

end LeadsTo

end Cursor

/-! ## Scanners -/

theorem quotedBody_leadsTo (quote : Char) (opened position : Nat) (cs : List Char) :
    Cursor.LeadsTo ⟨position, cs⟩ (quotedBody quote opened position cs).cursor := by
  fun_induction quotedBody quote opened position cs with
  | case1 position => exact .refl _
  | case2 position cs => exact .cons position quote cs
  | case3 position => exact .cons position '\\' []
  | case4 position letter cs character _ _ ih =>
      exact ((Cursor.LeadsTo.cons position '\\' (letter :: cs)).trans
        (.cons (position + 1) letter cs)).trans ih
  | case5 position letter cs => exact .cons position '\\' (letter :: cs)
  | case6 position c cs _ _ ih => exact (Cursor.LeadsTo.cons position c cs).trans ih

theorem numberTail_leadsTo (seenPoint : Bool) (position : Nat) (cs : List Char) :
    Cursor.LeadsTo ⟨position, cs⟩ (numberTail seenPoint position cs).cursor := by
  fun_induction numberTail seenPoint position cs with
  | case1 => exact .refl _
  | case2 seenPoint position c cs _ ih => exact (Cursor.LeadsTo.cons position c cs).trans ih
  | case3 => exact .refl _
  | case4 seenPoint position cs _ _ ih => exact (Cursor.LeadsTo.cons position '.' cs).trans ih
  | case5 => exact .refl _
  | case6 => exact .refl _

theorem runOf_leadsTo (p : Char → Bool) (position : Nat) (cs : List Char) :
    Cursor.LeadsTo ⟨position, cs⟩ (runOf p position cs).cursor :=
  ⟨cs.takeWhile p, List.takeWhile_append_dropWhile.symm, rfl⟩

/-- **A scanner stops behind the character that it begins with**, whether it gives a token or a
fault. -/
theorem scanToken_leadsTo (position : Nat) (c : Char) (cs : List Char) :
    Cursor.LeadsTo ⟨position + 1, cs⟩ (scanToken position c cs).cursor := by
  unfold scanToken
  split
  · exact quotedBody_leadsTo c position (position + 1) cs
  · split
    · exact numberTail_leadsTo false (position + 1) cs
    · split
      · exact runOf_leadsTo isNameChar (position + 1) cs
      · exact runOf_leadsTo isSymbol (position + 1) cs

/-! ## One token -/

namespace Cursor

/-- Behind white space a cursor is at the end, or at the first character of a token or a fault. -/
theorem token_cases (cursor : Cursor) :
    (∃ after, cursor.token = (.ok none, after) ∧ cursor.LeadsTo after) ∨
      ∃ position c cs, cursor.LeadsTo ⟨position, c :: cs⟩ ∧ cursor.token =
        ((scanToken position c cs).result.map some, (scanToken position c cs).cursor) := by
  have hblanks : cursor.rest = cursor.rest.takeWhile isBlank ++ dropBlanks cursor.rest :=
    List.takeWhile_append_dropWhile.symm
  unfold token
  cases hbehind : dropBlanks cursor.rest with
  | nil =>
      rw [hbehind] at hblanks
      exact .inl ⟨_, rfl, _, hblanks, rfl⟩
  | cons c cs =>
      rw [hbehind] at hblanks
      exact .inr ⟨_, c, cs, ⟨_, hblanks, rfl⟩, rfl⟩

theorem leadsTo_token (cursor : Cursor) : cursor.LeadsTo cursor.token.2 := by
  rcases cursor.token_cases with ⟨after, htoken, h⟩ | ⟨position, c, cs, hfront, htoken⟩
  · rw [htoken]
    exact h
  · rw [htoken]
    exact (hfront.trans (.cons position c cs)).trans (scanToken_leadsTo position c cs)

/-- A token or a fault takes up a character. -/
theorem position_lt_token {cursor : Cursor} (h : cursor.token.1 ≠ .ok none) :
    cursor.position < cursor.token.2.position := by
  rcases cursor.token_cases with ⟨after, htoken, -⟩ | ⟨position, c, cs, hfront, htoken⟩
  · rw [htoken] at h
    exact absurd rfl h
  · rw [htoken]
    have hle : cursor.position ≤ position := hfront.position_le
    have hlt : position < (scanToken position c cs).cursor.position :=
      (scanToken_leadsTo position c cs).position_le
    exact Nat.lt_of_le_of_lt hle hlt

theorem token_of_rest_eq_nil {cursor : Cursor} (h : cursor.rest = []) :
    cursor.token.1 = .ok none := by
  obtain ⟨position, rest⟩ := cursor
  subst h
  rw [token_blank (List.forall_mem_nil fun c => isBlank c = true)]

end Cursor

/-! ## One request -/

namespace Lexer

/-- What a lexer can be asked for. -/
inductive Request where
  /-- The next item of the stream, which ends with the first fault. -/
  | item
  /-- The next token, whatever came before it. -/
  | token
deriving DecidableEq

/-- The token or the fault that was found, if anything was. -/
def found? : Except LexError (Option Token) → Option (Except LexError Token)
  | .ok none => none
  | .ok (some t) => some (.ok t)
  | .error e => some (.error e)

/-- The answer of a lexer to a request, and the lexer afterwards. -/
def answer (lexer : Lexer) : Request → Option (Except LexError Token) × Lexer
  | .item => lexer.next
  | .token => (found? lexer.token.1, lexer.token.2)

/-- The stream has ended, with a fault or with the text. -/
def IsOver (lexer : Lexer) : Prop := lexer.failed = true ∨ lexer.cursor.rest = []

theorem found?_eq_none_iff {result : Except LexError (Option Token)} :
    found? result = none ↔ result = .ok none := by
  rcases result with e | _ | t
  · simp [found?]
  · simp [found?]
  · simp [found?]

/-- A request is refused because the stream has ended with a fault, or it is answered by what is
found at the cursor.  A fault that answers a request for an item ends the stream. -/
theorem answer_cases (lexer : Lexer) (request : Request) :
    (request = .item ∧ lexer.failed = true ∧ lexer.answer request = (none, lexer)) ∨
      ∃ failed, lexer.answer request =
          (found? lexer.cursor.token.1, ⟨lexer.cursor.token.2, failed⟩) ∧
        (lexer.failed = true → failed = true) ∧
        (request = .item → (∃ e, lexer.cursor.token.1 = .error e) → failed = true) := by
  cases request with
  | token => exact .inr ⟨lexer.failed, rfl, id, fun h => by cases h⟩
  | item =>
      cases hfailed : lexer.failed with
      | true => exact .inl ⟨rfl, rfl, by simp [answer, next, hfailed]⟩
      | false =>
          right
          rcases htoken : lexer.cursor.token with ⟨e | _ | t, after⟩
          · exact ⟨true, by simp [answer, next, hfailed, htoken, found?], by simp, by simp⟩
          · exact ⟨false, by simp [answer, next, hfailed, htoken, found?], by simp, by simp⟩
          · exact ⟨false, by simp [answer, next, hfailed, htoken, found?], by simp, by simp⟩

/-- **No request leads out of the text.** -/
theorem leadsTo_answer (lexer : Lexer) (request : Request) :
    lexer.cursor.LeadsTo (lexer.answer request).2.cursor := by
  rcases lexer.answer_cases request with ⟨-, -, h⟩ | ⟨failed, h, -, -⟩
  · rw [h]
    exact .refl _
  · rw [h]
    exact lexer.cursor.leadsTo_token

/-- **Every answer takes up a character.** -/
theorem position_lt_answer {lexer : Lexer} {request : Request}
    (hsome : (lexer.answer request).1 ≠ none) :
    lexer.cursor.position < (lexer.answer request).2.cursor.position := by
  rcases lexer.answer_cases request with ⟨-, -, h⟩ | ⟨failed, h, -, -⟩
  · rw [h] at hsome
    exact absurd rfl hsome
  · rw [h] at hsome ⊢
    exact Cursor.position_lt_token fun hnone => hsome (found?_eq_none_iff.mpr hnone)

/-- Where a token is asked for in vain, no text is left. -/
theorem rest_answer_token {lexer : Lexer} (hnone : (lexer.answer .token).1 = none) :
    (lexer.answer .token).2.cursor.rest = [] :=
  lexer.cursor.rest_of_token_none (Prod.ext (found?_eq_none_iff.mp hnone) rfl)

/-- At the end of its text a lexer answers nothing. -/
theorem answer_of_rest_eq_nil {lexer : Lexer} (hend : lexer.cursor.rest = []) (request : Request) :
    (lexer.answer request).1 = none := by
  rcases lexer.answer_cases request with ⟨-, -, h⟩ | ⟨failed, h, -, -⟩
  · rw [h]
  · rw [h]
    exact found?_eq_none_iff.mpr (Cursor.token_of_rest_eq_nil hend)

/-- A stream that gives no token is over. -/
theorem isOver_answer_item {lexer : Lexer} (hno : ∀ t, (lexer.answer .item).1 ≠ some (.ok t)) :
    (lexer.answer .item).2.IsOver := by
  rcases lexer.answer_cases .item with ⟨-, hfailed, h⟩ | ⟨failed, h, -, hfault⟩
  · rw [h]
    exact .inl hfailed
  · rw [h] at hno ⊢
    rcases htoken : lexer.cursor.token with ⟨e | _ | t, after⟩
    · exact .inl (hfault rfl ⟨e, by rw [htoken]⟩)
    · exact .inr (lexer.cursor.rest_of_token_none htoken)
    · rw [htoken] at hno
      exact absurd rfl (hno t)

/-- No request opens a stream again that is over. -/
theorem IsOver.answer {lexer : Lexer} (hover : lexer.IsOver) (request : Request) :
    (lexer.answer request).2.IsOver := by
  rcases hover with hfailed | hend
  · rcases lexer.answer_cases request with ⟨-, -, h⟩ | ⟨failed, h, hkept, -⟩
    · rw [h]
      exact .inl hfailed
    · rw [h]
      exact .inl (hkept hfailed)
  · exact .inr ((lexer.leadsTo_answer request).rest_eq_nil hend)

/-- A stream that is over gives nothing. -/
theorem IsOver.item {lexer : Lexer} (hover : lexer.IsOver) : (lexer.answer .item).1 = none := by
  rcases hover with hfailed | hend
  · simp [Lexer.answer, next, hfailed]
  · exact answer_of_rest_eq_nil hend .item

/-! ## Any number of requests -/

/-- The lexer after requests, one after the other. -/
def after (lexer : Lexer) : List Request → Lexer
  | [] => lexer
  | request :: requests => (lexer.answer request).2.after requests

/-- The answers to requests, one after the other. -/
def answers (lexer : Lexer) : List Request → List (Option (Except LexError Token))
  | [] => []
  | request :: requests =>
    (lexer.answer request).1 :: (lexer.answer request).2.answers requests

theorem leadsTo_after (lexer : Lexer) (requests : List Request) :
    lexer.cursor.LeadsTo (lexer.after requests).cursor := by
  induction requests generalizing lexer with
  | nil => exact .refl _
  | cons request requests ih => exact (lexer.leadsTo_answer request).trans (ih _)

/-- **There are no more answers than characters that are passed.** -/
theorem countP_answers_add_le (lexer : Lexer) (requests : List Request) :
    (lexer.answers requests).countP Option.isSome + lexer.cursor.position ≤
      (lexer.after requests).cursor.position := by
  induction requests generalizing lexer with
  | nil => simp [answers, after]
  | cons request requests ih =>
      have hrest := ih (lexer.answer request).2
      have hle := (lexer.leadsTo_answer request).position_le
      rw [answers, after]
      cases hanswer : (lexer.answer request).1 with
      | none =>
          rw [List.countP_cons_of_neg (by simp)]
          omega
      | some found =>
          have hlt : lexer.cursor.position < (lexer.answer request).2.cursor.position :=
            position_lt_answer (by simp [hanswer])
          rw [List.countP_cons_of_pos (by simp)]
          omega

/-- Each request for a token passes a character, or the end of the text is reached. -/
theorem count_token_add_le (lexer : Lexer) (requests : List Request) :
    requests.count .token + lexer.cursor.position ≤ (lexer.after requests).cursor.position ∨
      (lexer.after requests).cursor.rest = [] := by
  induction requests generalizing lexer with
  | nil => simp [after]
  | cons request requests ih =>
      have hle := (lexer.leadsTo_answer request).position_le
      have hbehind := (lexer.answer request).2.leadsTo_after requests
      rw [after]
      rcases ih (lexer.answer request).2 with hcount | hend
      · cases request with
        | item =>
            rw [List.count_cons_of_ne (by decide)]
            exact .inl (by omega)
        | token =>
            by_cases hnone : (lexer.answer .token).1 = none
            · exact .inr (hbehind.rest_eq_nil (rest_answer_token hnone))
            · have hlt := position_lt_answer hnone
              rw [List.count_cons_self]
              exact .inl (by omega)
      · exact .inr hend

/-- At the end of its text a lexer answers nothing any more. -/
theorem answers_of_rest_eq_nil {lexer : Lexer} (hend : lexer.cursor.rest = [])
    (requests : List Request) : ∀ a ∈ lexer.answers requests, a = none := by
  induction requests generalizing lexer with
  | nil => simp [answers]
  | cons request requests ih =>
      rw [answers, List.forall_mem_cons]
      exact ⟨answer_of_rest_eq_nil hend request,
        ih ((lexer.leadsTo_answer request).rest_eq_nil hend)⟩

theorem IsOver.after {lexer : Lexer} (hover : lexer.IsOver) (requests : List Request) :
    (lexer.after requests).IsOver := by
  induction requests generalizing lexer with
  | nil => exact hover
  | cons request requests ih => exact ih (hover.answer request)

end Lexer

/-- **A lexer makes progress and stops.**  Whatever a lexer has been asked for, it stands in its
text, and a token or a fault that it finds takes it on.  It gives no more answers than the text has
characters; after as many requests for tokens it gives none at all, and neither does it after a
request for a token that was in vain.  Once the stream of items gives no token, it gives nothing any
more, even if tokens are asked for in between. -/
theorem lexer_progress (s : String) (requests : List Lexer.Request) {lexer : Lexer}
    (hlexer : (Lexer.ofText s).after requests = lexer) :
    lexer.cursor.position ≤ s.length ∧
    ((lexer.answer .token).1 ≠ none →
      lexer.cursor.position < (lexer.answer .token).2.cursor.position) ∧
    ((Lexer.ofText s).answers requests).countP Option.isSome ≤ s.length ∧
    (s.length ≤ requests.count .token → ∀ later, ∀ a ∈ lexer.answers later, a = none) ∧
    ((lexer.answer .token).1 = none →
      ∀ later, ∀ a ∈ (lexer.answer .token).2.answers later, a = none) ∧
    ((∀ t, (lexer.answer .item).1 ≠ some (.ok t)) →
      ∀ later, (((lexer.answer .item).2.after later).answer .item).1 = none) := by
  have hwhole : lexer.cursor.position + lexer.cursor.rest.length = s.length := by
    have h := ((Lexer.ofText s).leadsTo_after requests).position_add_length
    rw [hlexer] at h
    simpa [Lexer.ofText, Cursor.ofText, String.length_toList] using h
  have hcount := (Lexer.ofText s).countP_answers_add_le requests
  rw [hlexer] at hcount
  refine ⟨by omega, Lexer.position_lt_answer, by omega, ?_, ?_, ?_⟩
  · intro hmany
    have hend : lexer.cursor.rest = [] := by
      have h := (Lexer.ofText s).count_token_add_le requests
      rw [hlexer] at h
      rcases h with hpassed | hend
      · exact List.length_eq_zero_iff.mp (by omega)
      · exact hend
    exact Lexer.answers_of_rest_eq_nil hend
  · intro hnone
    exact Lexer.answers_of_rest_eq_nil (Lexer.rest_answer_token hnone)
  · intro hno later
    exact ((Lexer.isOver_answer_item hno).after later).item

/-- A second point ends the stream of items, while tokens are read on from there. -/
theorem lexer_progress_release :
    (Lexer.ofText "1.2.3 x").answers [.item, .item, .token, .item, .token, .token, .token] =
      [some (.error (.multipleDecimalPoints 3)), none, some (.ok (.word ".")), none,
        some (.ok (.literal "3")), some (.ok (.word "x")), none] ∧
    (Lexer.ofText "1.2.3 x").after [.item] = ⟨⟨3, ".3 x".toList⟩, true⟩ ∧
    3 < ((⟨⟨3, ".3 x".toList⟩, true⟩ : Lexer).answer .token).2.cursor.position ∧
    ∀ later, ((((⟨⟨3, ".3 x".toList⟩, true⟩ : Lexer).answer .item).2.after later).answer .item).1 =
      none := by
  have hafter : (Lexer.ofText "1.2.3 x").after [.item] = ⟨⟨3, ".3 x".toList⟩, true⟩ := rfl
  have hfound : ((⟨⟨3, ".3 x".toList⟩, true⟩ : Lexer).answer .token).1 =
      some (.ok (.word ".")) := rfl
  obtain ⟨-, hlt, -, -, -, hover⟩ := lexer_progress "1.2.3 x" [.item] hafter
  refine ⟨rfl, hafter, hlt ?_, hover ?_⟩
  · rw [hfound]
    exact Option.some_ne_none _
  · intro t ht
    cases ht

end RecordQuery
