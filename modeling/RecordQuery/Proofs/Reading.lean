import RecordQuery.Query.Reading
import RecordQuery.Text.Class
import RecordQuery.Token

/-!
# What readers share

Tokens, literals, lengths of time, JSON and declarations are all read in steps, and the lemmas here
are what the proofs about these readers have in common.

A reader stops at the first fault.  A run that ends well is a sequence of steps that end well.

A reader that goes on while a test holds takes a run: the test holds for everything in it, and not
for what stands next, if anything does.  A list is divided in this way once.

The lexer asks of a character, in this order, whether it is white space, a quote, an ASCII digit
or a letter, and takes everything else for a symbol.  The order of the questions does not matter:
no character belongs to two of the classes.  White space and the letters are two tables of ranges
without a common code point; the digits and the quotes lie outside both.

A numeral is worth what its digits say.  Zeros in front of it do not change its value; zeros behind
it multiply the value by powers of ten.  What a number is written as is read again.
-/

namespace RecordQuery

/-! ## Outcomes of steps -/

section

variable {ε α β : Type}

/-- A run ends well exactly if its first step does and what follows does. -/
theorem bind_eq_ok_iff {x : Except ε α} {f : α → Except ε β} {b : β} :
    x >>= f = .ok b ↔ ∃ a, x = .ok a ∧ f a = .ok b := by
  cases x with
  | error e => simp [bind, Except.bind]
  | ok a => simp [bind, Except.bind]

/-- A run ends with a fault exactly if its first step does, or if what follows does. -/
theorem bind_eq_error_iff {x : Except ε α} {f : α → Except ε β} {e : ε} :
    x >>= f = .error e ↔ x = .error e ∨ ∃ a, x = .ok a ∧ f a = .error e := by
  cases x with
  | error e => simp [bind, Except.bind]
  | ok a => simp [bind, Except.bind]

/-- What is made of a result makes no difference to a fault. -/
theorem map_eq_error_iff {x : Except ε α} {f : α → β} {e : ε} :
    x.map f = .error e ↔ x = .error e := by
  cases x <;> simp [Except.map]

@[simp] theorem ok_bind (a : α) (f : α → Except ε β) : Except.ok a >>= f = f a := rfl

@[simp] theorem error_bind (e : ε) (f : α → Except ε β) : Except.error e >>= f = .error e := rfl

@[simp] theorem pure_eq_ok (a : α) : (pure a : Except ε α) = .ok a := rfl

end

/-! ## Runs at the front of a list -/

section

variable {α : Type} {p : α → Bool} {run rest : List α}

theorem takeWhile_run (hrun : ∀ a ∈ run, p a = true) (hrest : ∀ a ∈ rest.head?, p a = false) :
    (run ++ rest).takeWhile p = run := by
  rw [List.takeWhile_append_of_pos hrun]
  cases rest with
  | nil => rw [List.takeWhile_nil, List.append_nil]
  | cons a rest => simp [hrest a rfl]

theorem dropWhile_run (hrun : ∀ a ∈ run, p a = true) (hrest : ∀ a ∈ rest.head?, p a = false) :
    (run ++ rest).dropWhile p = rest := by
  rw [List.dropWhile_append_of_pos hrun]
  cases rest with
  | nil => rw [List.dropWhile_nil]
  | cons a rest => simp [hrest a rfl]

/-- Everything that is taken passes the test. -/
theorem of_mem_takeWhile {as : List α} : ∀ a ∈ as.takeWhile p, p a = true :=
  fun a ha => (List.all_eq_true.mp List.all_takeWhile) a ha

/-- What is left does not begin with anything that passes. -/
theorem head?_dropWhile_eq_false {as : List α} : ∀ a ∈ (as.dropWhile p).head?, p a = false := by
  intro a ha
  have hhead := List.head?_dropWhile_not p as
  rw [Option.mem_def.mp ha] at hhead
  simpa using hhead

/-- Every list begins with a run that the next element does not continue. -/
theorem exists_run (p : α → Bool) (as : List α) :
    ∃ run rest, as = run ++ rest ∧ (∀ a ∈ run, p a = true) ∧ ∀ a ∈ rest.head?, p a = false :=
  ⟨as.takeWhile p, as.dropWhile p, List.takeWhile_append_dropWhile.symm, of_mem_takeWhile,
    head?_dropWhile_eq_false⟩

/-- What holds of the first elements of two lists holds of the first one of both together. -/
theorem forall_head?_append {q : α → Prop} {front back : List α}
    (hfront : ∀ a ∈ front.head?, q a) (hback : ∀ a ∈ back.head?, q a) :
    ∀ a ∈ (front ++ back).head?, q a := by
  cases front with
  | nil => exact hback
  | cons b front => exact hfront

end

open Text

/-! ## Code points outside a table -/

private theorem search_letters_digit : ∀ n < 58, 48 ≤ n →
    CharSet.search letters.ranges n = false := by
  decide +kernel

private theorem search_blanks_digit : ∀ n < 58, 48 ≤ n →
    CharSet.search blanks.ranges n = false := by
  decide +kernel

private theorem search_letters_blank : ∀ r ∈ blanks.ranges, ∀ i < r.2 - r.1 + 1,
    CharSet.search letters.ranges (r.1 + i) = false := by
  decide +kernel

/-! ## Disjoint classes -/

/-- White space is no letter. -/
theorem isLetter_of_isBlank {c : Char} (h : isBlank c = true) : isLetter c = false := by
  obtain ⟨r, hr, hlow, hhigh⟩ := CharSet.exists_range_of_contains h
  have hout := search_letters_blank r hr (c.toNat - r.1) (by omega)
  rwa [show r.1 + (c.toNat - r.1) = c.toNat by omega] at hout

/-- A digit lies between the code points of `0` and `9`. -/
theorem isDigit_iff {c : Char} : isDigit c = true ↔ 48 ≤ c.toNat ∧ c.toNat ≤ 57 := by
  simp [isDigit]

/-- A digit is no letter. -/
theorem isLetter_of_isDigit {c : Char} (h : isDigit c = true) : isLetter c = false := by
  have hc := isDigit_iff.mp h
  exact search_letters_digit c.toNat (by omega) hc.1

/-- A digit is no white space. -/
theorem isBlank_of_isDigit {c : Char} (h : isDigit c = true) : isBlank c = false := by
  have hc := isDigit_iff.mp h
  exact search_blanks_digit c.toNat (by omega) hc.1

/-- A letter is no white space. -/
theorem isBlank_of_isLetter {c : Char} (h : isLetter c = true) : isBlank c = false := by
  cases hb : isBlank c with
  | false => rfl
  | true => rw [isLetter_of_isBlank hb] at h; cases h

/-- A letter is no digit. -/
theorem isDigit_of_isLetter {c : Char} (h : isLetter c = true) : isDigit c = false := by
  cases hd : isDigit c with
  | false => rfl
  | true => rw [isLetter_of_isDigit hd] at h; cases h

/-- The quotes are `"` and `'`. -/
theorem isQuote_iff {c : Char} : isQuote c = true ↔ c = '"' ∨ c = '\'' := by
  simp [isQuote]

/-- A quote is no white space. -/
theorem isBlank_of_isQuote {c : Char} (h : isQuote c = true) : isBlank c = false := by
  rcases isQuote_iff.mp h with rfl | rfl <;> decide

/-- A quote is no backslash. -/
theorem ne_backslash_of_isQuote {c : Char} (h : isQuote c = true) : c ≠ '\\' := by
  rcases isQuote_iff.mp h with rfl | rfl <;> decide

/-- A digit is no quote. -/
theorem isQuote_of_isDigit {c : Char} (h : isDigit c = true) : isQuote c = false := by
  cases hq : isQuote c with
  | false => rfl
  | true => rcases isQuote_iff.mp hq with rfl | rfl <;> exact absurd h (by decide)

/-- A letter is no quote. -/
theorem isQuote_of_isLetter {c : Char} (h : isLetter c = true) : isQuote c = false := by
  cases hq : isQuote c with
  | false => rfl
  | true => rcases isQuote_iff.mp hq with rfl | rfl <;> exact absurd h (by decide)

/-- Symbols are the characters that no other class takes. -/
theorem isSymbol_iff {c : Char} : isSymbol c = true ↔
    isBlank c = false ∧ isLetter c = false ∧ isDigit c = false ∧ isQuote c = false := by
  simp [isSymbol, and_assoc]

/-- The point is no digit. -/
theorem isDigit_point : isDigit '.' = false := by decide

theorem ne_point_of_isDigit {c : Char} (h : isDigit c = true) : c ≠ '.' := by
  intro heq
  subst heq
  rw [isDigit_point] at h
  cases h

theorem ne_point_of_isLetter {c : Char} (h : isLetter c = true) : c ≠ '.' := by
  intro heq
  subst heq
  exact absurd h (by decide)

namespace Text

/-! ## Values of runs -/

theorem numeralFrom_nil (n : Nat) : numeralFrom n [] = n := rfl

theorem numeralFrom_cons (n : Nat) (c : Char) (cs : List Char) :
    numeralFrom n (c :: cs) = numeralFrom (10 * n + digitValue c) cs := by
  rfl

theorem numeralFrom_eq (n : Nat) (cs : List Char) :
    numeralFrom n cs = Nat.ofDigitChars 10 cs n := by
  induction cs generalizing n with
  | nil => rfl
  | cons c cs ih =>
      have hcons := @Nat.ofDigitChars_cons 10 c cs n
      rw [show '0'.toNat = 48 by decide] at hcons
      exact (ih _).trans hcons.symm

theorem numeralFrom_append (n : Nat) (as bs : List Char) :
    numeralFrom n (as ++ bs) = numeralFrom (numeralFrom n as) bs := by
  simp only [numeralFrom_eq, Nat.ofDigitChars_append]

/-- Zeros behind a numeral multiply its value by powers of ten. -/
theorem numeralFrom_zeros (n k : Nat) : numeralFrom n (List.replicate k '0') = n * 10 ^ k := by
  rw [numeralFrom_eq, Nat.ofDigitChars_replicate_zero, Nat.mul_comm]

theorem numeral?_eq_some_iff {cs : List Char} {n : Nat} :
    numeral? cs = some n ↔ cs ≠ [] ∧ (∀ c ∈ cs, isDigit c = true) ∧ numeralFrom 0 cs = n := by
  unfold numeral?
  cases cs with
  | nil => simp
  | cons c cs => simp [and_assoc]

/-! ## Written numbers -/

theorem isDigit_of_mem_decimal {n : Nat} {c : Char} (h : c ∈ decimal n) : isDigit c = true := by
  have hdigit : c.isDigit = true := Nat.isDigit_of_mem_toDigits (by decide) (by decide) h
  unfold Char.isDigit at hdigit
  simp only [Bool.and_eq_true, decide_eq_true_eq, ge_iff_le, UInt32.le_iff_toNat_le] at hdigit
  rw [isDigit, Bool.and_eq_true, decide_eq_true_eq, decide_eq_true_eq]
  exact hdigit

theorem decimal_ne_nil (n : Nat) : decimal n ≠ [] := Nat.toDigits_ne_nil

theorem numeralFrom_decimal (n : Nat) : numeralFrom 0 (decimal n) = n := by
  rw [numeralFrom_eq]
  exact Nat.ofDigitChars_ten_toDigits

theorem numeral?_decimal (n : Nat) : numeral? (decimal n) = some n :=
  numeral?_eq_some_iff.mpr
    ⟨decimal_ne_nil n, fun _ hc => isDigit_of_mem_decimal hc, numeralFrom_decimal n⟩

theorem length_decimal_le {n k : Nat} (hk : 0 < k) (h : n < 10 ^ k) : (decimal n).length ≤ k :=
  (Nat.length_toDigits_le_iff (by decide) hk).mpr h

/-! ## Written numbers of a width -/

theorem isDigit_zero : isDigit '0' = true := by decide

theorem isDigit_of_mem_paddedDecimal {width n : Nat} {c : Char} (h : c ∈ paddedDecimal width n) :
    isDigit c = true := by
  rcases List.mem_append.mp h with hc | hc
  · rw [List.eq_of_mem_replicate hc]
    exact isDigit_zero
  · exact isDigit_of_mem_decimal hc

theorem paddedDecimal_ne_nil (width n : Nat) : paddedDecimal width n ≠ [] := by
  intro h
  exact decimal_ne_nil n (List.append_eq_nil_iff.mp h).2

theorem numeralFrom_paddedDecimal (width n : Nat) : numeralFrom 0 (paddedDecimal width n) = n := by
  rw [paddedDecimal, numeralFrom_append, numeralFrom_zeros, Nat.zero_mul, numeralFrom_decimal]

theorem numeral?_paddedDecimal (width n : Nat) : numeral? (paddedDecimal width n) = some n :=
  numeral?_eq_some_iff.mpr ⟨paddedDecimal_ne_nil width n,
    fun _ hc => isDigit_of_mem_paddedDecimal hc, numeralFrom_paddedDecimal width n⟩

theorem length_paddedDecimal {width n : Nat} (hwidth : 0 < width) (h : n < 10 ^ width) :
    (paddedDecimal width n).length = width := by
  have hle := length_decimal_le hwidth h
  rw [paddedDecimal, List.length_append, List.length_replicate]
  omega

/-! ## Zeros at the end -/

/-- A run without the zeros at its end. -/
def dropZeros (cs : List Char) : List Char := (cs.reverse.dropWhile (· = '0')).reverse

/-- A run is what is left of it and the zeros that were dropped. -/
theorem dropZeros_append (cs : List Char) :
    cs = dropZeros cs ++ List.replicate (cs.length - (dropZeros cs).length) '0' := by
  have hsplit := List.takeWhile_append_dropWhile (p := fun c => decide (c = '0')) (l := cs.reverse)
  have hzeros : ∀ c ∈ cs.reverse.takeWhile (· = '0'), c = '0' := by
    intro c hc
    simpa using of_mem_takeWhile c hc
  have hrun := List.eq_replicate_of_mem hzeros
  have hparts : cs = dropZeros cs ++ (cs.reverse.takeWhile (· = '0')).reverse := by
    rw [dropZeros, ← List.reverse_append, hsplit, List.reverse_reverse]
  have hlength := congrArg List.length hparts
  rw [List.length_append, List.length_reverse] at hlength
  rw [hrun, List.reverse_replicate] at hparts
  have hcount : cs.length - (dropZeros cs).length =
      (cs.reverse.takeWhile (· = '0')).length := by omega
  rw [hcount]
  exact hparts

theorem mem_of_mem_dropZeros {cs : List Char} {c : Char} (h : c ∈ dropZeros cs) : c ∈ cs := by
  rw [dropZeros_append cs]
  exact List.mem_append_left _ h

/-- The value of a run is that of what is left of it, in larger units. -/
theorem numeralFrom_dropZeros (cs : List Char) :
    numeralFrom 0 cs = numeralFrom 0 (dropZeros cs) * 10 ^ (cs.length - (dropZeros cs).length) := by
  rw [← numeralFrom_zeros, ← numeralFrom_append, ← dropZeros_append]

/-- What is left of a run does not end in a zero. -/
theorem getLast?_dropZeros (cs : List Char) : ∀ c ∈ (dropZeros cs).getLast?, c ≠ '0' := by
  intro c hc
  rw [dropZeros, List.getLast?_reverse] at hc
  simpa using head?_dropWhile_eq_false c hc

end Text

end RecordQuery
