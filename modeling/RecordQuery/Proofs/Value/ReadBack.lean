import RecordQuery.Proofs.Binary64.ReadBack
import RecordQuery.Proofs.Duration.ReadBack
import RecordQuery.Proofs.Token.Concatenation
import RecordQuery.Proofs.Value.SortKey
import RecordQuery.Value

/-!
# Values read back

The text of a value is one literal of the lexer, whatever may follow it in a query text, and the
literal names the value again.  A number that begins with a digit stands bare; everything else
stands between quotes, where nothing but the escapes of a text needs decoding.  As for numbers, the
sign of NaN is lost.
-/

namespace RecordQuery

open Text

/-! ## Literals -/

theorem quotedBody_of_plain {cs : List Char} (h : ∀ c ∈ cs, c ≠ '\'' ∧ c ≠ '\\') :
    QuotedBody '\'' cs cs := by
  induction cs with
  | nil => exact .nil
  | cons c cs ih =>
      obtain ⟨hquote, hback⟩ := h c (by simp)
      exact .plain hquote hback (ih fun d hd => h d (List.mem_cons_of_mem c hd))

/-- What may follow a literal in a canonical text: nothing, a blank or a separator of groups. -/
def EndsLiteral (rest : List Char) : Prop := ∀ c ∈ rest.head?, c = ' ' ∨ c = ','

/-- A text that can be written as a number: it is one of the lexer, or it does not begin with a
digit and needs no escapes. -/
def IsNumberText (cs : List Char) : Prop :=
  IsNumeral cs ∨ (∀ c ∈ cs.head?, isDigit c = false) ∧ ∀ c ∈ cs, c ≠ '\'' ∧ c ≠ '\\'

theorem spells_quoted {source value : List Char} (h : QuotedBody '\'' source value)
    (rest : List Char) :
    Spells ('\'' :: source ++ ['\'']) (.literal (String.ofList value)) rest :=
  .quoted (by decide) h

theorem spells_numberChars {cs rest : List Char} (h : IsNumberText cs) (hrest : EndsLiteral rest) :
    Spells (Value.numberChars cs) (.literal (String.ofList cs)) rest := by
  unfold Value.numberChars
  rcases h with hnumeral | ⟨hhead, hplain⟩
  · obtain ⟨c, ds, rfl, hc, hds⟩ := hnumeral
    rw [if_pos (by simp [hc])]
    apply Spells.number ⟨c, ds, rfl, hc, hds⟩
    intro d hd
    rcases hrest d hd with rfl | rfl
    · decide
    · decide
  · have hfalse : cs.head?.any isDigit = false := by
      cases hcs : cs.head? with
      | none => rfl
      | some c => simpa using hhead c hcs
    rw [hfalse, if_neg (by decide)]
    exact spells_quoted (quotedBody_of_plain hplain) rest

theorem plain_of_isDigit {c : Char} (h : isDigit c = true) : c ≠ '\'' ∧ c ≠ '\\' := by
  constructor
  · rintro rfl
    exact absurd h (by decide)
  · rintro rfl
    exact absurd h (by decide)

/-- A number of the lexer needs no escapes. -/
theorem plain_of_isNumeral {cs : List Char} (h : IsNumeral cs) : ∀ c ∈ cs, c ≠ '\'' ∧ c ≠ '\\' := by
  obtain ⟨c, cs, rfl, hc, hcs, -⟩ := h
  intro d hd
  rcases List.mem_cons.mp hd with rfl | hd
  · exact plain_of_isDigit hc
  · rcases hcs d hd with hdigit | rfl
    · exact plain_of_isDigit hdigit
    · decide

/-! ## Whole numbers -/

theorem isNumeral_decimal (n : Nat) : IsNumeral (decimal n) :=
  (Binary64.Positional.whole (decimal_ne_nil n) fun _ hc => isDigit_of_mem_decimal hc).isNumeral

theorem isNumberText_minus {cs : List Char} (h : ∀ c ∈ cs, c ≠ '\'' ∧ c ≠ '\\') :
    IsNumberText ('-' :: cs) := by
  right
  constructor
  · intro c hc
    rw [← Option.some.inj hc]
    decide
  · exact List.forall_mem_cons.mpr ⟨by decide, h⟩

theorem isNumberText_integerDigits (n : Int) : IsNumberText (Value.integerDigits n) := by
  unfold Value.integerDigits
  split
  · exact isNumberText_minus (plain_of_isNumeral (isNumeral_decimal _))
  · exact .inl (isNumeral_decimal _)

theorem parseInteger?_of_splitSign {cs digits : List Char} {negative : Bool} {n : Nat}
    (hsplit : Binary64.splitSign cs = (negative, digits)) (hn : numeral? digits = some n) :
    parseInteger? cs = int64? (if negative then -(n : Int) else n) := by
  rw [parseInteger?, hsplit]
  simp only [hn, Option.bind_some]

theorem int64?_toInt (n : Int64) : int64? n.toInt = some n := by
  have hlow := n.le_toInt
  have hhigh := n.toInt_lt
  rw [int64?, if_pos ⟨hlow, hhigh⟩, Int64.ofInt_toInt]

theorem parseInteger?_integerDigits (n : Int64) :
    parseInteger? (Value.integerDigits n.toInt) = some n := by
  have hself := int64?_toInt n
  unfold Value.integerDigits
  by_cases hnegative : n.toInt < 0
  · have habs : -(n.toInt.natAbs : Int) = n.toInt := by omega
    rw [if_pos hnegative, List.singleton_append,
      parseInteger?_of_splitSign (Binary64.splitSign_minus _) (numeral?_decimal _), if_pos rfl,
      habs, hself]
  · have habs : (n.toInt.natAbs : Int) = n.toInt := by omega
    have hsplit := Binary64.splitSign_numeral (isNumeral_decimal n.toInt.natAbs)
    rw [if_neg hnegative, List.nil_append, parseInteger?_of_splitSign hsplit (numeral?_decimal _),
      if_neg (by decide), habs, hself]

/-! ## Numbers -/

theorem isNumberText_write (x : Binary64) : IsNumberText (NumberFormat.plain.write x) := by
  cases hnan : x.isNaN with
  | true =>
      rw [Binary64.write_of_isNaN hnan]
      exact .inr (by simp [isDigit])
  | false =>
      have hbody : IsNumeral x.writtenBody ∨ x.writtenBody = ['i', 'n', 'f'] := by
        unfold Binary64.writtenBody
        by_cases hfinite : x.isFinite = true
        · have hle : x.magnitude ≤ Binary64.infinityMagnitude :=
            Nat.le_of_lt (of_decide_eq_true hfinite)
          rw [if_pos hfinite]
          exact .inl (Binary64.isNumeral_writeMagnitude hle)
        · rw [if_neg hfinite]
          exact .inr rfl
      have hplain : ∀ c ∈ x.writtenBody, c ≠ '\'' ∧ c ≠ '\\' := by
        rcases hbody with hnumeral | hinf
        · exact plain_of_isNumeral hnumeral
        · rw [hinf]
          simp
      rw [Binary64.write_of_not_isNaN hnan]
      split
      · exact isNumberText_minus hplain
      · rcases hbody with hnumeral | hinf
        · exact .inl hnumeral
        · rw [hinf]
          exact .inr (by simp [isDigit])

/-! ## Values -/

/-- The value, with the sign of NaN cleared. -/
def Value.unsignNaN : Value → Value
  | float x => float x.unsignNaN
  | v => v

theorem plain_write (d : Duration) : ∀ c ∈ d.write, c ≠ '\'' ∧ c ≠ '\\' := by
  intro c hc
  rcases Duration.mem_write hc with hdigit | rfl | rfl
  · exact plain_of_isDigit hdigit
  · decide
  · decide

/-- **A value that was read is read back from its text**, NaN without its sign. -/
theorem parseLiteral?_chars {cls : TypeClass} {variants : List String} {s : String} {v : Value}
    (h : cls.parseLiteral? variants s = some v) :
    ∃ t, (∀ rest, EndsLiteral rest → Spells v.chars (.literal t) rest) ∧
      cls.parseLiteral? variants t = some v.unsignNaN := by
  cases cls with
  | int =>
      obtain ⟨n, -, rfl⟩ := Option.map_eq_some_iff.mp h
      refine ⟨_, fun rest hrest => spells_numberChars (isNumberText_integerDigits _) hrest, ?_⟩
      rw [TypeClass.parseLiteral?, String.toList_ofList, parseInteger?_integerDigits]
      rfl
  | float =>
      obtain ⟨x, hx, rfl⟩ := Option.map_eq_some_iff.mp h
      refine ⟨_, fun rest hrest => spells_numberChars (isNumberText_write x) hrest, ?_⟩
      rw [TypeClass.parseLiteral?, String.toList_ofList,
        Binary64.parse?_write (Binary64.unsignNaN_of_parse? hx)]
      rfl
  | duration =>
      obtain ⟨d, hd, rfl⟩ := Option.map_eq_some_iff.mp h
      refine ⟨_, fun rest _ => spells_quoted (quotedBody_of_plain (plain_write d)) rest, ?_⟩
      rw [TypeClass.parseLiteral?, String.toList_ofList,
        Duration.parse?_write, if_pos (Duration.nanos_of_parse? hd)]
      rfl
  | string =>
      cases h
      refine ⟨s, ?_, rfl⟩
      intro rest _
      have hspells := spells_quoted (quotedBody_escapeChars (by decide) s.toList) rest
      rwa [String.ofList_toList] at hspells
  | enum =>
      obtain ⟨name, hname, rfl⟩ := Option.map_eq_some_iff.mp h
      refine ⟨name, ?_, ?_⟩
      · intro rest _
        have hspells := spells_quoted (quotedBody_escapeChars (by decide) name.toList) rest
        rwa [String.ofList_toList] at hspells
      · rw [TypeClass.parseLiteral?, declaredName?_self hname]
        rfl

end RecordQuery
