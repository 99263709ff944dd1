import RecordQuery.Proofs.Sql.Meaning
import RecordQuery.Proofs.Value.Matching
import RecordQuery.Value

/-!
# Texts in SQL

The patterns of queries are made of an escaped text and percent signs around it.  The escaped text
matches itself and nothing else, whatever stands in it, so a pattern is matched by the texts that
start with the text, end with it or contain it.  All of this is about the relation `LikeMatches`;
`likeMatches` decides it by recursion on the pattern.

The behaviour that conditions rely on can be had: `Engine.reference` is a database that has it.  Its
patterns are decided by recursion, its numbers are compared by value and its texts by their
characters.

Where the part is the text of another column, SQL answers with numbers how it lies in a text: with
the place where the part first stands, and with a count of characters at the end.  `Engine.Measures`
says what these numbers are, and the last lemmas what they tell about prefixes, suffixes and parts.
-/

namespace RecordQuery.Sql

/-! ## Taking patterns apart -/

theorem LikeMatches.any_iff {pattern text : List Char} :
    LikeMatches ('%' :: pattern) text ↔
      ∃ skipped rest, text = skipped ++ rest ∧ LikeMatches pattern rest := by
  constructor
  · intro h
    cases h with
    | any hrest => exact ⟨_, _, rfl, hrest⟩
    | plain hpercent _ _ _ => exact absurd rfl hpercent
  · rintro ⟨skipped, rest, rfl, hrest⟩
    exact .any hrest

theorem LikeMatches.one_iff {pattern text : List Char} :
    LikeMatches ('_' :: pattern) text ↔ ∃ c rest, text = c :: rest ∧ LikeMatches pattern rest := by
  constructor
  · intro h
    cases h with
    | one hrest => exact ⟨_, _, rfl, hrest⟩
    | plain _ hunderscore _ _ => exact absurd rfl hunderscore
  · rintro ⟨c, rest, rfl, hrest⟩
    exact .one hrest

theorem LikeMatches.escaped_iff {c : Char} {pattern text : List Char} :
    LikeMatches ('\\' :: c :: pattern) text ↔
      ∃ rest, text = c :: rest ∧ LikeMatches pattern rest := by
  constructor
  · intro h
    cases h with
    | escaped hrest => exact ⟨_, rfl, hrest⟩
    | plain _ _ hbackslash _ => exact absurd rfl hbackslash
  · rintro ⟨rest, rfl, hrest⟩
    exact .escaped hrest

theorem LikeMatches.plain_iff {c : Char} {pattern text : List Char}
    (hc : isPatternChar c = false) :
    LikeMatches (c :: pattern) text ↔ ∃ rest, text = c :: rest ∧ LikeMatches pattern rest := by
  obtain ⟨⟨hpercent, hunderscore⟩, hbackslash⟩ : (c ≠ '%' ∧ c ≠ '_') ∧ c ≠ '\\' := by
    simpa [isPatternChar] using hc
  constructor
  · intro h
    cases h with
    | any _ => exact absurd rfl hpercent
    | one _ => exact absurd rfl hunderscore
    | escaped _ => exact absurd rfl hbackslash
    | plain _ _ _ hrest => exact ⟨_, rfl, hrest⟩
  · rintro ⟨rest, rfl, hrest⟩
    exact .plain hpercent hunderscore hbackslash hrest

theorem LikeMatches.nil_iff {text : List Char} : LikeMatches [] text ↔ text = [] := by
  constructor
  · intro h
    cases h
    rfl
  · rintro rfl
    exact .nil

/-! ## Escaped texts -/

/-- The pattern that a text alone matches. -/
def escapedPattern (t : List Char) : List Char :=
  t.flatMap fun c => if isPatternChar c then ['\\', c] else [c]

/-- An escaped text is matched by the text itself, and what follows it goes on behind that. -/
theorem likeMatches_escaped_append (t pattern text : List Char) :
    LikeMatches (escapedPattern t ++ pattern) text ↔
      ∃ rest, text = t ++ rest ∧ LikeMatches pattern rest := by
  induction t generalizing text with
  | nil => simp [escapedPattern]
  | cons c t ih =>
      have hhead : LikeMatches (escapedPattern (c :: t) ++ pattern) text ↔
          ∃ rest, text = c :: rest ∧ LikeMatches (escapedPattern t ++ pattern) rest := by
        cases hc : isPatternChar c with
        | true => simpa [escapedPattern, hc] using LikeMatches.escaped_iff
        | false => simpa [escapedPattern, hc] using LikeMatches.plain_iff hc
      rw [hhead]
      constructor
      · rintro ⟨rest, rfl, hrest⟩
        obtain ⟨behind, rfl, hbehind⟩ := (ih _).mp hrest
        exact ⟨behind, rfl, hbehind⟩
      · rintro ⟨rest, rfl, hrest⟩
        exact ⟨t ++ rest, rfl, (ih _).mpr ⟨rest, rfl, hrest⟩⟩

/-- The last percent sign of a pattern takes whatever is left. -/
theorem likeMatches_percent (text : List Char) : LikeMatches ['%'] text := by
  have h : LikeMatches ['%'] (text ++ []) := .any .nil
  rwa [List.append_nil] at h

theorem likeMatches_start_iff (t text : List Char) :
    LikeMatches (escapedPattern t ++ ['%']) text ↔ t <+: text := by
  rw [likeMatches_escaped_append]
  constructor
  · rintro ⟨rest, rfl, -⟩
    exact List.prefix_append t rest
  · rintro ⟨rest, rfl⟩
    exact ⟨rest, rfl, likeMatches_percent rest⟩

theorem likeMatches_end_iff (t text : List Char) :
    LikeMatches ('%' :: escapedPattern t) text ↔ t <:+ text := by
  have hwhole (rest : List Char) : LikeMatches (escapedPattern t) rest ↔ rest = t := by
    have happ := likeMatches_escaped_append t [] rest
    simpa [LikeMatches.nil_iff] using happ
  rw [LikeMatches.any_iff]
  constructor
  · rintro ⟨skipped, rest, rfl, hrest⟩
    obtain rfl := (hwhole rest).mp hrest
    exact List.suffix_append skipped rest
  · rintro ⟨skipped, rfl⟩
    exact ⟨skipped, t, rfl, (hwhole t).mpr rfl⟩

theorem likeMatches_part_iff (t text : List Char) :
    LikeMatches ('%' :: escapedPattern t ++ ['%']) text ↔ t <:+: text := by
  rw [List.cons_append, LikeMatches.any_iff]
  constructor
  · rintro ⟨skipped, rest, rfl, hrest⟩
    obtain ⟨rest, rfl⟩ := (likeMatches_start_iff t rest).mp hrest
    exact ⟨skipped, rest, by simp⟩
  · rintro ⟨skipped, rest, rfl⟩
    exact ⟨skipped, t ++ rest, by simp, (likeMatches_start_iff t _).mpr (List.prefix_append t rest)⟩

/-! ## Escapes in patterns -/

theorem escapesComplete_append (t : List Char) {pattern : List Char}
    (h : EscapesComplete pattern) : EscapesComplete (escapedPattern t ++ pattern) := by
  induction t with
  | nil => exact h
  | cons c t ih =>
      cases hc : isPatternChar c with
      | true => simpa [escapedPattern, hc] using EscapesComplete.escaped ih
      | false =>
          have hback : c ≠ '\\' := by
            rintro rfl
            cases hc
          simpa [escapedPattern, hc] using EscapesComplete.plain hback ih

theorem escapesComplete_percent {pattern : List Char} (h : EscapesComplete pattern) :
    EscapesComplete ('%' :: pattern) :=
  .plain (by decide) h

/-! ## Deciding patterns -/

/-- Whether a text has the form of a pattern. -/
def likeMatches : List Char → List Char → Bool
  | [], text => text.isEmpty
  | '%' :: pattern, text =>
    (List.range (text.length + 1)).any fun n => likeMatches pattern (text.drop n)
  | '_' :: pattern, text =>
    match text with
    | [] => false
    | _ :: rest => likeMatches pattern rest
  | ['\\'], _ => false
  | '\\' :: c :: pattern, text =>
    match text with
    | [] => false
    | d :: rest => c = d && likeMatches pattern rest
  | c :: pattern, text =>
    match text with
    | [] => false
    | d :: rest => c = d && likeMatches pattern rest

/-- A backslash at the end of a pattern matches nothing. -/
theorem not_likeMatches_backslash (text : List Char) : ¬ LikeMatches ['\\'] text := by
  intro h
  cases h with
  | plain _ _ hbackslash _ => exact hbackslash rfl

/-- A character at which the other rules for patterns fail has no meaning of its own. -/
private theorem isPatternChar_eq_false {c : Char} {pattern : List Char} (hpercent : c ≠ '%')
    (hunderscore : c ≠ '_') (hlast : c = '\\' → pattern ≠ [])
    (hback : ∀ d rest, c = '\\' → pattern ≠ d :: rest) : isPatternChar c = false := by
  have hbackslash : c ≠ '\\' := by
    intro hc
    cases pattern with
    | nil => exact hlast hc rfl
    | cons d rest => exact hback d rest hc rfl
  simp [isPatternChar, hpercent, hunderscore, hbackslash]

theorem likeMatches_iff (pattern text : List Char) :
    likeMatches pattern text = true ↔ LikeMatches pattern text := by
  fun_induction likeMatches pattern text with
  | case1 text => simp [LikeMatches.nil_iff]
  | case2 pattern text ih =>
      rw [LikeMatches.any_iff, List.any_eq_true]
      constructor
      · rintro ⟨n, -, hmatch⟩
        exact ⟨text.take n, text.drop n, (List.take_append_drop n text).symm, (ih n).mp hmatch⟩
      · rintro ⟨skipped, rest, rfl, hmatch⟩
        have hlength : skipped.length ∈ List.range ((skipped ++ rest).length + 1) := by
          rw [List.mem_range, List.length_append]
          omega
        refine ⟨skipped.length, hlength, (ih skipped.length).mpr ?_⟩
        rwa [List.drop_left]
  | case3 pattern => simp [LikeMatches.one_iff]
  | case4 pattern d rest ih =>
      rw [ih, LikeMatches.one_iff]
      constructor
      · exact fun h => ⟨d, rest, rfl, h⟩
      · rintro ⟨_, _, heq, h⟩
        cases heq
        exact h
  | case5 text => simp [not_likeMatches_backslash]
  | case6 c pattern =>
      rw [LikeMatches.escaped_iff]
      simp
  | case7 c pattern d rest ih =>
      rw [Bool.and_eq_true, decide_eq_true_iff, ih, LikeMatches.escaped_iff]
      constructor
      · rintro ⟨rfl, h⟩
        exact ⟨rest, rfl, h⟩
      · rintro ⟨_, heq, h⟩
        cases heq
        exact ⟨rfl, h⟩
  | case8 c pattern hpercent hunderscore hlast hback =>
      have hc : isPatternChar c = false := isPatternChar_eq_false hpercent hunderscore hlast hback
      rw [LikeMatches.plain_iff hc]
      simp
  | case9 c pattern hpercent hunderscore hlast hback d rest ih =>
      have hc : isPatternChar c = false := isPatternChar_eq_false hpercent hunderscore hlast hback
      rw [Bool.and_eq_true, decide_eq_true_iff, ih, LikeMatches.plain_iff hc]
      constructor
      · rintro ⟨rfl, h⟩
        exact ⟨rest, rfl, h⟩
      · rintro ⟨_, heq, h⟩
        cases heq
        exact ⟨rfl, h⟩

/-! ## A standard database -/

namespace Engine

/-- The place of the first occurrence of a text in another one, counted from 1, and 0 if there is
none. -/
def firstPlace (part text : List Char) : Nat :=
  match (List.range (text.length + 1)).find? fun n => part.isPrefixOf (text.drop n) with
  | some n => n + 1
  | none => 0

/-- The last `count` characters of a text; a negative `count` counts those that are left out. -/
def lastChars (text : List Char) (count : Int) : List Char :=
  if 0 ≤ count then text.drop (text.length - count.toNat) else text.drop count.natAbs

/-- The order of two values of one kind; values of different kinds have none. -/
def order? : Datum → Datum → Option Ordering
  | .integer a, .integer b => some (compare a b)
  | .double x, .double y => some (compare x.units y.units)
  | .text s, .text t => some (compare s t)
  | _, _ => none

/-- A database. -/
def reference : Engine where
  lower := Text.lower
  like s pattern := likeMatches pattern.toList s.toList
  length s := s.length
  position s part := firstPlace part.toList s.toList
  right s count := String.ofList (lastChars s.toList count)
  related relation a b := (order? a b).any relation.admits

theorem reference_standard : reference.Standard where
  lower_eq _ := rfl
  like_iff s pattern _ := likeMatches_iff pattern.toList s.toList
  related_integer _ _ _ := rfl
  related_double _ _ _ _ _ := rfl
  related_text s t := by
    show decide (compare s t = .eq) = decide (s = t)
    rw [decide_eq_decide, Std.compare_eq_iff_eq]

end Engine

/-! ## Functions on texts -/

/-- The part first stands at the place, counted from 1; the place of a part that does not stand in
the text is 0. -/
def IsFirstPlace (text part : List Char) (place : Int) : Prop :=
  (place = 0 ∧ ¬ part <:+: text) ∨
    ∃ front back, text = front ++ part ++ back ∧ place = front.length + 1 ∧
      ∀ front' back', text = front' ++ part ++ back' → front.length ≤ front'.length

/-- A standard database whose functions on texts count characters. -/
structure Engine.Measures (engine : Engine) : Prop extends engine.Standard where
  length_eq : ∀ s, engine.length s = s.toList.length
  position_first : ∀ s part, IsFirstPlace s.toList part.toList (engine.position s part)
  right_eq : ∀ (s : String) (count : Nat),
    (engine.right s count).toList = s.toList.drop (s.toList.length - count)

/-! ## Places -/

namespace IsFirstPlace

variable {text part : List Char} {place : Int}

/-- A place is positive if the part stands somewhere. -/
theorem pos_iff (h : IsFirstPlace text part place) : 0 < place ↔ part <:+: text := by
  rcases h with ⟨rfl, habsent⟩ | ⟨front, back, rfl, rfl, -⟩
  · exact iff_of_false (by omega) habsent
  · exact iff_of_true (by omega) (List.infix_append front part back)

/-- The place is 1 if the part stands at the beginning. -/
theorem eq_one_iff (h : IsFirstPlace text part place) : place = 1 ↔ part <+: text := by
  rcases h with ⟨rfl, habsent⟩ | ⟨front, back, rfl, rfl, hfirst⟩
  · exact iff_of_false (by omega) fun hstart => habsent hstart.isInfix
  · constructor
    · intro hplace
      obtain rfl : front = [] := List.eq_nil_of_length_eq_zero (by omega)
      exact List.prefix_append part back
    · rintro ⟨rest, hrest⟩
      have hle : front.length ≤ 0 := hfirst [] rest hrest.symm
      omega

end IsFirstPlace

/-- A part that the rest of a text starts with stands in the text. -/
theorem eq_append_of_prefix_drop {text part : List Char} {n : Nat} (h : part <+: text.drop n) :
    ∃ back, text = text.take n ++ part ++ back := by
  obtain ⟨back, hback⟩ := h
  exact ⟨back, by rw [List.append_assoc, hback, List.take_append_drop]⟩

/-- What follows the front of a text starts with the part behind that. -/
theorem isPrefixOf_drop_front (front part back : List Char) :
    part.isPrefixOf ((front ++ part ++ back).drop front.length) = true := by
  rw [List.append_assoc, List.drop_left, List.isPrefixOf_iff_prefix]
  exact List.prefix_append part back

theorem isFirstPlace_firstPlace (text part : List Char) :
    IsFirstPlace text part (Engine.firstPlace part text) := by
  unfold Engine.firstPlace
  split
  · rename_i n hfind
    obtain ⟨hstart, hrange, hfirst⟩ := List.find?_range_eq_some.mp hfind
    obtain ⟨back, hback⟩ := eq_append_of_prefix_drop (List.isPrefixOf_iff_prefix.mp hstart)
    have hlength : (text.take n).length = n := by
      rw [List.length_take]
      have := List.mem_range.mp hrange
      omega
    refine .inr ⟨text.take n, back, hback, by rw [hlength]; rfl, ?_⟩
    rintro front' back' rfl
    rw [hlength]
    apply Nat.le_of_not_lt
    intro hlt
    have hnot := hfirst front'.length hlt
    rw [isPrefixOf_drop_front] at hnot
    cases hnot
  · rename_i hfind
    refine .inl ⟨rfl, ?_⟩
    rintro ⟨front, back, rfl⟩
    have hlt : front.length < (front ++ part ++ back).length + 1 := by
      rw [List.length_append, List.length_append]
      omega
    have hnone := List.find?_range_eq_none.mp hfind front.length hlt
    rw [isPrefixOf_drop_front] at hnone
    cases hnone

/-! ## Last characters -/

/-- As many last characters as the part has are the part if the text ends with it. -/
theorem drop_eq_iff_suffix (text part : List Char) :
    text.drop (text.length - part.length) = part ↔ part <:+ text := by
  rw [List.suffix_iff_eq_drop, eq_comm]

/-- Fewer last characters than the part has are never the part. -/
theorem drop_ne_of_lt {text part : List Char} {count : Nat} (h : count < part.length) :
    text.drop (text.length - count) ≠ part := by
  rintro rfl
  rw [List.length_drop] at h
  omega

/-- The reference database counts characters. -/
theorem Engine.reference_measures : Engine.reference.Measures where
  toStandard := reference_standard
  length_eq _ := rfl
  position_first s part := isFirstPlace_firstPlace s.toList part.toList
  right_eq s count := by
    have hcount : (0 : Int) ≤ count := Int.natCast_nonneg count
    show (String.ofList (lastChars s.toList count)).toList = _
    rw [String.toList_ofList, lastChars, if_pos hcount, Int.toNat_natCast]

/-! ## Tests of texts -/

namespace Engine.Measures

variable {engine : Engine}

/-- The first place is 1 if the text starts with the part. -/
theorem related_start (h : engine.Measures) (s part : String) :
    engine.related .eq (.integer (engine.position s part)) (.integer 1) =
      part.toList.isPrefixOf s.toList := by
  rw [h.related_integer, Relation.admits, Bool.eq_iff_iff, decide_eq_true_iff, Int.compare_eq_eq,
    List.isPrefixOf_iff_prefix]
  exact (h.position_first s part).eq_one_iff

/-- The first place is larger than 0 if the text contains the part. -/
theorem related_part (h : engine.Measures) (s part : String) :
    engine.related .gt (.integer (engine.position s part)) (.integer 0) =
      occursIn part.toList s.toList := by
  rw [h.related_integer, Relation.admits, Bool.eq_iff_iff, decide_eq_true_iff, Int.compare_eq_gt,
    occursIn_iff]
  exact (h.position_first s part).pos_iff

/-- Some last characters of a text are a part that is at least as long if they are just as many and
the text ends with the part. -/
theorem right_eq_iff (h : engine.Measures) (s : String) {part : String} {count : Nat}
    (hle : count ≤ part.toList.length) :
    engine.right s count = part ↔ count = part.toList.length ∧ part.toList <:+ s.toList := by
  rw [← String.toList_inj, h.right_eq]
  rcases Nat.lt_or_eq_of_le hle with hlt | rfl
  · exact iff_of_false (drop_ne_of_lt hlt) fun ⟨heq, _⟩ => by omega
  · rw [drop_eq_iff_suffix, eq_self, true_and]

end Engine.Measures

end RecordQuery.Sql
