import RecordQuery.Proofs.Config.Fields
import RecordQuery.Proofs.Query.Sorting
import RecordQuery.Proofs.Query.Typing

/-!
# Sorting and the ordering operators

A sort clause orders records by keys, and the operators `<` and `>` compare the values themselves.
For whole numbers and durations both are one order.  For binary64 numbers they differ: as values the
two zeros are equal and NaN has no order, while as keys each of them has a place of its own.  But a
number that is less than another one has the smaller key, so the difference never shows as an
inversion: in a sorted list no value is less than an earlier one, and in descending order none is
greater.
-/

namespace RecordQuery

/-! ## Values and keys -/

/-- A number on the left of another one stands on the left of it in the order of all words too. -/
theorem Binary64.totalPlace_lt {x y : Binary64} (h : x.place < y.place) :
    x.totalPlace < y.totalPlace := by
  unfold place at h
  unfold totalPlace
  by_cases hx : x.isNegative = true
  · rw [if_pos hx] at h ⊢
    split
    · rename_i hy
      rw [if_pos hy] at h
      omega
    · omega
  · rw [if_neg hx] at h ⊢
    split
    · rename_i hy
      rw [if_pos hy] at h
      omega
    · rename_i hy
      rw [if_neg hy] at h
      exact h

/-- **The order of numbers is part of the order of words.** -/
theorem Binary64.totalCompare_of_compare? {x y : Binary64} {o : Ordering}
    (h : x.compare? y = some o) (hne : o ≠ .eq) : x.totalCompare y = o := by
  unfold compare? at h
  split at h
  · cases h
  · have hplace := Option.some.inj h
    unfold totalCompare
    cases o with
    | lt => exact Int.compare_eq_lt.mpr (totalPlace_lt (Int.compare_eq_lt.mp hplace))
    | eq => exact absurd rfl hne
    | gt => exact Int.compare_eq_gt.mpr (totalPlace_lt (Int.compare_eq_gt.mp hplace))

namespace SortKey

variable {variants : List String}

/-- **Keys are ordered as values are**, where values differ in their order. -/
theorem compare_of_order? {v w : Value} {o : Ordering} (h : v.order? w = some o) (hne : o ≠ .eq) :
    (ofValue variants v).compare (ofValue variants w) = o := by
  cases v with
  | integer a =>
      cases w with
      | integer b => exact Option.some.inj h
      | _ => cases h
  | float x =>
      cases w with
      | float y => exact Binary64.totalCompare_of_compare? h hne
      | _ => cases h
  | duration d =>
      cases w with
      | duration e => exact Option.some.inj h
      | _ => cases h
  | _ => cases h

/-- Whole numbers and durations have the order of their keys. -/
theorem order?_eq_compare {v w : Value} (hclass : v.typeClass? = w.typeClass?)
    (hexact : v.typeClass? = some .int ∨ v.typeClass? = some .duration) :
    v.order? w = some ((ofValue variants v).compare (ofValue variants w)) := by
  cases v with
  | integer a =>
      cases w with
      | integer b => rfl
      | _ => cases hclass
  | duration d =>
      cases w with
      | duration e => rfl
      | _ => cases hclass
  | _ => simp [Value.typeClass?] at hexact

end SortKey

/-! ## Sorted records -/

/-- The operator that a later value must not satisfy against an earlier one. -/
def SortDirection.inversion : SortDirection → Operator
  | ascending => .lessThan
  | descending => .greaterThan

variable {ρ α : Type}

/-- Records that may stand one before the other show no inversion. -/
theorem SortClause.holds_inversion {s : SortClause ρ} {a b : ρ}
    (h : (s.keyOrder a b).isLE = true) :
    s.direction.inversion.holds (s.field.read b) (s.field.read a) = false := by
  unfold keyOrder at h
  rw [← Bool.not_eq_true]
  cases hdirection : s.direction with
  | ascending =>
      simp only [hdirection] at h
      intro hless
      have hkeys : (s.key b).compare (s.key a) = .lt :=
        SortKey.compare_of_order? (of_decide_eq_true hless) (by decide)
      rw [SortKey.compare_swap, hkeys] at h
      cases h
  | descending =>
      simp only [hdirection] at h
      intro hgreater
      have hkeys : (s.key b).compare (s.key a) = .gt :=
        SortKey.compare_of_order? (of_decide_eq_true hgreater) (by decide)
      rw [hkeys] at h
      cases h

/-- **Sorting never shows an inversion.**  In what a query with a sort clause selects, no later
value of the field is less than an earlier one, or greater if the direction is descending: two
values of which one is less have keys in the same order, and whole numbers and durations have the
order of their keys. -/
theorem Query.select_no_inversion {q : Query ρ} {s : SortClause ρ} (hsort : q.sort = some s)
    (view : α → ρ) (items : List α) :
    ((q.select view items).Pairwise fun earlier later =>
      s.direction.inversion.holds (s.field.read (view later)) (s.field.read (view earlier)) =
        false) ∧
    (∀ (variants : List String) (v w : Value) (o : Ordering), v.order? w = some o → o ≠ .eq →
      (SortKey.ofValue variants v).compare (SortKey.ofValue variants w) = o) ∧
    ∀ (variants : List String) (v w : Value), v.typeClass? = w.typeClass? →
      v.typeClass? = some .int ∨ v.typeClass? = some .duration →
      v.order? w = some ((SortKey.ofValue variants v).compare (SortKey.ofValue variants w)) := by
  refine ⟨?_, ?_, ?_⟩
  · apply (arranges_select hsort view items).ordered.imp
    intro a b hab
    exact s.holds_inversion hab
  · intro variants v w o horder hne
    exact SortKey.compare_of_order? horder hne
  · intro variants v w hclass hexact
    exact SortKey.order?_eq_compare hclass hexact

/-! ## Songs by rating -/

namespace Ratings

def rating : FieldConfig := ⟨"rating", none, .float, [], true, true⟩

def schema : Schema Json := ⟨"song", [rating.field], none⟩

def byRating : SortClause Json := ⟨rating.field, .ascending⟩

def query : Query Json := ⟨[], some byRating⟩

/-- Infinite, negative, missing and zero ratings, and two that are no numbers. -/
def records : List Json :=
  [.object [("rating", .string "inf")], .object [("rating", .string "nan")],
    .object [("rating", .string "0")], .object [("rating", .string "-0")],
    .object [("rating", .string "-nan")], .object [("rating", .string "-1.5")], .object []]

theorem parse_text : Query.parse schema "orderby rating" = .ok query := by
  have htokens : Lexed.ofText "orderby rating" = ⟨[.word "orderby", .word "rating"], none⟩ := by
    cbv
  exact Query.parse_eq_ok_iff.mpr ⟨_, htokens, rfl⟩

end Ratings

theorem select_no_inversion_ratings :
    Query.parse Ratings.schema "orderby rating" = .ok Ratings.query ∧
    ((Ratings.query.apply Ratings.records).Pairwise fun earlier later =>
      Operator.lessThan.holds (Ratings.rating.read later) (Ratings.rating.read earlier) = false) ∧
    (SortKey.float (.infinity true)).compare (.float .zero) = .lt ∧
    (Value.integer 5).order? (.integer 3) =
      some ((SortKey.integer 5).compare (.integer 3)) := by
  have hsort : Ratings.query.sort = some Ratings.byRating := rfl
  obtain ⟨hpairs, hkeys, hexact⟩ := Query.select_no_inversion hsort id Ratings.records
  have horder : (Value.float (.infinity true)).order? (.float .zero) = some .lt := by decide
  exact ⟨Ratings.parse_text, hpairs, hkeys [] _ _ .lt horder (by decide),
    hexact [] (.integer 5) (.integer 3) rfl (.inl rfl)⟩

end RecordQuery
