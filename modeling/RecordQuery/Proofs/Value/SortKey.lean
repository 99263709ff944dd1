import RecordQuery.Query.Basic
import RecordQuery.Value

/-!
# Sort keys and the places of names

Keys are compared part by part: by their kinds, then by a number, then by two texts, where a kind
that has no such part leaves it to the others.  So the keys of all kinds are in one total order, and
keys that change places change their order.  The order in which a sort clause puts two records is
that of their keys, turned round if the direction is descending; it is total as well, and a record
may stand before another one unless it comes later in this order.

The key of a name of an enum is its place among the declared names, where it is looked up without
regard to case.  A name that is read takes the spelling of its declaration, so two names with a
declared spelling differ in more than case if they differ at all, although names as they are written
need not, and a name with a declared spelling has the place where it stands.
-/

namespace RecordQuery

/-! ## The spelling of names -/

/-- A declared name is spelled as asked but for case. -/
theorem lower_of_declaredName? {variants : List String} {s name : String}
    (h : declaredName? variants s = some name) : Text.lower name = Text.lower s :=
  Value.sameText_iff.mp (by simpa [declaredName?] using List.find?_some h)

/-- A text keeps its lower-case form when it takes its declared spelling. -/
theorem lower_getD_declaredName? (variants : List String) (s : String) :
    Text.lower ((declaredName? variants s).getD s) = Text.lower s := by
  cases h : declaredName? variants s with
  | some name => exact lower_of_declaredName? h
  | none => rfl

/-- Texts that are equal but for case have the same declared name. -/
theorem declaredName?_congr (variants : List String) {s t : String}
    (h : Text.lower s = Text.lower t) : declaredName? variants s = declaredName? variants t := by
  simp only [declaredName?, Value.sameText, h]

/-- A declared name is its own declared spelling. -/
theorem declaredName?_self {variants : List String} {s name : String}
    (h : declaredName? variants s = some name) : declaredName? variants name = some name := by
  rw [declaredName?_congr variants (lower_of_declaredName? h), h]

/-- A name that a record holds equals a declared one without regard to case only if it is that
name. -/
theorem sameText_declared_iff {variants : List String} {s l declared : String}
    (hl : declaredName? variants l = some declared) :
    Value.sameText ((declaredName? variants s).getD s) declared = true ↔
      (declaredName? variants s).getD s = declared := by
  rw [Value.sameText_iff]
  constructor
  · intro h
    cases hs : declaredName? variants s with
    | some name =>
        rw [hs, Option.getD_some] at h
        have hname := declaredName?_congr variants h
        rw [declaredName?_self hs, declaredName?_self hl] at hname
        exact Option.some.inj hname
    | none =>
        -- A text without a declared spelling differs from every declared name.
        rw [hs, Option.getD_none] at h
        rw [declaredName?_congr variants h, declaredName?_self hl] at hs
        cases hs
  · intro h
    rw [h]

/-! ## Places of names -/

/-- The place of the first element with a property is that of the element which is found by it. -/
theorem findIdx_of_find? {α : Type} [DecidableEq α] {p : α → Bool} {as : List α} {a : α}
    (h : as.find? p = some a) : as.findIdx p = as.findIdx fun b => a = b := by
  induction as with
  | nil => cases h
  | cons b as ih =>
      cases hb : p b with
      | true =>
          rw [List.find?_cons_of_pos hb] at h
          obtain rfl := Option.some.inj h
          simp [List.findIdx_cons, hb]
      | false =>
          rw [List.find?_cons_of_neg (by simp [hb])] at h
          have hne : a ≠ b := by
            rintro rfl
            rw [List.find?_some h] at hb
            cases hb
          simp [List.findIdx_cons, hb, hne, ih h]

/-- **The place of a name in its declared spelling**, if it has one, is the place where it stands; a
name without one stands nowhere. -/
theorem variantIndex_spelled (variants : List String) (s : String) :
    SortKey.variantIndex variants ((declaredName? variants s).getD s) =
      variants.findIdx fun name => (declaredName? variants s).getD s = name := by
  cases hs : declaredName? variants s with
  | some name => exact findIdx_of_find? (declaredName?_self hs)
  | none =>
      have hnone : ∀ name ∈ variants, Value.sameText name s = false := by
        simpa [declaredName?] using hs
      have habsent : ∀ name ∈ variants, decide (s = name) = false := by
        intro name hname
        rw [decide_eq_false_iff_not]
        rintro rfl
        have hsame := hnone s hname
        rw [Value.sameText_iff.mpr rfl] at hsame
        cases hsame
      rw [SortKey.variantIndex, Option.getD_none, List.findIdx_eq_length_of_false hnone,
        List.findIdx_eq_length_of_false habsent]

namespace SortKey

/-! ## Keys part by part -/

/-- The number that counts first among keys of one kind; the keys of texts go by their texts
alone. -/
def number : SortKey → Int
  | null => 0
  | integer n => n.toInt
  | float x => x.totalPlace
  | duration d => d.totalNanos
  | text _ _ => 0
  | variant index _ => index

/-- The texts that count next, the first one before the second one. -/
def texts : SortKey → String × String
  | text folded exact => (folded, exact)
  | variant _ name => (name, "")
  | _ => ("", "")

/-- The order of two keys, part by part. -/
def compareParts : SortKey → SortKey → Ordering :=
  compareLex (compareOn rank) (compareLex (compareOn number)
    (compareLex (compareOn fun k => k.texts.1) (compareOn fun k => k.texts.2)))

instance : Std.TransCmp compareParts := by
  unfold compareParts
  infer_instance

theorem compare_natCast (m n : Nat) : Ord.compare (m : Int) (n : Int) = Ord.compare m n := by
  rw [Int.compare_eq_ite_lt, Nat.compare_eq_ite_lt]
  simp only [Int.ofNat_lt]

/-- Keys of different kinds go by their kinds. -/
theorem compare_of_rank_ne {k l : SortKey} (h : k.rank ≠ l.rank) :
    k.compare l = Ord.compare k.rank l.rank := by
  cases k <;> cases l <;> first | rfl | exact absurd rfl h

/-- Keys of one kind go by their numbers and then by their texts. -/
theorem compare_of_rank_eq {k l : SortKey} (h : k.rank = l.rank) :
    k.compare l = (Ord.compare k.number l.number).then
      ((Ord.compare k.texts.1 l.texts.1).then (Ord.compare k.texts.2 l.texts.2)) := by
  cases k with
  | null =>
      cases l with
      | null => simp [number, texts, Std.ReflCmp.compare_self]
      | _ => cases h
  | integer a =>
      cases l with
      | integer b => simp [compare, number, texts, Std.ReflCmp.compare_self]
      | _ => cases h
  | float x =>
      cases l with
      | float y => simp [compare, Binary64.totalCompare, number, texts, Std.ReflCmp.compare_self]
      | _ => cases h
  | duration d =>
      cases l with
      | duration e =>
          simp [compare, Duration.compare, number, texts, compare_natCast,
            Std.ReflCmp.compare_self]
      | _ => cases h
  | text folded exact =>
      cases l with
      | text folded' exact' => simp [compare, number, texts, Std.ReflCmp.compare_self]
      | _ => cases h
  | variant index name =>
      cases l with
      | variant index' name' =>
          simp [compare, number, texts, compare_natCast, Std.ReflCmp.compare_self]
      | _ => cases h

/-- **Keys are compared part by part.** -/
theorem compare_eq_parts : SortKey.compare = compareParts := by
  funext k l
  show k.compare l = (Ord.compare k.rank l.rank).then ((Ord.compare k.number l.number).then
    ((Ord.compare k.texts.1 l.texts.1).then (Ord.compare k.texts.2 l.texts.2)))
  by_cases hrank : k.rank = l.rank
  · rw [compare_of_rank_eq hrank, Nat.compare_eq_eq.mpr hrank]
    rfl
  · rw [compare_of_rank_ne hrank]
    cases hkinds : Ord.compare k.rank l.rank with
    | lt => rfl
    | eq => exact absurd (Nat.compare_eq_eq.mp hkinds) hrank
    | gt => rfl

/-! ## A total order -/

instance : Std.TransCmp SortKey.compare := by
  rw [compare_eq_parts]
  infer_instance

/-- **Keys that change places change their order.** -/
theorem compare_swap (k l : SortKey) : l.compare k = (k.compare l).swap :=
  Std.OrientedCmp.eq_swap

/-- A negative NaN comes before all numbers, and a negative zero before zero. -/
example : (float (.nan true)).compare (float (.infinity true)) = .lt ∧
    (float (.ofMagnitude true 0)).compare (float .zero) = .lt := by
  decide

end SortKey

namespace SortClause

variable {ρ : Type}

/-- The order of two records by their keys, in the direction of the clause. -/
def keyOrder (s : SortClause ρ) (a b : ρ) : Ordering :=
  match s.direction with
  | .ascending => (s.key a).compare (s.key b)
  | .descending => (s.key b).compare (s.key a)

instance (s : SortClause ρ) : Std.TransCmp s.keyOrder where
  eq_swap := by
    intro a b
    unfold keyOrder
    cases s.direction with
    | ascending => exact SortKey.compare_swap _ _
    | descending => exact SortKey.compare_swap _ _
  isLE_trans := by
    intro a b c hab hbc
    unfold keyOrder at hab hbc ⊢
    cases hdirection : s.direction with
    | ascending =>
        simp only [hdirection] at hab hbc ⊢
        exact Std.TransCmp.isLE_trans hab hbc
    | descending =>
        simp only [hdirection] at hab hbc ⊢
        exact Std.TransCmp.isLE_trans hbc hab

/-- Neither of two records comes before the other exactly if their keys are equal. -/
theorem keyOrder_eq_eq_iff (s : SortClause ρ) (a b : ρ) :
    s.keyOrder a b = .eq ↔ (s.key b).compare (s.key a) = .eq := by
  unfold keyOrder
  cases s.direction with
  | ascending =>
      show (s.key a).compare (s.key b) = .eq ↔ (s.key b).compare (s.key a) = .eq
      exact Std.OrientedCmp.eq_comm
  | descending => exact Iff.rfl

/-- **A record may stand before another one** unless it comes later by its key. -/
theorem inOrder_iff (s : SortClause ρ) (a b : ρ) :
    s.inOrder a b = true ↔ (s.keyOrder a b).isLE = true := by
  rw [Ordering.isLE_iff_ne_gt]
  unfold inOrder keyOrder
  cases s.direction with
  | ascending => exact decide_eq_true_iff
  | descending => exact decide_eq_true_iff

end SortClause

end RecordQuery
