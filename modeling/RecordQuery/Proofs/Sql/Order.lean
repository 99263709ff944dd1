import RecordQuery.Proofs.Config.Fields
import RecordQuery.Proofs.Query.Typing
import RecordQuery.Proofs.Schema.Checking
import RecordQuery.Proofs.Sql.Text
import RecordQuery.Proofs.Value.SortKey

/-!
# Sort clauses and the orders of rows

Rows are ordered by their first key on which they differ.  A key that is missing comes before all
others in ascending direction and behind them in descending direction, so that in both the missing
value counts as the smallest.  The place of a text in a list is that of the first text of the list
that it is equal to.  A missing value is equal to no text, for the comparison with it is unknown;
its place is the one behind the list.

A sort clause orders records by the keys of their values, and the selection of its query orders rows
by the values of columns.  For numbers and texts both orders are the same: missing values are the
smallest in both, and texts go by their lower-case form and then by themselves.

Enums are ordered by the places of their names, and there the two differ.  A record without a value
comes before all others, while the place of a missing value in the list of names is the one behind
it.  So a row without a value comes behind every row with a declared name, although null is meant to
come first; this is the only case in which rows are put the other way round than records.
-/

namespace RecordQuery

namespace Sql

/-! ## Values -/

/-- A standard database that orders texts by their characters. -/
structure Engine.Collates (engine : Engine) : Prop extends engine.Standard where
  related_text_lt : ∀ s t, engine.related .lt (.text s) (.text t) = decide (compare s t = .lt)

theorem Engine.reference_collates : Engine.reference.Collates where
  toStandard := reference_standard
  related_text_lt _ _ := rfl

/-- The order of two values, of which a missing one is the smallest. -/
def Engine.orderData (engine : Engine) : Datum → Datum → Ordering
  | .null, .null => .eq
  | .null, _ => .lt
  | _, .null => .gt
  | a, b =>
    if engine.related .lt a b then .lt else if engine.related .lt b a then .gt else .eq

/-- An order is known from what comes first in it. -/
theorem ite_lt_gt (o : Ordering) :
    (if decide (o = .lt) then Ordering.lt else if decide (o.swap = .lt) then .gt else .eq) = o := by
  cases o <;> rfl

variable {engine : Engine}

theorem orderData_integer (h : engine.Collates) (m n : Int) :
    engine.orderData (.integer m) (.integer n) = compare m n := by
  have hswap : compare n m = (compare m n).swap := Std.OrientedCmp.eq_swap
  simp only [Engine.orderData, h.related_integer, Relation.admits, hswap]
  exact ite_lt_gt _

theorem orderData_text (h : engine.Collates) (s t : String) :
    engine.orderData (.text s) (.text t) = compare s t := by
  have hswap : compare t s = (compare s t).swap := Std.OrientedCmp.eq_swap
  simp only [Engine.orderData, h.related_text_lt, hswap]
  exact ite_lt_gt _

/-! ## Rows -/

section

variable (engine) (row : Row)

/-- The value of what rows are ordered by. -/
def OrderExpr.datum : OrderExpr → Datum
  | scalar e => e.datum engine row
  | placeIn e texts => .integer (texts.findIdx fun s =>
      compareData engine .eq (e.datum engine row) (.text s) = .yes)

/-- The order of two rows by one key. -/
def OrderKey.order (key : OrderKey) (a b : Row) : Ordering :=
  match key.direction with
  | .ascending => engine.orderData (key.expr.datum engine a) (key.expr.datum engine b)
  | .descending => engine.orderData (key.expr.datum engine b) (key.expr.datum engine a)

/-- The order of two rows by several keys, the first one deciding. -/
def rowOrder (keys : List OrderKey) (a b : Row) : Ordering :=
  keys.foldr (fun key further => (key.order engine a b).then further) .eq

/-- The order of two rows by several expressions in ascending direction. -/
def exprOrder (exprs : List OrderExpr) (a b : Row) : Ordering :=
  exprs.foldr (fun e further =>
    (engine.orderData (e.datum engine a) (e.datum engine b)).then further) .eq

end

theorem rowOrder_ascending (exprs : List OrderExpr) (a b : Row) :
    rowOrder engine (exprs.map (⟨·, .ascending⟩)) a b = exprOrder engine exprs a b := by
  rw [rowOrder, List.foldr_map]
  rfl

/-- In descending direction the rows change places. -/
theorem rowOrder_descending (exprs : List OrderExpr) (a b : Row) :
    rowOrder engine (exprs.map (⟨·, .descending⟩)) a b = exprOrder engine exprs b a := by
  rw [rowOrder, List.foldr_map]
  rfl

/-! ## Places in lists -/

/-- The place of the first of the texts that a value is equal to; the number of texts, if there is
none. -/
def Datum.place (texts : List String) : Datum → Nat
  | .text s => texts.findIdx fun t => s = t
  | _ => texts.length

/-- **The place of a value** that is missing or a text. -/
theorem datum_placeIn (h : engine.Standard) {e : Scalar} {texts : List String} {row : Row}
    (he : e.datum engine row = .null ∨ ∃ s, e.datum engine row = .text s) :
    (OrderExpr.placeIn e texts).datum engine row =
      .integer ((e.datum engine row).place texts) := by
  rw [OrderExpr.datum]
  rcases he with hnull | ⟨s, hs⟩
  · have hlast : texts.findIdx (fun _ => false) = texts.length :=
      List.findIdx_eq_length_of_false fun _ _ => rfl
    rw [hnull]
    simp [compareData, Datum.place, hlast]
  · rw [hs]
    simp [compareData, h.related_text, Datum.place]

/-- Only a text of the list has a place in it. -/
theorem place_lt_iff {texts : List String} {s : String} :
    (Datum.text s).place texts < texts.length ↔ s ∈ texts := by
  rw [Datum.place, List.findIdx_lt_length]
  simp

end Sql

open Sql

section

variable {ρ : Type} {engine : Engine} {row row' : Row} {f : Field ρ} {v w : Value}

/-! ## Numbers -/

/-- The order of two rows by the value of a column. -/
theorem exprOrder_column (hrow : row f.name = Datum.ofValue v)
    (hrow' : row' f.name = Datum.ofValue w) :
    exprOrder engine [.scalar f.column] row row' =
      engine.orderData (Datum.ofValue v) (Datum.ofValue w) := by
  simp [exprOrder, OrderExpr.datum, Field.column, Scalar.datum, hrow, hrow']

/-- **Whole numbers are ordered alike** as keys and in rows. -/
theorem exprOrder_int (hengine : engine.Collates) (hclass : f.typeClass = .int)
    (hv : v = .null ∨ v.typeClass? = some .int) (hw : w = .null ∨ w.typeClass? = some .int)
    (hrow : row f.name = Datum.ofValue v) (hrow' : row' f.name = Datum.ofValue w) :
    exprOrder engine f.orderExprs row row' =
      (SortKey.ofValue f.variants v).compare (SortKey.ofValue f.variants w) := by
  have hexprs : f.orderExprs = [.scalar f.column] := by simp only [Field.orderExprs, hclass]
  rw [hexprs, exprOrder_column hrow hrow']
  cases v with
  | null =>
      cases w with
      | null => rfl
      | integer n => rfl
      | _ => simp [Value.typeClass?] at hw
  | integer m =>
      cases w with
      | null => rfl
      | integer n => exact orderData_integer hengine m.toInt n.toInt
      | _ => simp [Value.typeClass?] at hw
  | _ => simp [Value.typeClass?] at hv

/-! ## Texts -/

/-- **Texts are ordered alike** as keys and in rows. -/
theorem exprOrder_string (hengine : engine.Collates) (hclass : f.typeClass = .string)
    (hv : v = .null ∨ v.typeClass? = some .string) (hw : w = .null ∨ w.typeClass? = some .string)
    (hrow : row f.name = Datum.ofValue v) (hrow' : row' f.name = Datum.ofValue w) :
    exprOrder engine f.orderExprs row row' =
      (SortKey.ofValue f.variants v).compare (SortKey.ofValue f.variants w) := by
  have hexprs : f.orderExprs = [.scalar (.lower f.column), .scalar f.column] := by
    simp only [Field.orderExprs, hclass]
  have horder : exprOrder engine f.orderExprs row row' =
      (engine.orderData ((Scalar.lower f.column).datum engine row)
        ((Scalar.lower f.column).datum engine row')).then
        (engine.orderData (Datum.ofValue v) (Datum.ofValue w)) := by
    rw [hexprs, ← exprOrder_column hrow hrow']
    rfl
  rw [horder]
  simp only [Scalar.datum, Field.column, hrow, hrow']
  cases v with
  | null =>
      cases w with
      | null => rfl
      | string t => rfl
      | _ => simp [Value.typeClass?] at hw
  | string s =>
      cases w with
      | null => rfl
      | string t =>
          simp only [Datum.ofValue, orderData_text hengine, hengine.lower_eq]
          rfl
      | _ => simp [Value.typeClass?] at hw
  | _ => simp [Value.typeClass?] at hv

/-! ## Enums -/

/-- The first value is null and the second one a declared name. -/
def NullAndDeclared (variants : List String) (v w : Value) : Prop :=
  v = .null ∧ ∃ name ∈ variants, w = .variant name

/-- As keys, null comes before every name. -/
theorem NullAndDeclared.compare {variants : List String} (h : NullAndDeclared variants v w) :
    (SortKey.ofValue variants v).compare (SortKey.ofValue variants w) = .lt := by
  obtain ⟨rfl, name, -, rfl⟩ := h
  rfl

theorem NullAndDeclared.not_of_compare {variants : List String}
    (h : (SortKey.ofValue variants v).compare (SortKey.ofValue variants w) = .lt) :
    ¬ NullAndDeclared variants w v := by
  intro hnull
  have hswap := hnull.compare
  rw [SortKey.compare_swap, h] at hswap
  cases hswap

/-- The value is null, or a name whose place among the declared ones is where it stands. -/
def Value.IsSpelled (variants : List String) (v : Value) : Prop :=
  v = .null ∨ ∃ name, v = .variant name ∧
    SortKey.variantIndex variants name = (Datum.text name).place variants

/-- Rows are ordered by the places of their names. -/
theorem exprOrder_enum (hengine : engine.Collates) (hclass : f.typeClass = .enum)
    (hvariants : f.variants ≠ []) (hv : v.IsSpelled f.variants) (hw : w.IsSpelled f.variants)
    (hrow : row f.name = Datum.ofValue v) (hrow' : row' f.name = Datum.ofValue w) :
    exprOrder engine f.orderExprs row row' =
      compare ((Datum.ofValue v).place f.variants : Int) ((Datum.ofValue w).place f.variants) := by
  have hexprs : f.orderExprs = [.placeIn f.column f.variants] := by
    simp only [Field.orderExprs, hclass, List.isEmpty_eq_false_iff.mpr hvariants]
    rfl
  have hdatum {r : Row} {u : Value} (hu : u.IsSpelled f.variants)
      (hr : r f.name = Datum.ofValue u) :
      (OrderExpr.placeIn f.column f.variants).datum engine r =
        .integer ((Datum.ofValue u).place f.variants) := by
    have hcolumn : f.column.datum engine r = Datum.ofValue u := hr
    rw [datum_placeIn hengine.toStandard, hcolumn]
    rw [hcolumn]
    rcases hu with rfl | ⟨name, rfl, -⟩
    · exact .inl rfl
    · exact .inr ⟨name, rfl⟩
  rw [hexprs]
  simp [exprOrder, hdatum hv hrow, hdatum hw hrow', orderData_integer hengine]

/-- **Names of an enum are put the other way round** exactly if one of them is missing and the other
one is declared. -/
theorem exprOrder_enum_iff (hengine : engine.Collates) (hclass : f.typeClass = .enum)
    (hvariants : f.variants ≠ []) (hv : v.IsSpelled f.variants) (hw : w.IsSpelled f.variants)
    (hrow : row f.name = Datum.ofValue v) (hrow' : row' f.name = Datum.ofValue w)
    (hlt : (SortKey.ofValue f.variants v).compare (SortKey.ofValue f.variants w) = .lt) :
    exprOrder engine f.orderExprs row' row = .lt ↔ NullAndDeclared f.variants v w := by
  rw [exprOrder_enum hengine hclass hvariants hw hv hrow' hrow, Std.compare_eq_lt, Int.ofNat_lt]
  rcases hv with rfl | ⟨name, rfl, hname⟩
  · rcases hw with rfl | ⟨name', rfl, -⟩
    · cases hlt
    · have hbehind : (Datum.ofValue .null).place f.variants = f.variants.length := rfl
      rw [hbehind, Datum.ofValue, place_lt_iff]
      simp [NullAndDeclared]
  · rcases hw with rfl | ⟨name', rfl, hname'⟩
    · cases hlt
    · have hnone : ¬ NullAndDeclared f.variants (.variant name) (.variant name') := by
        rintro ⟨hnull, -⟩
        cases hnull
      have hplaces : (Datum.text name).place f.variants ≤ (Datum.text name').place f.variants := by
        simp only [SortKey.ofValue, SortKey.compare, hname, hname'] at hlt
        rcases Ordering.then_eq_lt.mp hlt with hplace | ⟨hplace, -⟩
        · exact Nat.le_of_lt (Nat.compare_eq_lt.mp hplace)
        · exact Nat.le_of_eq (Nat.compare_eq_eq.mp hplace)
      exact iff_of_false (Nat.not_lt.mpr hplaces) hnone

end

/-! ## Sort clauses of configured schemas -/

section

variable {config : SchemaConfig} {schema : Schema Json} {engine : Engine} {row row' : Row}

/-- What an enum field reads is null or a name in its declared spelling, if it has one. -/
theorem FieldConfig.isSpelled_read {k : FieldConfig} (hclass : k.typeClass = .enum)
    (record : Json) : (k.read record).IsSpelled k.variants := by
  rcases k.typeClass_read record with hnull | hcls
  · exact .inl hnull
  · rw [hclass] at hcls
    cases hread : k.read record with
    | variant name =>
        obtain ⟨s, rfl⟩ := k.read_variant hread
        exact .inr ⟨_, rfl, variantIndex_spelled k.variants s⟩
    | _ => simp [hread, Value.typeClass?] at hcls

/-- The rows of two records, of which the first has the smaller key, in ascending order. -/
theorem exprOrder_eq_lt_iff {k : FieldConfig} {a b : Json} (hengine : engine.Collates)
    (hclass : k.typeClass = .int ∨ k.typeClass = .string ∨ k.typeClass = .enum)
    (hvariants : k.typeClass = .enum → k.variants ≠ [])
    (hrow : row k.name = Datum.ofValue (k.read a)) (hrow' : row' k.name = Datum.ofValue (k.read b))
    (hlt : (SortKey.ofValue k.variants (k.read a)).compare
      (SortKey.ofValue k.variants (k.read b)) = .lt) :
    exprOrder engine k.field.orderExprs row' row = .lt ↔
      k.typeClass = .enum ∧ NullAndDeclared k.variants (k.read a) (k.read b) := by
  have ha := k.typeClass_read a
  have hb := k.typeClass_read b
  -- Where keys and rows are ordered alike, the second row comes later.
  have hlater (hsame : exprOrder engine k.field.orderExprs row' row =
      (SortKey.ofValue k.variants (k.read b)).compare (SortKey.ofValue k.variants (k.read a))) :
      exprOrder engine k.field.orderExprs row' row ≠ .lt := by
    rw [hsame, SortKey.compare_swap, hlt]
    decide
  rcases hclass with hclass | hclass | hclass
  · rw [hclass] at ha hb
    refine iff_of_false (hlater (exprOrder_int hengine hclass hb ha hrow' hrow)) ?_
    simp [hclass]
  · rw [hclass] at ha hb
    refine iff_of_false (hlater (exprOrder_string hengine hclass hb ha hrow' hrow)) ?_
    simp [hclass]
  · rw [and_iff_right hclass]
    exact exprOrder_enum_iff (f := k.field) hengine hclass (hvariants hclass)
      (k.isSpelled_read hclass a) (k.isSpelled_read hclass b) hrow hrow' hlt

/-- **Rows in the order of a sort clause.**  Of two records that a sort clause by a number, a text
or an enum puts one strictly before the other, the rows are put the other way round if and only if
the field is an enum, one of the two has no value, and the value of the other is a declared name. -/
theorem rowOrder_eq_lt_iff {s : SortClause Json} {a b : Json} (hengine : engine.Collates)
    (hbuild : config.build = .ok schema) (hfield : s.field ∈ schema.fields)
    (hclass : s.field.typeClass = .int ∨ s.field.typeClass = .string ∨ s.field.typeClass = .enum)
    (hrow : row s.field.name = Datum.ofValue (s.field.read a))
    (hrow' : row' s.field.name = Datum.ofValue (s.field.read b))
    (hbefore : s.keyOrder a b = .lt) :
    rowOrder engine s.orderKeys row' row = .lt ↔
      s.field.typeClass = .enum ∧
        (NullAndDeclared s.field.variants (s.field.read a) (s.field.read b) ∨
          NullAndDeclared s.field.variants (s.field.read b) (s.field.read a)) := by
  have hvariants := SchemaDeclaration.variants_ne_nil hbuild hfield
  obtain ⟨k, -, hk⟩ := SchemaConfig.exists_config hbuild hfield
  obtain ⟨field, direction⟩ := s
  subst hk
  cases direction with
  | ascending =>
      have hkeys : (SortKey.ofValue k.variants (k.read a)).compare
          (SortKey.ofValue k.variants (k.read b)) = .lt := hbefore
      have hexpr := exprOrder_eq_lt_iff hengine hclass hvariants hrow hrow' hkeys
      have hnot := NullAndDeclared.not_of_compare hkeys
      rw [SortClause.orderKeys, rowOrder_ascending, hexpr]
      exact and_congr_right fun _ => (or_iff_left hnot).symm
  | descending =>
      have hkeys : (SortKey.ofValue k.variants (k.read b)).compare
          (SortKey.ofValue k.variants (k.read a)) = .lt := hbefore
      have hexpr := exprOrder_eq_lt_iff hengine hclass hvariants hrow' hrow hkeys
      have hnot := NullAndDeclared.not_of_compare hkeys
      rw [SortClause.orderKeys, rowOrder_descending, hexpr]
      exact and_congr_right fun _ => (or_iff_right hnot).symm

end

/-! ## Albums by genre -/

namespace Genres

def genre : FieldConfig := ⟨"genre", none, .enum, ["Jazz", "Rock"], true, true⟩

def config : SchemaConfig := ⟨"album", none, [genre]⟩

def schema : Schema Json := ⟨"album", [genre.field], none⟩

def byGenre : SortClause Json := ⟨genre.field, .ascending⟩

def unknown : Json := .object []

def jazz : Json := .object [("genre", .string "Jazz")]

def rock : Json := .object [("genre", .string "rock")]

def row (record : Json) (column : String) : Datum :=
  if column = "genre" then Datum.ofValue (genre.read record) else .null

theorem parse_text : Query.parse schema "orderby genre" = .ok ⟨[], some byGenre⟩ := by
  have htokens : Lexed.ofText "orderby genre" = ⟨[.word "orderby", .word "genre"], none⟩ := by
    cbv
  exact Query.parse_eq_ok_iff.mpr ⟨_, htokens, rfl⟩

end Genres

/-- An album without a genre comes before one with a genre, and its row behind the row of that
one. -/
theorem rowOrder_genres :
    Genres.config.build = .ok Genres.schema ∧
    Query.parse Genres.schema "orderby genre" = .ok ⟨[], some Genres.byGenre⟩ ∧
    Engine.reference.Collates ∧
    Genres.byGenre.keyOrder Genres.unknown Genres.jazz = .lt ∧
    rowOrder Engine.reference Genres.byGenre.orderKeys (Genres.row Genres.jazz)
      (Genres.row Genres.unknown) = .lt := by
  refine ⟨rfl, Genres.parse_text, Engine.reference_collates, rfl, ?_⟩
  decide

theorem rowOrder_eq_lt_iff_genres :
    Genres.byGenre.keyOrder Genres.jazz Genres.rock = .lt ∧
    rowOrder Engine.reference Genres.byGenre.orderKeys (Genres.row Genres.rock)
      (Genres.row Genres.jazz) ≠ .lt := by
  have hbuild : Genres.config.build = .ok Genres.schema := rfl
  have hfield : Genres.byGenre.field ∈ Genres.schema.fields := List.mem_cons_self
  have hrow : Genres.row Genres.jazz Genres.byGenre.field.name =
      Datum.ofValue (Genres.byGenre.field.read Genres.jazz) := rfl
  have hrow' : Genres.row Genres.rock Genres.byGenre.field.name =
      Datum.ofValue (Genres.byGenre.field.read Genres.rock) := rfl
  have hbefore : Genres.byGenre.keyOrder Genres.jazz Genres.rock = .lt := rfl
  have hiff := rowOrder_eq_lt_iff Engine.reference_collates hbuild hfield (.inr (.inr rfl)) hrow
    hrow' hbefore
  refine ⟨hbefore, fun hlt => ?_⟩
  obtain ⟨-, ⟨hnull, -⟩ | ⟨hnull, -⟩⟩ := hiff.mp hlt
  · cases hnull
  · cases hnull

end RecordQuery
