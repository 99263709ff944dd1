import Mathlib.Data.List.Chain
import RecordQuery.Json.Basic
import RecordQuery.Proofs.Query.Typing
import RecordQuery.Proofs.Token.Concatenation
import RecordQuery.Query.Basic

/-!
# Queries put together

A text with a comma or an ampersand between two queries is a query again.  White space around the
separator keeps the tokens of the parts apart, and the grammar reads the second part as steps behind
the first one: a comma closes the group that is open there, and an ampersand goes on with it.  So a
comma gives the groups of both parts, an ampersand makes one group of the last group of the first
part and the first group of the second one, and a sort clause of the second part comes later than
those of the first.

This is so for queries of comparisons; free text would take up the separator and all that follows.
The first part may not end with a separator of its own, and the second may not begin with a sort
clause, which is an error behind a separator.
-/

namespace RecordQuery

section

variable {ρ : Type} {schema : Schema ρ}

/-! ## Steps behind steps -/

/-- No separator stands at the end of the tokens. -/
def EndsTerm (ts : List Token) : Prop := ∀ t ∈ ts.getLast?, t ≠ .word "," ∧ t ≠ .word "&"

/-- No sort keyword stands at the beginning of the tokens. -/
def BeginsTerm (ts : List Token) : Prop := ∀ t ∈ ts.head?, t.sortDirection? = none

instance : DecidablePred EndsTerm := fun ts =>
  inferInstanceAs (Decidable (∀ t ∈ ts.getLast?, t ≠ .word "," ∧ t ≠ .word "&"))

instance : DecidablePred BeginsTerm := fun ts =>
  inferInstanceAs (Decidable (∀ t ∈ ts.head?, t.sortDirection? = none))

theorem EndsTerm.of_append {front back : List Token} (h : EndsTerm (front ++ back)) :
    EndsTerm back := by
  intro t ht
  apply h t
  rw [List.getLast?_append, ht]
  rfl

/-- Steps without a separator at their end are followed by further steps. -/
theorem TailSpells.append {ts ts' : List Token} {steps steps' : List (Step ρ)}
    (h : TailSpells schema ts steps) (hend : EndsTerm ts) (h' : TailSpells schema ts' steps') :
    TailSpells schema (ts ++ ts') (steps ++ steps') := by
  induction h with
  | nil => exact h'
  | @trailing separator hsep =>
      obtain ⟨hcomma, hand⟩ := hend separator rfl
      rcases hsep with heq | heq
      · exact absurd heq hcomma
      · exact absurd heq hand
  | @joined term rest c steps hterm _ ih =>
      rw [List.append_assoc]
      exact .joined hterm (ih hend.of_append)
  | @separated term rest c steps hterm _ ih =>
      rw [List.append_assoc]
      exact .separated hterm (ih hend.of_append)
  | @sorted keyword name direction field rest steps hkeyword hname _ ih =>
      have hback : EndsTerm ([keyword, name] ++ rest) := hend
      exact .sorted hkeyword hname (ih hback.of_append)

/-- The group that is still open at the end of the steps goes on with the steps behind them. -/
theorem groupsFrom_append (openGroup : Group ρ) (steps : List (Step ρ)) :
    ∃ closed last, groupsFrom openGroup steps = closed ++ [last] ∧
      ∀ further, groupsFrom openGroup (steps ++ further) = closed ++ groupsFrom last further := by
  induction steps generalizing openGroup with
  | nil => exact ⟨[], openGroup, rfl, fun _ => rfl⟩
  | cons step steps ih =>
      cases step with
      | joined c => exact ih (openGroup ++ [c])
      | sorted clause => exact ih openGroup
      | separated c =>
          obtain ⟨closed, last, hgroups, hfurther⟩ := ih [c]
          refine ⟨openGroup :: closed, last, ?_, fun further => ?_⟩
          · rw [groupsFrom, hgroups, List.cons_append]
          · rw [List.cons_append, groupsFrom, hfurther, List.cons_append]

/-- What stands in the open group is in front of the first of the groups. -/
theorem groupsFrom_of_append (openGroup : Group ρ) (steps : List (Step ρ)) :
    ∃ first rest, groupsFrom openGroup steps = first :: rest ∧
      ∀ front, groupsFrom (front ++ openGroup) steps = (front ++ first) :: rest := by
  refine ⟨_, _, groupsFrom_eq openGroup steps, fun front => ?_⟩
  rw [groupsFrom_eq, List.append_assoc]

/-- Where no sort keyword comes first, there are no sort clauses in front. -/
theorem SortsSpell.eq_nil_of_beginsTerm {front rest : List Token} {clauses : List (SortClause ρ)}
    (h : SortsSpell schema front clauses) (hbegin : BeginsTerm (front ++ rest)) :
    front = [] ∧ clauses = [] := by
  cases h with
  | nil => exact ⟨rfl, rfl⟩
  | @cons keyword _ _ _ _ _ hkeyword _ _ =>
      have hnone := hbegin keyword rfl
      rw [hkeyword] at hnone
      cases hnone

/-! ## Texts that are read as comparisons -/

/-- Whether the tokens are read as free text: sort clauses, and then a word that names no field. -/
def Schema.takesFreeText (schema : Schema ρ) : List Token → Bool
  | [] => false
  | t :: rest =>
    match t.sortDirection? with
    | some _ =>
      match rest with
      | [] => false
      | _ :: rest => schema.takesFreeText rest
    | none => schema.opensFreeText t

/-- The text is read as a query of at least one comparison, and not as free text. -/
structure ReadsComparisons (schema : Schema ρ) (s : String) (q : Query ρ) : Prop where
  parse : Query.parse schema s = .ok q
  nonempty : q.groups.flatten ≠ []
  comparisons : schema.takesFreeText (Lexed.ofText s).tokens = false

theorem takesFreeText_cons {t : Token} (h : t.sortDirection? = none) (rest : List Token) :
    schema.takesFreeText (t :: rest) = schema.opensFreeText t := by
  rw [Schema.takesFreeText.eq_def]
  simp only [h]

theorem takesFreeText_append {front : List Token} {clauses : List (SortClause ρ)}
    (h : SortsSpell schema front clauses) (rest : List Token) :
    schema.takesFreeText (front ++ rest) = schema.takesFreeText rest := by
  induction h with
  | nil => rfl
  | cons hkeyword _ _ ih =>
      simp only [List.cons_append, Schema.takesFreeText, hkeyword]
      exact ih

/-- A query of comparisons is a term with steps behind it and sort clauses in front. -/
theorem readsComparisons_iff {s : String} {q : Query ρ} :
    ReadsComparisons schema s q ↔ ∃ front term rest clauses c steps t,
      Lexed.ofText s = ⟨front ++ term ++ rest, none⟩ ∧ SortsSpell schema front clauses ∧
      term.head? = some t ∧ schema.OpensTerms t ∧ TermSpells schema term c ∧
      TailSpells schema rest steps ∧
      q = ⟨groupsFrom [c] steps, (clauses ++ steps.filterMap Step.sort?).getLast?⟩ := by
  constructor
  · rintro ⟨hparse, hnonempty, hcomparisons⟩
    obtain ⟨tokens, htokens, hread⟩ := Query.parse_eq_ok_iff.mp hparse
    rw [htokens] at hcomparisons
    cases reads_of_ofTokens hread with
    | sorts _ => exact absurd rfl hnonempty
    | freeText hfront hwords hw _ _ =>
        rw [List.append_assoc, takesFreeText_append hfront, List.cons_append,
          takesFreeText_cons (hwords _ List.mem_cons_self)] at hcomparisons
        simp [Schema.opensFreeText, hw] at hcomparisons
    | terms hfront hhead hopens hterm hrest =>
        exact ⟨_, _, _, _, _, _, _, htokens, hfront, hhead, hopens, hterm, hrest, rfl⟩
  · rintro ⟨front, term, rest, clauses, c, steps, t, htokens, hfront, hhead, hopens, hterm, hrest,
      rfl⟩
    have hreads := Reads.terms hfront hhead hopens hterm hrest
    refine ⟨Query.parse_eq_ok_iff.mpr ⟨_, htokens, ofTokens_of_reads hreads⟩, ?_, ?_⟩
    · simp [flatten_groupsFrom]
    · obtain ⟨t', term, rfl, hfirst⟩ := hterm.head
      obtain rfl : t' = t := by simpa using hhead
      rw [htokens, List.append_assoc, takesFreeText_append hfront, List.cons_append,
        takesFreeText_cons hfirst]
      cases t' with
      | literal s => rfl
      | word w => simpa [Schema.opensFreeText, Schema.OpensTerms] using hopens

/-! ## Two queries -/

/-- A separator may stand between the two texts. -/
def Joinable (s₁ s₂ : String) : Prop :=
  EndsTerm (Lexed.ofText s₁).tokens ∧ BeginsTerm (Lexed.ofText s₂).tokens

/-- The separators, each with the step that it makes of the term behind it. -/
inductive Separates : String → (Comparison ρ → Step ρ) → Prop
  | groups : Separates "," .separated
  | terms : Separates "&" .joined

namespace Separates

variable {w : String} {step : Comparison ρ → Step ρ}

theorem isWord (h : Separates w step) : IsWord w.toList := by
  cases h with
  | groups => decide
  | terms => decide

theorem sort? (h : Separates w step) (c : Comparison ρ) : (step c).sort? = none := by
  cases h with
  | groups => rfl
  | terms => rfl

theorem tail (h : Separates w step) {term rest : List Token} {c : Comparison ρ}
    {steps : List (Step ρ)} (hterm : TermSpells schema term c)
    (hrest : TailSpells schema rest steps) :
    TailSpells schema (.word w :: term ++ rest) (step c :: steps) := by
  cases h with
  | groups => exact .separated hterm hrest
  | terms => exact .joined hterm hrest

end Separates

namespace ReadsComparisons

variable {s₁ s₂ : String} {q₁ q₂ : Query ρ}

theorem groups_ne_nil (h : ReadsComparisons schema s₁ q₁) : q₁.groups ≠ [] := by
  intro hnil
  exact h.nonempty (by rw [hnil, List.flatten_nil])

/-- A text that is read has no fault. -/
theorem ofText (h : ReadsComparisons schema s₁ q₁) :
    Lexed.ofText s₁ = ⟨(Lexed.ofText s₁).tokens, none⟩ := by
  obtain ⟨tokens, htokens, -⟩ := Query.parse_eq_ok_iff.mp h.parse
  rw [htokens]

/-- A query behind another one and a separator is read as steps of it. -/
theorem behind {w : String} {step : Comparison ρ → Step ρ} (hsep : Separates w step)
    (h₁ : ReadsComparisons schema s₁ q₁) (h₂ : ReadsComparisons schema s₂ q₂)
    (hjoin : Joinable s₁ s₂) : ∃ c₁ steps₁ c₂ steps₂,
      q₁.groups = groupsFrom [c₁] steps₁ ∧ q₂.groups = groupsFrom [c₂] steps₂ ∧
      ReadsComparisons schema (s₁ ++ (" " ++ w ++ " ") ++ s₂)
        ⟨groupsFrom [c₁] (steps₁ ++ step c₂ :: steps₂), q₂.sort.or q₁.sort⟩ := by
  obtain ⟨front₁, term₁, rest₁, clauses₁, c₁, steps₁, t₁, htokens₁, hfront₁, hhead₁, hopens₁,
    hterm₁, hrest₁, rfl⟩ := readsComparisons_iff.mp h₁
  obtain ⟨front₂, term₂, rest₂, clauses₂, c₂, steps₂, t₂, htokens₂, hfront₂, -, -, hterm₂,
    hrest₂, rfl⟩ := readsComparisons_iff.mp h₂
  obtain ⟨hend, hbegin⟩ := hjoin
  rw [htokens₁] at hend
  rw [htokens₂, List.append_assoc] at hbegin
  -- The second text begins with its first term, so it makes steps and no sort clauses in front.
  obtain ⟨rfl, rfl⟩ := hfront₂.eq_nil_of_beginsTerm hbegin
  have htail := hrest₁.append hend.of_append (hsep.tail hterm₂ hrest₂)
  have htokens := Lexed.ofText_word_between htokens₁ hsep.isWord htokens₂
  have hassoc : front₁ ++ term₁ ++ rest₁ ++ .word w :: ([] ++ term₂ ++ rest₂) =
      front₁ ++ term₁ ++ (rest₁ ++ (.word w :: term₂ ++ rest₂)) := by
    simp
  rw [hassoc] at htokens
  have hsort : (clauses₁ ++ (steps₁ ++ step c₂ :: steps₂).filterMap Step.sort?).getLast? =
      ([] ++ steps₂.filterMap Step.sort?).getLast?.or
        (clauses₁ ++ steps₁.filterMap Step.sort?).getLast? := by
    rw [List.filterMap_append, List.filterMap_cons_none (hsep.sort? c₂), ← List.append_assoc,
      List.getLast?_append, List.nil_append]
  refine ⟨c₁, steps₁, c₂, steps₂, rfl, rfl, readsComparisons_iff.mpr ?_⟩
  exact ⟨front₁, term₁, _, clauses₁, c₁, _, t₁, htokens, hfront₁, hhead₁, hopens₁, hterm₁, htail,
    by rw [hsort]⟩

/-- **Queries with a comma between them** have the groups of both, in order. -/
theorem separated (h₁ : ReadsComparisons schema s₁ q₁) (h₂ : ReadsComparisons schema s₂ q₂)
    (hjoin : Joinable s₁ s₂) :
    ReadsComparisons schema (s₁ ++ " , " ++ s₂)
      ⟨q₁.groups ++ q₂.groups, q₂.sort.or q₁.sort⟩ := by
  obtain ⟨c₁, steps₁, c₂, steps₂, hgroups₁, hgroups₂, h⟩ := behind .groups h₁ h₂ hjoin
  obtain ⟨closed, last, hlast, hfurther⟩ := groupsFrom_append [c₁] steps₁
  rw [hfurther, groupsFrom] at h
  rw [hgroups₁, hgroups₂, hlast, List.append_assoc]
  exact h

/-- **Queries with an ampersand between them** share the group that is open there. -/
theorem joined (h₁ : ReadsComparisons schema s₁ q₁) (h₂ : ReadsComparisons schema s₂ q₂)
    (hjoin : Joinable s₁ s₂) : ∃ closed last first rest,
      q₁.groups = closed ++ [last] ∧ q₂.groups = first :: rest ∧
      ReadsComparisons schema (s₁ ++ " & " ++ s₂)
        ⟨closed ++ (last ++ first) :: rest, q₂.sort.or q₁.sort⟩ := by
  obtain ⟨c₁, steps₁, c₂, steps₂, hgroups₁, hgroups₂, h⟩ := behind .terms h₁ h₂ hjoin
  obtain ⟨closed, last, hlast, hfurther⟩ := groupsFrom_append [c₁] steps₁
  obtain ⟨first, rest, hfirst, hfront⟩ := groupsFrom_of_append [c₂] steps₂
  rw [hfurther, groupsFrom, hfront] at h
  exact ⟨closed, last, first, rest, hgroups₁.trans hlast, hgroups₂.trans hfirst, h⟩

end ReadsComparisons

/-! ## Any number of queries -/

/-- The query of several ones with commas between them. -/
def Query.disjunction (qs : List (Query ρ)) : Query ρ :=
  ⟨(qs.map Query.groups).flatten, (qs.filterMap Query.sort).getLast?⟩

/-- The last of the values that a list has, if its first element is split off. -/
theorem getLast?_filterMap_cons {α β : Type} (f : α → Option β) (a : α) (as : List α) :
    ((a :: as).filterMap f).getLast? = (as.filterMap f).getLast?.or (f a) := by
  cases ha : f a with
  | none => rw [List.filterMap_cons_none ha, Option.or_none]
  | some b => rw [List.filterMap_cons_some ha, getLast?_cons_or]

namespace Query

theorem disjunction_cons (q : Query ρ) (qs : List (Query ρ)) :
    disjunction (q :: qs) =
      ⟨q.groups ++ (disjunction qs).groups, (disjunction qs).sort.or q.sort⟩ := by
  rw [disjunction, getLast?_filterMap_cons]
  rfl

theorem disjunction_singleton (q : Query ρ) : disjunction [q] = q := by
  rw [disjunction_cons]
  simp [disjunction]

/-- A query that has the groups of two accepts what one of them accepts. -/
theorem accepts_append {q₁ q₂ : Query ρ} (h₁ : q₁.groups ≠ []) (h₂ : q₂.groups ≠ [])
    (sort : Option (SortClause ρ)) (record : ρ) :
    accepts ⟨q₁.groups ++ q₂.groups, sort⟩ record =
      (q₁.accepts record || q₂.accepts record) := by
  have hboth : q₁.groups ++ q₂.groups ≠ [] := List.append_ne_nil_of_left_ne_nil h₁ _
  rw [accepts_eq_any h₁, accepts_eq_any h₂, accepts_eq_any hboth, List.any_append]

/-- A disjunction accepts what one of its parts accepts. -/
theorem accepts_disjunction {q : Query ρ} {qs : List (Query ρ)}
    (h : ∀ p ∈ q :: qs, p.groups ≠ []) (record : ρ) :
    (disjunction (q :: qs)).accepts record = (q :: qs).any (·.accepts record) := by
  induction qs generalizing q with
  | nil => simp [disjunction_singleton]
  | cons next qs ih =>
      obtain ⟨hq, hqs⟩ := List.forall_mem_cons.mp h
      have hrest : (disjunction (next :: qs)).groups ≠ [] := by
        rw [disjunction_cons]
        simp [hqs next List.mem_cons_self]
      rw [disjunction_cons, accepts_append hq hrest, ih hqs, List.any_cons (l := next :: qs)]

end Query

namespace ReadsComparisons

variable {s₁ s₂ : String} {q₁ q₂ : Query ρ}

/-- A separator behind a text leaves its beginning as it is. -/
theorem beginsTerm_append (h₁ : ReadsComparisons schema s₁ q₁)
    (h₂ : ReadsComparisons schema s₂ q₂) (hbegin : BeginsTerm (Lexed.ofText s₁).tokens) :
    BeginsTerm (Lexed.ofText (s₁ ++ " , " ++ s₂)).tokens := by
  have hword : IsWord ",".toList := by decide
  have htokens := Lexed.ofText_word_between h₁.ofText hword h₂.ofText
  have htext : s₁ ++ (" " ++ "," ++ " ") ++ s₂ = s₁ ++ " , " ++ s₂ := rfl
  rw [← htext, htokens]
  apply forall_head?_append hbegin
  intro t ht
  exact sortDirection?_separator (.inl (Option.some.inj ht).symm)

/-- **Queries with commas between them** make the disjunction of all of them. -/
theorem intercalate {part : String × Query ρ} {parts : List (String × Query ρ)}
    (hreads : ∀ p ∈ part :: parts, ReadsComparisons schema p.1 p.2)
    (hchain : (part :: parts).IsChain fun p p' => Joinable p.1 p'.1) :
    ReadsComparisons schema (String.intercalate " , " ((part :: parts).map Prod.fst))
      (.disjunction ((part :: parts).map Prod.snd)) ∧
    (BeginsTerm (Lexed.ofText part.1).tokens → BeginsTerm
      (Lexed.ofText (String.intercalate " , " ((part :: parts).map Prod.fst))).tokens) := by
  induction parts generalizing part with
  | nil =>
      have hread := hreads part List.mem_cons_self
      simpa [Query.disjunction_singleton] using hread
  | cons next parts ih =>
      obtain ⟨hpart, hrest⟩ := List.forall_mem_cons.mp hreads
      obtain ⟨hjoin, hchain⟩ := List.isChain_cons_cons.mp hchain
      obtain ⟨htail, hbegin⟩ := ih hrest hchain
      have htext : String.intercalate " , " ((part :: next :: parts).map Prod.fst) =
          part.1 ++ " , " ++ String.intercalate " , " ((next :: parts).map Prod.fst) :=
        String.intercalate_cons_cons
      have hquery : Query.disjunction ((part :: next :: parts).map Prod.snd) =
          ⟨part.2.groups ++ (Query.disjunction ((next :: parts).map Prod.snd)).groups,
            (Query.disjunction ((next :: parts).map Prod.snd)).sort.or part.2.sort⟩ :=
        Query.disjunction_cons _ _
      rw [htext, hquery]
      exact ⟨hpart.separated htail ⟨hjoin.1, hbegin hjoin.2⟩, hpart.beginsTerm_append htail⟩

end ReadsComparisons

/-- The order of the parts does not matter for the records that are accepted. -/
theorem accepts_intercalate_perm {parts parts' : List (String × Query ρ)}
    (hperm : parts.Perm parts')
    (hreads : ∀ p ∈ parts, ReadsComparisons schema p.1 p.2)
    (hchain : parts.IsChain fun p p' => Joinable p.1 p'.1)
    (hchain' : parts'.IsChain fun p p' => Joinable p.1 p'.1) :
    ∃ q q', Query.parse schema (String.intercalate " , " (parts.map Prod.fst)) = .ok q ∧
      Query.parse schema (String.intercalate " , " (parts'.map Prod.fst)) = .ok q' ∧
      ∀ record, q.accepts record = q'.accepts record := by
  match parts, parts', hperm with
  | [], parts', hperm =>
      obtain rfl : parts' = [] := hperm.nil_eq.symm
      have hempty : Lexed.ofText "" = ⟨[], none⟩ := Lexed.ofText_eq_iff.mpr (.ended (by simp))
      have hparse : Query.parse schema "" = .ok ⟨[], none⟩ :=
        Query.parse_eq_ok_iff.mpr ⟨[], hempty, rfl⟩
      exact ⟨_, _, hparse, hparse, fun _ => rfl⟩
  | part :: parts, [], hperm => cases hperm.eq_nil
  | part :: parts, part' :: parts', hperm =>
      have hreads' : ∀ p ∈ part' :: parts', ReadsComparisons schema p.1 p.2 := by
        intro p hp
        exact hreads p (hperm.mem_iff.mpr hp)
      refine ⟨_, _, (ReadsComparisons.intercalate hreads hchain).1.parse,
        (ReadsComparisons.intercalate hreads' hchain').1.parse, fun record => ?_⟩
      have hgroups : ∀ q ∈ (part :: parts).map Prod.snd, q.groups ≠ [] := by
        intro q hq
        obtain ⟨p, hp, rfl⟩ := List.mem_map.mp hq
        exact (hreads p hp).groups_ne_nil
      have hgroups' : ∀ q ∈ (part' :: parts').map Prod.snd, q.groups ≠ [] := by
        intro q hq
        exact hgroups q ((hperm.map Prod.snd).mem_iff.mpr hq)
      rw [List.map_cons] at hgroups hgroups'
      rw [List.map_cons, List.map_cons, Query.accepts_disjunction hgroups,
        Query.accepts_disjunction hgroups']
      exact (hperm.map Prod.snd).any_eq

end

/-- **Queries compose.**  If two texts are read as comparisons, and neither does the first end with
a separator nor the second begin with a sort keyword, the texts with a comma between them have the
groups of both and accept what one of them accepts, and with an ampersand between them the last
group of the one and the first group of the other become one.  The order is that of the second text
if it has one.  The order in which parts stand between commas does not matter for the records. -/
theorem Query.parse_compose {ρ : Type} (schema : Schema ρ) :
    (∀ s₁ s₂ q₁ q₂, ReadsComparisons schema s₁ q₁ → ReadsComparisons schema s₂ q₂ →
      Joinable s₁ s₂ →
      (parse schema (s₁ ++ " , " ++ s₂) =
          .ok ⟨q₁.groups ++ q₂.groups, q₂.sort.or q₁.sort⟩ ∧
        ∀ record, accepts ⟨q₁.groups ++ q₂.groups, q₂.sort.or q₁.sort⟩ record =
          (q₁.accepts record || q₂.accepts record)) ∧
      ∃ closed last first rest, q₁.groups = closed ++ [last] ∧ q₂.groups = first :: rest ∧
        parse schema (s₁ ++ " & " ++ s₂) =
          .ok ⟨closed ++ (last ++ first) :: rest, q₂.sort.or q₁.sort⟩) ∧
    ∀ parts parts' : List (String × Query ρ), parts.Perm parts' →
      (∀ p ∈ parts, ReadsComparisons schema p.1 p.2) →
      (parts.IsChain fun p p' => Joinable p.1 p'.1) →
      (parts'.IsChain fun p p' => Joinable p.1 p'.1) →
      ∃ q q', parse schema (String.intercalate " , " (parts.map Prod.fst)) = .ok q ∧
        parse schema (String.intercalate " , " (parts'.map Prod.fst)) = .ok q' ∧
        ∀ record, q.accepts record = q'.accepts record := by
  constructor
  · intro s₁ s₂ q₁ q₂ h₁ h₂ hjoin
    obtain ⟨closed, last, first, rest, hlast, hfirst, hjoined⟩ := h₁.joined h₂ hjoin
    refine ⟨⟨(h₁.separated h₂ hjoin).parse, ?_⟩, ?_⟩
    · exact accepts_append h₁.groups_ne_nil h₂.groups_ne_nil _
    · exact ⟨closed, last, first, rest, hlast, hfirst, hjoined.parse⟩
  · intro parts parts' hperm hreads hchain hchain'
    exact accepts_intercalate_perm hperm hreads hchain hchain'

/-! ## Books -/

namespace Books

def title : Field Json := ⟨"title", "title", .string, [], fun _ => .null⟩

def pages : Field Json := ⟨"pages", "pages", .int, [], fun _ => .null⟩

def year : Field Json := ⟨"year", "year", .int, [], fun _ => .null⟩

def schema : Schema Json := ⟨"book", [title, pages, year], some title⟩

def long : String := "'sea', pages > 500 orderby year"

def recent : String := "year >= 1990 & pages < year, pages = 1"

def longQuery : Query Json :=
  ⟨[[⟨title, .contains, .literal (.string "sea")⟩],
    [⟨pages, .greaterThan, .literal (.integer 500)⟩]], some ⟨year, .ascending⟩⟩

def recentQuery : Query Json :=
  ⟨[[⟨year, .greaterEqual, .literal (.integer 1990)⟩, ⟨pages, .lessThan, .field year⟩],
    [⟨pages, .equal, .literal (.integer 1)⟩]], none⟩

theorem ofText_long : Lexed.ofText long =
    ⟨[.literal "sea", .word ",", .word "pages", .word ">", .literal "500", .word "orderby",
      .word "year"], none⟩ := by
  cbv

theorem ofText_recent : Lexed.ofText recent =
    ⟨[.word "year", .word ">=", .literal "1990", .word "&", .word "pages", .word "<",
      .word "year", .word ",", .word "pages", .word "=", .literal "1"], none⟩ := by
  cbv

theorem reads_long : ReadsComparisons schema long longQuery where
  parse := Query.parse_eq_ok_iff.mpr ⟨_, ofText_long, rfl⟩
  nonempty := by simp [longQuery]
  comparisons := by
    rw [ofText_long]
    rfl

theorem reads_recent : ReadsComparisons schema recent recentQuery where
  parse := Query.parse_eq_ok_iff.mpr ⟨_, ofText_recent, rfl⟩
  nonempty := by simp [recentQuery]
  comparisons := by
    rw [ofText_recent]
    rfl

theorem joinable_long_recent : Joinable long recent := by
  rw [Joinable, ofText_long, ofText_recent]
  decide

theorem joinable_recent_long : Joinable recent long := by
  rw [Joinable, ofText_long, ofText_recent]
  decide

end Books

theorem parse_compose_books :
    Query.parse Books.schema (Books.long ++ " , " ++ Books.recent) =
      .ok ⟨Books.longQuery.groups ++ Books.recentQuery.groups, some ⟨Books.year, .ascending⟩⟩ ∧
    Query.parse Books.schema (Books.long ++ " & " ++ Books.recent) =
      .ok ⟨[[⟨Books.title, .contains, .literal (.string "sea")⟩],
        [⟨Books.pages, .greaterThan, .literal (.integer 500)⟩,
          ⟨Books.year, .greaterEqual, .literal (.integer 1990)⟩,
          ⟨Books.pages, .lessThan, .field Books.year⟩],
        [⟨Books.pages, .equal, .literal (.integer 1)⟩]], some ⟨Books.year, .ascending⟩⟩ ∧
    ∃ q q', Query.parse Books.schema (String.intercalate " , " [Books.long, Books.recent]) = .ok q ∧
      Query.parse Books.schema (String.intercalate " , " [Books.recent, Books.long]) = .ok q' ∧
      ∀ record, q.accepts record = q'.accepts record := by
  obtain ⟨hpairs, hperm⟩ := Query.parse_compose Books.schema
  obtain ⟨⟨hseparated, -⟩, closed, last, first, rest, hlast, hfirst, hjoined⟩ :=
    hpairs _ _ _ _ Books.reads_long Books.reads_recent Books.joinable_long_recent
  refine ⟨hseparated, ?_, ?_⟩
  · have hgroups : [[⟨Books.title, .contains, .literal (.string "sea")⟩]] ++
        [[⟨Books.pages, .greaterThan, .literal (.integer 500)⟩]] = closed ++ [last] := hlast
    obtain ⟨rfl, hopen⟩ := List.append_inj' hgroups rfl
    obtain rfl := List.singleton_inj.mp hopen
    obtain ⟨rfl, rfl⟩ := List.cons.inj hfirst
    exact hjoined
  · let parts := [(Books.long, Books.longQuery), (Books.recent, Books.recentQuery)]
    let parts' := [(Books.recent, Books.recentQuery), (Books.long, Books.longQuery)]
    have hreads : ∀ p ∈ parts, ReadsComparisons Books.schema p.1 p.2 := by
      simp [parts, Books.reads_long, Books.reads_recent]
    have hchain : parts.IsChain fun p p' => Joinable p.1 p'.1 := by
      simp [parts, Books.joinable_long_recent]
    have hchain' : parts'.IsChain fun p p' => Joinable p.1 p'.1 := by
      simp [parts', Books.joinable_recent_long]
    exact hperm parts parts' (.swap _ _ _) hreads hchain hchain'

end RecordQuery
