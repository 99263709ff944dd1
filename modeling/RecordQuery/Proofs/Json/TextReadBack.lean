import RecordQuery.Json.Basic
import RecordQuery.Json.Reading

/-!
# JSON texts read back

The compact form of a value is read back as the value, whatever follows it, since every token but a
number shows where it ends.  Texts may hold any characters: what cannot stand in a text as it is
gets escaped, and every escape is that of one character.  Arrays and objects are read back if they
are not nested deeper than the reader goes.
-/

namespace RecordQuery.Json

/-- A value without numbers in which arrays and objects are nested `depth` deep at most. -/
inductive Fits : Nat → Json → Prop
  | null {depth : Nat} : Fits depth .null
  | bool {depth : Nat} (b : Bool) : Fits depth (.bool b)
  | string {depth : Nat} (s : String) : Fits depth (.string s)
  | array {depth : Nat} {elements : List Json} : (∀ j ∈ elements, Fits depth j) →
      Fits (depth + 1) (.array elements)
  | object {depth : Nat} {members : List (String × Json)} : (∀ m ∈ members, Fits depth m.2) →
      Fits (depth + 1) (.object members)

/-! ## Texts -/

/-- A text that begins with a given character. -/
def startWith (c : Char) : List Char × List Char → List Char × List Char
  | (body, rest) => (c :: body, rest)

/-- A letter behind a backslash, other than that of a code, is read as what it stands for. -/
theorem stringBody?_letter {letter c : Char} (hletter : letter ≠ 'u')
    (hescape : simpleEscape? letter = some c) (cs : List Char) :
    stringBody? ('\\' :: letter :: cs) = (stringBody? cs).map (startWith c) := by
  have hcode : ∀ (a b c d : Char) (rest : List Char), letter = 'u' →
      cs = a :: b :: c :: d :: rest → False := fun _ _ _ _ _ h _ => hletter h
  rw [stringBody?.eq_4 letter cs hcode, hescape]
  cases stringBody? cs <;> rfl

/-- The code of a control character is that of two further hexadecimal digits. -/
theorem hex4?_control :
    ∀ n < 0x20, hex4? '0' '0' (hexDigit (n / 16)) (hexDigit (n % 16)) = some n := by
  decide

/-- A control character is read back from its code. -/
theorem stringBody?_control {c : Char} (hcontrol : c.toNat < 0x20) (cs : List Char) :
    stringBody? ('\\' :: 'u' :: '0' :: '0' :: hexDigit (c.toNat / 16) :: hexDigit (c.toNat % 16) ::
      cs) = (stringBody? cs).map (startWith c) := by
  have hleading : ¬ (0xD800 ≤ c.toNat ∧ c.toNat ≤ 0xDBFF) := by omega
  have htrailing : ¬ (0xDC00 ≤ c.toNat ∧ c.toNat ≤ 0xDFFF) := by omega
  rw [stringBody?.eq_3, hex4?_control _ hcontrol]
  simp only [Option.bind_eq_bind, Option.bind_some, if_neg hleading, if_neg htrailing,
    Char.ofNat_toNat]
  cases stringBody? cs <;> rfl

/-- A character that needs no escape is read as it stands. -/
theorem stringBody?_plain {c : Char} (hquote : c ≠ '"') (hbackslash : c ≠ '\\')
    (hprinted : ¬ c.toNat < 0x20) (cs : List Char) :
    stringBody? (c :: cs) = (stringBody? cs).map (startWith c) := by
  have hself : ¬ (c.toNat < 0x20 ∨ c = '\\') := not_or.mpr ⟨hprinted, hbackslash⟩
  rw [stringBody?.eq_5 c cs hquote (fun _ _ _ _ _ h _ => hbackslash h)
    (fun _ _ h _ => hbackslash h), if_neg hself]
  cases stringBody? cs <;> rfl

/-- A character is read back from its form inside a text. -/
theorem stringBody?_escapeChar (c : Char) (cs : List Char) :
    stringBody? (escapeChar c ++ cs) = (stringBody? cs).map (startWith c) := by
  unfold escapeChar
  split
  · rename_i h
    rcases h with rfl | rfl <;> exact stringBody?_letter (by decide) (by decide) cs
  rename_i hself
  -- Five control characters have letters, the others codes.
  iterate 5
    split
    · subst c
      exact stringBody?_letter (by decide) (by decide) cs
  split
  · rename_i hcontrol
    exact stringBody?_control hcontrol cs
  · rename_i hprinted
    obtain ⟨hquote, hbackslash⟩ := not_or.mp hself
    exact stringBody?_plain hquote hbackslash hprinted cs

/-- **An escaped text is read back**, up to the quote behind it. -/
theorem stringBody?_escaped (cs rest : List Char) :
    stringBody? (cs.flatMap escapeChar ++ '"' :: rest) = some (cs, rest) := by
  induction cs with
  | nil => rw [List.flatMap_nil, List.nil_append, stringBody?]
  | cons c cs ih =>
      rw [List.flatMap_cons, List.append_assoc, stringBody?_escapeChar, ih]
      rfl

/-! ## Sequences -/

theorem skip_cons {c : Char} (h : isJsonBlank c = false) (cs : List Char) :
    skip (c :: cs) = c :: cs :=
  List.dropWhile_cons_of_neg (by simp [h])

theorem compactElements_eq (js : List Json) : compactElements js = js.map compactChars := by
  induction js with
  | nil => rfl
  | cons j js ih => rw [compactElements, ih, List.map_cons]

/-- A member in compact form. -/
def compactMember (m : String × Json) : List Char := quotedChars m.1 ++ ':' :: compactChars m.2

theorem compactMembers_eq (members : List (String × Json)) :
    compactMembers members = members.map compactMember := by
  induction members with
  | nil => rfl
  | cons m members ih => rw [compactMembers, ih, List.map_cons, compactMember]

theorem commaSeparated_cons (piece next : List Char) (rest : List (List Char)) :
    commaSeparated (piece :: next :: rest) = piece ++ ',' :: commaSeparated (next :: rest) := rfl

/-- There are commas enough to bound the number of pieces. -/
theorem length_le_commaSeparated (pieces : List (List Char)) :
    pieces.length ≤ (commaSeparated pieces).length + 1 := by
  induction pieces with
  | nil => exact Nat.zero_le _
  | cons piece rest ih =>
      cases rest with
      | nil => exact Nat.le_add_left 1 _
      | cons next rest =>
          simp only [commaSeparated_cons, List.length_append, List.length_cons] at ih ⊢
          omega

/-- The fuel of the reader is the length of the text, which is enough. -/
theorem length_le_text {α : Type} (write : α → List Char) (as : List α) (closing : Char)
    (rest : List Char) :
    as.length ≤ (commaSeparated (as.map write) ++ closing :: rest).length := by
  have hcommas := length_le_commaSeparated (as.map write)
  rw [List.length_map] at hcommas
  rw [List.length_append, List.length_cons]
  omega

/-- The characters begin with one that is neither a blank nor a closing bracket. -/
def StartsPiece (cs : List Char) : Prop :=
  ∃ c tail, cs = c :: tail ∧ isJsonBlank c = false ∧ c ≠ ']' ∧ c ≠ '\x7d'

theorem StartsPiece.append {cs : List Char} (h : StartsPiece cs) (rest : List Char) :
    StartsPiece (cs ++ rest) := by
  obtain ⟨c, tail, rfl, hc⟩ := h
  exact ⟨c, tail ++ rest, rfl, hc⟩

theorem StartsPiece.commaSeparated {α : Type} {write : α → List Char} {a : α}
    (h : StartsPiece (write a)) (as : List α) :
    StartsPiece (commaSeparated ((a :: as).map write)) := by
  cases as with
  | nil => exact h
  | cons next as => exact h.append _

variable {item : List Char → Option (Json × List Char)}

/-- The elements of an array are read back if each of them is. -/
theorem elements?_commaSeparated {js : List Json} (hne : js ≠ [])
    (hitem : ∀ j ∈ js, ∀ rest, item (compactChars j ++ rest) = some (j, rest)) {fuel : Nat}
    (hfuel : js.length ≤ fuel) (rest : List Char) :
    elements? item fuel (commaSeparated (js.map compactChars) ++ ']' :: rest) =
      some (js, rest) := by
  induction js generalizing fuel with
  | nil => exact absurd rfl hne
  | cons j js ih =>
      obtain ⟨fuel, rfl⟩ : ∃ n, fuel = n + 1 := Nat.exists_eq_succ_of_ne_zero (by
        rw [List.length_cons] at hfuel
        omega)
      have hj := hitem j List.mem_cons_self
      cases js with
      | nil =>
          rw [List.map_singleton, commaSeparated, elements?, hj]
          rfl
      | cons next js =>
          have hrest := ih (List.cons_ne_nil _ _) (fun j hj => hitem j (List.mem_cons_of_mem _ hj))
            (Nat.le_of_succ_le_succ hfuel)
          rw [List.map_cons] at hrest
          have hcomma : isJsonBlank ',' = false := by decide
          rw [List.map_cons, List.map_cons, commaSeparated_cons, List.append_assoc,
            List.cons_append, elements?, hj]
          simp only [Option.bind_eq_bind, Option.bind_some, skip_cons hcomma, hrest]
          rfl

/-- A member is read back if its value is. -/
theorem member?_compactMember {m : String × Json}
    (hitem : ∀ rest, item (compactChars m.2 ++ rest) = some (m.2, rest)) (rest : List Char) :
    member? item (compactMember m ++ rest) = some (m, rest) := by
  have hquote : isJsonBlank '"' = false := by decide
  have hcolon : isJsonBlank ':' = false := by decide
  have htext : compactMember m ++ rest = '"' :: (m.1.toList.flatMap escapeChar ++
      '"' :: ':' :: (compactChars m.2 ++ rest)) := by
    simp [compactMember, quotedChars]
  rw [htext, member?, skip_cons hquote]
  simp only [stringBody?_escaped, Option.bind_eq_bind, Option.bind_some, skip_cons hcolon, hitem,
    String.ofList_toList]
  rfl

/-- The members of an object are read back if each of their values is. -/
theorem members?_commaSeparated {members : List (String × Json)} (hne : members ≠ [])
    (hitem : ∀ m ∈ members, ∀ rest, item (compactChars m.2 ++ rest) = some (m.2, rest)) {fuel : Nat}
    (hfuel : members.length ≤ fuel) (rest : List Char) :
    members? item fuel (commaSeparated (members.map compactMember) ++ '\x7d' :: rest) =
      some (members, rest) := by
  induction members generalizing fuel with
  | nil => exact absurd rfl hne
  | cons m members ih =>
      obtain ⟨fuel, rfl⟩ : ∃ n, fuel = n + 1 := Nat.exists_eq_succ_of_ne_zero (by
        rw [List.length_cons] at hfuel
        omega)
      have hm := member?_compactMember (hitem m List.mem_cons_self)
      cases members with
      | nil =>
          rw [List.map_singleton, commaSeparated, members?, hm]
          rfl
      | cons next members =>
          have hrest := ih (List.cons_ne_nil _ _) (fun m hm => hitem m (List.mem_cons_of_mem _ hm))
            (Nat.le_of_succ_le_succ hfuel)
          rw [List.map_cons] at hrest
          have hcomma : isJsonBlank ',' = false := by decide
          rw [List.map_cons, List.map_cons, commaSeparated_cons, List.append_assoc,
            List.cons_append, members?, hm]
          simp only [Option.bind_eq_bind, Option.bind_some, skip_cons hcomma, hrest]
          rfl

/-! ## Values -/

theorem startsPiece_compactMember (m : String × Json) : StartsPiece (compactMember m) :=
  ⟨'"', _, rfl, by decide⟩

theorem Fits.startsPiece {depth : Nat} {j : Json} (h : Fits depth j) :
    StartsPiece (compactChars j) := by
  cases h with
  | null => exact ⟨'n', _, rfl, by decide⟩
  | bool b => cases b <;> exact ⟨_, _, rfl, by decide⟩
  | string s => exact ⟨'"', _, rfl, by decide⟩
  | array _ => exact ⟨'[', _, rfl, by decide⟩
  | object _ => exact ⟨'\x7b', _, rfl, by decide⟩

theorem value?_string (depth : Nat) (cs : List Char) :
    value? depth ('"' :: cs) =
      (stringBody? cs).map fun (body, rest) => (string (String.ofList body), rest) := by
  cases depth <;> rfl

/-- An array that is not closed at once has elements. -/
theorem value?_array {cs : List Char} (h : StartsPiece cs) (depth : Nat) :
    value? (depth + 1) ('[' :: cs) =
      (elements? (value? depth) cs.length cs).map fun (js, rest) => (array js, rest) := by
  obtain ⟨c, tail, rfl, hblank, hclosing, -⟩ := h
  have hopening : isJsonBlank '[' = false := by decide
  rw [value?, skip_cons hopening]
  simp only [skip_cons hblank]
  split
  · rename_i h
    exact absurd (List.cons.inj h).1 hclosing
  · rfl

/-- An object that is not closed at once has members. -/
theorem value?_object {cs : List Char} (h : StartsPiece cs) (depth : Nat) :
    value? (depth + 1) ('\x7b' :: cs) =
      (members? (value? depth) cs.length cs).map fun (members, rest) => (object members, rest) := by
  obtain ⟨c, tail, rfl, hblank, -, hclosing⟩ := h
  have hopening : isJsonBlank '\x7b' = false := by decide
  rw [value?, skip_cons hopening]
  simp only [skip_cons hblank]
  split
  · rename_i h
    exact absurd (List.cons.inj h).1 hclosing
  · rfl

/-- **A value is read back** from its compact form, whatever follows it. -/
theorem Fits.value?_compactChars {depth : Nat} {j : Json} (h : Fits depth j) (rest : List Char) :
    value? depth (compactChars j ++ rest) = some (j, rest) := by
  induction h generalizing rest with
  | @null depth => cases depth <;> rfl
  | @bool depth b => cases depth <;> cases b <;> rfl
  | @string depth s =>
      have htext : compactChars (.string s) ++ rest =
          '"' :: (s.toList.flatMap escapeChar ++ '"' :: rest) := by
        simp [compactChars, quotedChars]
      rw [htext, value?_string, stringBody?_escaped, Option.map_some]
      simp only [String.ofList_toList]
  | @array depth elements hfits ih =>
      cases elements with
      | nil => rfl
      | cons j js =>
          have htext : compactChars (.array (j :: js)) ++ rest =
              '[' :: (commaSeparated ((j :: js).map compactChars) ++ ']' :: rest) := by
            simp [compactChars, compactElements_eq]
          have hstart := (hfits j List.mem_cons_self).startsPiece.commaSeparated js
          have hread := elements?_commaSeparated (List.cons_ne_nil j js) ih
            (length_le_text compactChars (j :: js) ']' rest) rest
          rw [htext, value?_array (hstart.append _), hread, Option.map_some]
  | @object depth members hfits ih =>
      cases members with
      | nil => rfl
      | cons m members =>
          have htext : compactChars (.object (m :: members)) ++ rest =
              '\x7b' :: (commaSeparated ((m :: members).map compactMember) ++ '\x7d' :: rest) := by
            simp [compactChars, compactMembers_eq]
          have hstart := (startsPiece_compactMember m).commaSeparated members
          have hread := members?_commaSeparated (List.cons_ne_nil m members) ih
            (length_le_text compactMember (m :: members) '\x7d' rest) rest
          rw [htext, value?_object (hstart.append _), hread, Option.map_some]

/-- **A whole text is read back**, if it is not nested too deep. -/
theorem Fits.parseChars?_compactChars {j : Json} (h : Fits maxDepth j) :
    parseChars? (compactChars j) = some j := by
  have hvalue := h.value?_compactChars []
  rw [List.append_nil] at hvalue
  rw [parseChars?, hvalue]
  rfl

end RecordQuery.Json
