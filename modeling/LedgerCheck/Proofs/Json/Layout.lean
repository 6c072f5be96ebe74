import LedgerCheck.Json.Bytes
import LedgerCheck.Proofs.Binary64.Numeral
import LedgerCheck.Proofs.Json.Quoted

/-!
# Reading written values

The compact and the indented form of a value differ in their blanks only.  `Json.laidOut` writes a
value with any blanks where blanks may stand, and whatever they are, the text is read as the
document of the value.

* `Json.Layout` — the blanks of a written form.
* `Json.laidOut` — a value in a layout; `Json.laidOut_tight` and `Json.laidOut_indented` say that
  the compact and the indented form are two of these.
* `Json.document` — the structure that a value is written with.
* **`Document.read?_compact`**, **`Document.read?_fileText`** — both forms of a value are read as
  its document.
-/

namespace LedgerCheck

namespace JsonNumber

/-- The numeral that a number is written as. -/
def numeral : JsonNumber → Numeral
  | .int i => .ofInt i
  | .float x => x.numeral

lemma chars_numeral (n : JsonNumber) : n.numeral.chars = n.chars := by
  cases n with
  | int i => simp [numeral, chars, integerChars, Numeral.chars, Numeral.ofInt, Numeral.signChars,
      Numeral.fractionChars, Numeral.exponentChars]
  | float x => exact x.chars_numeral

lemma isProper_numeral (n : JsonNumber) : n.numeral.IsProper := by
  cases n with
  | int i => exact Numeral.isProper_ofInt i
  | float x => exact x.isProper_numeral

end JsonNumber

namespace Json

/-! ## Layouts -/

/-- The blanks of a written form: in front of an item, a field or the end of a container at some
depth, and in front of the value of a field. -/
structure Layout where
  lineBreak : Nat → List Char
  gap : List Char
  isBlank_of_mem_lineBreak : ∀ depth, ∀ c ∈ lineBreak depth, Document.isBlank c = true
  isBlank_of_mem_gap : ∀ c ∈ gap, Document.isBlank c = true

namespace Layout

/-- No blanks. -/
def tight : Layout := ⟨fun _ => [], [], by simp, by simp⟩

/-- Each item and each field on a line of its own. -/
def indented : Layout where
  lineBreak := Json.lineBreak
  gap := [' ']
  isBlank_of_mem_lineBreak depth c hc := by
    rcases List.mem_cons.mp hc with rfl | hc
    · decide
    · rw [List.eq_of_mem_replicate hc]
      decide
  isBlank_of_mem_gap c hc := by
    rw [List.mem_singleton.mp hc]
    decide

end Layout

variable (l : Layout)

mutual

/-- A value in a layout, its container standing at the given depth. -/
def laidOut (depth : Nat) : Json → List Char
  | .null => ['n', 'u', 'l', 'l']
  | .bool true => ['t', 'r', 'u', 'e']
  | .bool false => ['f', 'a', 'l', 's', 'e']
  | .number n => n.chars
  | .string s => quoted s
  | .array [] => ['[', ']']
  | .array (item :: rest) =>
    '[' :: (l.lineBreak (depth + 1) ++ (laidOut (depth + 1) item ++ laidOutItems depth rest))
  | .object [] => ['\x7b', '\x7d']
  | .object ((name, value) :: rest) =>
    '\x7b' :: (l.lineBreak (depth + 1) ++ (quoted name ++ ':' ::
      (l.gap ++ (laidOut (depth + 1) value ++ laidOutFields depth rest))))

/-- The items after the first, and the end of the array. -/
def laidOutItems (depth : Nat) : List Json → List Char
  | [] => l.lineBreak depth ++ [']']
  | item :: rest =>
    ',' :: (l.lineBreak (depth + 1) ++ (laidOut (depth + 1) item ++ laidOutItems depth rest))

/-- The fields after the first, and the end of the object. -/
def laidOutFields (depth : Nat) : List (String × Json) → List Char
  | [] => l.lineBreak depth ++ ['\x7d']
  | (name, value) :: rest =>
    ',' :: (l.lineBreak (depth + 1) ++ (quoted name ++ ':' ::
      (l.gap ++ (laidOut (depth + 1) value ++ laidOutFields depth rest))))

end

mutual

/-- The compact form is the layout without blanks. -/
lemma laidOut_tight : ∀ (v : Json) (depth : Nat), laidOut .tight depth v = v.compactChars
  | .null, _ => by rw [laidOut, compactChars]
  | .bool true, _ => by rw [laidOut, compactChars]
  | .bool false, _ => by rw [laidOut, compactChars]
  | .number _, _ => by rw [laidOut, compactChars]
  | .string _, _ => by rw [laidOut, compactChars]
  | .array [], _ => by rw [laidOut, compactChars]
  | .array (item :: rest), depth => by
      rw [laidOut, compactChars, laidOut_tight item, laidOutItems_tight rest]
      rfl
  | .object [], _ => by rw [laidOut, compactChars]
  | .object ((name, value) :: rest), depth => by
      rw [laidOut, compactChars, laidOut_tight value, laidOutFields_tight rest]
      rfl

lemma laidOutItems_tight : ∀ (items : List Json) (depth : Nat),
    laidOutItems .tight depth items = compactItems items
  | [], _ => by rw [laidOutItems, compactItems]; rfl
  | item :: rest, depth => by
      rw [laidOutItems, compactItems, laidOut_tight item, laidOutItems_tight rest]
      rfl

lemma laidOutFields_tight : ∀ (fields : List (String × Json)) (depth : Nat),
    laidOutFields .tight depth fields = compactFields fields
  | [], _ => by rw [laidOutFields, compactFields]; rfl
  | (name, value) :: rest, depth => by
      rw [laidOutFields, compactFields, laidOut_tight value, laidOutFields_tight rest]
      rfl

end

mutual

/-- The indented form is the layout with a line for each item and field. -/
lemma laidOut_indented : ∀ (v : Json) (depth : Nat), laidOut .indented depth v = v.prettyChars depth
  | .null, _ => by rw [laidOut, prettyChars]
  | .bool true, _ => by rw [laidOut, prettyChars]
  | .bool false, _ => by rw [laidOut, prettyChars]
  | .number _, _ => by rw [laidOut, prettyChars]
  | .string _, _ => by rw [laidOut, prettyChars]
  | .array [], _ => by rw [laidOut, prettyChars]
  | .array (item :: rest), depth => by
      rw [laidOut, prettyChars, laidOut_indented item, laidOutItems_indented rest,
        List.append_assoc]
      rfl
  | .object [], _ => by rw [laidOut, prettyChars]
  | .object ((name, value) :: rest), depth => by
      rw [laidOut, prettyChars, laidOut_indented value, laidOutFields_indented rest,
        List.append_assoc]
      rfl

lemma laidOutItems_indented : ∀ (items : List Json) (depth : Nat),
    laidOutItems .indented depth items = prettyItems depth items
  | [], _ => by rw [laidOutItems, prettyItems]; rfl
  | item :: rest, depth => by
      rw [laidOutItems, prettyItems, laidOut_indented item, laidOutItems_indented rest,
        List.append_assoc]
      rfl

lemma laidOutFields_indented : ∀ (fields : List (String × Json)) (depth : Nat),
    laidOutFields .indented depth fields = prettyFields depth fields
  | [], _ => by rw [laidOutFields, prettyFields]; rfl
  | (name, value) :: rest, depth => by
      rw [laidOutFields, prettyFields, laidOut_indented value, laidOutFields_indented rest,
        List.append_assoc]
      rfl

end

/-! ## The document of a value -/

mutual

/-- The structure that a value is written with. -/
def document : Json → Document
  | .null => .null
  | .bool b => .bool b
  | .number n => .number n.numeral
  | .string s => .string (some s)
  | .array items => .array (itemDocuments items)
  | .object fields => .object (fieldDocuments fields)

/-- The structures of items. -/
def itemDocuments : List Json → List Document
  | [] => []
  | item :: rest => document item :: itemDocuments rest

/-- The structures of fields, under their names. -/
def fieldDocuments : List (String × Json) → List (Option String × Document)
  | [] => []
  | (name, value) :: rest => (some name, document value) :: fieldDocuments rest

end

/-- No blank is a sign, a digit or the end of an array. -/
lemma isBlank_eq_false_of_isDigit {c : Char} (h : c = '-' ∨ c.isDigit = true) :
    Document.isBlank c = false ∧ c ≠ ']' := by
  rcases h with rfl | h
  · decide
  · refine ⟨?_, ?_⟩
    · rw [Bool.eq_false_iff]
      intro hblank
      simp only [Document.isBlank, Bool.or_eq_true, beq_iff_eq] at hblank
      rcases hblank with ((rfl | rfl) | rfl) | rfl <;> exact absurd h (by decide)
    · rintro rfl
      exact absurd h (by decide)

/-- A written value starts with a character that is no blank and ends no array. -/
lemma exists_laidOut_eq_cons (depth : Nat) (v : Json) :
    ∃ c more, laidOut l depth v = c :: more ∧ Document.isBlank c = false ∧ c ≠ ']' := by
  cases v with
  | number n =>
      obtain ⟨c, more, hchars, hc⟩ := Numeral.exists_chars_eq_cons n.isProper_numeral
      rw [n.chars_numeral] at hchars
      exact ⟨c, more, by rw [laidOut, hchars], isBlank_eq_false_of_isDigit hc⟩
  | null => exact ⟨_, _, by rw [laidOut], by decide, by decide⟩
  | bool b => cases b <;> exact ⟨_, _, by rw [laidOut], by decide, by decide⟩
  | string s => exact ⟨_, _, by rw [laidOut, quoted], by decide, by decide⟩
  | array items => cases items <;> exact ⟨_, _, by rw [laidOut], by decide, by decide⟩
  | object fields =>
      rcases fields with _ | ⟨⟨name, value⟩, rest⟩ <;>
        exact ⟨_, _, by rw [laidOut], by decide, by decide⟩

end Json

namespace Document

/-! ## Blanks -/

section Blanks

variable {blanks : List Char} (hblanks : ∀ c ∈ blanks, isBlank c = true)
include hblanks

lemma skipBlanks_append (cs : List Char) : skipBlanks (blanks ++ cs) = skipBlanks cs :=
  List.dropWhile_append_of_pos hblanks

lemma readValue_append (fuel : Nat) (cs : List Char) :
    readValue fuel (blanks ++ cs) = readValue fuel cs := by
  cases fuel with
  | zero => rw [readValue, readValue]
  | succ fuel => rw [readValue, readValue, skipBlanks_append hblanks]

lemma readItems_append (fuel : Nat) (cs : List Char) :
    readItems fuel (blanks ++ cs) = readItems fuel cs := by
  cases fuel with
  | zero => rw [readItems, readItems]
  | succ fuel => rw [readItems, readItems, readValue_append hblanks]

lemma readFields_append (fuel : Nat) (cs : List Char) :
    readFields fuel (blanks ++ cs) = readFields fuel cs := by
  cases fuel with
  | zero => rw [readFields, readFields]
  | succ fuel => rw [readFields, readFields, skipBlanks_append hblanks]

end Blanks

lemma skipBlanks_cons {c : Char} (h : isBlank c = false) (cs : List Char) :
    skipBlanks (c :: cs) = c :: cs :=
  List.dropWhile_cons_of_neg (by simp [h])

/-! ## One step of reading -/

/-- What is read after an item: the end of the array, or further items. -/
def itemsAfter (fuel : Nat) (item : Document) (cs : List Char) :
    Option (List Document × List Char) :=
  match skipBlanks cs with
  | ']' :: rest => some ([item], rest)
  | ',' :: rest => (readItems fuel rest).map fun (items, rest) => (item :: items, rest)
  | _ => none

/-- What is read after a field: the end of the object, or further fields. -/
def fieldsAfter (fuel : Nat) (name : Option String) (value : Document) (cs : List Char) :
    Option (List (Option String × Document) × List Char) :=
  match skipBlanks cs with
  | '\x7d' :: rest => some ([(name, value)], rest)
  | ',' :: rest => (readFields fuel rest).map fun (fields, rest) => ((name, value) :: fields, rest)
  | _ => none

lemma readItems_succ (fuel : Nat) (cs : List Char) :
    readItems (fuel + 1) cs
      = (readValue fuel cs).bind fun read => itemsAfter fuel read.1 read.2 := by
  rw [readItems]
  cases readValue fuel cs <;> rfl

/-- A quoted name and a colon are read as the name of a field. -/
lemma readFields_quoted (fuel : Nat) (name : String) (cs : List Char) :
    readFields (fuel + 1) (quoted name ++ ':' :: cs)
      = (readValue fuel cs).bind fun read => fieldsAfter fuel (some name) read.1 read.2 := by
  have hname : quoted name ++ ':' :: cs
      = '"' :: (name.toList.flatMap escaped ++ '"' :: (':' :: cs)) := by
    simp [quoted]
  rw [readFields, hname, skipBlanks_cons (by decide)]
  simp only [readString_quoted, Option.bind_eq_bind, Option.bind_some,
    skipBlanks_cons (by decide : isBlank ':' = false)]
  cases readValue fuel cs <;> rfl

lemma readValue_number (fuel : Nat) {n : Numeral} (h : n.IsProper) {rest : List Char}
    (hrest : Numeral.EndsNumeral rest) :
    readValue (fuel + 1) (n.chars ++ rest) = some (.number n, rest) := by
  obtain ⟨c, more, hchars, hc⟩ := Numeral.exists_chars_eq_cons h
  have hread := Numeral.read_chars_append h hrest
  have hblank := (Json.isBlank_eq_false_of_isDigit hc).1
  have hother : ∀ d : Char, d ≠ '-' ∧ d.isDigit = false → c ≠ d := by
    rintro d ⟨hminus, hdigit⟩ rfl
    rcases hc with hc | hc
    · exact hminus hc
    · simp [hdigit] at hc
  rw [hchars, List.cons_append] at hread ⊢
  simp only [readValue, skipBlanks_cons hblank, if_neg (hother 'n' (by decide)),
    if_neg (hother 't' (by decide)), if_neg (hother 'f' (by decide)),
    if_neg (hother '"' (by decide)), if_neg (hother '[' (by decide)),
    if_neg (hother '\x7b' (by decide)), hread, Option.map_some]

/-- An array whose first item stands behind blanks is read as its items are. -/
lemma readValue_array (fuel : Nat) {blanks : List Char}
    (hblanks : ∀ c ∈ blanks, isBlank c = true) {c : Char} (hblank : isBlank c = false)
    (hc : c ≠ ']') (cs : List Char) :
    readValue (fuel + 1) ('[' :: (blanks ++ c :: cs))
      = (readItems fuel (c :: cs)).map fun read => (.array read.1, read.2) := by
  simp only [readValue, skipBlanks_cons (by decide : isBlank '[' = false),
    skipBlanks_append hblanks, skipBlanks_cons hblank, if_neg (by decide : '[' ≠ 'n'),
    if_neg (by decide : '[' ≠ 't'), if_neg (by decide : '[' ≠ 'f'),
    if_neg (by decide : '[' ≠ '"'), if_true]
  split
  · rename_i rest heq
    exact absurd (List.cons.inj heq).1 hc
  · rfl

/-- An object whose first name stands behind blanks is read as its fields are. -/
lemma readValue_object (fuel : Nat) {blanks : List Char}
    (hblanks : ∀ c ∈ blanks, isBlank c = true) (name : String) (cs : List Char) :
    readValue (fuel + 1) ('\x7b' :: (blanks ++ (quoted name ++ cs)))
      = (readFields fuel (quoted name ++ cs)).map fun read => (.object read.1, read.2) := by
  rw [quoted, List.cons_append]
  simp only [readValue, skipBlanks_cons (by decide : isBlank '\x7b' = false),
    skipBlanks_append hblanks, skipBlanks_cons (by decide : isBlank '"' = false),
    if_neg (by decide : '\x7b' ≠ 'n'), if_neg (by decide : '\x7b' ≠ 't'),
    if_neg (by decide : '\x7b' ≠ 'f'), if_neg (by decide : '\x7b' ≠ '"'),
    if_neg (by decide : '\x7b' ≠ '['), if_true]
  rfl

lemma readValue_string (fuel : Nat) (s : String) (rest : List Char) :
    readValue (fuel + 1) (quoted s ++ rest) = some (.string (some s), rest) := by
  have hquoted : quoted s ++ rest = '"' :: (s.toList.flatMap escaped ++ '"' :: rest) := by
    simp [quoted]
  simp only [hquoted, readValue, skipBlanks_cons (by decide : isBlank '"' = false),
    if_neg (by decide : '"' ≠ 'n'), if_neg (by decide : '"' ≠ 't'),
    if_neg (by decide : '"' ≠ 'f'), if_true, readString_quoted, Option.map_some]

/-! ## Reading a value in a layout -/

/-- No numeral goes on with a blank. -/
lemma endsNumeral_of_isBlank {c : Char} (h : isBlank c = true) (rest : List Char) :
    Numeral.EndsNumeral (c :: rest) := by
  rw [Numeral.endsNumeral_cons]
  simp only [isBlank, Bool.or_eq_true, beq_iff_eq] at h
  rcases h with ((rfl | rfl) | rfl) | rfl <;> decide

/-- No numeral goes on with blanks in front of a text that it does not go on with. -/
lemma endsNumeral_append {blanks rest : List Char} (hblanks : ∀ c ∈ blanks, isBlank c = true)
    (hrest : Numeral.EndsNumeral rest) : Numeral.EndsNumeral (blanks ++ rest) := by
  cases blanks with
  | nil => exact hrest
  | cons b blanks => exact endsNumeral_of_isBlank (hblanks b List.mem_cons_self) _

variable (l : Json.Layout)

lemma endsNumeral_laidOutItems (depth : Nat) (items : List Json) (rest : List Char) :
    Numeral.EndsNumeral (Json.laidOutItems l depth items ++ rest) := by
  cases items with
  | nil =>
      rw [Json.laidOutItems, List.append_assoc]
      exact endsNumeral_append (l.isBlank_of_mem_lineBreak depth)
        (Numeral.endsNumeral_cons.mpr (by decide))
  | cons item items =>
      rw [Json.laidOutItems]
      exact Numeral.endsNumeral_cons.mpr (by decide)

lemma endsNumeral_laidOutFields (depth : Nat) (fields : List (String × Json)) (rest : List Char) :
    Numeral.EndsNumeral (Json.laidOutFields l depth fields ++ rest) := by
  cases fields with
  | nil =>
      rw [Json.laidOutFields, List.append_assoc]
      exact endsNumeral_append (l.isBlank_of_mem_lineBreak depth)
        (Numeral.endsNumeral_cons.mpr (by decide))
  | cons field fields =>
      rw [Json.laidOutFields]
      exact Numeral.endsNumeral_cons.mpr (by decide)

lemma length_laidOut_pos (depth : Nat) (v : Json) : 0 < (Json.laidOut l depth v).length := by
  obtain ⟨c, more, hchars, -⟩ := Json.exists_laidOut_eq_cons l depth v
  rw [hchars]
  exact Nat.succ_pos _

mutual

/-- **A value in a layout is read as its document**, if the text after it goes on with no numeral.
The fuel has to exceed the length of the text that is read. -/
theorem readValue_laidOut : ∀ (v : Json) (depth fuel : Nat) (rest : List Char),
    (Json.laidOut l depth v).length < fuel → Numeral.EndsNumeral rest →
      readValue fuel (Json.laidOut l depth v ++ rest) = some (v.document, rest)
  | _, _, 0, _, hfuel, _ => absurd hfuel (Nat.not_lt_zero _)
  | .null, _, _ + 1, _, _, _ => by
      rw [Json.laidOut]
      rfl
  | .bool true, _, _ + 1, _, _, _ => by
      rw [Json.laidOut]
      rfl
  | .bool false, _, _ + 1, _, _, _ => by
      rw [Json.laidOut]
      rfl
  | .number n, _, fuel + 1, _, _, hrest => by
      rw [Json.laidOut, ← n.chars_numeral, readValue_number fuel n.isProper_numeral hrest,
        Json.document]
  | .string s, _, fuel + 1, _, _, _ => by
      rw [Json.laidOut, readValue_string, Json.document]
  | .array [], _, _ + 1, _, _, _ => by
      rw [Json.laidOut]
      rfl
  | .array (item :: items), depth, fuel + 1, rest, hfuel, _ => by
      rw [Json.laidOut] at hfuel ⊢
      simp only [List.length_cons, List.length_append] at hfuel
      -- The items are read with one fuel less; they are shorter by the bracket.
      have hitems := readItems_laidOut item items depth fuel rest (by omega)
      obtain ⟨c, more, hchars, hblank, hc⟩ := Json.exists_laidOut_eq_cons l (depth + 1) item
      rw [hchars, List.cons_append] at hitems
      simp only [hchars, List.cons_append, List.append_assoc]
      rw [readValue_array fuel (l.isBlank_of_mem_lineBreak _) hblank hc, hitems]
      rfl
  | .object [], _, _ + 1, _, _, _ => by
      rw [Json.laidOut]
      rfl
  | .object ((name, value) :: fields), depth, fuel + 1, rest, hfuel, _ => by
      rw [Json.laidOut] at hfuel ⊢
      simp only [List.length_cons, List.length_append] at hfuel
      have hfields := readFields_laidOut name value fields depth fuel rest (by omega)
      simp only [List.cons_append, List.append_assoc]
      rw [readValue_object fuel (l.isBlank_of_mem_lineBreak _), hfields]
      rfl

/-- An item and what is laid out after it are read as items. -/
lemma readItems_laidOut : ∀ (item : Json) (items : List Json) (depth fuel : Nat)
    (rest : List Char),
    (Json.laidOut l (depth + 1) item).length + (Json.laidOutItems l depth items).length < fuel →
      readItems fuel (Json.laidOut l (depth + 1) item ++ (Json.laidOutItems l depth items ++ rest))
        = some (item.document :: Json.itemDocuments items, rest)
  | _, _, _, 0, _, hfuel => absurd hfuel (Nat.not_lt_zero _)
  | item, [], depth, fuel + 1, rest, hfuel => by
      have hlength : (Json.laidOutItems l depth []).length = (l.lineBreak depth).length + 1 := by
        simp [Json.laidOutItems]
      have hitem := readValue_laidOut item (depth + 1) fuel
        (Json.laidOutItems l depth [] ++ rest) (by omega)
        (endsNumeral_laidOutItems l depth [] rest)
      rw [readItems_succ, hitem, Option.bind_some, itemsAfter, Json.laidOutItems,
        List.append_assoc, skipBlanks_append (l.isBlank_of_mem_lineBreak depth),
        List.singleton_append, skipBlanks_cons (by decide)]
      rfl
  | item, next :: items, depth, fuel + 1, rest, hfuel => by
      -- The further items are shorter by the first one, which is not empty.
      have hpos := length_laidOut_pos l (depth + 1) item
      have hlength : (Json.laidOutItems l depth (next :: items)).length
          = (l.lineBreak (depth + 1)).length + ((Json.laidOut l (depth + 1) next).length
            + (Json.laidOutItems l depth items).length) + 1 := by
        simp [Json.laidOutItems]
      have hitem := readValue_laidOut item (depth + 1) fuel
        (Json.laidOutItems l depth (next :: items) ++ rest) (by omega)
        (endsNumeral_laidOutItems l depth (next :: items) rest)
      have hnext := readItems_laidOut next items depth fuel rest (by omega)
      rw [readItems_succ, hitem, Option.bind_some, itemsAfter, Json.laidOutItems,
        List.cons_append, skipBlanks_cons (by decide)]
      simp only [List.append_assoc]
      rw [readItems_append (l.isBlank_of_mem_lineBreak _), hnext]
      rfl

/-- A field and what is laid out after it are read as fields. -/
lemma readFields_laidOut : ∀ (name : String) (value : Json) (fields : List (String × Json))
    (depth fuel : Nat) (rest : List Char),
    (Json.laidOut l (depth + 1) value).length + (Json.laidOutFields l depth fields).length < fuel →
      readFields fuel (quoted name ++ ':' :: (l.gap ++ (Json.laidOut l (depth + 1) value ++
          (Json.laidOutFields l depth fields ++ rest))))
        = some ((some name, value.document) :: Json.fieldDocuments fields, rest)
  | _, _, _, _, 0, _, hfuel => absurd hfuel (Nat.not_lt_zero _)
  | name, value, [], depth, fuel + 1, rest, hfuel => by
      have hlength : (Json.laidOutFields l depth []).length = (l.lineBreak depth).length + 1 := by
        simp [Json.laidOutFields]
      have hvalue := readValue_laidOut value (depth + 1) fuel
        (Json.laidOutFields l depth [] ++ rest) (by omega)
        (endsNumeral_laidOutFields l depth [] rest)
      rw [readFields_quoted, readValue_append l.isBlank_of_mem_gap, hvalue, Option.bind_some,
        fieldsAfter, Json.laidOutFields, List.append_assoc,
        skipBlanks_append (l.isBlank_of_mem_lineBreak depth), List.singleton_append,
        skipBlanks_cons (by decide)]
      rfl
  | name, value, (name', value') :: fields, depth, fuel + 1, rest, hfuel => by
      have hpos := length_laidOut_pos l (depth + 1) value
      have hlength : (Json.laidOutFields l depth ((name', value') :: fields)).length
          = (l.lineBreak (depth + 1)).length + ((quoted name').length + (l.gap.length +
            ((Json.laidOut l (depth + 1) value').length
              + (Json.laidOutFields l depth fields).length) + 1)) + 1 := by
        simp [Json.laidOutFields]
      have hvalue := readValue_laidOut value (depth + 1) fuel
        (Json.laidOutFields l depth ((name', value') :: fields) ++ rest) (by omega)
        (endsNumeral_laidOutFields l depth ((name', value') :: fields) rest)
      have hnext := readFields_laidOut name' value' fields depth fuel rest (by omega)
      rw [readFields_quoted, readValue_append l.isBlank_of_mem_gap, hvalue, Option.bind_some,
        fieldsAfter, Json.laidOutFields, List.cons_append, skipBlanks_cons (by decide)]
      simp only [List.append_assoc, List.cons_append]
      rw [readFields_append (l.isBlank_of_mem_lineBreak _), hnext]
      rfl

end

/-! ## Written texts -/

/-- Characters that lay out a value, with blanks after them, spell its document. -/
lemma ofChars?_laidOut (v : Json) (blanks : List Char) (hblanks : ∀ c ∈ blanks, isBlank c = true) :
    ofChars? (Json.laidOut l 0 v ++ blanks) = some v.document := by
  have hends : Numeral.EndsNumeral blanks := by
    simpa using endsNumeral_append hblanks Numeral.endsNumeral_nil
  have hskip : skipBlanks blanks = [] := by
    simpa [skipBlanks] using skipBlanks_append hblanks []
  rw [ofChars?, readValue_laidOut l v 0 _ blanks (by rw [List.length_append]; omega) hends]
  simp only [hskip, List.isEmpty_nil, if_true]

/-- **The compact form of a value is read as its document.** -/
theorem read?_compact (v : Json) : read? v.compact = some v.document := by
  have hread := ofChars?_laidOut .tight v [] (by simp)
  rw [Json.laidOut_tight, List.append_nil] at hread
  rw [read?, Json.compact, String.toList_ofList, hread]

/-- **The indented form of a value, as files hold it, is read as its document.** -/
theorem read?_fileText (v : Json) : read? v.fileText = some v.document := by
  have hread := ofChars?_laidOut .indented v ['\n'] (by simp; decide)
  rw [Json.laidOut_indented] at hread
  rw [read?, Json.fileText, Json.pretty, String.toList_append, String.toList_ofList]
  exact hread

/-! ## Texts in bytes -/

/-- The bytes of a text are read as the text. -/
lemma fromUTF8?_toUTF8 (text : String) : String.fromUTF8? text.toUTF8 = some text :=
  dif_pos text.isValidUTF8

lemma ofBytes?_toUTF8 (text : String) : ofBytes? text.toUTF8 = read? text := by
  rw [ofBytes?, fromUTF8?_toUTF8]

end Document
end LedgerCheck
