import LedgerCheck.Intake
import LedgerCheck.Proofs.RunResult.Document
import LedgerCheck.Proofs.Text.Mark

/-!
# Run outcomes are handed over

The part that runs a check writes how the run ended into a file, and the part that reports on it
reads the file.  Between the two stand the names of the classes, the escapes of the messages, and
what an editor may do to a file.  An outcome cannot be both an error and an end condition, and no
file is taken for one that is.

* `snakeCase`, `ErrorClass.name_eq_snakeCase` — the names that classes have in documents.
* **`CheckError.ofDocumentWithin?_document`** — an error is read as it was written.
* `RunOutcome.GivesBoth`, `RunOutcome.HasOther` — documents that describe no outcome.
* `FileReader.outcome_eq_ok_iff` — the outcome of a file that holds a document.
* **`FileReader.outcome_exact`** — what is handed over, what is refused, and what does not matter.
-/

namespace LedgerCheck

/-! ## Errors in documents -/

/-- An identifier in lower case, with an underscore in front of each further word. -/
def snakeCase (identifier : String) : String :=
  match identifier.toList with
  | [] => ""
  | c :: rest =>
    String.ofList (c.toLower :: rest.flatMap fun c => if c.isUpper then ['_', c.toLower] else [c])

namespace ErrorClass

/-- The identifier of a class, from which its name in documents is made. -/
def identifier : ErrorClass → String
  | fetch => "Fetch"
  | networkNotSupported => "NetworkNotSupported"
  | networkStatus => "NetworkStatus"
  | fetchBlock => "FetchBlock"
  | assertion => "Assertion"
  | syncer => "Syncer"
  | storage _ => "Storage"
  | reconciliation => "Reconciliation"
  | other => "Other"

lemma name_eq_snakeCase (c : ErrorClass) : c.name = snakeCase c.identifier := by
  cases c with
  | storage kind => exact (by decide : "storage" = snakeCase "Storage")
  | _ => decide

end ErrorClass

lemma StorageKind.ofName?_name (kind : StorageKind) : ofName? kind.name = some kind := by
  cases kind <;> decide

namespace CheckError

/-- The fields behind the class of a written error. -/
def contentFields (e : CheckError) : List (String × Json) :=
  (match e.cause with
    | .storage kind => [("kind", .string kind.name)]
    | _ => []) ++ [("message", .string e.message)]

lemma toJson_eq (e : CheckError) :
    e.toJson = .object (("class", .string e.cause.name) :: e.contentFields) := rfl

lemma mem_contentFields {e : CheckError} {field : String × Json} (h : field ∈ e.contentFields) :
    field.1 ≠ "class" ∧ ∃ s, field.2 = .string s := by
  rcases List.mem_append.mp h with h | h
  · split at h
    · obtain rfl := List.mem_singleton.mp h
      exact ⟨(by decide : "kind" ≠ "class"), _, rfl⟩
    · exact absurd h List.not_mem_nil
  · obtain rfl := List.mem_singleton.mp h
    exact ⟨(by decide : "message" ≠ "class"), _, rfl⟩

lemma ofContent?_document (e : CheckError) :
    ofContent? e.cause.name (Json.object e.contentFields).document = some e := by
  obtain ⟨cause, message⟩ := e
  cases cause with
  | storage kind =>
      rw [ofContent?, Record.ofDocument?_document _ _ rfl rfl (by simp [contentFields])]
      simp [contentRecord, contentFields, ErrorClass.name, Json.field?, Json.document, kind?,
        StorageKind.ofName?_name, Document.string?, List.lookup]
  | _ =>
      rw [ofContent?, Record.ofDocument?_document _ _ rfl rfl (by simp [contentFields])]
      simp [contentRecord, contentFields, ErrorClass.name, Json.field?, Json.document, plainClass?,
        Document.string?]

lemma plainWithin_contentFields (depth : Nat) (e : CheckError) :
    (Json.object e.contentFields).PlainWithin (depth + 1) := by
  refine Json.plainWithin_object fun field hfield => ?_
  obtain ⟨-, s, hs⟩ := mem_contentFields hfield
  rw [hs]
  exact Json.plainWithin_string depth s

/-- The one class of a written error. -/
lemma filter_class (e : CheckError) :
    ((("class", Json.string e.cause.name) :: e.contentFields).map fun field =>
        (field.1, field.2.document)).filter (·.1 == "class")
      = [("class", .string (some e.cause.name))] := by
  have hother : (e.contentFields.map fun field => (field.1, field.2.document)).filter
      (·.1 == "class") = [] := by
    refine List.filter_eq_nil_iff.mpr fun field hfield => ?_
    obtain ⟨field, hmem, rfl⟩ := List.mem_map.mp hfield
    simpa using (mem_contentFields hmem).1
  rw [List.map_cons, List.filter_cons, hother, if_pos (beq_self_eq_true _), Json.document]

/-- **An error is read as it was written**, in a container or outside of any. -/
theorem ofDocumentWithin?_document (depth : Nat) (e : CheckError) :
    ofDocumentWithin? (depth + 1) e.toJson.document = some e := by
  have hnamed := Json.named?_fieldDocuments (("class", .string e.cause.name) :: e.contentFields)
  have hclasses := filter_class e
  have hcontent : (Json.fieldDocuments e.contentFields).filter
      (fun field => !(field.1 == some "class")) = Json.fieldDocuments e.contentFields := by
    refine List.filter_eq_self.mpr fun field hfield => ?_
    rw [Record.named?_eq_some_iff.mp (Json.named?_fieldDocuments e.contentFields),
      List.map_map] at hfield
    obtain ⟨field, hmem, rfl⟩ := List.mem_map.mp hfield
    simpa using (mem_contentFields hmem).1
  -- the fields behind the class have to be plain values before they are looked at
  have hplain := Json.toJsonWithin?_document _ _ (plainWithin_contentFields depth e)
  have hread := ofContent?_document e
  rw [Json.document] at hplain hread
  rw [Json.fieldDocuments] at hnamed
  rw [toJson_eq, Json.document, Json.fieldDocuments, ofDocumentWithin?, hnamed]
  simp only [Option.bind_eq_bind, Option.bind_some, hclasses]
  rw [List.filter_cons_of_neg (by simp), hcontent, hplain]
  exact hread

/-- **A written error has one class**, whose name is that of its cause. -/
lemma holds_class (e : CheckError) :
    ∃ fields, e.toJson.document = .object (fields.map fun field => (some field.1, field.2)) ∧
      Holds fields "class" (some (.string (some e.cause.name))) := by
  have hnamed := Json.named?_fieldDocuments (("class", .string e.cause.name) :: e.contentFields)
  refine ⟨(("class", .string e.cause.name) :: e.contentFields).map fun field =>
    (field.1, field.2.document), ?_, ?_⟩
  · rw [toJson_eq, Json.document, Record.named?_eq_some_iff.mp hnamed]
  · rw [Holds, filter_class]
    rfl

end CheckError

/-! ## Outcomes in documents -/

namespace RunOutcome

variable {d : Document} {o : RunOutcome}

/-- An outcome is read part by part. -/
lemma ofDocument?_eq_some_iff :
    ofDocument? d = some o ↔ ∃ error endCondition,
      record.ofDocument? d = some [error, endCondition] ∧
        Document.optional (CheckError.ofDocumentWithin? (Document.depthLimit - 1)) error
          = some o.error ∧
        Document.optional EndCondition.ofDocument? endCondition = some o.endCondition := by
  rw [ofDocument?, Option.bind_eq_bind, Option.bind_eq_some_iff]
  constructor
  · rintro ⟨values, hvalues, h⟩
    split at h
    · simp only [Option.bind_eq_bind, Option.bind_eq_some_iff, Option.some.injEq] at h
      obtain ⟨error, herror, endCondition, hend, rfl⟩ := h
      exact ⟨_, _, hvalues, herror, hend⟩
    · cases h
  · rintro ⟨error, endCondition, hvalues, herror, hend⟩
    refine ⟨_, hvalues, ?_⟩
    simp only [herror, hend, Option.bind_eq_bind, Option.bind_some]

/-- **An error is read as the outcome that it is.** -/
lemma ofDocument?_error (e : CheckError) :
    ofDocument? (.object [(some "error", e.toJson.document)]) = some ⟨some e, none⟩ := by
  refine ofDocument?_eq_some_iff.mpr ⟨some e.toJson.document, none, ?_, ?_, rfl⟩
  · exact Record.ofDocument?_pair_iff.mpr
      (Or.inl ⟨[("error", e.toJson.document)], rfl, by simp, rfl, rfl⟩)
  · show Document.optional _ ((Option.map CheckError.toJson (some e)).map Json.document) = _
    exact Document.optional_document (fun _ => Json.noConfusion) fun a _ =>
      CheckError.ofDocumentWithin?_document 125 a

/-- **An end condition is read as the outcome that it is.** -/
lemma ofDocument?_endCondition (e : EndCondition) :
    ofDocument? (.object [(some "end_condition", e.toJson.document)]) = some ⟨none, some e⟩ := by
  refine ofDocument?_eq_some_iff.mpr ⟨none, some e.toJson.document, ?_, rfl, ?_⟩
  · exact Record.ofDocument?_pair_iff.mpr
      (Or.inl ⟨[("end_condition", e.toJson.document)], rfl, by simp, rfl, rfl⟩)
  · show Document.optional _ ((Option.map EndCondition.toJson (some e)).map Json.document) = _
    exact Document.optional_document (fun _ => Json.noConfusion) fun a _ =>
      EndCondition.ofDocument?_document a

/-- **A document gives both parts of an outcome**, neither of them as null. -/
inductive GivesBoth : Document → Prop
  | object {fields : List (Option String × Document)} {error endCondition : Document}
      (herror : (some "error", error) ∈ fields)
      (hend : (some "end_condition", endCondition) ∈ fields)
      (h : error ≠ .null ∧ endCondition ≠ .null) : GivesBoth (.object fields)
  | array {error endCondition : Document} {rest : List Document}
      (h : error ≠ .null ∧ endCondition ≠ .null) :
      GivesBoth (.array (error :: endCondition :: rest))

/-- A document has a field that no outcome has. -/
def HasOther (d : Document) : Prop :=
  ∃ fields, d = .object fields ∧
    ∃ field ∈ fields, field.1 ≠ some "error" ∧ field.1 ≠ some "end_condition"

/-- **An outcome that is read from both parts contradicts itself.** -/
lemma isContradictory_of_givesBoth (hd : GivesBoth d) (ho : ofDocument? d = some o) :
    o.isContradictory = true := by
  obtain ⟨first, second, hrecord, herror, hend⟩ := ofDocument?_eq_some_iff.mp ho
  obtain ⟨error, endCondition, hnull, rfl, rfl⟩ : ∃ error endCondition,
      (error ≠ Document.null ∧ endCondition ≠ Document.null) ∧ first = some error ∧
        second = some endCondition := by
    rcases Record.ofDocument?_pair_iff.mp hrecord with ⟨fields, rfl, -, hfirst, hsecond⟩ |
      ⟨items, rfl, -, -, rfl, rfl⟩
    · cases hd with
      | object herror hend h =>
          exact ⟨_, _, h, hfirst.eq_some (by simpa using herror),
            hsecond.eq_some (by simpa using hend)⟩
    · cases hd with
      | array h => exact ⟨_, _, h, rfl, rfl⟩
  rw [isContradictory, Document.isSome_of_optional herror hnull.1,
    Document.isSome_of_optional hend hnull.2]
  rfl

/-- No outcome is read from a document with another field. -/
lemma ofDocument?_eq_none_of_hasOther (hd : HasOther d) : ofDocument? d = none := by
  obtain ⟨fields, rfl, field, hfield, hname⟩ := hd
  refine Option.eq_none_iff_forall_ne_some.mpr fun o ho => ?_
  obtain ⟨first, second, hrecord, -⟩ := ofDocument?_eq_some_iff.mp ho
  rcases Record.ofDocument?_pair_iff.mp hrecord with ⟨named, heq, hnames, -⟩ | ⟨items, heq, -⟩
  · cases heq
    obtain ⟨field, hmem, rfl⟩ := List.mem_map.mp hfield
    rcases hnames rfl field hmem with h | h
    · exact hname.1 (congrArg some h)
    · exact hname.2 (congrArg some h)
  · cases heq

end RunOutcome

/-! ## Texts in files -/

namespace Document

/-- No document starts with the character of a byte order mark. -/
lemma head?_ne_mark {text : String} {d : Document} (h : read? text = some d) :
    text.toList.head? ≠ some '\ufeff' := by
  intro hhead
  obtain ⟨rest, hrest⟩ := List.head?_eq_some_iff.mp hhead
  -- what starts no other value is read as a numeral
  have hnone : Numeral.read ('\ufeff' :: rest) = none := by
    simp [Numeral.read, Numeral.readUnsigned, Numeral.readWhole, Char.isDigit]
  rw [read?, ofChars?, hrest, readValue, skipBlanks_cons (by decide)] at h
  simp [hnone] at h

/-- A value in braces behind a name and blanks is read as an object with one field. -/
lemma ofChars?_onlyField (name : String) {gap : List Char} (hgap : ∀ c ∈ gap, isBlank c = true)
    (v : Json) :
    ofChars? ('\x7b' :: (quoted name ++ ':' :: (gap ++ (v.compactChars ++ ['\x7d']))))
      = some (.object [(some name, v.document)]) := by
  have hvalue (fuel : Nat) (hfuel : v.compactChars.length < fuel) :
      readValue fuel (gap ++ (v.compactChars ++ ['\x7d'])) = some (v.document, ['\x7d']) := by
    rw [readValue_append hgap, ← Json.laidOut_tight v 0]
    rw [← Json.laidOut_tight v 0] at hfuel
    exact readValue_laidOut .tight v 0 fuel _ hfuel (Numeral.endsNumeral_cons.mpr (by decide))
  have hobject := readValue_object
    (('\x7b' :: (quoted name ++ ':' :: (gap ++ (v.compactChars ++ ['\x7d'])))).length)
    (List.forall_mem_nil _) name (':' :: (gap ++ (v.compactChars ++ ['\x7d'])))
  rw [ofChars?]
  rw [List.nil_append] at hobject
  rw [hobject, List.length_cons, readFields_quoted, hvalue _ (by simp; omega)]
  rfl

end Document

/-- An object with one field, whose value is written as another text behind some blanks. -/
def onlyField (name blanks value : String) : String :=
  "\x7b\"" ++ name ++ "\":" ++ blanks ++ value ++ "\x7d"

/-- An object with one field is read as such, if nothing in its name is escaped. -/
lemma read?_onlyField {name blanks : String} (hname : quoted name = '"' :: name.toList ++ ['"'])
    (hblanks : ∀ c ∈ blanks.toList, Document.isBlank c = true) (v : Json) :
    Document.read? (onlyField name blanks v.compact)
      = some (.object [(some name, v.document)]) := by
  have hread := Document.ofChars?_onlyField name hblanks v
  rw [hname] at hread
  rw [Document.read?, onlyField, ← hread]
  simp [String.toList_append, Json.compact]

namespace FileReader

variable {files files' : FileReader} {path text : String}

/-- A file holds a text, behind a byte order mark or without one. -/
def Contains (files : FileReader) (path text : String) : Prop :=
  files path = some text.toUTF8 ∨ files path = some (Utf8.marked text.toUTF8)

/-- A file that holds a text is read as the text. -/
lemma text_of_contains (h : files.Contains path text) (hmark : text.toList.head? ≠ some '\ufeff') :
    files.text path = .ok text := by
  have hread : (files path).map Utf8.withoutMark = some text.toUTF8 := by
    rcases h with h | h
    · rw [h, Option.map_some,
        Utf8.withoutMark_eq_self (mt Utf8.mark_prefix_iff.mp hmark)]
    · rw [h, Option.map_some, Utf8.withoutMark_marked]
  obtain ⟨content, hcontent, hbytes⟩ := Option.map_eq_some_iff.mp hread
  rw [FileReader.text, hcontent]
  simp only [hbytes, Document.fromUTF8?_toUTF8]

/-- A byte order mark does not change the text of a file. -/
lemma text_marked {content : ByteArray} (hmark : ¬ Utf8.mark <+: content.toList)
    (h : files path = some content) (h' : files' path = some (Utf8.marked content)) :
    files'.text path = files.text path := by
  rw [FileReader.text, FileReader.text, h, h']
  simp only [Utf8.withoutMark_marked, Utf8.withoutMark_eq_self hmark]

/-- A file whose bytes are no text has no text. -/
lemma text_of_not_utf8 {content : ByteArray} (hcontent : ∀ text : String, content ≠ text.toUTF8)
    (h : files path = some content) : files.text path = .error .notUtf8 := by
  have hnone : String.fromUTF8? (Utf8.withoutMark content) = none := by
    refine Option.eq_none_iff_forall_ne_some.mpr fun text htext => ?_
    obtain ⟨whole, hwhole⟩ := Utf8.exists_toUTF8_of_withoutMark htext
    exact hcontent whole hwhole
  rw [FileReader.text, h]
  simp only [hnone]

/-- **The outcome of a file** is the one that its document describes, if that has one part at
most. -/
lemma outcome_eq_ok_iff {d : Document} (h : files.Contains path text)
    (hd : Document.read? text = some d) {o : RunOutcome} :
    files.outcome path = .ok o ↔ RunOutcome.ofDocument? d = some o ∧ o.isContradictory = false := by
  rw [outcome, text_of_contains h (Document.head?_ne_mark hd)]
  simp only [RunOutcome.read?, hd, Option.bind_some]
  cases RunOutcome.ofDocument? d with
  | none => simp
  | some read =>
      simp only [Option.some.injEq]
      by_cases hread : read.isContradictory = true
      · simp only [hread, if_true, reduceCtorEq, false_iff]
        rintro ⟨rfl, hnot⟩
        simp [hread] at hnot
      · simp only [hread, Bool.false_eq_true, if_false, Except.ok.injEq, iff_self_and]
        rintro rfl
        simpa using hread

/-- An outcome that is taken has one part at most. -/
lemma not_isContradictory_of_outcome {o : RunOutcome} (h : files.outcome path = .ok o) :
    o.isContradictory = false := by
  rw [outcome] at h
  split at h
  · cases h
  · split at h
    · cases h
    · split_ifs at h with hread
      cases h
      simpa using hread

/-- **Run outcomes are handed over.**  Every error and every end condition is read from its text as
it was written, an error under the name of its class, and is the whole outcome of a file that holds
the text in its field, with or without a byte order mark.  No file gives an outcome with both parts:
one that describes both is refused, as is one with any other field and one that is not UTF-8.  A
mark in front of bytes that do not start with one matters neither to an outcome nor to counters. -/
theorem outcome_exact (files : FileReader) (path : String) :
    (∀ e : CheckError,
      (∃ fields, Document.read? e.toJson.compact
          = some (.object (fields.map fun field => (some field.1, field.2))) ∧
        Holds fields "class" (some (.string (some (snakeCase e.cause.identifier))))) ∧
      snakeCase e.cause.identifier = e.cause.name ∧
      CheckError.read? e.toJson.compact = some e ∧
      ∀ blanks : String, (∀ c ∈ blanks.toList, Document.isBlank c = true) →
        files.Contains path (onlyField "error" blanks e.toJson.compact) →
        files.outcome path = .ok ⟨some e, none⟩) ∧
    (∀ e : EndCondition,
      EndCondition.read? e.toJson.compact = some e ∧
      ∀ blanks : String, (∀ c ∈ blanks.toList, Document.isBlank c = true) →
        files.Contains path (onlyField "end_condition" blanks e.toJson.compact) →
        files.outcome path = .ok ⟨none, some e⟩) ∧
    (∀ o, files.outcome path = .ok o → o.error = none ∨ o.endCondition = none) ∧
    (∀ text d, files.Contains path text → Document.read? text = some d →
      RunOutcome.GivesBoth d ∨ RunOutcome.HasOther d → ∀ o, files.outcome path ≠ .ok o) ∧
    (∀ content, files path = some content → (∀ text : String, content ≠ text.toUTF8) →
      files.outcome path = .error (.outcomeUnread path .notUtf8)) ∧
    ∀ (files' : FileReader) (content : ByteArray), ¬ Utf8.mark <+: content.toList →
      files path = some content → files' path = some (Utf8.marked content) →
      files'.outcome path = files.outcome path ∧ files'.counters path = files.counters path := by
  refine ⟨fun e => ⟨?_, e.cause.name_eq_snakeCase.symm, ?_, fun blanks hblanks h => ?_⟩,
    fun e => ⟨?_, fun blanks hblanks h => ?_⟩, fun o ho => ?_, fun text d h hd hbad o ho => ?_,
    fun content h hcontent => ?_, fun files' content hmark h h' => ?_⟩
  · obtain ⟨fields, hdocument, hclass⟩ := e.holds_class
    exact ⟨fields, hdocument ▸ Document.read?_compact e.toJson, e.cause.name_eq_snakeCase ▸ hclass⟩
  · rw [CheckError.read?, Document.read?_compact, Option.bind_some]
    exact CheckError.ofDocumentWithin?_document 126 e
  · exact (outcome_eq_ok_iff h (read?_onlyField (by decide) hblanks e.toJson)).mpr
      ⟨RunOutcome.ofDocument?_error e, rfl⟩
  · rw [EndCondition.read?, Document.read?_compact, Option.bind_some]
    exact EndCondition.ofDocument?_document e
  · exact (outcome_eq_ok_iff h (read?_onlyField (by decide) hblanks e.toJson)).mpr
      ⟨RunOutcome.ofDocument?_endCondition e, rfl⟩
  · have hparts := not_isContradictory_of_outcome ho
    rw [RunOutcome.isContradictory, Bool.and_eq_false_iff] at hparts
    simpa using hparts
  · obtain ⟨hread, hparts⟩ := (outcome_eq_ok_iff h hd).mp ho
    rcases hbad with hboth | hother
    · rw [RunOutcome.isContradictory_of_givesBoth hboth hread] at hparts
      cases hparts
    · rw [RunOutcome.ofDocument?_eq_none_of_hasOther hother] at hread
      cases hread
  · rw [outcome, text_of_not_utf8 hcontent h]
  · rw [outcome, outcome, counters, counters, text_marked hmark h h']
    exact ⟨rfl, rfl⟩

/-- A storage error behind a mark, an outcome with both parts, and a file that is not UTF-8. -/
theorem outcome_exact_marked :
    let e : CheckError := ⟨.storage .balancePruned, "pruned at \"10\"\n"⟩
    let c : EndCondition := ⟨.tip, "Tip: 10"⟩
    let both := Json.object [("error", e.toJson), ("end_condition", c.toJson)]
    let files : FileReader := fun path =>
      if path = "error" then some (Utf8.marked (onlyField "error" " " e.toJson.compact).toUTF8)
      else if path = "both" then some both.compact.toUTF8
      else some ⟨#[0xFF]⟩
    let marked : FileReader := fun path => (files path).map Utf8.marked
    files.outcome "error" = .ok ⟨some e, none⟩ ∧
      (∀ o, files.outcome "both" ≠ .ok o) ∧
      marked.outcome "both" = files.outcome "both" ∧
      files.outcome "broken" = .error (.outcomeUnread "broken" .notUtf8) := by
  intro e c both files marked
  obtain ⟨herror, -⟩ := outcome_exact files "error"
  obtain ⟨-, -, -, hboth, -, hmark⟩ := outcome_exact files "both"
  obtain ⟨-, -, -, -, hbroken, -⟩ := outcome_exact files "broken"
  have hgives : RunOutcome.GivesBoth both.document :=
    .object List.mem_cons_self (List.mem_cons_of_mem _ List.mem_cons_self)
      ⟨Document.noConfusion, Document.noConfusion⟩
  have hread := Document.read?_compact both
  have hfile : files.Contains "both" both.compact := Or.inl rfl
  refine ⟨?_, ?_, ?_, ?_⟩
  · exact (herror e).2.2.2 " " (by simp [Document.isBlank]) (Or.inr (if_pos rfl))
  · exact hboth both.compact both.document hfile hread (Or.inl hgives)
  · refine (hmark marked both.compact.toUTF8 ?_ rfl rfl).1
    exact mt Utf8.mark_prefix_iff.mp (Document.head?_ne_mark hread)
  · refine hbroken ⟨#[0xFF]⟩ rfl fun text htext => ?_
    have hnone : String.fromUTF8? ⟨#[0xFF]⟩ = none := by decide +kernel
    rw [Utf8.fromUTF8?_eq_some_iff.mpr htext] at hnone
    cases hnone

end FileReader
end LedgerCheck
