import LedgerCheck.Proofs.LiveStatus
import LedgerCheck.Proofs.Text.Utf8
import LedgerCheck.Remote.Tip

/-!
# What becomes of a reply

A reply is classified by its status and its body.  The body of an unsuccessful one either describes
the failure as a whole or counts as a text only, and may be any bytes at all.

* `Document.Describes` — a document that describes a failure.
* **`ApiFault.ofDocument?_eq_some_iff`** — what is read from a body is what it describes.
* `Reply.HasText`, `Reply.Reports` — what an unsuccessful reply reports.
* **`Reply.reports_iff`** — there is one such report, and it is the one that is made.
* **`Reply.classify_exact`** — what a reply is to each of the two requests.
-/

namespace LedgerCheck

/-! ## Descriptions of failures -/

/-- **A document describes a failure**: an object with a code, a message, both or neither, and any
other fields, or an array of a code and a message. -/
inductive Document.Describes : Document → ApiFault → Prop
  | object {fields : List (String × Document)} {code message : Option Document} {f : ApiFault}
      (hcode : Holds fields "code" code) (hmessage : Holds fields "message" message)
      (hf : Tells IsInteger code f.code ∧ Tells IsText message f.message) :
      Document.Describes (.object (fields.map fun field => (some field.1, field.2))) f
  | array {code message : Document} {f : ApiFault}
      (hf : Tells IsInteger (some code) f.code ∧ Tells IsText (some message) f.message) :
      Document.Describes (.array [code, message]) f

namespace ApiFault

open Document

/-- **What a document says about a failure is what it describes.** -/
theorem ofDocument?_eq_some_iff {d : Document} {f : ApiFault} :
    ofDocument? d = some f ↔ d.Describes f := by
  have hfields (code message : Option Document) :
      (do some { code := ← optional int64? code, message := ← optional string? message })
          = some f ↔ Tells IsInteger code f.code ∧ Tells IsText message f.message := by
    rw [← optional_eq_some_iff int64?_eq_some_iff rfl,
      ← optional_eq_some_iff string?_eq_some_iff rfl]
    simp only [Option.bind_eq_bind, Option.bind_eq_some_iff, Option.some.injEq]
    constructor
    · rintro ⟨code, hcode, message, hmessage, rfl⟩
      exact ⟨hcode, hmessage⟩
    · rintro ⟨hcode, hmessage⟩
      exact ⟨f.code, hcode, f.message, hmessage, rfl⟩
  have hread : ofDocument? d = some f ↔ ∃ code message,
      record.ofDocument? d = some [code, message] ∧
        Tells IsInteger code f.code ∧ Tells IsText message f.message := by
    rw [ofDocument?, Option.bind_eq_bind, Option.bind_eq_some_iff]
    constructor
    · rintro ⟨values, hvalues, h⟩
      split at h
      · exact ⟨_, _, hvalues, (hfields _ _).mp h⟩
      · cases h
    · rintro ⟨code, message, hvalues, hf⟩
      exact ⟨[code, message], hvalues, (hfields code message).mpr hf⟩
  rw [hread]
  constructor
  · rintro ⟨code, message, hrecord, hf⟩
    rcases Record.ofDocument?_pair_iff.mp hrecord with ⟨fields, rfl, -, hcode, hmessage⟩ |
      ⟨items, rfl, hleast, hmost, rfl, rfl⟩
    · exact .object hcode hmessage hf
    · obtain ⟨first, second, rfl⟩ := List.length_eq_two.mp (le_antisymm hmost hleast)
      exact .array hf
  · intro h
    cases h with
    | object hcode hmessage hf =>
        refine ⟨_, _, Record.ofDocument?_pair_iff.mpr (Or.inl ⟨_, rfl, ?_, hcode, hmessage⟩), hf⟩
        exact fun hclosed => absurd hclosed Bool.false_ne_true
    | array hf =>
        exact ⟨_, _, Record.ofDocument?_pair_iff.mpr
          (Or.inr ⟨_, rfl, le_refl 2, le_refl 2, rfl, rfl⟩), hf⟩

end ApiFault

/-! ## Reports of failures -/

namespace Reply

variable {r : Reply} {f : ApiFault} {code : Option Int64} {message text : String}

/-- **The text of a body**: what its bytes are read as, without the blanks at both ends. -/
def HasText (r : Reply) (text : String) : Prop :=
  ∃ cs, Utf8.Mends r.body.toList cs ∧ Utf8.IsTrimmed cs text.toList

/-- The body describes a failure. -/
def Describes (r : Reply) (f : ApiFault) : Prop :=
  ∃ d, Document.ofBytes? r.body = some d ∧ d.Describes f

/-- **What an unsuccessful reply reports**: what its body describes, or the text of the body in
place of a message that it does not give.  Of a body that describes no failure nothing else counts.
-/
inductive Reports (r : Reply) : Option Int64 → String → Prop
  | worded {code : Option Int64} {message : String} (h : r.Describes ⟨code, some message⟩) :
      Reports r code message
  | wordless {code : Option Int64} {text : String} (h : r.Describes ⟨code, none⟩)
      (htext : r.HasText text) : Reports r code text
  | undescribed {text : String} (h : ∀ f, ¬ r.Describes f) (htext : r.HasText text) :
      Reports r none text

lemma hasText_iff : r.HasText text ↔ text = r.text := by
  rw [HasText, Reply.text]
  simp only [Utf8.mends_iff, Utf8.isTrimmed_iff, exists_eq_left]
  rw [← String.toList_inj, String.toList_ofList]

lemma describes_iff :
    r.Describes f ↔ (Document.ofBytes? r.body).bind ApiFault.ofDocument? = some f := by
  rw [Describes, Option.bind_eq_some_iff]
  simp only [ApiFault.ofDocument?_eq_some_iff]

/-- **An unsuccessful reply reports one thing**, which is the error that it is. -/
theorem reports_iff : r.Reports code message ↔ r.fault = .api r.status code message := by
  have hdescribes (f : ApiFault) := describes_iff (r := r) (f := f)
  rw [fault]
  cases hbody : (Document.ofBytes? r.body).bind ApiFault.ofDocument? with
  | none =>
      simp only [hbody, reduceCtorEq, iff_false] at hdescribes
      simp only [Option.getD_none, FetchError.api.injEq, true_and]
      constructor
      · intro h
        cases h with
        | worded h => exact absurd h (hdescribes _)
        | wordless h _ => exact absurd h (hdescribes _)
        | undescribed _ htext => exact ⟨rfl, (hasText_iff.mp htext).symm⟩
      · rintro ⟨rfl, rfl⟩
        exact .undescribed hdescribes (hasText_iff.mpr rfl)
  | some f =>
      simp only [hbody, Option.some.injEq] at hdescribes
      simp only [Option.getD_some, FetchError.api.injEq, true_and]
      constructor
      · intro h
        cases h with
        | worded h =>
            obtain rfl := (hdescribes _).mp h
            exact ⟨rfl, rfl⟩
        | wordless h htext =>
            obtain rfl := (hdescribes _).mp h
            exact ⟨rfl, (hasText_iff.mp htext).symm⟩
        | undescribed h _ => exact absurd ((hdescribes f).mpr rfl) (h f)
      · rintro ⟨rfl, rfl⟩
        obtain ⟨code, _ | message⟩ := f
        · exact .wordless ((hdescribes _).mpr rfl) (hasText_iff.mpr rfl)
        · exact .worded ((hdescribes _).mpr rfl)

/-! ## Classified replies -/

variable {α : Type} (read : Document → Option α)

/-- The reply reports a success. -/
def Succeeds (r : Reply) : Prop := 200 ≤ r.status ∧ r.status ≤ 299

/-- The body is a document of which something can be read. -/
def Gives (r : Reply) (read : Document → Option α) (a : α) : Prop :=
  ∃ d, Document.ofBytes? r.body = some d ∧ read d = some a

lemma isSuccess_iff : r.isSuccess = true ↔ r.Succeeds := by
  simp [isSuccess, Succeeds, Nat.lt_succ_iff]

/-- **An unsuccessful reply** is an error with its status and with what it reports. -/
lemma classify_of_not_succeeds (h : ¬ r.Succeeds) {result : Except FetchError α} :
    r.classify read = result ↔
      ∃ code message, r.Reports code message ∧ result = .error (.api r.status code message) := by
  rw [classify, if_neg (mt isSuccess_iff.mp h)]
  simp only [reports_iff]
  constructor
  · rintro rfl
    exact ⟨_, _, rfl, rfl⟩
  · rintro ⟨code, message, hfault, rfl⟩
    rw [hfault]

/-- **A successful reply** is of use exactly if something can be read of its body. -/
lemma classify_of_succeeds (h : r.Succeeds) :
    (∀ a, r.classify read = .ok a ↔ r.Gives read a) ∧
      ((∃ reason, r.classify read = .error (.decode reason)) ↔ ∀ a, ¬ r.Gives read a) := by
  rw [classify, if_pos (isSuccess_iff.mpr h)]
  simp only [Gives, ← Option.bind_eq_some_iff]
  cases (Document.ofBytes? r.body).bind read <;> simp

/-- A reply that was received is no failure to receive one. -/
lemma classify_ne_transport (reason : String) : r.classify read ≠ .error (.transport reason) := by
  rw [classify]
  split_ifs
  · split <;> simp
  · simp [fault]

end Reply

lemma Server.append_statusNote (message : String) :
    message ++ ": " ++ Server.statusNote = message ++ ": unable to fetch check:data status" := by
  rw [String.append_assoc]
  rfl

namespace Reply

open Server

/-- **A reply is classified exactly.**  Outside of the statuses of success it is an error with its
status and with what it reports, and otherwise it is of use or cannot be read, but never an error
of the connection.  The request for a status adds its note to either error once and changes nothing
else, and the request for a tip adds nothing. -/
theorem classify_exact (r : Reply) :
    (∀ {α : Type} (read : Document → Option α),
      (¬ r.Succeeds → ∀ result, r.classify read = result ↔
        ∃ code message, r.Reports code message ∧
          result = .error (.api r.status code message)) ∧
      (r.Succeeds →
        (∀ a, r.classify read = .ok a ↔ r.Gives read a) ∧
        ((∃ reason, r.classify read = .error (.decode reason)) ↔ ∀ a, ¬ r.Gives read a)) ∧
      ∀ reason, r.classify read ≠ .error (.transport reason)) ∧
    (∀ (server : Server) (url : String), server (statusRequest url) = .ok r →
      ∀ result, server.publishedStatus url = result ↔
        (∃ s, r.classify LiveStatus.ofDocument? = .ok s ∧ result = .ok s) ∨
        (∃ status code message,
          r.classify LiveStatus.ofDocument? = .error (.api status code message) ∧
          result = .error (.api status code
            (message ++ ": unable to fetch check:data status"))) ∨
        ∃ reason, r.classify LiveStatus.ofDocument? = .error (.decode reason) ∧
          result = .error (.decode (reason ++ ": unable to fetch check:data status"))) ∧
    ∀ (server : Server) (config : CheckConfig), server config.statusRequest = .ok r →
      (∀ tip, server.currentTip config = .ok tip ↔
        r.classify NetworkStatus.ofDocument? = .ok ⟨tip⟩) ∧
      ∀ e, server.currentTip config = .error e ↔
        r.classify NetworkStatus.ofDocument? = .error e := by
  refine ⟨fun {α} read => ?_, fun server url hreply result => ?_, fun server config hreply => ?_⟩
  · exact ⟨fun h _ => r.classify_of_not_succeeds read h, r.classify_of_succeeds read,
      r.classify_ne_transport read⟩
  · have hreceived := r.classify_ne_transport LiveStatus.ofDocument?
    rw [publishedStatus, hreply]
    dsimp only
    generalize r.classify LiveStatus.ofDocument? = classified at hreceived ⊢
    rcases classified with (reason | ⟨status, code, message⟩ | reason) | s
    · exact absurd rfl (hreceived reason)
    all_goals simp [Except.mapError, FetchError.withNote, append_statusNote, eq_comm]
  · rw [currentTip, hreply]
    dsimp only
    rcases r.classify NetworkStatus.ofDocument? with e | ⟨⟨tip⟩⟩ <;> simp [Except.map]

/-- A code that is no integer, a body that is no text, and a tip. -/
theorem classify_exact_ill_formed :
    let text := "\x7b\"code\":\"4\",\"message\":\"busy\"\x7d"
    let untyped : Reply := ⟨404, (text ++ "\n").toUTF8⟩
    let broken : Reply := ⟨503, ⟨#[0x20, 0xFF, 0x62, 0x75, 0x73, 0x79, 0x0A]⟩⟩
    let block := Json.object [("current_block_identifier", .object [("index", .ofInt 150)])]
    let found : Reply := ⟨200, block.compact.toUTF8⟩
    let answer (reply : Reply) : Server := fun _ => .ok reply
    (answer untyped).publishedStatus "http://status"
        = .error (.api 404 none (text ++ ": unable to fetch check:data status")) ∧
      (answer broken).currentTip {} = .error (.api 503 none "\ufffdbusy") ∧
      (answer found).currentTip {} = .ok 150 := by
  intro text untyped broken block found answer
  have huntyped : untyped.Reports none text := reports_iff.mpr (by decide +kernel)
  have hbroken : broken.Reports none "\ufffdbusy" := reports_iff.mpr (by decide +kernel)
  have hfound : found.Gives NetworkStatus.ofDocument? ⟨150⟩ := by
    refine ⟨block.document, ?_, by decide +kernel⟩
    rw [Document.ofBytes?_toUTF8, Document.read?_compact]
  have hrefused : ¬ untyped.Succeeds ∧ ¬ broken.Succeeds := by
    constructor <;> simp [Succeeds, untyped, broken]
  obtain ⟨huntyped', hstatus, -⟩ := classify_exact untyped
  obtain ⟨hbroken', -, htip⟩ := classify_exact broken
  obtain ⟨hfound', -, htip'⟩ := classify_exact found
  refine ⟨?_, ?_, ?_⟩
  · refine (hstatus (answer untyped) "http://status" rfl _).mpr (Or.inr (Or.inl ?_))
    exact ⟨404, none, text, ((huntyped' _).1 hrefused.1 _).mpr ⟨_, _, huntyped, rfl⟩, rfl⟩
  · exact ((htip (answer broken) {} rfl).2 _).mpr
      (((hbroken' _).1 hrefused.2 _).mpr ⟨_, _, hbroken, rfl⟩)
  · refine ((htip' (answer found) {} rfl).1 150).mpr ?_
    exact (((hfound' _).2.1 ⟨by decide, by decide⟩).1 _).mpr hfound

end Reply
end LedgerCheck
