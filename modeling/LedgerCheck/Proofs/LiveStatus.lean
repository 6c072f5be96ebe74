import LedgerCheck.Command
import LedgerCheck.Proofs.Json.Finite
import LedgerCheck.Proofs.Stats
import LedgerCheck.Proofs.SyncProgress

/-!
# Published statuses

A running check publishes its status and others fetch it.  The publisher and the reader share
nothing but the form of the document, in which an infinity or a NaN could be written but not read.

* `SyncProgress.yields_compute` — the figures of computed progress are finite: the blocks synced are
  fewer than the index of the tip, which fits 64 bits.
* `LiveStatus.isFinite_of_ofDocument?` — the figures of a status that was read are finite.
* **`LiveStatus.ofDocument?_document`** — a status with finite figures is read as it was written.
* **`Server.publishedStatus_relayed`** — what a running check publishes is accepted, and so is what
  is shown of any status that was accepted.
-/

namespace LedgerCheck

open Observing

/-! ## The figures of computed progress -/

namespace SyncProgress

/-- **The figures of computed progress are finite.** -/
theorem yields_compute (tip : Except String Int64) (source : CounterSource) :
    Yields IsFinite (compute tip source) := by
  intro j p hp
  obtain ⟨value, reads, events, hrun, hcases⟩ := course_compute source j tip
  rw [hrun] at hp
  rcases hcases with ⟨-, -, rfl, -⟩ | ⟨goal, -, hcourse⟩
  · cases hp
  · obtain ⟨b, o, t, -, -, -, ⟨-, hcanonical, hgoal, helapsed⟩, hestimate⟩ :=
      hcourse.eq_some_iff.mp hp
    exact hestimate.isFinite hcanonical hgoal helapsed

/-! ## Progress in documents -/

/-- The fields of written progress. -/
lemma record_document (p : SyncProgress) :
    record.ofDocument? p.toJson.document
      = some [some (Json.ofInt p.blocks.toInt).document, some (Json.ofInt p.tip.toInt).document,
          some (Json.ofBinary64 p.completed).document, some (Json.ofBinary64 p.rate).document,
          some (Json.string p.timeRemaining).document] := by
  rw [Record.ofDocument?_document record p.toJson rfl rfl (by decide : record.names.Nodup)]
  rfl

/-- **Progress is read as it was written**, if its figures are finite and read back. -/
theorem ofDocument?_document {p : SyncProgress} (hfinite : p.IsFinite)
    (hcompleted : p.completed.ReadsBack) (hrate : p.rate.ReadsBack) :
    ofDocument? p.toJson.document = some p := by
  rw [ofDocument?, record_document, Option.bind_eq_bind, Option.bind_some]
  simp only [Document.int64?_document, Document.binary64?_document hfinite.1 hcompleted,
    Document.binary64?_document hfinite.2 hrate, Document.string?_document]
  rfl

/-- The figures of progress that was read are finite. -/
lemma isFinite_of_ofDocument? {d : Document} {p : SyncProgress} (h : ofDocument? d = some p) :
    p.IsFinite := by
  simp only [ofDocument?, Option.bind_eq_bind, Option.bind_eq_some_iff] at h
  obtain ⟨fields, -, h⟩ := h
  split at h
  · simp only [Option.bind_eq_some_iff] at h
    obtain ⟨blocks, -, tip, -, completed, hcompleted, rate, hrate, timeRemaining, -, h⟩ := h
    cases h
    exact ⟨Document.isFinite_of_binary64? hcompleted, Document.isFinite_of_binary64? hrate⟩
  · cases h

lemma plainWithin_toJson (depth : Nat) {p : SyncProgress}
    (hcompleted : p.completed.ReadsBack) (hrate : p.rate.ReadsBack) :
    p.toJson.PlainWithin (depth + 1) := by
  have hcount (n : Int64) : (Json.ofInt n.toInt).PlainWithin depth :=
    Json.plainWithin_ofInt depth (Json.integerRange_toInt n)
  refine Json.plainWithin_object ?_
  simp only [List.forall_mem_cons, hcount, Json.plainWithin_ofBinary64 depth fun _ => hcompleted,
    Json.plainWithin_ofBinary64 depth fun _ => hrate, Json.plainWithin_string, true_and]
  exact List.forall_mem_nil _

lemma nullFree_toJson {p : SyncProgress} (h : p.IsFinite) : p.toJson.arranged.NullFree := by
  have hcount (n : Int64) : (Json.ofInt n.toInt).arranged.NullFree := Json.nullFree_number _
  refine Json.nullFree_arranged ?_
  simp only [List.forall_mem_cons, hcount, Json.ofBinary64, h.1, h.2, if_true, Json.nullFree_number,
    Json.nullFree_string, true_and]
  exact List.forall_mem_nil _

end SyncProgress

/-! ## Statuses in documents -/

namespace LiveStatus

variable {s : LiveStatus}

/-- The binary64 numbers of a status. -/
def figures (s : LiveStatus) : List Binary64 :=
  (s.stats.map fun stats => stats.reconciliationCoverage).toList ++
    (s.progress.map fun p => [p.completed, p.rate]).getD []

/-- A property of all figures, part by part. -/
lemma forall_figures_iff {P : Binary64 → Prop} :
    (∀ x ∈ s.figures, P x) ↔
      (∀ stats ∈ s.stats, P stats.reconciliationCoverage) ∧
        ∀ p ∈ s.progress, P p.completed ∧ P p.rate := by
  obtain ⟨stats, progress⟩ := s
  cases stats <;> cases progress <;> simp [figures]

lemma keys_toJson (s : LiveStatus) :
    ((RunResult.optionalField "stats" Stats.toJson s.stats ++
      RunResult.optionalField "progress" SyncProgress.toJson s.progress).map Prod.fst).Sublist
        record.names := by
  have hfields := (RunResult.keys_optionalField "stats" Stats.toJson s.stats).append
    (RunResult.keys_optionalField "progress" SyncProgress.toJson s.progress)
  rwa [← List.map_append] at hfields

/-- The fields of a written status; a part that is absent has none. -/
lemma field?_toJson (s : LiveStatus) (name : String) :
    s.toJson.field? name
      = if name = "stats" then s.stats.map Stats.toJson
        else if name = "progress" then s.progress.map SyncProgress.toJson
        else none := by
  rw [toJson, Json.field?]
  simp only [List.lookup_append, RunResult.lookup_optionalField]
  split_ifs <;> simp_all

/-- The fields of a written status, each of which may be left out. -/
lemma record_document (s : LiveStatus) :
    record.ofDocument? s.toJson.document
      = some [(s.stats.map Stats.toJson).map Json.document,
          (s.progress.map SyncProgress.toJson).map Json.document] := by
  rw [Record.ofDocument?_document record s.toJson rfl rfl ((keys_toJson s).nodup (by decide))]
  simp [record, field?_toJson]

/-- **A status is read as it was written**, if its figures are finite and read back. -/
theorem ofDocument?_document (hfinite : ∀ x ∈ s.figures, x.isFinite = true)
    (hreads : ∀ x ∈ s.figures, x.ReadsBack) : ofDocument? s.toJson.document = some s := by
  obtain ⟨hcoverage, hprogress⟩ := forall_figures_iff.mp hfinite
  obtain ⟨hcoverage', hprogress'⟩ := forall_figures_iff.mp hreads
  have hstats : Document.optional Stats.ofDocument?
      ((s.stats.map Stats.toJson).map Json.document) = some s.stats :=
    Document.optional_document (fun _ => Json.noConfusion) fun stats h =>
      Stats.ofDocument?_document (hcoverage stats h) (hcoverage' stats h)
  have hestimate : Document.optional SyncProgress.ofDocument?
      ((s.progress.map SyncProgress.toJson).map Json.document) = some s.progress :=
    Document.optional_document (fun _ => Json.noConfusion) fun p h =>
      SyncProgress.ofDocument?_document (hprogress p h) (hprogress' p h).1 (hprogress' p h).2
  rw [ofDocument?, record_document, Option.bind_eq_bind, Option.bind_some]
  simp only [hstats, hestimate]
  rfl

/-- The document of a status has at most two levels of containers. -/
lemma plainWithin_toJson (depth : Nat) (hreads : ∀ x ∈ s.figures, x.ReadsBack) :
    s.toJson.PlainWithin (depth + 2) := by
  obtain ⟨hcoverage, hprogress⟩ := forall_figures_iff.mp hreads
  refine Json.plainWithin_object ?_
  intro field hfield
  rcases List.mem_append.mp hfield with h | h
  · obtain ⟨stats, hstats, rfl⟩ := RunResult.mem_optionalField h
    exact Stats.plainWithin_toJson depth fun _ => hcoverage stats hstats
  · obtain ⟨p, hp, rfl⟩ := RunResult.mem_optionalField h
    exact SyncProgress.plainWithin_toJson depth (hprogress p hp).1 (hprogress p hp).2

lemma nullFree_toJson (hfinite : ∀ x ∈ s.figures, x.isFinite = true) :
    s.toJson.arranged.NullFree := by
  obtain ⟨hcoverage, hprogress⟩ := forall_figures_iff.mp hfinite
  refine Json.nullFree_arranged ?_
  intro field hfield
  rcases List.mem_append.mp hfield with h | h
  · obtain ⟨stats, hstats, rfl⟩ := RunResult.mem_optionalField h
    exact Stats.nullFree_toJson (hcoverage stats hstats)
  · obtain ⟨p, hp, rfl⟩ := RunResult.mem_optionalField h
    exact SyncProgress.nullFree_toJson (hprogress p hp)

/-- **A written status has a field for each part that it has**, and nothing in it is null. -/
structure HasFields (s : LiveStatus) (v : Json) : Prop where
  stats : v.field? "stats" = s.stats.map fun stats => stats.toJson.arranged
  progress : v.field? "progress" = s.progress.map fun p => p.toJson.arranged
  nullFree : v.NullFree

lemma hasFields_arranged (hfinite : ∀ x ∈ s.figures, x.isFinite = true) :
    s.HasFields s.toJson.arranged := by
  have hfield (name : String) := Json.field?_arranged ((keys_toJson s).nodup (by decide)) name
  rw [← toJson] at hfield
  refine ⟨?_, ?_, nullFree_toJson hfinite⟩
  · rw [hfield, field?_toJson]
    simp only [if_true, Option.map_map, Function.comp_def]
  · rw [hfield, field?_toJson]
    simp only [String.reduceEq, if_false, if_true, Option.map_map, Function.comp_def]

/-! ## Which figures are finite -/

/-- **The figures of a computed status are finite.** -/
theorem isFinite_of_compute (source : Option CounterSource) (coverage : Option CoverageSource)
    (tip : Except String Int64) (j : Journal) :
    ∀ x ∈ ((compute source coverage tip).run j).1.figures, x.isFinite = true := by
  have hprogress : Yields SyncProgress.IsFinite (progressTo source tip) := by
    cases tip with
    | error reason => exact yields_bind fun _ => yields_none
    | ok tip =>
        cases source with
        | none => exact yields_none
        | some source => exact SyncProgress.yields_compute (.ok tip) source
  refine forall_figures_iff.mpr ⟨fun stats hstats => ?_, hprogress j⟩
  exact Binary64.isFinite_of_inUnitInterval (Stats.yields_compute source coverage _ stats hstats)

/-- **The figures of a status that was read are finite**: there is no numeral for another number. -/
theorem isFinite_of_ofDocument? {d : Document} (h : ofDocument? d = some s) :
    ∀ x ∈ s.figures, x.isFinite = true := by
  simp only [ofDocument?, Option.bind_eq_bind, Option.bind_eq_some_iff] at h
  obtain ⟨fields, -, h⟩ := h
  split at h
  · simp only [Option.bind_eq_some_iff] at h
    obtain ⟨stats, hstats, progress, hprogress, h⟩ := h
    cases h
    refine forall_figures_iff.mpr ⟨?_, ?_⟩
    · rintro value rfl
      obtain ⟨field, hfield⟩ := Document.exists_of_optional hstats
      exact Stats.isFinite_of_ofDocument? hfield
    · rintro value rfl
      obtain ⟨field, hfield⟩ := Document.exists_of_optional hprogress
      exact SyncProgress.isFinite_of_ofDocument? hfield
  · cases h

end LiveStatus

/-! ## Fetched statuses -/

/-- **A reply is of use** if it reports a success and its body can be read. -/
lemma Reply.classify_eq_ok_iff {α : Type} {read : Document → Option α} {r : Reply} {a : α} :
    r.classify read = .ok a ↔ r.isSuccess = true ∧ (Document.ofBytes? r.body).bind read = some a := by
  rw [classify]
  split_ifs with hsuccess
  · cases (Document.ofBytes? r.body).bind read <;> simp [hsuccess]
  · simp [hsuccess]

namespace Server

/-- **A status is accepted** from a reply that reports a success and has a status for a body. -/
lemma publishedStatus_eq_ok_iff {server : Server} {url : String} {s : LiveStatus} :
    server.publishedStatus url = .ok s ↔
      ∃ reply, server (statusRequest url) = .ok reply ∧ reply.isSuccess = true ∧
        (Document.ofBytes? reply.body).bind LiveStatus.ofDocument? = some s := by
  rw [publishedStatus]
  cases hreply : server (statusRequest url) with
  | error reason => simp
  | ok reply =>
      simp only [Except.ok.injEq, exists_eq_left', ← Reply.classify_eq_ok_iff]
      cases reply.classify LiveStatus.ofDocument? <;> simp [Except.mapError]

/-- The server answers a request for its status with a text, as a success. -/
def Serves (server : Server) (url : String) (text : String) : Prop :=
  ∃ reply, server (statusRequest url) = .ok reply ∧ reply.isSuccess = true ∧
    reply.body = text.toUTF8

/-- **A status that is served is the status that is fetched**, in either text of it. -/
lemma publishedStatus_of_serves {s : LiveStatus} (hfinite : ∀ x ∈ s.figures, x.isFinite = true)
    (hreads : ∀ x ∈ s.figures, x.ReadsBack) {text : String}
    (htext : text = s.toJson.compact ∨ text = s.shownText) {server : Server} {url : String}
    (h : server.Serves url text) : server.publishedStatus url = .ok s := by
  obtain ⟨reply, hreply, hsuccess, hbody⟩ := h
  have hdocument : Document.read? text = some s.toJson.document := by
    rcases htext with rfl | rfl
    · exact Document.read?_compact s.toJson
    · exact Document.read?_fileText s.toJson
  refine publishedStatus_eq_ok_iff.mpr ⟨reply, hreply, hsuccess, ?_⟩
  rw [hbody, Document.ofBytes?_toUTF8, hdocument, Option.bind_some,
    LiveStatus.ofDocument?_document hfinite hreads]

/-- The text that is printed for an accepted status. -/
lemma run_status {server : Server} {url : String} {s : LiveStatus}
    (h : server.publishedStatus url = .ok s) (files : FileReader) (coloured : Bool) :
    ((Command.status url).run files server coloured).stdout = s.shownText ∧
      ((Command.status url).run files server coloured).failure = none := by
  rw [Command.run, Command.runStatus, h]
  exact ⟨rfl, rfl⟩

/-- **Statuses can be published and passed on.**  What a running check computes is accepted in
either text of it.  Of every body that is accepted, what is printed is accepted as the same status,
and is then printed as the same text.  No figure is ever an infinity or a NaN; whether a finite one
is read back from its shortest text is left to the reader of numerals. -/
theorem publishedStatus_relayed :
    (∀ (source : Option CounterSource) (coverage : Option CoverageSource)
        (tip : Except String Int64) (j : Journal),
      let s := ((LiveStatus.compute source coverage tip).run j).1
      (∀ x ∈ s.figures, x.isFinite = true → x.ReadsBack) →
      ∀ text, text = s.toJson.compact ∨ text = s.shownText →
        (∃ v, Json.read? text = some v ∧ s.HasFields v) ∧
        ∀ (server : Server) (url : String), server.Serves url text →
          server.publishedStatus url = .ok s) ∧
    ∀ (server : Server) (url : String) (s : LiveStatus), server.publishedStatus url = .ok s →
      (∀ x ∈ s.figures, x.isFinite = true → x.ReadsBack) →
      ∀ (files : FileReader) (coloured : Bool),
        let shown := (Command.status url).run files server coloured
        shown.failure = none ∧
        ∀ (server' : Server) (url' : String), server'.Serves url' shown.stdout →
          server'.publishedStatus url' = .ok s ∧
          ((Command.status url').run files server' coloured).stdout = shown.stdout := by
  refine ⟨?_, ?_⟩
  · intro source coverage tip j s hreads text htext
    have hfinite := LiveStatus.isFinite_of_compute source coverage tip j
    have hreads' : ∀ x ∈ s.figures, x.ReadsBack := fun x hx => hreads x hx (hfinite x hx)
    have hplain : s.toJson.PlainWithin Document.depthLimit :=
      LiveStatus.plainWithin_toJson 125 hreads'
    refine ⟨⟨s.toJson.arranged, ?_, LiveStatus.hasFields_arranged hfinite⟩, ?_⟩
    · rcases htext with rfl | rfl
      · exact Json.read?_compact hplain
      · exact Json.read?_fileText hplain
    · intro server url hserves
      exact publishedStatus_of_serves hfinite hreads' htext hserves
  · intro server url s haccepted hreads files coloured shown
    obtain ⟨hstdout, hfailure⟩ := run_status haccepted files coloured
    have hfinite : ∀ x ∈ s.figures, x.isFinite = true := by
      obtain ⟨reply, -, -, hbody⟩ := publishedStatus_eq_ok_iff.mp haccepted
      obtain ⟨d, -, hd⟩ := Option.bind_eq_some_iff.mp hbody
      exact LiveStatus.isFinite_of_ofDocument? hd
    refine ⟨hfailure, ?_⟩
    intro server' url' hserves
    have hagain : server'.publishedStatus url' = .ok s :=
      publishedStatus_of_serves hfinite (fun x hx => hreads x hx (hfinite x hx)) (Or.inr hstdout)
        hserves
    exact ⟨hagain, (run_status hagain files coloured).1.trans hstdout.symm⟩

/-- The status of a check half-way to its tip, published and passed on once. -/
theorem publishedStatus_relayed_halfway :
    ∃ s : LiveStatus,
      (LiveStatus.compute (some fun counter _ => .ok (if counter = .orphans then 0 else 50)) none
        (.ok 100)).result = s ∧
      s.figures = [⟨0⟩, ⟨0x4049000000000000⟩, ⟨0x3FF0000000000000⟩] ∧
      (∀ x ∈ s.figures, x.ReadsBack) ∧
      let publisher : Server := fun _ => .ok ⟨200, s.toJson.compact.toUTF8⟩
      publisher.publishedStatus "http://check/status" = .ok s ∧
      let shown := (Command.status "http://check/status").run (fun _ => none) publisher false
      let relay : Server := fun _ => .ok ⟨204, shown.stdout.toUTF8⟩
      relay.publishedStatus "http://relay/" = .ok s := by
  have hfigures : (LiveStatus.compute
      (some fun counter _ => .ok (if counter = .orphans then 0 else 50)) none
        (.ok 100)).result.figures = [⟨0⟩, ⟨0x4049000000000000⟩, ⟨0x3FF0000000000000⟩] := by
    decide +kernel
  have hreads : ∀ x ∈ ([⟨0⟩, ⟨0x4049000000000000⟩, ⟨0x3FF0000000000000⟩] : List Binary64),
      x.ReadsBack := by
    simp only [Binary64.readsBack_iff]
    decide +kernel
  rw [← hfigures] at hreads
  obtain ⟨hpublished, hrelayed⟩ := publishedStatus_relayed
  have haccepted := (hpublished (some fun counter _ => .ok (if counter = .orphans then 0 else 50))
    none (.ok 100) {} (fun x hx _ => hreads x hx) _ (Or.inl rfl)).2
    (fun _ => .ok ⟨200, _⟩) "http://check/status" ⟨_, rfl, by decide, rfl⟩
  refine ⟨_, rfl, hfigures, hreads, haccepted, ?_⟩
  exact ((hrelayed _ _ _ haccepted (fun x hx _ => hreads x hx) (fun _ => none) false).2
    _ _ ⟨_, rfl, by decide, rfl⟩).1

end Server
end LedgerCheck
