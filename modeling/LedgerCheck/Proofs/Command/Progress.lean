import LedgerCheck.Proofs.Command
import LedgerCheck.Proofs.Counter.Reads
import LedgerCheck.Proofs.LiveStatus

/-!
# Nodes that are of no help

The status of a running check is made of its counters and of the tip that its node tells.  A node
may answer anything or nothing at all.  What it answers decides about the progress in the status,
but neither about the statistics nor about whether there is a status.

* `Server.TellsTip` — the node's reply is of use.
* `Server.tellsTip_iff_of_identifies` — which tip a text tells, whatever else it holds.
* `LiveStatus.run_compute_of_ok`, `LiveStatus.run_compute_of_error` — a status with and without a
  tip.
* `CommandResult.FailsUnasked`, `CommandResult.ShowsStatus` — the two things that showing the
  progress can come to.
* **`Command.run_progress`** — showing the progress, against any two servers.
-/

namespace LedgerCheck

open Observing

/-! ## What is noted about the node -/

namespace Event

lemma message_eq_networkStatus_iff {e : Event} :
    e.message = "cannot get network status" ↔ ∃ reason, e = .tipUnavailable reason := by
  rcases e with _ | _ | _ | _ | _ | _ | _ | fault | _
  case estimateFault => cases fault <;> simp [message]
  all_goals simp [message]

lemma line_tipUnavailable (reason : String) :
    (tipUnavailable reason).line = "WARN cannot get network status error=" ++ reason := by
  simp only [line, lineWith, severity, Severity.label, message, fields, List.map_cons, List.map_nil,
    String.join, List.foldl, String.empty_append]
  simp only [← String.append_assoc]
  rfl

end Event

namespace Journal

/-- The lines that say that the node did not tell its tip. -/
def networkWarnings (j : Journal) : List String :=
  (j.events.filter (·.message = "cannot get network status")).map Event.line

/-- Events about anything else add no such line. -/
lemma networkWarnings_append {j : Journal} {events noted : List Event}
    (hj : j.events = events ++ noted) (hnoted : ∀ e ∈ noted, e.IsLocal) :
    j.networkWarnings = networkWarnings { events } := by
  have hnone : noted.filter (·.message = "cannot get network status") = [] := by
    refine List.filter_eq_nil_iff.mpr fun e he => ?_
    simpa [Event.message_eq_networkStatus_iff, Event.IsLocal] using hnoted e he
  rw [networkWarnings, networkWarnings, hj, List.filter_append, hnone, List.append_nil]

end Journal

/-! ## The node -/

namespace NetworkStatus

/-- An identifier that is written as an object has the index of its block in one field. -/
lemma blockIndex?_document {block : List (String × Json)} (h : (block.map Prod.fst).Nodup) :
    blockIndex? (Json.object block).document
      = (block.lookup "index").bind fun v => v.document.int64? := by
  rw [blockIndex?, Record.ofDocument?_document blockRecord _ rfl rfl h]
  simp only [blockRecord, List.map_cons, List.map_nil, Json.field?, Option.bind_eq_bind,
    Option.bind_some]
  cases block.lookup "index" <;> rfl

/-- **A status that is written as an object tells the index in the identifier of its block**,
whatever else the object holds. -/
theorem ofDocument?_document {fields : List (String × Json)} (h : (fields.map Prod.fst).Nodup) :
    ofDocument? (Json.object fields).document
      = ((fields.lookup "current_block_identifier").bind fun v => blockIndex? v.document).map
          mk := by
  rw [ofDocument?, Record.ofDocument?_document record _ rfl rfl h]
  simp only [record, List.map_cons, List.map_nil, Json.field?, Option.bind_eq_bind,
    Option.bind_some]
  cases fields.lookup "current_block_identifier" <;> rfl

end NetworkStatus

/-- The reply reports a success, and its body is the text of an object that identifies a block in
one of its fields. -/
def Reply.Identifies (r : Reply) (block : List (String × Json)) : Prop :=
  200 ≤ r.status ∧ r.status < 300 ∧ (block.map Prod.fst).Nodup ∧
    ∃ fields : List (String × Json), (fields.map Prod.fst).Nodup ∧
      fields.lookup "current_block_identifier" = some (.object block) ∧
      r.body = (Json.object fields).compact.toUTF8

namespace Server

variable {server : Server} {config : CheckConfig} {tip : Int64}

/-- **The node of a configuration tells its tip**: its reply reports a success and has the status of
a network for a body. -/
def TellsTip (server : Server) (config : CheckConfig) (tip : Int64) : Prop :=
  ∃ reply, server config.statusRequest = .ok reply ∧ 200 ≤ reply.status ∧ reply.status < 300 ∧
    (Document.ofBytes? reply.body).bind NetworkStatus.ofDocument? = some ⟨tip⟩

/-- **A reply that identifies a block tells the tip that is the index of the block**, and tells none
if the index is missing or no integer of 64 bits. -/
lemma tellsTip_iff_of_identifies {reply : Reply} {block : List (String × Json)}
    (hreply : server config.statusRequest = .ok reply) (h : reply.Identifies block) :
    server.TellsTip config tip ↔ block.lookup "index" = some (.ofInt tip.toInt) := by
  obtain ⟨hlow, hhigh, hblock, fields, hfields, hcurrent, hbody⟩ := h
  have hread : (Document.ofBytes? reply.body).bind NetworkStatus.ofDocument?
      = ((block.lookup "index").bind fun v => v.document.int64?).map NetworkStatus.mk := by
    rw [hbody, Document.ofBytes?_toUTF8, Document.read?_compact, Option.bind_some,
      NetworkStatus.ofDocument?_document hfields, hcurrent, Option.bind_some,
      NetworkStatus.blockIndex?_document hblock]
  rw [TellsTip]
  simp only [hreply, Except.ok.injEq, exists_eq_left', hlow, hhigh, true_and, hread]
  cases block.lookup "index" with
  | none => simp
  | some v => simp [Document.int64?_document_iff]

lemma currentTip_eq_ok_iff : server.currentTip config = .ok tip ↔ server.TellsTip config tip := by
  have hsuccess (reply : Reply) :
      reply.isSuccess = true ↔ 200 ≤ reply.status ∧ reply.status < 300 := by
    simp [Reply.isSuccess]
  rw [currentTip, TellsTip]
  cases server config.statusRequest with
  | error reason => simp
  | ok reply =>
      simp only [Except.ok.injEq, exists_eq_left', ← and_assoc, ← hsuccess,
        ← Reply.classify_eq_ok_iff]
      cases reply.classify NetworkStatus.ofDocument? with
      | error e => simp [Except.map]
      | ok status =>
          cases status
          simp [Except.map]

end Server

/-! ## The status -/

namespace LiveStatus

/-- The text in which a status is shown has its two sections, whatever they hold. -/
lemma sections_shownText (s : LiveStatus) :
    (Document.read? s.shownText).bind record.ofDocument?
      = some [(s.stats.map Stats.toJson).map Json.document,
          (s.progress.map SyncProgress.toJson).map Json.document] := by
  rw [shownText, Document.read?_fileText, Option.bind_some, s.record_document]

variable (source : CounterSource) (coverage : Option CoverageSource)

/-- The statistics of a steady source come behind the progress, with warnings of their own. -/
lemma run_compute (hsource : source.IsSteady) (tip : Except String Int64) :
    let live := (compute (some source) coverage tip).run {}
    live.1 = { stats := (Stats.compute (some source) coverage).result
               progress := (progressTo (some source) tip).result } ∧
      live.2.networkWarnings = (progressTo (some source) tip).journal.networkWarnings := by
  intro live
  refine ⟨?_, ?_⟩
  · rw [result, Stats.steady_compute hsource {} (progressTo (some source) tip).journal]
    rfl
  · obtain ⟨noted, hnoted, hlocal⟩ :=
      Stats.notes_compute_local source coverage (progressTo (some source) tip).journal
    exact Journal.networkWarnings_append hnoted fun e he => (hlocal e he).2

/-- **With a tip, the status has the progress towards it**, and nothing is said about the node. -/
theorem run_compute_of_ok (hsource : source.IsSteady) (tip : Int64) :
    let live := (compute (some source) coverage (.ok tip)).run {}
    live.1 = { stats := (Stats.compute (some source) coverage).result
               progress := (SyncProgress.compute (.ok tip) source).result } ∧
      live.2.networkWarnings = [] := by
  intro live
  obtain ⟨hlive, hwarnings⟩ := run_compute source coverage hsource (.ok tip)
  obtain ⟨noted, hnoted, hlocal⟩ := SyncProgress.notes_compute source tip {}
  exact ⟨hlive, hwarnings.trans (Journal.networkWarnings_append hnoted hlocal)⟩

/-- **Without a tip, the status has no progress**, and the reason is said once. -/
theorem run_compute_of_error (hsource : source.IsSteady) (reason : String) :
    let live := (compute (some source) coverage (.error reason)).run {}
    live.1 = { stats := (Stats.compute (some source) coverage).result, progress := none } ∧
      live.2.networkWarnings = ["WARN cannot get network status error=" ++ reason] := by
  intro live
  obtain ⟨hlive, hwarnings⟩ := run_compute source coverage hsource (.error reason)
  refine ⟨hlive, hwarnings.trans ?_⟩
  rw [← Event.line_tipUnavailable]
  rfl

end LiveStatus

/-! ## Showing the progress -/

namespace CommandResult

/-- The command fails with an error about its files before it asks, prints or saves anything. -/
structure FailsUnasked (r : CommandResult) (e : IntakeError) : Prop where
  failure : r.failure = some (.intake e)
  requests : r.requests = []
  stdout : r.stdout = ""
  closing : r.closing = none

/-- **The command shows a status** of a snapshot and of what a server answered to the only request.
The printed text has the two sections of the status, whatever they hold. -/
structure ShowsStatus (r : CommandResult) (server : Server) (config : CheckConfig)
    (counters : Snapshot) (status : LiveStatus) : Prop where
  failure : r.failure = none
  requests : r.requests = [config.statusRequest]
  stdout : r.stdout = status.shownText
  sections : (Document.read? r.stdout).bind LiveStatus.record.ofDocument?
    = some [(status.stats.map Stats.toJson).map Json.document,
        (status.progress.map SyncProgress.toJson).map Json.document]
  stats : status.stats = (Stats.compute (some counters.source) counters.coverageSource).result
  told : ∀ tip, server.TellsTip config tip →
    status.progress = (SyncProgress.compute (.ok tip) counters.source).result ∧
      r.journal.networkWarnings = []
  untold : (∀ tip, ¬ server.TellsTip config tip) →
    status.progress = none ∧
      ∃ reason, r.journal.networkWarnings = ["WARN cannot get network status error=" ++ reason]

end CommandResult

namespace Command

variable {files : FileReader} {layers : List String} {counters : String}

lemma takeCheck_eq (files : FileReader) (layers : List String) (counters : String) :
    takeCheck files layers counters
      = (files.config .warn layers).bind fun config =>
          (files.counters counters).bind fun snapshot => .ok (config, snapshot) := rfl

lemma runProgress_of_error {e : IntakeError} (h : takeCheck files layers counters = .error e)
    (server : Server) : (runProgress files server layers counters).FailsUnasked e := by
  rw [runProgress, h]
  exact ⟨rfl, rfl, rfl, rfl⟩

lemma runProgress_eq {config : CheckConfig} {snapshot : Snapshot}
    (h : takeCheck files layers counters = .ok (config, snapshot)) (server : Server) :
    runProgress files server layers counters
      = let live := LiveStatus.compute (some snapshot.source) snapshot.coverageSource
          ((server.currentTip config).mapError FetchError.message)
        { stdout := live.result.shownText
          requests := [config.statusRequest]
          journal := live.journal } := by
  rw [runProgress, h]

lemma runProgress_of_ok {config : CheckConfig} {snapshot : Snapshot}
    (h : takeCheck files layers counters = .ok (config, snapshot)) (server : Server) :
    ∃ status, (runProgress files server layers counters).ShowsStatus server config snapshot
      status := by
  have hsteady := snapshot.isSteady_source
  rw [runProgress_eq h]
  cases htip : server.currentTip config with
  | ok tip =>
      obtain ⟨hlive, hwarnings⟩ :=
        LiveStatus.run_compute_of_ok snapshot.source snapshot.coverageSource hsteady tip
      refine ⟨_, rfl, rfl, rfl, LiveStatus.sections_shownText _, congrArg LiveStatus.stats hlive,
        ?_, ?_⟩
      · intro tip' htold
        have hsame := htip.symm.trans (Server.currentTip_eq_ok_iff.mpr htold)
        cases hsame
        exact ⟨congrArg LiveStatus.progress hlive, hwarnings⟩
      · intro huntold
        exact absurd (Server.currentTip_eq_ok_iff.mp htip) (huntold tip)
  | error e =>
      obtain ⟨hlive, hwarnings⟩ :=
        LiveStatus.run_compute_of_error snapshot.source snapshot.coverageSource hsteady e.message
      refine ⟨_, rfl, rfl, rfl, LiveStatus.sections_shownText _, congrArg LiveStatus.stats hlive,
        ?_, ?_⟩
      · intro tip htold
        rw [Server.currentTip_eq_ok_iff.mpr htold] at htip
        cases htip
      · intro huntold
        exact ⟨congrArg LiveStatus.progress hlive, e.message, hwarnings⟩

/-- **Showing the progress of a check.**  The configuration and the counters are taken in this
order, and the first of them that cannot be taken ends the command before the node is asked.
Otherwise the command succeeds, whatever the node answers.  The printed statistics are those of the
counters, and so the same for any two servers; progress is shown exactly as it is computed for a tip
that the node tells, and without one there is none, which is said once.  What a node tells by a text
that identifies its last block is the index of the block, as long as it is an integer of 64 bits. -/
theorem run_progress (files : FileReader) (layers : List String) (counters : String)
    (server server' : Server) (coloured : Bool) :
    let config := files.config .warn layers
    let snapshot := files.counters counters
    let result := (progress layers counters).run files server coloured
    let result' := (progress layers counters).run files server' coloured
    (∀ e, config = .error e → result.FailsUnasked e) ∧
    (∀ c e, config = .ok c → snapshot = .error e → result.FailsUnasked e) ∧
    (∀ c s, config = .ok c → snapshot = .ok s → ∃ status status' : LiveStatus,
      result.ShowsStatus server c s status ∧ result'.ShowsStatus server' c s status' ∧
        status.stats = status'.stats) ∧
    ∀ c reply block, server c.statusRequest = .ok reply → reply.Identifies block →
      ∀ tip, server.TellsTip c tip ↔ block.lookup "index" = some (.ofInt tip.toInt) := by
  intro config snapshot result result'
  have htake : takeCheck files layers counters
      = config.bind fun c => snapshot.bind fun s => .ok (c, s) := takeCheck_eq files layers counters
  refine ⟨?_, ?_, ?_, ?_⟩
  · intro e hconfig
    rw [hconfig] at htake
    exact runProgress_of_error htake server
  · intro c e hconfig hsnapshot
    rw [hconfig, hsnapshot] at htake
    exact runProgress_of_error htake server
  · intro c s hconfig hsnapshot
    rw [hconfig, hsnapshot] at htake
    obtain ⟨status, hstatus⟩ := runProgress_of_ok htake server
    obtain ⟨status', hstatus'⟩ := runProgress_of_ok htake server'
    exact ⟨status, status', hstatus, hstatus', hstatus.stats.trans hstatus'.stats.symm⟩
  · intro c reply block hreply hidentifies tip
    exact Server.tellsTip_iff_of_identifies hreply hidentifies

/-- A file that holds the text of a snapshot is taken as that snapshot. -/
lemma counters_of_text {text : String} {snapshot : Snapshot}
    (hfile : files counters = some text.toUTF8)
    (hmark : Utf8.mark.isPrefixOf text.toUTF8.toList = false)
    (hread : (Snapshot.read text).toOption = some snapshot) :
    files.counters counters = .ok snapshot := by
  have htext : files.text counters = .ok text := by
    simp only [FileReader.text, hfile, Utf8.withoutMark, hmark, Bool.false_eq_true, if_false,
      Document.fromUTF8?_toUTF8]
  rw [FileReader.counters, htext]
  simp only [eq_ok_of_toOption hread, Except.mapError]

/-- A node that tells its tip and one that cannot be reached, and a layer that cannot be read. -/
theorem run_progress_with_and_without_node :
    let text := "\x7b\"blocks\":30,\"orphans\":0,\"transactions\":10,\"operations\":12," ++
      "\"active_reconciliations\":0,\"inactive_reconciliations\":0,\"time_elapsed\":15\x7d"
    let files : FileReader := fun path => if path = "counters.json" then some text.toUTF8 else none
    let body := Json.object [("current_block_identifier", .object [("index", .ofInt 90)])]
    let node : Server := fun _ => .ok ⟨200, body.compact.toUTF8⟩
    let refused : Server := fun _ => .error "refused"
    ((progress ["check.yaml"] "counters.json").run files node false).FailsUnasked
      (.config (.unreadable "check.yaml")) ∧
    ∃ counters status status', files.counters "counters.json" = .ok counters ∧
      ((progress [] "counters.json").run files node false).ShowsStatus node {} counters status ∧
      ((progress [] "counters.json").run files refused false).ShowsStatus refused {} counters
        status' ∧
      status.stats = some ⟨30, 0, 10, 12, 0, 0, .zero⟩ ∧ status'.stats = status.stats ∧
      status.progress.map (·.timeRemaining) = some "30s" ∧ status'.progress = none := by
  intro text files body node refused
  have hread : (Snapshot.read text).toOption.map (fun s =>
        ((Stats.compute (some s.source) s.coverageSource).result,
          (SyncProgress.compute (.ok 90) s.source).result.map (·.timeRemaining)))
      = some (some ⟨30, 0, 10, 12, 0, 0, .zero⟩, some "30s") := by
    decide +kernel
  obtain ⟨counters, hcounters, hcomputed⟩ := Option.map_eq_some_iff.mp hread
  obtain ⟨hstats, hprogress⟩ := Prod.mk.inj hcomputed
  have hfile : files.counters "counters.json" = .ok counters :=
    counters_of_text (if_pos rfl) (by decide +kernel) hcounters
  have hidentifies : Reply.Identifies ⟨200, body.compact.toUTF8⟩ [("index", .ofInt 90)] :=
    ⟨by decide, by decide, by decide, _, by decide, rfl, rfl⟩
  have huntold (tip : Int64) : ¬ refused.TellsTip {} tip := by
    rintro ⟨reply, hreply, -⟩
    cases hreply
  obtain ⟨hunread, -, -⟩ :=
    run_progress files ["check.yaml"] "counters.json" node refused false
  obtain ⟨-, -, hshown, htold⟩ := run_progress files [] "counters.json" node refused false
  have htip : node.TellsTip {} 90 := (htold {} _ _ rfl hidentifies 90).mpr rfl
  obtain ⟨status, status', hstatus, hstatus', hsame⟩ := hshown {} counters rfl hfile
  exact ⟨hunread _ rfl, counters, status, status', hfile, hstatus, hstatus',
    hstatus.stats.trans hstats, hsame.symm,
    (congrArg _ (hstatus.told 90 htip).1).trans hprogress, (hstatus'.untold huntold).1⟩

end Command
end LedgerCheck
