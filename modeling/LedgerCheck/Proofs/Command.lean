import LedgerCheck.Command
import LedgerCheck.Proofs.Storage.Saves

/-!
# Commands and files

What a command comes to depends on the files it names and on nothing else in the file tree.  Closing
a run reads its files in order and stops at the first one that cannot be taken, without a trace.
Otherwise one report is shown and saved, and whether it could be saved shows nowhere.

* `Command.run_congr` — a command looks at the files it names.
* `CommandResult.LeavesNoTrace`, `CommandResult.Closes` — the two things closing a run can come to.
* **`Command.run_results`** — closing a run.
-/

namespace LedgerCheck

/-! ## The files that are looked at -/

namespace FileReader

variable {files files' : FileReader}

lemma layerTexts_congr {paths : List String} (h : ∀ path ∈ paths, files' path = files path) :
    files'.layerTexts paths = files.layerTexts paths := by
  induction paths with
  | nil => rfl
  | cons path rest ih =>
      rw [List.forall_mem_cons] at h
      rw [layerTexts, layerTexts, h.1, ih h.2]

lemma layers_congr {paths : List String} (h : ∀ path ∈ paths, files' path = files path) :
    files'.layers paths = files.layers paths := by
  rw [layers, layers, layerTexts_congr h]

lemma config_congr {paths : List String} (h : ∀ path ∈ paths, files' path = files path)
    (policy : UnusedKeyPolicy) : files'.config policy paths = files.config policy paths := by
  rw [config, config, layers_congr h]

lemma text_congr {path : String} (h : files' path = files path) :
    files'.text path = files.text path := by
  rw [text, text, h]

lemma counters_congr {path : String} (h : files' path = files path) :
    files'.counters path = files.counters path := by
  rw [counters, counters, text_congr h]

lemma outcome_congr {path : String} (h : files' path = files path) :
    files'.outcome path = files.outcome path := by
  rw [outcome, outcome, text_congr h]

end FileReader

namespace Command

/-- The three files of a finished run are taken one after another. -/
lemma takeRun_eq (files : FileReader) (layers : List String) (counters outcome : Option String)
    (strict : Bool) :
    takeRun files layers counters outcome strict
      = (files.config (if strict then .fail else .warn) layers).bind fun config =>
          (counters.mapM files.counters).bind fun snapshot =>
            (outcome.elim (.ok {}) files.outcome).bind fun outcome =>
              .ok (config, snapshot, outcome) := by
  cases outcome <;> rfl

lemma takeRun_congr {files files' : FileReader} {layers : List String}
    {counters outcome : Option String}
    (h : ∀ path ∈ layers ++ counters.toList ++ outcome.toList, files' path = files path)
    (strict : Bool) :
    takeRun files' layers counters outcome strict
      = takeRun files layers counters outcome strict := by
  simp only [List.forall_mem_append] at h
  obtain ⟨⟨hlayers, hcounters⟩, houtcome⟩ := h
  have hsnapshot : counters.mapM files'.counters = counters.mapM files.counters := by
    cases counters with
    | none => rfl
    | some path => simp only [Option.mapM_some, FileReader.counters_congr (hcounters path (by simp))]
  have hended : outcome.elim (.ok {}) files'.outcome = outcome.elim (.ok {}) files.outcome := by
    cases outcome with
    | none => rfl
    | some path => exact FileReader.outcome_congr (houtcome path (by simp))
  rw [takeRun_eq, takeRun_eq, FileReader.config_congr hlayers, hsnapshot, hended]

lemma takeCheck_congr {files files' : FileReader} {layers : List String} {counters : String}
    (h : ∀ path ∈ layers ++ [counters], files' path = files path) :
    takeCheck files' layers counters = takeCheck files layers counters := by
  simp only [List.forall_mem_append, List.forall_mem_singleton] at h
  rw [takeCheck, takeCheck, FileReader.config_congr h.1, FileReader.counters_congr h.2]

/-- **A command looks at the files it names**, and at no others. -/
theorem run_congr {files files' : FileReader} {command : Command}
    (h : ∀ path ∈ command.paths, files' path = files path) (server : Server) (coloured : Bool) :
    command.run files' server coloured = command.run files server coloured := by
  cases command with
  | configHash layers =>
      have hlayers : files'.layers layers = files.layers layers := FileReader.layers_congr h
      rw [run, run, runConfigHash, runConfigHash, hlayers]
  | results layers counters outcome strict =>
      rw [run, run, runResults, runResults, takeRun_congr h]
  | progress layers counters =>
      rw [run, run, runProgress, runProgress, takeCheck_congr h]
  | status url => rfl

end Command

/-! ## Closing a run -/

namespace CommandResult

/-- The command fails with an error about its files, prints nothing and leaves the files alone. -/
structure LeavesNoTrace (r : CommandResult) (t : FileTree) (e : IntakeError) : Prop where
  failure : r.failure = some (.intake e)
  stdout : r.stdout = ""
  unchanged : r.persist t = t

/-- **The command shows one report and saves it** under a path, unless that is empty.  It fails
exactly if the run ended with an error, which it names. -/
structure Closes (r : CommandResult) (t : FileTree) (coloured : Bool) (report : RunResult)
    (error : Option CheckError) (path : String) : Prop where
  stdout : r.stdout = report.render coloured
  failure : r.failure.map CommandError.message
    = error.map fun e => "check:data failed: " ++ e.text
  unsaved : path = "" → r.persist t = t
  saved : path ≠ "" →
    t.WritesWhole path report.fileText.toUTF8 (r.persist t) (t.writeJson path report.toJson).2

end CommandResult

namespace Command

section Results

variable {files : FileReader} {layers : List String} {counters outcome : Option String}
  {strict : Bool}

lemma runResults_of_error {e : IntakeError}
    (h : takeRun files layers counters outcome strict = .error e) (coloured : Bool)
    (t : FileTree) :
    (runResults files coloured layers counters outcome strict).LeavesNoTrace t e := by
  rw [runResults, h]
  exact ⟨rfl, rfl, rfl⟩

lemma runResults_of_ok {config : CheckConfig} {snapshot : Option Snapshot} {ended : RunOutcome}
    (h : takeRun files layers counters outcome strict = .ok (config, snapshot, ended))
    (coloured : Bool) {t : FileTree} (ht : t.WellFormed) :
    (runResults files coloured layers counters outcome strict).Closes t coloured
      (RunResult.compute config.data ended.error (snapshot.map Snapshot.source)
        (snapshot.bind Snapshot.coverageSource) ended.endCondition).result
      ended.error config.data.resultsOutputFile := by
  rw [runResults, h]
  refine ⟨rfl, ?_, ?_, ?_⟩
  · exact Option.map_map ..
  · intro hpath
    exact if_pos hpath
  · intro hpath
    exact RunResult.writesWhole_persist _ ht hpath

end Results

/-- **Closing a run.**  The configuration, the counters and the outcome are taken in this order, and
the first of them that cannot be taken ends the command without a trace.  Otherwise the report on
what they say is shown and saved.  What is printed and whether the command fails depend only on the
content of the files that the command names, so nothing shows whether the report could be saved. -/
theorem run_results {t : FileTree} (ht : t.WellFormed) (server : Server) (coloured : Bool)
    (layers : List String) (counters outcome : Option String) (strict : Bool) :
    let files : FileReader := t.read?
    let config := files.config (if strict then .fail else .warn) layers
    let snapshot := counters.mapM files.counters
    let ended := outcome.elim (.ok {}) files.outcome
    let command := results layers counters outcome strict
    let result := command.run files server coloured
    (∀ e, config = .error e → result.LeavesNoTrace t e) ∧
    (∀ c e, config = .ok c → snapshot = .error e → result.LeavesNoTrace t e) ∧
    (∀ c s e, config = .ok c → snapshot = .ok s → ended = .error e → result.LeavesNoTrace t e) ∧
    (∀ c s o, config = .ok c → snapshot = .ok s → ended = .ok o →
      result.Closes t coloured
        (RunResult.compute c.data o.error (s.map Snapshot.source) (s.bind Snapshot.coverageSource)
          o.endCondition).result
        o.error c.data.resultsOutputFile) ∧
    ∀ t' : FileTree, (∀ path ∈ command.paths, t'.read? path = t.read? path) →
      command.run t'.read? server coloured = result := by
  intro files config snapshot ended command result
  have htake : takeRun files layers counters outcome strict
      = config.bind fun c => snapshot.bind fun s => ended.bind fun o => .ok (c, s, o) :=
    takeRun_eq files layers counters outcome strict
  refine ⟨?_, ?_, ?_, ?_, ?_⟩
  · intro e hconfig
    rw [hconfig] at htake
    exact runResults_of_error htake coloured t
  · intro c e hconfig hsnapshot
    rw [hconfig, hsnapshot] at htake
    exact runResults_of_error htake coloured t
  · intro c s e hconfig hsnapshot hended
    rw [hconfig, hsnapshot, hended] at htake
    exact runResults_of_error htake coloured t
  · intro c s o hconfig hsnapshot hended
    rw [hconfig, hsnapshot, hended] at htake
    exact runResults_of_ok htake coloured ht
  · intro t' hfiles
    exact run_congr hfiles server coloured

/-- A result is the value that is left of it. -/
lemma eq_ok_of_toOption {ε α : Type} {result : Except ε α} {a : α}
    (h : result.toOption = some a) : result = .ok a := by
  cases result with
  | error e => cases h
  | ok a => exact congrArg _ (Option.some.inj h)

/-- A failed run is closed: with an outcome that is missing nothing happens, and otherwise its
report is saved in a new directory.  Where a file has the name of that directory the report cannot
be saved, and nobody is told. -/
theorem run_results_of_failed_run :
    let layer := "data:\n  results_output_file: out/results.json\n"
    let counters := "\x7b\"blocks\":30,\"orphans\":0,\"transactions\":10,\"operations\":12," ++
      "\"active_reconciliations\":0,\"inactive_reconciliations\":0,\"time_elapsed\":15\x7d"
    let outcome := "\x7b\"error\":\x7b\"class\":\"fetch\",\"message\":\"connection reset\"\x7d\x7d"
    let error : CheckError := ⟨.fetch, "connection reset"⟩
    let t := ((FileTree.empty.set ["check.yaml"] (.file layer.toUTF8)).set ["counters.json"]
      (.file counters.toUTF8)).set ["outcome.json"] (.file outcome.toUTF8)
    let blocked := t.set ["out"] (.file ⟨#[]⟩)
    let close (t : FileTree) (outcome : String) :=
      (results ["check.yaml"] (some "counters.json") (some outcome) true).run t.read?
        (fun _ => .error "refused") false
    t.WellFormed ∧ blocked.WellFormed ∧
    (close t "lost.json").LeavesNoTrace t (.outcomeUnread "lost.json" .unreadable) ∧
    ∃ report : RunResult,
      (close t "outcome.json").Closes t false report (some error) "out/results.json" ∧
      report.error = some error.text ∧
      report.stats = some ⟨30, 0, 10, 12, 0, 0, .zero⟩ ∧
      (close t "outcome.json").failure.map CommandError.message
        = some "check:data failed: fetch failed: connection reset" ∧
      FileTree.read? ((close t "outcome.json").persist t) "out/results.json"
        = some report.fileText.toUTF8 ∧
      close blocked "outcome.json" = close t "outcome.json" ∧
      (blocked.writeJson "out/results.json" report.toJson).2 ≠ .ok () := by
  intro layer counters outcome error t blocked close
  have ht : t.WellFormed := ((FileTree.wellFormed_empty.set_in_root (by decide) _).set_in_root
    (by decide) _).set_in_root (by decide) _
  have hblocked : blocked.WellFormed := ht.set_in_root (by decide) _
  -- what the three files say
  let config : CheckConfig := { data := { resultsOutputFile := "out/results.json" } }
  have hconfig : FileReader.config t.read? .fail ["check.yaml"] = .ok config :=
    eq_ok_of_toOption (by decide +kernel)
  have hended : FileReader.outcome t.read? "outcome.json" = .ok ⟨some error, none⟩ :=
    eq_ok_of_toOption (by decide +kernel)
  have hcounted : (FileReader.counters t.read? "counters.json").toOption.map (fun s =>
      (RunResult.compute config.data (some error) (some s.source) s.coverageSource
        none).result.stats) = some (some ⟨30, 0, 10, 12, 0, 0, .zero⟩) := by
    decide +kernel
  obtain ⟨snapshot, hread, hstats⟩ := Option.map_eq_some_iff.mp hcounted
  have hsnapshot : (some "counters.json").mapM (FileReader.counters t.read?)
      = .ok (some snapshot) := by
    rw [Option.mapM_some, eq_ok_of_toOption hread]
    rfl
  obtain ⟨-, -, hlost, -, -⟩ := run_results ht (fun _ => .error "refused") false ["check.yaml"]
    (some "counters.json") (some "lost.json") true
  obtain ⟨-, -, -, hdone, hlooked⟩ := run_results ht (fun _ => .error "refused") false
    ["check.yaml"] (some "counters.json") (some "outcome.json") true
  have hcloses := hdone _ _ _ hconfig hsnapshot hended
  have hordinary : (Path.ofText "out/results.json").IsOrdinary := ⟨by decide, by decide⟩
  have hsaved : ∀ v, (t.writeJson "out/results.json" v).2 = .ok () := by
    intro v
    refine FileTree.write_of_free ht hordinary ⟨by decide, by decide, by decide⟩ ?_ (by decide) _
    rintro ⟨place, hplace, hfile⟩
    obtain rfl : place = ["out"] := List.mem_singleton.mp hplace
    exact (FileTree.isFile_iff.mp hfile).1 (by decide)
  refine ⟨ht, hblocked, hlost _ _ _ hconfig hsnapshot rfl, _, hcloses, rfl, hstats,
    hcloses.failure, ((hcloses.saved (by decide)).written (hsaved _)).1, ?_, ?_⟩
  · refine hlooked blocked fun path hpath => ?_
    obtain rfl | rfl | rfl : path = "check.yaml" ∨ path = "counters.json" ∨
      path = "outcome.json" := by simpa [paths] using hpath
    all_goals decide +kernel
  · have hfile : blocked.IsFile ["out"] := ⟨⟨#[]⟩, by decide⟩
    rw [FileTree.writeJson, FileTree.write_of_file_above hblocked hordinary
      ⟨by decide, by decide, by decide⟩ ⟨["out"], List.mem_singleton_self _, hfile⟩]
    intro hok
    cases hok

end Command
end LedgerCheck
