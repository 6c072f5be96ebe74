import LedgerCheck.Proofs.Stats
import LedgerCheck.Proofs.Storage.Saves

/-!
# Reports in documents

A report is written with a field for each part that it has, and read with a default for each field
that is not there.  Nothing of a computed report is lost on the way, because no part of one is
written as `null`.

* `EndCondition.ofDocument?_document`, `TestSuite.ofDocument?_document` — the parts of a report are
  read as they were written.
* **`RunResult.ofDocument?_document`** — a report is read as it was written.
* `RunResult.field?_arranged`, `RunResult.atKeys?_tests` — the fields that a written report has.
* **`RunResult.read?_compute`** — a computed report survives its compact text, its file text and the
  file that it is saved in.
-/

namespace LedgerCheck

/-! ## The parts of a report -/

namespace EndCondition

lemma ofName?_name (kind : EndConditionKind) : EndConditionKind.ofName? kind.name = some kind := by
  cases kind <;> decide

/-- **An end condition is read as it was written.** -/
lemma ofDocument?_document (e : EndCondition) : ofDocument? e.toJson.document = some e := by
  have hrecord : record.ofDocument? e.toJson.document
      = some [some (Json.string e.kind.name).document, some (Json.string e.detail).document] := by
    rw [Record.ofDocument?_document record e.toJson rfl rfl (by decide : record.names.Nodup)]
    rfl
  rw [ofDocument?, hrecord, Option.bind_eq_bind, Option.bind_some]
  simp only [Json.document, Document.alternative?, Document.string?, Option.bind_some,
    ofName?_name]
  rfl

lemma plainWithin_toJson (depth : Nat) (e : EndCondition) : e.toJson.PlainWithin (depth + 1) := by
  refine Json.plainWithin_object ?_
  simp only [List.forall_mem_cons, Json.plainWithin_string, true_and]
  exact List.forall_mem_nil _

lemma nullFree_toJson (e : EndCondition) : e.toJson.arranged.NullFree := by
  refine Json.nullFree_arranged ?_
  simp only [List.forall_mem_cons, Json.nullFree_string, true_and]
  exact List.forall_mem_nil _

end EndCondition

namespace TestSuite

/-- The names of the fields of written tests; a test that was not run has none. -/
lemma keys_toJson (t : TestSuite) :
    ((("request_response", Json.bool t.requestResponse) ::
      ("response_assertion", .bool t.responseAssertion) ::
      t.blockSyncing.toField "block_syncing" ++ t.balanceTracking.toField "balance_tracking" ++
      t.reconciliation.toField "reconciliation").map Prod.fst).Sublist record.names := by
  have hverdicts := ((Verdict.keys_toField "block_syncing" t.blockSyncing).append
    (Verdict.keys_toField "balance_tracking" t.balanceTracking)).append
    (Verdict.keys_toField "reconciliation" t.reconciliation)
  rw [← List.map_append, ← List.map_append] at hverdicts
  exact (hverdicts.cons_cons "response_assertion").cons_cons "request_response"

/-- The fields of written tests, each of which is a boolean. -/
lemma field?_toJson (t : TestSuite) (name : String) :
    t.toJson.field? name = Option.map Json.bool
      (if name = "request_response" then some t.requestResponse
        else if name = "response_assertion" then some t.responseAssertion
        else if name = "block_syncing" then t.blockSyncing.toOption
        else if name = "balance_tracking" then t.balanceTracking.toOption
        else if name = "reconciliation" then t.reconciliation.toOption
        else none) := by
  rw [toJson, Json.field?]
  simp only [List.cons_append, SortedMap.lookup_cons_ite, List.lookup_append,
    Verdict.lookup_toField]
  split_ifs <;> simp_all

/-- **Tests are read as they were written**; a test without a field was not run. -/
lemma ofDocument?_document (t : TestSuite) : ofDocument? t.toJson.document = some t := by
  have hrecord : record.ofDocument? t.toJson.document
      = some [some (.bool t.requestResponse), some (.bool t.responseAssertion),
          (t.blockSyncing.toOption.map Json.bool).map Json.document,
          (t.balanceTracking.toOption.map Json.bool).map Json.document,
          (t.reconciliation.toOption.map Json.bool).map Json.document] := by
    rw [Record.ofDocument?_document record t.toJson rfl rfl ((keys_toJson t).nodup (by decide))]
    simp [record, field?_toJson, Json.document]
  rw [ofDocument?, hrecord, Option.bind_eq_bind, Option.bind_some]
  simp only [Document.required, Document.bool?, Verdict.ofField?_document]
  rfl

lemma plainWithin_toJson (depth : Nat) (t : TestSuite) : t.toJson.PlainWithin (depth + 1) := by
  refine Json.plainWithin_object ?_
  intro field hfield
  simp only [List.cons_append, List.mem_cons, List.mem_append] at hfield
  rcases hfield with rfl | rfl | (h | h) | h
  · exact Json.plainWithin_bool depth _
  · exact Json.plainWithin_bool depth _
  all_goals
    obtain ⟨b, -, rfl⟩ := Verdict.mem_toField h
    exact Json.plainWithin_bool depth b

lemma nullFree_toJson (t : TestSuite) : t.toJson.arranged.NullFree := by
  refine Json.nullFree_arranged ?_
  intro field hfield
  simp only [List.cons_append, List.mem_cons, List.mem_append] at hfield
  rcases hfield with rfl | rfl | (h | h) | h
  · exact Json.nullFree_bool _
  · exact Json.nullFree_bool _
  all_goals
    obtain ⟨b, -, rfl⟩ := Verdict.mem_toField h
    exact Json.nullFree_bool b

end TestSuite

/-! ## Reports -/

namespace RunResult

variable {r : RunResult}

/-- The coverage of the report, if it has one, is a finite number whose text is read back. -/
def CoverageReadsBack (r : RunResult) : Prop :=
  ∀ s ∈ r.stats, s.reconciliationCoverage.isFinite = true ∧ s.reconciliationCoverage.ReadsBack

lemma keys_toJson (r : RunResult) :
    ((optionalField "error" Json.string r.error ++
      optionalField "end_condition" EndCondition.toJson r.endCondition ++
      optionalField "tests" TestSuite.toJson r.tests ++
      optionalField "stats" Stats.toJson r.stats).map Prod.fst).Sublist record.names := by
  have hfields := (((keys_optionalField "error" Json.string r.error).append
    (keys_optionalField "end_condition" EndCondition.toJson r.endCondition)).append
    (keys_optionalField "tests" TestSuite.toJson r.tests)).append
    (keys_optionalField "stats" Stats.toJson r.stats)
  rwa [← List.map_append, ← List.map_append, ← List.map_append] at hfields

/-- The fields of a written report; a part that is absent has none. -/
lemma field?_toJson (r : RunResult) (name : String) :
    r.toJson.field? name
      = if name = "error" then r.error.map Json.string
        else if name = "end_condition" then r.endCondition.map EndCondition.toJson
        else if name = "tests" then r.tests.map TestSuite.toJson
        else if name = "stats" then r.stats.map Stats.toJson
        else none := by
  rw [toJson, Json.field?]
  simp only [List.lookup_append, lookup_optionalField]
  split_ifs <;> simp_all

/-- **A report is read as it was written.** -/
theorem ofDocument?_document (h : r.CoverageReadsBack) :
    ofDocument? r.toJson.document = some r := by
  have hrecord : record.ofDocument? r.toJson.document
      = some [(r.error.map Json.string).map Json.document,
          (r.endCondition.map EndCondition.toJson).map Json.document,
          (r.tests.map TestSuite.toJson).map Json.document,
          (r.stats.map Stats.toJson).map Json.document] := by
    rw [Record.ofDocument?_document record r.toJson rfl rfl ((keys_toJson r).nodup (by decide))]
    simp [record, field?_toJson]
  have herror : Document.optional Document.string? ((r.error.map Json.string).map Json.document)
      = some r.error :=
    Document.optional_document (fun _ => Json.noConfusion) fun _ _ => Document.string?_document _
  have hcondition : Document.optional EndCondition.ofDocument?
      ((r.endCondition.map EndCondition.toJson).map Json.document) = some r.endCondition :=
    Document.optional_document (fun _ => Json.noConfusion) fun e _ => e.ofDocument?_document
  have htests : Document.optional TestSuite.ofDocument?
      ((r.tests.map TestSuite.toJson).map Json.document) = some r.tests :=
    Document.optional_document (fun _ => Json.noConfusion) fun t _ => t.ofDocument?_document
  have hstats : Document.optional Stats.ofDocument?
      ((r.stats.map Stats.toJson).map Json.document) = some r.stats :=
    Document.optional_document (fun _ => Json.noConfusion) fun s hs =>
      Stats.ofDocument?_document (h s hs).1 (h s hs).2
  rw [ofDocument?, hrecord, Option.bind_eq_bind, Option.bind_some]
  simp only [herror, hcondition, htests, hstats]
  rfl

/-- The document of a report has at most two levels of containers. -/
lemma plainWithin_toJson (depth : Nat) (h : r.CoverageReadsBack) :
    r.toJson.PlainWithin (depth + 2) := by
  refine Json.plainWithin_object ?_
  intro field hfield
  simp only [List.mem_append] at hfield
  rcases hfield with ((herror | hcondition) | htests) | hstats
  · obtain ⟨message, -, rfl⟩ := mem_optionalField herror
    exact Json.plainWithin_string _ message
  · obtain ⟨e, -, rfl⟩ := mem_optionalField hcondition
    exact e.plainWithin_toJson depth
  · obtain ⟨t, -, rfl⟩ := mem_optionalField htests
    exact t.plainWithin_toJson depth
  · obtain ⟨s, hs, rfl⟩ := mem_optionalField hstats
    exact Stats.plainWithin_toJson depth fun _ => (h s hs).2

/-- Nothing in the document of a report is null, unless its coverage is no number. -/
lemma nullFree_toJson (h : r.CoverageReadsBack) : r.toJson.arranged.NullFree := by
  refine Json.nullFree_arranged ?_
  intro field hfield
  simp only [List.mem_append] at hfield
  rcases hfield with ((herror | hcondition) | htests) | hstats
  · obtain ⟨message, -, rfl⟩ := mem_optionalField herror
    exact Json.nullFree_string message
  · obtain ⟨e, -, rfl⟩ := mem_optionalField hcondition
    exact e.nullFree_toJson
  · obtain ⟨t, -, rfl⟩ := mem_optionalField htests
    exact t.nullFree_toJson
  · obtain ⟨s, hs, rfl⟩ := mem_optionalField hstats
    exact Stats.nullFree_toJson (h s hs).1

/-- **A written report has a field for each part that it has.**  Absent parts and tests that were
not run have none, and nothing in it is null. -/
structure HasFields (r : RunResult) (v : Json) : Prop where
  error : v.field? "error" = r.error.map .string
  endCondition : v.field? "end_condition" = r.endCondition.map fun e => e.toJson.arranged
  tests : v.field? "tests" = r.tests.map fun t => t.toJson.arranged
  stats : v.field? "stats" = r.stats.map fun s => s.toJson.arranged
  blockSyncing : v.atKeys? ["tests", "block_syncing"]
    = (r.tests.bind fun t => t.blockSyncing.toOption).map .bool
  balanceTracking : v.atKeys? ["tests", "balance_tracking"]
    = (r.tests.bind fun t => t.balanceTracking.toOption).map .bool
  reconciliation : v.atKeys? ["tests", "reconciliation"]
    = (r.tests.bind fun t => t.reconciliation.toOption).map .bool
  nullFree : v.NullFree

lemma field?_arranged (r : RunResult) (name : String) :
    r.toJson.arranged.field? name = (r.toJson.field? name).map Json.arranged :=
  Json.field?_arranged ((keys_toJson r).nodup (by decide)) name

/-- The fields of the tests in a written report. -/
lemma atKeys?_tests (r : RunResult) (name : String) :
    r.toJson.arranged.atKeys? ["tests", name]
      = r.tests.bind fun t => (t.toJson.field? name).map Json.arranged := by
  rw [Json.atKeys?, field?_arranged, field?_toJson]
  simp only [String.reduceEq, if_false, if_true]
  cases r.tests with
  | none => rfl
  | some t =>
      have hfield := Json.field?_arranged ((TestSuite.keys_toJson t).nodup (by decide)) name
      rw [← TestSuite.toJson] at hfield
      simp only [Option.map_some, Option.bind_some, Json.atKeys?, hfield]
      cases t.toJson.field? name <;> rfl

lemma hasFields_arranged (h : r.CoverageReadsBack) : r.HasFields r.toJson.arranged where
  error := by
    rw [field?_arranged, field?_toJson, if_pos rfl, Option.map_map]
    simp only [Function.comp_def, Json.arranged]
  endCondition := by
    rw [field?_arranged, field?_toJson]
    simp only [String.reduceEq, if_false, if_true, Option.map_map, Function.comp_def]
  tests := by
    rw [field?_arranged, field?_toJson]
    simp only [String.reduceEq, if_false, if_true, Option.map_map, Function.comp_def]
  stats := by
    rw [field?_arranged, field?_toJson]
    simp only [String.reduceEq, if_false, if_true, Option.map_map, Function.comp_def]
  blockSyncing := by
    rw [atKeys?_tests]
    cases r.tests <;> simp [TestSuite.field?_toJson, Function.comp_def, Json.arranged]
  balanceTracking := by
    rw [atKeys?_tests]
    cases r.tests <;> simp [TestSuite.field?_toJson, Function.comp_def, Json.arranged]
  reconciliation := by
    rw [atKeys?_tests]
    cases r.tests <;> simp [TestSuite.field?_toJson, Function.comp_def, Json.arranged]
  nullFree := nullFree_toJson h

/-! ## Computed reports -/

/-- The coverage of a computed report is in the unit interval. -/
lemma inUnitInterval_compute (config : DataConfig) (error : Option CheckError)
    (source : Option CounterSource) (coverage : Option CoverageSource)
    (endCondition : Option EndCondition) (j : Journal) :
    ∀ s ∈ ((compute config error source coverage endCondition).run j).1.stats,
      s.reconciliationCoverage.inUnitInterval = true :=
  Stats.yields_compute source coverage ((TestSuite.compute config error source).run j).2

/-- **A computed report survives its document**, in either text and in a file that it is saved in.
Its coverage is never an infinity or a NaN, for which JSON has no numeral; whether a finite coverage
is read back from its shortest text is left to the reader of numerals. -/
theorem read?_compute (config : DataConfig) (error : Option CheckError)
    (source : Option CounterSource) (coverage : Option CoverageSource)
    (endCondition : Option EndCondition) (j : Journal) :
    let r := ((compute config error source coverage endCondition).run j).1
    (∀ s ∈ r.stats, s.reconciliationCoverage.isFinite = true → s.reconciliationCoverage.ReadsBack) →
    (∀ text, text = r.toJson.compact ∨ text = r.fileText →
      read? text = some r ∧ ∃ v, Json.read? text = some v ∧ r.HasFields v) ∧
    ∀ (t : FileTree) (path : String), t.WellFormed → path ≠ "" →
      (t.writeJson path r.toJson).2 = .ok () →
      ((r.persist path t).read? path).bind String.fromUTF8? = some r.fileText := by
  intro r hreads
  have hcoverage : r.CoverageReadsBack := by
    intro s hs
    have hfinite := Binary64.isFinite_of_inUnitInterval
      (inUnitInterval_compute config error source coverage endCondition j s hs)
    exact ⟨hfinite, hreads s hs hfinite⟩
  have hplain : r.toJson.PlainWithin Document.depthLimit := plainWithin_toJson 125 hcoverage
  refine ⟨?_, ?_⟩
  · rintro text (rfl | rfl)
    · refine ⟨?_, _, Json.read?_compact hplain, hasFields_arranged hcoverage⟩
      rw [read?, Document.read?_compact, Option.bind_some, ofDocument?_document hcoverage]
    · refine ⟨?_, _, Json.read?_fileText hplain, hasFields_arranged hcoverage⟩
      rw [read?, fileText, Document.read?_fileText, Option.bind_some,
        ofDocument?_document hcoverage]
  · intro t path ht hpath hok
    have hcontent := ((writesWhole_persist r ht hpath).written hok).1
    rw [hcontent, Option.bind_some, Document.fromUTF8?_toUTF8]

/-- A run that reconciled three of its four accounts and ended at the tip. -/
theorem read?_compute_at_tip :
    (⟨0x3FE8000000000000⟩ : Binary64).ReadsBack ∧
      let r := (compute {} none (some fun _ _ => .ok 4) (some (.ok ⟨0x3FE8000000000000⟩))
        (some ⟨.tip, "Tip: \"4\""⟩)).result
      r.stats = some ⟨4, 4, 4, 4, 4, 4, ⟨0x3FE8000000000000⟩⟩ ∧ read? r.fileText = some r := by
  have hreads : (⟨0x3FE8000000000000⟩ : Binary64).ReadsBack := by
    rw [Binary64.readsBack_iff]
    decide +kernel
  have hstats : (compute {} none (some fun _ _ => .ok 4) (some (.ok ⟨0x3FE8000000000000⟩))
      (some ⟨.tip, "Tip: \"4\""⟩)).result.stats
        = some ⟨4, 4, 4, 4, 4, 4, ⟨0x3FE8000000000000⟩⟩ := by
    decide +kernel
  refine ⟨hreads, hstats, ?_⟩
  have hread := (read?_compute {} none (some fun _ _ => .ok 4) (some (.ok ⟨0x3FE8000000000000⟩))
    (some ⟨.tip, "Tip: \"4\""⟩) {} ?_).1
  · exact (hread _ (Or.inr rfl)).1
  · intro s hs _
    cases hstats.symm.trans hs
    exact hreads

end RunResult
end LedgerCheck
