import LedgerCheck.Proofs.Json.Finite
import LedgerCheck.Proofs.Json.Record
import LedgerCheck.Proofs.Stats.Answers

/-!
# Statistics in documents

Statistics with a coverage that is no number could be written, with null in its place, but not be
read.  No such statistics are computed.

* `Stats.yields_compute` — the coverage of computed statistics is in the unit interval.
* **`Stats.ofDocument?_document`** — statistics with a finite coverage are read as they were
  written.
* `Stats.plainWithin_toJson` — so is their document as a plain value.
-/

namespace LedgerCheck
namespace Stats

open Observing

/-! ## The coverage of computed statistics -/

/-- A coverage that is taken is in the unit interval; without a source it is zero. -/
lemma inUnitInterval_of_share? {coverage : Option CoverageSource} {share : Binary64}
    (h : share? coverage = some share) : share.inUnitInterval = true := by
  rcases coverage with _ | reason | c
  · cases h
    decide +kernel
  · cases h
  · rw [share?] at h
    split_ifs at h with hunit
    cases h
    exact hunit

/-- **The coverage of computed statistics is in the unit interval.** -/
theorem yields_compute (source : Option CounterSource) (coverage : Option CoverageSource) :
    Yields (fun s => s.reconciliationCoverage.inUnitInterval = true) (compute source coverage) := by
  cases source with
  | none => exact yields_none
  | some source =>
      intro j s hs
      rw [run_compute] at hs
      exact inUnitInterval_of_share? (of_ofAnswers? hs).2

/-! ## Documents -/

/-- The fields of written statistics. -/
lemma record_document (s : Stats) :
    record.ofDocument? s.toJson.document
      = some [some (Json.ofInt s.blocks.toNat).document, some (Json.ofInt s.orphans.toNat).document,
          some (Json.ofInt s.transactions.toNat).document,
          some (Json.ofInt s.operations.toNat).document,
          some (Json.ofInt s.activeReconciliations.toNat).document,
          some (Json.ofInt s.inactiveReconciliations.toNat).document,
          some (Json.ofBinary64 s.reconciliationCoverage).document] := by
  rw [Record.ofDocument?_document record s.toJson rfl rfl (by decide : record.names.Nodup)]
  rfl

/-- **Statistics are read as they were written**, if their coverage is finite and read back. -/
theorem ofDocument?_document {s : Stats} (hfinite : s.reconciliationCoverage.isFinite = true)
    (h : s.reconciliationCoverage.ReadsBack) : ofDocument? s.toJson.document = some s := by
  rw [ofDocument?, record_document, Option.bind_eq_bind, Option.bind_some]
  simp only [Document.uint64?_document, Document.binary64?_document hfinite h]
  rfl

/-- The coverage of statistics that were read is finite. -/
lemma isFinite_of_ofDocument? {d : Document} {s : Stats} (h : ofDocument? d = some s) :
    s.reconciliationCoverage.isFinite = true := by
  simp only [ofDocument?, Option.bind_eq_bind, Option.bind_eq_some_iff] at h
  obtain ⟨fields, -, h⟩ := h
  split at h
  · simp only [Option.bind_eq_some_iff] at h
    obtain ⟨blocks, -, orphans, -, transactions, -, operations, -, active, -, inactive, -, coverage,
      hcoverage, h⟩ := h
    cases h
    exact Document.isFinite_of_binary64? hcoverage
  · cases h

/-- The document of statistics is read as it is. -/
lemma plainWithin_toJson (depth : Nat) {s : Stats}
    (h : s.reconciliationCoverage.isFinite = true → s.reconciliationCoverage.ReadsBack) :
    s.toJson.PlainWithin (depth + 1) := by
  have hcounter (n : UInt64) : (Json.ofInt n.toNat).PlainWithin depth :=
    Json.plainWithin_ofInt depth (Json.integerRange_toNat n)
  refine Json.plainWithin_object ?_
  simp only [List.forall_mem_cons, hcounter, Json.plainWithin_ofBinary64 depth h, true_and]
  exact List.forall_mem_nil _

lemma nullFree_toJson {s : Stats} (hfinite : s.reconciliationCoverage.isFinite = true) :
    s.toJson.arranged.NullFree := by
  have hcounter (n : UInt64) : (Json.ofInt n.toNat).arranged.NullFree :=
    Json.nullFree_number _
  refine Json.nullFree_arranged ?_
  simp only [List.forall_mem_cons, hcounter, Json.ofBinary64, hfinite, if_true,
    Json.nullFree_number, true_and]
  exact List.forall_mem_nil _

end Stats
end LedgerCheck
