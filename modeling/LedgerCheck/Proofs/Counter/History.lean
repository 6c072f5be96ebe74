import Mathlib
import LedgerCheck.Counter.Snapshot
import LedgerCheck.LiveStatus

/-!
# The history of a snapshot

A snapshot starts empty.  Its counters and its coverage are set one at a time, and a text that is read
replaces all of them at once, unless it describes no snapshot.  In the end every slot holds what the
last write to it has left there, so that histories with the same last writes end in the same snapshot,
whatever the order of the writes was.

* `Snapshot.Edit` — one step of a history; `Snapshot.after` is the snapshot at its end.
* `Snapshot.Slot` — a counter or the coverage, as a place that is written to.
* `Snapshot.LastWrite` — what the last write to a slot has left there, read off the history alone.
* **`Snapshot.lastWrite_iff`** — that is what the slot holds in the end.
* `Snapshot.after_eq_iff` — two histories end in the same snapshot if their last writes are the same.
* `Snapshot.edit_comm` — writes to two slots may change places.
* **`Snapshot.after_lastWrites`** — what is read from a snapshot, and what is reported on it.
-/

namespace LedgerCheck
namespace Snapshot

/-! ## Edits -/

/-- One step of a history: a counter is set, in the snapshot or in a copy that takes its place; the
coverage is set; or a text is read. -/
inductive Edit where
  | set (counter : Counter) (value : Int)
  | withCoverage (coverage : Binary64)
  | load (text : String)

/-- Makes one step.  A text that describes no snapshot leaves everything as it was. -/
def edit (s : Snapshot) : Edit → Snapshot
  | .set counter value => s.set counter value
  | .withCoverage coverage => s.withCoverage coverage
  | .load text =>
    match read text with
    | .ok loaded => loaded
    | .error _ => s

/-- The snapshot at the end of a history. -/
def after (history : List Edit) : Snapshot := history.foldl edit empty

lemma after_append (first rest : List Edit) : after (first ++ rest) = rest.foldl edit (after first) :=
  List.foldl_append

lemma after_concat (history : List Edit) (e : Edit) :
    after (history ++ [e]) = (after history).edit e :=
  after_append history [e]

/-! ## Slots -/

/-- A place of a snapshot that is written to. -/
inductive Slot where
  | counter (counter : Counter)
  | coverage
deriving DecidableEq

/-- What a slot holds if it holds something. -/
abbrev Slot.Content : Slot → Type
  | .counter _ => Int
  | .coverage => Binary64

/-- What a slot of a snapshot holds. -/
def content (s : Snapshot) : (slot : Slot) → Option slot.Content
  | .counter counter => s.value counter
  | .coverage => s.coverage

/-- **Snapshots that hold the same in every slot are the same.** -/
lemma ext_content {s s' : Snapshot} (h : ∀ slot, s.content slot = s'.content slot) : s = s' := by
  obtain ⟨value, coverage⟩ := s
  obtain ⟨value', coverage'⟩ := s'
  have hvalue : value = value' := funext fun counter => h (.counter counter)
  have hcoverage : coverage = coverage' := h .coverage
  rw [hvalue, hcoverage]

lemma get_eq (s : Snapshot) (counter : Counter) :
    s.get counter = (s.value counter).elim (.error (.uninitialized counter)) .ok := by
  rw [get]
  cases s.value counter <;> rfl

namespace Edit

/-- The step sets a slot, and no other one. -/
inductive Sets : Edit → (slot : Slot) → slot.Content → Prop
  | counter (counter : Counter) (value : Int) : Sets (.set counter value) (.counter counter) value
  | coverage (coverage : Binary64) : Sets (.withCoverage coverage) .coverage coverage

/-- The step replaces the snapshot by one that was read. -/
inductive Replaces : Edit → Snapshot → Prop
  | load {text : String} {loaded : Snapshot} (h : read text = .ok loaded) :
      Replaces (.load text) loaded

/-- The step does not write to a slot: it sets another one, or reads a text that describes no
snapshot. -/
inductive LeavesAlone : Edit → Slot → Prop
  | set {counter : Counter} {value : Int} {slot : Slot} (h : slot ≠ .counter counter) :
      LeavesAlone (.set counter value) slot
  | withCoverage {coverage : Binary64} {slot : Slot} (h : slot ≠ .coverage) :
      LeavesAlone (.withCoverage coverage) slot
  | load {text : String} {error : SnapshotError} {slot : Slot} (h : read text = .error error) :
      LeavesAlone (.load text) slot

end Edit

/-! ## One step -/

section Step

variable {e e' : Edit} {slot slot' : Slot} {x : slot.Content} {x' : slot'.Content}

/-- A slot that was set holds its new content, and no other slot has changed. -/
lemma content_edit_of_sets (h : e.Sets slot x) (s : Snapshot) :
    (s.edit e).content slot = some x ∧
      ∀ other, other ≠ slot → (s.edit e).content other = s.content other := by
  cases h with
  | counter counter value =>
      refine ⟨if_pos rfl, fun other hother => ?_⟩
      cases other with
      | counter other => exact if_neg fun heq => hother (congrArg Slot.counter heq)
      | coverage => rfl
  | coverage coverage =>
      refine ⟨rfl, fun other hother => ?_⟩
      cases other with
      | counter other => rfl
      | coverage => exact absurd rfl hother

lemma edit_of_replaces {loaded : Snapshot} (h : e.Replaces loaded) (s : Snapshot) :
    s.edit e = loaded := by
  cases h with
  | load hread => rw [edit, hread]

lemma content_edit_of_leavesAlone (h : e.LeavesAlone slot) (s : Snapshot) :
    (s.edit e).content slot = s.content slot := by
  cases h with
  | set hne => exact (content_edit_of_sets (.counter _ _) s).2 slot hne
  | withCoverage hne => exact (content_edit_of_sets (.coverage _) s).2 slot hne
  | load hread => rw [edit, hread]

/-- **A step sets a slot, replaces the snapshot, or leaves the slot alone.** -/
lemma edit_cases (e : Edit) (slot : Slot) :
    (∃ x, e.Sets slot x) ∨ (∃ loaded, e.Replaces loaded) ∨ e.LeavesAlone slot := by
  cases e with
  | set counter value =>
      by_cases hslot : slot = .counter counter
      · subst hslot
        exact Or.inl ⟨value, .counter counter value⟩
      · exact Or.inr (Or.inr (.set hslot))
  | withCoverage coverage =>
      by_cases hslot : slot = .coverage
      · subst hslot
        exact Or.inl ⟨coverage, .coverage coverage⟩
      · exact Or.inr (Or.inr (.withCoverage hslot))
  | load text =>
      cases hread : read text with
      | ok loaded => exact Or.inr (Or.inl ⟨loaded, .load hread⟩)
      | error error => exact Or.inr (Or.inr (.load hread))

/-- **Writes to two slots may change places.** -/
lemma edit_comm (h : e.Sets slot x) (h' : e'.Sets slot' x') (hne : slot ≠ slot') (s : Snapshot) :
    (s.edit e).edit e' = (s.edit e').edit e := by
  refine ext_content fun other => ?_
  have hfirst (s : Snapshot) := content_edit_of_sets h s
  have hsecond (s : Snapshot) := content_edit_of_sets h' s
  by_cases hother : other = slot
  · subst hother
    rw [(hsecond _).2 other hne, (hfirst s).1, (hfirst _).1]
  by_cases hother' : other = slot'
  · subst hother'
    rw [(hsecond _).1, (hfirst _).2 other hother, (hsecond s).1]
  · rw [(hsecond _).2 other hother', (hfirst s).2 other hother, (hfirst _).2 other hother,
      (hsecond s).2 other hother']

end Step

/-! ## Any number of steps -/

/-- Steps that do not write to a slot leave it as it was. -/
lemma content_foldl_of_leavesAlone {steps : List Edit} {slot : Slot}
    (h : ∀ e ∈ steps, e.LeavesAlone slot) (s : Snapshot) :
    (steps.foldl edit s).content slot = s.content slot := by
  induction steps generalizing s with
  | nil => rfl
  | cons e rest ih =>
      rw [List.forall_mem_cons] at h
      rw [List.foldl_cons, ih h.2, content_edit_of_leavesAlone h.1]

/-- **What the last write to a slot has left there**, by what the history says: the slot was set and
not written to any more, or it is what the last snapshot that was read held, or nothing was ever
written to it. -/
inductive LastWrite : List Edit → (slot : Slot) → Option slot.Content → Prop
  | set {before rest : List Edit} {e : Edit} {slot : Slot} {x : slot.Content} (h : e.Sets slot x)
      (hrest : ∀ e' ∈ rest, e'.LeavesAlone slot) : LastWrite (before ++ e :: rest) slot (some x)
  | replaced {before rest : List Edit} {e : Edit} {loaded : Snapshot} {slot : Slot}
      (h : e.Replaces loaded) (hrest : ∀ e' ∈ rest, e'.LeavesAlone slot) :
      LastWrite (before ++ e :: rest) slot (loaded.content slot)
  | never {history : List Edit} {slot : Slot} (h : ∀ e ∈ history, e.LeavesAlone slot) :
      LastWrite history slot none

/-- A step that does not write to a slot does not change what the last write is. -/
lemma LastWrite.concat {history : List Edit} {slot : Slot} {x : Option slot.Content}
    (h : LastWrite history slot x) {e : Edit} (he : e.LeavesAlone slot) :
    LastWrite (history ++ [e]) slot x := by
  have hrest {rest : List Edit} (hrest : ∀ e' ∈ rest, e'.LeavesAlone slot) :
      ∀ e' ∈ rest ++ [e], e'.LeavesAlone slot := by
    rw [List.forall_mem_append]
    exact ⟨hrest, List.forall_mem_singleton.mpr he⟩
  cases h with
  | set hset hafter =>
      rw [List.append_assoc, List.cons_append]
      exact .set hset (hrest hafter)
  | replaced hreplaced hafter =>
      rw [List.append_assoc, List.cons_append]
      exact .replaced hreplaced (hrest hafter)
  | never hnever => exact .never (hrest hnever)

/-- The last write to a slot has left there what the slot holds in the end. -/
lemma lastWrite_content (history : List Edit) (slot : Slot) :
    LastWrite history slot ((after history).content slot) := by
  induction history using List.reverseRecOn with
  | nil =>
      have hempty : (after []).content slot = none := by cases slot <;> rfl
      rw [hempty]
      exact .never (List.forall_mem_nil _)
  | append_singleton history e ih =>
      rw [after_concat]
      rcases edit_cases e slot with ⟨x, hset⟩ | ⟨loaded, hreplaced⟩ | halone
      · rw [(content_edit_of_sets hset _).1]
        exact .set hset (List.forall_mem_nil _)
      · rw [edit_of_replaces hreplaced]
        exact .replaced hreplaced (List.forall_mem_nil _)
      · rw [content_edit_of_leavesAlone halone]
        exact ih.concat halone

/-- **A slot holds in the end what the last write to it has left there.** -/
theorem lastWrite_iff {history : List Edit} {slot : Slot} {x : Option slot.Content} :
    LastWrite history slot x ↔ (after history).content slot = x := by
  constructor
  · intro h
    cases h with
    | set hset hrest =>
        rw [after_append, List.foldl_cons, content_foldl_of_leavesAlone hrest,
          (content_edit_of_sets hset _).1]
    | replaced hreplaced hrest =>
        rw [after_append, List.foldl_cons, content_foldl_of_leavesAlone hrest,
          edit_of_replaces hreplaced]
    | never hnever =>
        rw [after, content_foldl_of_leavesAlone hnever]
        cases slot <;> rfl
  · rintro rfl
    exact lastWrite_content history slot

/-! ## Two histories -/

/-- **The last writes are the same**: in both histories the last write to each slot has left the same
there. -/
def SameLastWrites (history history' : List Edit) : Prop :=
  ∀ slot, ∃ x, LastWrite history slot x ∧ LastWrite history' slot x

/-- **Histories end in the same snapshot if their last writes are the same**, and only then. -/
theorem after_eq_iff {history history' : List Edit} :
    after history = after history' ↔ SameLastWrites history history' := by
  constructor
  · intro h slot
    exact ⟨_, lastWrite_content history slot, lastWrite_iff.mpr (by rw [h])⟩
  · intro h
    refine ext_content fun slot => ?_
    obtain ⟨x, hx, hx'⟩ := h slot
    rw [lastWrite_iff.mp hx, lastWrite_iff.mp hx']

/-- Writes to two slots that change places leave the last writes the same. -/
lemma sameLastWrites_swap {e e' : Edit} {slot slot' : Slot} {x : slot.Content} {x' : slot'.Content}
    (h : e.Sets slot x) (h' : e'.Sets slot' x') (hne : slot ≠ slot') (before rest : List Edit) :
    SameLastWrites (before ++ e :: e' :: rest) (before ++ e' :: e :: rest) := by
  refine after_eq_iff.mp ?_
  rw [after_append, after_append, List.foldl_cons, List.foldl_cons, List.foldl_cons, List.foldl_cons,
    edit_comm h h' hne]

/-- **The history of a snapshot.**  The history alone says of each slot what its last write has left
there: its own value if the slot was set since the last snapshot that was read, else what that snapshot
held, else nothing.  This is what the counter, or the coverage, is read as in the end.  Histories with
the same last writes end in the same snapshot, and all that is reported on it is the same, with all
reads and events; so it is when writes to two slots change places. -/
theorem after_lastWrites (history : List Edit) :
    (∀ slot, ∃! x, LastWrite history slot x) ∧
    (∀ counter x, LastWrite history (.counter counter) x →
      (after history).get counter = x.elim (.error (.uninitialized counter)) .ok) ∧
    (∀ x, LastWrite history .coverage x → (after history).coverage = x) ∧
    (∀ history', SameLastWrites history history' →
      let s := after history
      let s' := after history'
      s = s' ∧ ∀ config error endCondition tip,
        TestSuite.compute config error (some s.source)
          = TestSuite.compute config error (some s'.source) ∧
        Stats.compute (some s.source) s.coverageSource
          = Stats.compute (some s'.source) s'.coverageSource ∧
        SyncProgress.compute tip s.source = SyncProgress.compute tip s'.source ∧
        LiveStatus.compute (some s.source) s.coverageSource tip
          = LiveStatus.compute (some s'.source) s'.coverageSource tip ∧
        RunResult.compute config error (some s.source) s.coverageSource endCondition
          = RunResult.compute config error (some s'.source) s'.coverageSource endCondition) ∧
    ∀ before e e' rest slot slot' x x', history = before ++ e :: e' :: rest →
      Edit.Sets e slot x → Edit.Sets e' slot' x' → slot ≠ slot' →
      SameLastWrites history (before ++ e' :: e :: rest) := by
  refine ⟨fun slot => ?_, fun counter x hx => ?_, fun x hx => lastWrite_iff.mp hx,
    fun history' hsame => ?_, ?_⟩
  · refine ⟨(after history).content slot, lastWrite_content history slot, fun x hx => ?_⟩
    exact (lastWrite_iff.mp hx).symm
  · have hvalue : (after history).value counter = x := lastWrite_iff.mp hx
    rw [get_eq, hvalue]
  · have hequal := after_eq_iff.mpr hsame
    exact ⟨hequal, by simp only [hequal, and_self, implies_true]⟩
  · rintro before e e' rest slot slot' x x' rfl h h' hne
    exact sameLastWrites_swap h h' hne before rest

/-- A counter that was set before a snapshot was read, one that the snapshot holds, one that was set
since, and a text that describes no snapshot. -/
theorem after_lastWrites_across_loads :
    let good := "\x7b\"blocks\": 10, \"orphans\": \"3\", \"reconciliation_coverage\": 0.5\x7d"
    let bad := "\x7b\"blocks\": 20, \"orphans\": 1.5\x7d"
    let start : List Edit := [.set .operations 1, .load good, .set .blocks (-2), .load bad]
    let half := Binary64.ofRatio false 1 2
    let history := start ++ [.withCoverage half, .set .transactions 8]
    let history' := start ++ [.set .transactions 8, .withCoverage half]
    ∃ loaded, read good = .ok loaded ∧
      LastWrite history (.counter .operations) (loaded.value .operations) ∧
      (after history).get .operations = .error (.uninitialized .operations) ∧
      LastWrite history (.counter .orphans) (loaded.value .orphans) ∧
      (after history).get .orphans = .ok 3 ∧
      LastWrite history (.counter .blocks) (some (-2 : Int)) ∧
      (after history).get .blocks = .ok (-2) ∧
      (after history).coverage = some half ∧
      SameLastWrites history history' ∧ after history = after history' := by
  intro good bad start half history history'
  obtain ⟨loaded, hgood, horphans, hoperations⟩ : ∃ loaded, read good = .ok loaded ∧
      loaded.value .orphans = some 3 ∧ loaded.value .operations = none := by
    have hvalues : (read good).toOption.map (fun s => (s.value .orphans, s.value .operations))
        = some (some 3, none) := by decide +kernel
    cases hread : read good with
    | ok loaded => simpa [hread, Except.toOption] using hvalues
    | error e => simp [hread, Except.toOption] at hvalues
  obtain ⟨e, hbad⟩ : ∃ e, read bad = .error e := by
    have hnone : (read bad).toOption.isNone = true := by decide +kernel
    cases hread : read bad with
    | ok loaded => simp [hread, Except.toOption] at hnone
    | error e => exact ⟨e, rfl⟩
  obtain ⟨-, hget, hcoverage, hreports, hswap⟩ := after_lastWrites history
  have hsince {counter : Counter} (h : Slot.counter counter ≠ .counter .transactions) :
      ∀ e ∈ [Edit.load bad, .withCoverage half, .set .transactions 8],
        e.LeavesAlone (.counter counter) := by
    rw [List.forall_mem_cons, List.forall_mem_cons, List.forall_mem_singleton]
    exact ⟨.load hbad, .withCoverage nofun, .set h⟩
  have hloaded {counter : Counter} (h : Slot.counter counter ≠ .counter .transactions)
      (h' : Slot.counter counter ≠ .counter .blocks) :
      LastWrite history (.counter counter) (loaded.value counter) :=
    @LastWrite.replaced [.set .operations 1] _ _ _ _ (.load hgood)
      (List.forall_mem_cons.mpr ⟨.set h', hsince h⟩)
  have hblocks : LastWrite history (.counter .blocks) (some (-2 : Int)) :=
    @LastWrite.set [.set .operations 1, .load good] _ _ _ _ (.counter _ _) (hsince (by decide))
  have hlast : LastWrite history .coverage (some half) :=
    @LastWrite.set start _ _ _ _ (.coverage half) (List.forall_mem_singleton.mpr (.set nofun))
  have hsame : SameLastWrites history history' :=
    hswap start _ _ [] _ _ _ _ rfl (.coverage half) (.counter .transactions 8) nofun
  refine ⟨loaded, hgood, hloaded (by decide) (by decide), ?_, hloaded (by decide) (by decide), ?_,
    hblocks, hget _ _ hblocks, hcoverage _ hlast, hsame, (hreports history' hsame).1⟩
  · rw [hget _ _ (hloaded (by decide) (by decide)), hoperations]
    rfl
  · rw [hget _ _ (hloaded (by decide) (by decide)), horphans]
    rfl

end Snapshot
end LedgerCheck
