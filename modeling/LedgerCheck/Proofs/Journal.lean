import Mathlib
import LedgerCheck.TestSuite
import LedgerCheck.Stats
import LedgerCheck.SyncProgress

/-!
# What computations note

The three computations on counters read them, note events and go on from what they got.  Each of them
adds queries and events to the journal that it starts with, and changes nothing else.

* `Journal.extend` — a journal with queries and events behind those that it had.
* `Observing.Notes P` — a computation only adds events, and every event it adds has the property `P`.
* `Observing.Yields P` — the value, if there is one, has the property `P`.
-/

namespace LedgerCheck

/-- The event is about anything but the tip of the node. -/
def Event.IsLocal (e : Event) : Prop := ∀ reason, e ≠ .tipUnavailable reason

/-! ## Journals -/

namespace Journal

/-- The journal with queries and events behind those that it has. -/
def extend (j : Journal) (queries : List Query) (events : List Event) : Journal :=
  ⟨j.queries ++ queries, j.events ++ events⟩

variable (j : Journal) (queries queries' : List Query) (events events' : List Event)

@[simp] lemma queries_extend : (j.extend queries events).queries = j.queries ++ queries := rfl

@[simp] lemma events_extend : (j.extend queries events).events = j.events ++ events := rfl

/-- Of the queries those for counters are reads. -/
lemma reads_extend :
    (j.extend queries events).reads = j.reads ++ queries.filterMap Query.counter? :=
  List.filterMap_append

@[simp] lemma reads_extend_counters (reads : List Counter) :
    (j.extend (reads.map .counter) events).reads = j.reads ++ reads := by
  have hcounters : Query.counter? ∘ Query.counter = some := rfl
  rw [reads_extend, List.filterMap_map, hcounters, List.filterMap_some]

@[simp] lemma extend_extend : (j.extend queries events).extend queries' events'
    = j.extend (queries ++ queries') (events ++ events') := by
  simp [extend]

@[simp] lemma extend_nil : j.extend [] [] = j := by
  simp [extend]

end Journal

namespace Observing

variable {α β : Type} {P : Event → Prop}

/-! ## Running -/

lemma run_pure (a : α) (j : Journal) : (pure a : Observing α).run j = (a, j) := rfl

/-- The second computation starts with the journal that the first one leaves. -/
lemma run_bind (first : Observing α) (next : α → Observing β) (j : Journal) :
    (first >>= next).run j = (next (first.run j).1).run (first.run j).2 := rfl

lemma run_note (e : Event) (j : Journal) : (note e).run j = ((), j.extend [] [e]) := by
  rw [Journal.extend, List.append_nil]
  rfl

/-! ## Noted events -/

/-- **The computation only adds events with a property**, whatever the journal held before. -/
def Notes (P : Event → Prop) (o : Observing α) : Prop :=
  ∀ j, ∃ noted, (o.run j).2.events = j.events ++ noted ∧ ∀ e ∈ noted, P e

lemma notes_pure (a : α) : Notes P (pure a) := by
  intro j
  exact ⟨[], by rw [run_pure, List.append_nil], by simp⟩

/-- What a computation notes is told by the journal that it leaves. -/
lemma notes_of_run {o : Observing α}
    (h : ∀ j, ∃ queries noted, (o.run j).2 = j.extend queries noted ∧ ∀ e ∈ noted, P e) :
    Notes P o := by
  intro j
  obtain ⟨queries, noted, hrun, hnoted⟩ := h j
  exact ⟨noted, by rw [hrun, Journal.events_extend], hnoted⟩

/-! ## Values -/

/-- **The value of the computation has a property**, if there is one, whatever the journal held
before. -/
def Yields (P : α → Prop) (o : Observing (Option α)) : Prop :=
  ∀ j, ∀ a ∈ (o.run j).1, P a

section Values

variable {P : α → Prop}

lemma yields_none : Yields P (pure none) := by
  intro j a ha
  exact absurd ha (Option.not_mem_none a)

/-- Only the last step decides about the value. -/
lemma yields_bind {first : Observing β} {next : β → Observing (Option α)}
    (hnext : ∀ b, Yields P (next b)) : Yields P (first >>= next) :=
  fun j => hnext (first.run j).1 (first.run j).2

end Values

end Observing
end LedgerCheck
