import Walkthrough.Report.Record

/-!
# Walkthrough.Report.Collector

Results are collected under the index of their scenario until the report is frozen; then it never
changes.

* `append_frozen` and `freeze_frozen` are the laws of a frozen report.
-/

namespace Walkthrough
namespace Report

/-- The results of a run so far. -/
structure Collector where
  runId : String
  environmentId : String
  startedAt : Timestamp
  entries : List (Nat × ScenarioResult)
  frozen : Option Report

namespace Collector

def new (runId environmentId : String) (startedAt : Timestamp) : Collector :=
  ⟨runId, environmentId, startedAt, [], none⟩

/-- Record the result of the scenario at an index; `false` when it comes too late. -/
def append (c : Collector) (index : Nat) (result : ScenarioResult) : Bool × Collector :=
  match c.frozen with
  | some _ => (false, c)
  | none => (true, { c with entries := c.entries ++ [(index, result)] })

/-- The number of results that are waiting for the report. -/
def size (c : Collector) : Nat := c.entries.length

def isEmpty (c : Collector) : Bool := c.size = 0

/-- The results in the order of their indices; equal indices keep their order. -/
def ordered (entries : List (Nat × ScenarioResult)) : List ScenarioResult :=
  (entries.mergeSort fun a b => a.1 ≤ b.1).map (·.2)

/-- Make the report of all results, which from then on stays as it is. -/
def freeze (c : Collector) (cancelled : Bool) (finishedAt : Timestamp) : Report × Collector :=
  match c.frozen with
  | some report => (report, c)
  | none =>
    let scenarios := ordered c.entries
    let report : Report :=
      { runId := c.runId, startedAt := c.startedAt, finishedAt := finishedAt
        environmentId := c.environmentId, scenarios := scenarios
        summary := Summary.ofResults scenarios cancelled, cancelled := cancelled }
    (report, { c with entries := [], frozen := some report })

theorem append_frozen {c : Collector} {r : Report} (h : c.frozen = some r) (index : Nat)
    (result : ScenarioResult) : c.append index result = (false, c) := by
  simp [append, h]

theorem freeze_frozen {c : Collector} {r : Report} (h : c.frozen = some r) (cancelled : Bool)
    (finishedAt : Timestamp) : c.freeze cancelled finishedAt = (r, c) := by
  simp [freeze, h]

end Collector
end Report
end Walkthrough
