import IncidentApi.Properties.History
import IncidentApi.Properties.Refinement

/-!
# Exactly-once escalation

Any number of runs, interleaved with each other and with every other request, from any database
whose events have distinct keys: an event is inserted once, with what belongs to it, and no batch
fails over one.
-/
namespace IncidentApi.Properties

theorem mem_allCommitted {sys : System} {run : Run} (member : run ∈ sys.runs)
    {made : Escalation} (among : made ∈ run.committed) :
    (run.recipients, made) ∈ allCommitted sys :=
  List.mem_flatMap.mpr ⟨run, member, List.mem_map.mpr ⟨made, among, rfl⟩⟩

theorem HistoryInvariant.boot {start : Store} {issued : List Id}
    (keys : (start.escalationEvents.map (·.key)).Nodup)
    (known : ∀ id ∈ mentions start, id ∈ issued) :
    HistoryInvariant start (System.boot start issued) where
  keys := by simpa [allEvents, System.boot] using keys
  drawn := List.nodup_nil
  drawnIssued id member := by simp [allDrawn, System.boot] at member
  drawnFresh id member := by simp [allDrawn, System.boot] at member
  mentionedIssued := known
  made run member := by simp [System.boot] at member
  complete entry member := by simp [allCommitted, System.boot] at member
  failure run member := by simp [System.boot] at member
  origins := ⟨fun _ => Or.inl, fun row member => Or.inl (List.mem_map.mpr ⟨row, member, rfl⟩),
    fun _ member _ => Or.inl member⟩

theorem reached_history {config : JobConfig} {start : Store} {issued : List Id}
    (keys : (start.escalationEvents.map (·.key)).Nodup)
    (known : ∀ id ∈ mentions start, id ∈ issued) {sys : System}
    (reached : Machine.Reaches (step config) Machine.anyAction (System.boot start issued) sys) :
    HistoryInvariant start sys :=
  reached.invariant (HistoryInvariant start) (.boot keys known)
    (fun _ _ _ _ inv _ stepped => inv.step stepped) sys

/-- No two events share a key, whatever a run committed is complete, the history holds nothing
that no run committed, and no batch fails over an event that exists already. -/
theorem exactly_once_escalation (config : JobConfig) (start : Store) (issued : List Id)
    (keys : (start.escalationEvents.map (·.key)).Nodup)
    (known : ∀ id ∈ mentions start, id ∈ issued) (sys : System)
    (reached : Machine.Reaches (step config) Machine.anyAction (System.boot start issued) sys) :
    (sys.store.escalationEvents.map (·.key)).Nodup ∧
    (∀ run ∈ sys.runs, ∀ made ∈ run.committed, Complete run.recipients sys.store made) ∧
    Origins start sys ∧
    ∀ run ∈ sys.runs, run.failure ≠ some .uniqueViolation := by
  have inv := reached_history keys known reached
  refine ⟨?_, fun run member made among => ?_, inv.origins, inv.failure⟩
  · exact inv.keys.sublist ((List.sublist_append_left _ _).map _)
  · exact inv.complete _ (mem_allCommitted member among)

/-! ### Two overlapping runs -/

def sampleReading (now : Date) (id : Id) : Reading :=
  ⟨now, now, id, id, fun recipient => id ++ recipient, false⟩

/-- Both runs select the same candidate before either inserts its event; the lease of the first
has expired when the second claims it. -/
def overlappingRuns : List Action :=
  [.startRun "j0" 5400000, .startRun "j1" 6000000] ++
    List.replicate 5 (.job 0 (sampleReading 5400000 "r0")) ++
    List.replicate 5 (.job 1 (sampleReading 6000000 "r1")) ++
    [.job 0 (sampleReading 5400000 "e0"), .job 1 (sampleReading 6000000 "e1")] ++
    List.replicate 5 (.job 0 (sampleReading 5400000 "w0")) ++
    List.replicate 2 (.job 1 (sampleReading 6000000 "w1"))

theorem exactly_once_escalation_sample :
    ∃ sys, Machine.exec (step sampleConfig) (fun _ _ => true) (System.boot sampleStore [])
        overlappingRuns = some sys ∧
      sys.runs.map (·.committed.map (·.event.key)) = [[("a", 1, 1)], []] ∧
      (sys.store.escalationEvents.map (·.key)).Nodup ∧
      (∀ run ∈ sys.runs, ∀ made ∈ run.committed, Complete run.recipients sys.store made) ∧
      Origins sampleStore sys ∧ ∀ run ∈ sys.runs, run.failure ≠ some .uniqueViolation := by
  -- The second run meets the event of the first and inserts nothing.
  have committed : (Machine.exec (step sampleConfig) (fun _ _ => true)
      (System.boot sampleStore []) overlappingRuns).map
        (fun sys => sys.runs.map (·.committed.map (·.event.key))) =
      some [[("a", 1, 1)], []] := by decide
  obtain ⟨sys, executed, events⟩ := Option.map_eq_some_iff.mp committed
  refine ⟨sys, executed, events, ?_⟩
  exact exactly_once_escalation sampleConfig sampleStore [] (by decide) (by decide) sys
    (Machine.reaches_of_exec _ (fun _ _ _ => trivial) _ _ _ executed)

end IncidentApi.Properties
