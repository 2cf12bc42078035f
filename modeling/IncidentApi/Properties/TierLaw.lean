import IncidentApi.Properties.BatchReads
import IncidentApi.Properties.FeedWalk

/-!
# Escalation events and their tiers

Level, due instant and recipients of an event come from the row its batch read, severity and cycle
from the row its insert found. In every run whose inserts find the severity that was read, an
event is due when the tier it claims says, counted from the clock of its cycle, and it notifies
that severity's recipients.
-/
namespace IncidentApi.Properties

/-! ### The law -/

section Law
variable (config : JobConfig) (allowed : System → Action → Prop) (start final : System)

/-- The `highSeveritySince` of a cycle: the clock that some state of the run shows, and that no
state before or after it contradicts. -/
def ClockOfCycle (id : Id) (cycle : Nat) (since : Date) : Prop :=
  ∃ state, Machine.Passes (step config) allowed start final state ∧
    (∃ row ∈ state.store.incidents, row.id = id ∧ row.escalationCycle = cycle ∧
      row.highSeveritySince = some since) ∧
    ∀ other, Machine.Passes (step config) allowed start state other ∨
        Machine.Passes (step config) allowed state final other →
      ∀ row ∈ other.store.incidents, row.id = id → row.escalationCycle = cycle →
        ∀ clock, row.highSeveritySince = some clock → clock = since

/-- What an event of a run owes to the tier of its severity and level. -/
structure ObeysTier (run : Run) (event : EscalationEvent) : Prop where
  due : ∃ since, ClockOfCycle config allowed start final event.incidentId event.cycle since ∧
    ∃ tier ∈ run.tiers, tier.severity = event.severityAtEscalation ∧ tier.level = event.level ∧
      event.dueAt = since + tier.thresholdMinutes * minuteMs
  elapsed : event.dueAt ≤ event.triggeredAt
  notified : ∀ recipient ∈ run.recipients.get event.severityAtEscalation,
    ∃ row ∈ final.store.notificationLog, row.escalationEventId = event.id ∧
      row.recipientId = recipient

end Law

/-- The steps of a run whose inserts find the severity their batch has read. The `If-Match` values
are versions that the client was served. -/
def EscalatesAsRead (sys : System) (action : Action) : Prop :=
  OnCommit IfMatchNotAhead sys action ∧ insertsAsRead sys action = true

section Run
variable {config : JobConfig} {start : Store} {issued : List Id}
  {allowed : System → Action → Prop} {sys : System}

/-- The clock that a batch has read is the clock of the cycle. -/
theorem DueRead.clockOfCycle {tiers : List Tier} {now : Date} {due : Due}
    (unique : start.UniqueIds)
    (notAhead : ∀ sys action, allowed sys action → OnCommit IfMatchNotAhead sys action)
    (read : DueRead (Machine.Passes (step config) allowed (System.boot start issued) sys) tiers now
      due) :
    ClockOfCycle config allowed (System.boot start issued) sys due.candidate.id
      due.candidate.escalationCycle due.candidate.highSeveritySince := by
  obtain ⟨state, passed, row, stored, candidate, same⟩ := read.read
  have named : row.id = due.candidate.id := congrArg EscalationCandidate.id same
  have cycle : row.escalationCycle = due.candidate.escalationCycle :=
    congrArg EscalationCandidate.escalationCycle same
  have clock : row.highSeveritySince = some due.candidate.highSeveritySince := by
    simp only [isCandidate, Bool.and_eq_true] at candidate
    obtain ⟨since, isSince⟩ := Option.isSome_iff_exists.mp candidate.2
    have read := congrArg EscalationCandidate.highSeveritySince same
    simp only [BatchRow.candidate, Incident.batchRow, isSince, Option.getD_some] at read
    rw [isSince, read]
  refine ⟨state, passed, ⟨row, stored, named, cycle, clock⟩, ?_⟩
  have moves := cycleMoves notAhead
  rintro other (⟨toOther, onward⟩ | ⟨onward, _⟩) seen member same equal instant shown
  -- before the read the clock has not stopped, or it would have been read stopped
  · have kept := moves.reached (reached_snapshots unique toOther) onward member stored
      (named.trans same.symm)
    rcases kept.clock (cycle.trans equal.symm) with stopped | still
    · simp [clock] at stopped
    · rw [clock, shown] at still
      exact (Option.some.inj still).symm
  · have kept := moves.reached (reached_snapshots unique passed.1) onward stored member
      (same.trans named.symm)
    rcases kept.clock (equal.trans cycle.symm) with stopped | still
    · simp [shown] at stopped
    · rw [clock, shown] at still
      exact Option.some.inj still

/-- Every escalation event obeys the tier it claims, in every run whose inserts find the severity
that their batch has read. -/
theorem escalation_events_obey_tiers (config : JobConfig) (start : Store) (issued : List Id)
    (unique : start.UniqueIds) (keys : (start.escalationEvents.map (·.key)).Nodup)
    (known : ∀ id ∈ mentions start, id ∈ issued) (sys : System)
    (reached : Machine.Reaches (step config) EscalatesAsRead (System.boot start issued) sys) :
    ∀ run ∈ sys.runs, ∀ made ∈ run.committed,
      ObeysTier config EscalatesAsRead (System.boot start issued) sys run made.event := by
  intro run member made among
  have read := (reached_reads unique (fun _ _ both => both.1) reached run member).committed made
    among
  have complete := (reached_history keys known (reached.imp fun _ _ _ => trivial)).complete _
    (mem_allCommitted member among)
  have severity := read.same fun _ _ both => both.2
  have key := read.key
  simp only [EscalationEvent.key, dueKey, Prod.mk.injEq] at key
  obtain ⟨incident, cycle, level⟩ := key
  constructor
  -- The tier is the one the run has loaded; the clock is the candidate's in the event's own cycle.
  · obtain ⟨tier, loaded, ofSeverity, ofLevel, threshold⟩ := read.pair.tier
    refine ⟨made.due.candidate.highSeveritySince, ?_, tier, loaded, ?_, ?_, ?_⟩
    · rw [incident, cycle]
      exact read.pair.clockOfCycle unique fun _ _ both => both.1
    · rw [ofSeverity, severity]
    · rw [ofLevel, level]
    · rw [read.instant, threshold]
      rfl
  · rw [read.instant]
    exact read.pair.elapsed
  · intro recipient listed
    -- The transaction has committed its notifications with the event.
    have once := complete.notified recipient
    rw [if_pos (severity ▸ listed)] at once
    have present : (made.event.id, recipient) ∈ sys.store.notificationLog.map (·.key) := by
      by_contra absent
      rw [List.count_eq_zero.mpr absent] at once
      simp at once
    obtain ⟨row, stored, same⟩ := List.mem_map.mp present
    simp only [NotificationLog.key, Prod.mk.injEq] at same
    exact ⟨row, stored, same.1, same.2⟩

end Run

/-! ### One escalation, alone and next to a lowering -/

def escalatesAsRead (sys : System) (action : Action) : Bool :=
  servedIfMatch sys action && insertsAsRead sys action

theorem escalatesAsRead_sound (sys : System) (action : Action)
    (passed : escalatesAsRead sys action = true) : EscalatesAsRead sys action := by
  rw [escalatesAsRead, Bool.and_eq_true] at passed
  exact ⟨servedIfMatch_sound sys action passed.1, passed.2⟩

/-- A run that has read its first page and opened a transaction for it. -/
def batchRead : List Action := .startRun "j0" 900000 :: jobSteps 5 900000 "r0"

theorem escalation_events_obey_tiers_sample :
    ∃ sys, Machine.exec (step sampleConfig) escalatesAsRead (System.boot sampleStore [])
        (batchRead ++ jobSteps 6 900000 "e0") = some sys ∧
      sys.runs.map (·.committed.map (·.event.key)) = [[("a", 1, 1)]] ∧
      ∀ run ∈ sys.runs, ∀ made ∈ run.committed, ObeysTier sampleConfig EscalatesAsRead
        (System.boot sampleStore []) sys run made.event := by
  have ran : (Machine.exec (step sampleConfig) escalatesAsRead (System.boot sampleStore [])
      (batchRead ++ jobSteps 6 900000 "e0")).any (fun sys => decide (
        sys.runs.map (·.committed.map (·.event.key)) = [[("a", 1, 1)]])) = true := by decide
  obtain ⟨sys, executed, facts⟩ := Option.any_eq_true _ _ |>.mp ran
  refine ⟨sys, executed, of_decide_eq_true facts, ?_⟩
  exact escalation_events_obey_tiers sampleConfig sampleStore [] ⟨by decide, by decide⟩ (by decide)
    (by decide) sys (Machine.reaches_of_exec _ escalatesAsRead_sound _ _ _ executed)

/-- A change from `CRITICAL` to `HIGH` commits between the read and the insert: the event says
`HIGH` and is due by the tier of `CRITICAL`. -/
theorem lowering_after_read_breaks_tier :
    ¬ ∀ (config : JobConfig) (start : Store) (issued : List Id), start.UniqueIds →
      (start.escalationEvents.map (·.key)).Nodup → (∀ id ∈ mentions start, id ∈ issued) →
      ∀ sys, Machine.Reaches (step config) (OnCommit IfMatchNotAhead) (System.boot start issued)
        sys →
      ∀ run ∈ sys.runs, ∀ made ∈ run.committed, ObeysTier config (OnCommit IfMatchNotAhead)
        (System.boot start issued) sys run made.event := by
  intro obeys
  have ran : (Machine.exec (step sampleConfig) servedIfMatch (System.boot sampleStore [])
      (batchRead ++ loweredToHigh 900000 ++ jobSteps 6 900000 "e0")).any (fun sys => decide (
        ∃ run ∈ sys.runs, ∃ made ∈ run.committed,
          (∀ tier ∈ run.tiers, tier.severity = made.event.severityAtEscalation →
            tier.level = made.event.level → tier.thresholdMinutes = 30) ∧
          made.event.dueAt = 900000 ∧
          ∃ row ∈ sys.store.incidents, row.id = made.event.incidentId ∧
            row.escalationCycle = made.event.cycle ∧ row.highSeveritySince = some 0)) = true := by
    decide
  obtain ⟨sys, executed, facts⟩ := Option.any_eq_true _ _ |>.mp ran
  obtain ⟨run, member, made, among, thresholds, instant, row, stored, named, cycle, clock⟩ :=
    of_decide_eq_true facts
  obtain ⟨since, ⟨state, passed, _, only⟩, tier, loaded, severity, level, dueAt⟩ :=
    (obeys sampleConfig sampleStore [] ⟨by decide, by decide⟩ (by decide) (by decide) sys
      (Machine.reaches_of_exec _ servedIfMatch_sound _ _ _ executed) run member made among).due
  -- The clock of this cycle has started at 0 only, and the tier asks for 30 minutes from there.
  obtain rfl := only sys (Or.inr ⟨passed.2, .start⟩) row stored named cycle 0 clock
  rw [instant, thresholds tier loaded severity level] at dueAt
  simp [minuteMs] at dueAt

end IncidentApi.Properties
