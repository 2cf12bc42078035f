import IncidentApi.Properties.CycleRows
import IncidentApi.Properties.SeverityClock

/-!
# The clock of a cycle

A row that is changed from its own columns only, one change after the other, has one clock for each
cycle it spends in the high band. An acknowledgement is lost to a new cycle and to nothing else.
-/
namespace IncidentApi.Properties

/-! ### Changes of one row -/

/-- What changes severity or clock of a row: a severity change, an acknowledgement, and the counter
update of the job. -/
inductive ClockAction where
  | change (next : Severity) (now wall : Date)
  | acknowledge (actorId : Id) (now wall : Date)
  | bump (level : Nat) (now wall : Date)

/-- The columns that `changeSeverity` writes for its clock. -/
def severityData (row : Incident) (next : Severity) (now : Date) : UpdateIncidentStateInput :=
  let clock := applySeverityChange row.severity next now row.clock
  { severity := some next
    highSeveritySince := some clock.highSeveritySince
    escalationCycle := some clock.escalationCycle
    currentEscalationLevel := some clock.currentEscalationLevel
    acknowledgedAt := some clock.acknowledgedAt
    acknowledgedById := some clock.acknowledgedById }

def clockStep (row : Incident) : ClockAction → Incident
  | .change next now wall => (severityData row next now).write wall row
  | .acknowledge actorId now wall =>
    { acknowledgedAt := some (some now)
      acknowledgedById := some (some actorId) : UpdateIncidentStateInput }.write wall row
  | .bump level now wall => bumpRow row.id level now wall row

def clockRun (row : Incident) (actions : List ClockAction) : Incident :=
  actions.foldl clockStep row

/-- Severity and clock of a row. -/
def clockPart (row : Incident) : Severity × SeverityClock := (row.severity, row.clock)

/-- An operation that is decided on a row and written to it changes its clock as at most one of the
actions does. -/
theorem decide_clockRun {operation : Operation} {actor : Actor} {id : Id}
    {row : TriageIncidentRow} {investigator : Option User} {now : Date} {mutation : Mutation}
    (decided : operation.decide actor id row investigator now = .ok mutation) (wall : Date) :
    ∃ actions, clockPart (mutation.data.write wall row.toIncident) =
      clockPart (clockRun row.toIncident actions) := by
  -- Two operations move the clock; the others leave its columns out of their update.
  cases operation with
  | changeSeverity input =>
    obtain ⟨_, _, data, _⟩ := changeSeverity_ok decided
    rw [data]
    exact ⟨[.change input.severity now wall], rfl⟩
  | acknowledge =>
    obtain ⟨_, _, data, _⟩ := acknowledge_ok decided
    rw [data]
    exact ⟨[.acknowledge actor.id now wall], rfl⟩
  | triage =>
    rw [(triage_ok decided).2.1]
    exact ⟨[], rfl⟩
  | assignInvestigator investigatorId =>
    obtain ⟨_, _, _, _, _, _, data, _⟩ := assignInvestigator_ok decided
    rw [data]
    exact ⟨[], rfl⟩
  | unassignInvestigator =>
    obtain ⟨_, _, _, _, data, _⟩ := unassignInvestigator_ok decided
    rw [data]
    exact ⟨[], rfl⟩
  | propose input =>
    rw [(propose_ok decided).2.2.1]
    exact ⟨[], rfl⟩
  | approve =>
    rw [(approve_ok decided).2.2.1]
    exact ⟨[], rfl⟩
  | reject reason =>
    rw [(reject_ok decided).2.1]
    exact ⟨[], rfl⟩

/-! ### One change -/

theorem applySeverityChange_total (current next : Severity) (now : Date) (state : SeverityClock) :
    applySeverityChange current next now state =
        ⟨some now, state.escalationCycle + 1, 0, none, none⟩ ∨
    (next.inHighBand = false ∧ applySeverityChange current next now state =
        ⟨none, state.escalationCycle, 0, state.acknowledgedAt, state.acknowledgedById⟩) ∨
    (current.inHighBand = true ∧ severityRank next ≤ severityRank current ∧
      applySeverityChange current next now state = state) := by
  by_cases same : current = next
  · subst same
    rcases applySeverityChange_cases current current now state with opened | left | ⟨high, stayed⟩
    · exact Or.inl opened
    · exact Or.inr (Or.inl left)
    · exact Or.inr (Or.inr ⟨high, Nat.le_refl _, stayed⟩)
  · rcases applySeverityChange_split same now state with opened | left | ⟨lowers, stayed⟩
    · exact Or.inl opened
    · exact Or.inr (Or.inl left)
    · simp only [lowersWithinBand, Bool.and_eq_true, decide_eq_true_eq] at lowers
      exact Or.inr (Or.inr ⟨lowers.1.1, Nat.le_of_lt lowers.2, stayed⟩)

theorem change_kept (row : Incident) (next : Severity) (now wall : Date) :
    CycleKept row (clockStep row (.change next now wall)) := by
  have clock : (clockStep row (.change next now wall)).clock =
      applySeverityChange row.severity next now row.clock := rfl
  rcases applySeverityChange_total row.severity next now row.clock with
    opened | ⟨low, left⟩ | ⟨high, lower, stayed⟩
  -- a new cycle keeps nothing
  · have further : (clockStep row (.change next now wall)).escalationCycle =
        row.escalationCycle + 1 := congrArg SeverityClock.escalationCycle (clock.trans opened)
    exact ⟨by omega, fun equal => by omega, fun equal => by omega, fun equal => by omega⟩
  -- out of the band: the clock stops in its cycle
  · have columns := clock.trans left
    refine ⟨Nat.le_of_eq (congrArg SeverityClock.escalationCycle columns).symm,
      fun _ => Or.inl (congrArg SeverityClock.highSeveritySince columns), fun _ => ?_,
      fun _ _ => ?_⟩
    · exact fun isHigh => absurd (low.symm.trans isHigh) (by decide)
    · exact fun alive => absurd (low.symm.trans alive.2.2) (by decide)
  -- within the band, not above the severity before
  · have columns := clock.trans stayed
    refine ⟨Nat.le_of_eq (congrArg SeverityClock.escalationCycle columns).symm,
      fun _ => Or.inr (congrArg SeverityClock.highSeveritySince columns),
      fun _ _ => ⟨high, lower⟩, fun _ dead alive => dead ⟨?_, alive.2.1, high⟩⟩
    exact (congrArg SeverityClock.acknowledgedAt columns).symm.trans alive.1

theorem clockStep_kept (row : Incident) (action : ClockAction) :
    CycleKept row (clockStep row action) := by
  cases action with
  | change next now wall => exact change_kept row next now wall
  | acknowledge actorId now wall =>
    exact .of_still rfl rfl ⟨Nat.le_refl _, fun _ _ alive => nomatch alive.1⟩
  | bump level now wall => exact .of_protected (bumpRow_protected row.id level now wall row)

theorem clockStep_agrees {row : Incident} (agrees : ClockAgrees row) (action : ClockAction) :
    ClockAgrees (clockStep row action) := by
  cases action with
  | change next now wall =>
    have writes : ClockWrite row (severityData row next now) := .changed next now rfl rfl rfl
    exact writes.agrees wall agrees agrees
  | acknowledge actorId now wall => exact ⟨agrees.running, agrees.counted⟩
  | bump level now wall => exact agrees.congr (bumpRow_protected row.id level now wall row)

/-- An acknowledgement is lost to a new cycle only. -/
theorem clockStep_unacknowledges {row : Incident} {action : ClockAction}
    (acknowledged : row.acknowledgedAt ≠ none)
    (lost : (clockStep row action).acknowledgedAt = none) :
    (clockStep row action).escalationCycle = row.escalationCycle + 1 ∧
      (clockStep row action).currentEscalationLevel = 0 := by
  cases action with
  | change next now wall =>
    have clock : (clockStep row (.change next now wall)).clock =
        applySeverityChange row.severity next now row.clock := rfl
    rcases applySeverityChange_total row.severity next now row.clock with
      opened | ⟨_, left⟩ | ⟨_, _, stayed⟩
    · exact ⟨congrArg SeverityClock.escalationCycle (clock.trans opened),
        congrArg SeverityClock.currentEscalationLevel (clock.trans opened)⟩
    -- in the same cycle the acknowledgement stays
    · have kept := congrArg SeverityClock.acknowledgedAt (clock.trans left)
      exact absurd (kept.symm.trans lost) acknowledged
    · have kept := congrArg SeverityClock.acknowledgedAt (clock.trans stayed)
      exact absurd (kept.symm.trans lost) acknowledged
  | acknowledge actorId now wall => cases lost
  | bump level now wall =>
    have same := protected_congr Incident.acknowledgedAt (fun _ => rfl)
      (bumpRow_protected row.id level now wall row)
    exact absurd (same.symm.trans lost) acknowledged

/-! ### Every run -/

theorem clockRun_kept (row : Incident) (actions : List ClockAction) :
    CycleKept row (clockRun row actions) := by
  induction actions generalizing row with
  | nil => exact .refl row
  | cons action rest ih => exact (clockStep_kept row action).trans (ih _)

theorem clockRun_agrees {row : Incident} (agrees : ClockAgrees row)
    (actions : List ClockAction) : ClockAgrees (clockRun row actions) := by
  induction actions generalizing row with
  | nil => exact agrees
  | cons action rest ih => exact ih (clockStep_agrees agrees action)

/-- From the row that `create` inserts, an earlier and a later state of any run of changes, and one
more step of the earlier one. -/
theorem cycle_identifies_clock (actor : Actor) (input : CreateIncidentRequest)
    (imagePath : Option String) (id : Id) (reference : String) (now wall : Date)
    (actions more : List ClockAction) :
    let early := clockRun (newIncident actor input imagePath id reference now wall) actions
    let late := clockRun early more
    early.escalationCycle ≤ late.escalationCycle ∧
    (late.escalationCycle = early.escalationCycle → early.severity.inHighBand = true →
      late.severity.inHighBand = true →
      late.highSeveritySince = early.highSeveritySince ∧
        severityRank late.severity ≤ severityRank early.severity) ∧
    ∀ action, early.acknowledgedAt ≠ none → (clockStep early action).acknowledgedAt = none →
      (clockStep early action).escalationCycle = early.escalationCycle + 1 ∧
        (clockStep early action).currentEscalationLevel = 0 := by
  intro early late
  have kept : CycleKept early late := clockRun_kept early more
  have agrees : ClockAgrees late := clockRun_agrees (clockRun_agrees
    (newIncident_agrees actor input imagePath id reference now wall) actions) more
  refine ⟨kept.forward, fun same _ high => ⟨?_, (kept.band same high).2⟩, ?_⟩
  · rcases kept.clock same with stopped | still
    -- the clock runs in the band
    · have running := agrees.running.mpr high
      rw [stopped] at running
      cases running
    · exact still
  · intro action acknowledged lost
    exact clockStep_unacknowledges acknowledged lost

end IncidentApi.Properties
