import IncidentApi.Properties.Lifecycle

/-!
# Escalation cycles

What steps do to the clock of an incident: its cycle only moves forward, and once an incident is
acknowledged, closed or out of the high band it is not a candidate again in the same cycle. Every
level up to a counter has its event in the row's cycle, whoever wrote the counter.
-/
namespace IncidentApi.Properties

/-! ### The clock columns of an update -/

/-- What `applySeverityChange` answers: a new cycle, no clock, or the clock as it was. -/
theorem applySeverityChange_cases (current next : Severity) (now : Date) (state : SeverityClock) :
    applySeverityChange current next now state =
        ⟨some now, state.escalationCycle + 1, 0, none, none⟩ ∨
    (next.inHighBand = false ∧ applySeverityChange current next now state =
        ⟨none, state.escalationCycle, 0, state.acknowledgedAt, state.acknowledgedById⟩) ∨
    (current.inHighBand = true ∧ applySeverityChange current next now state = state) := by
  unfold applySeverityChange
  dsimp only
  split
  · exact Or.inl rfl
  next same =>
    split
    -- out of the band
    next low =>
      refine Or.inr (Or.inl ⟨?_, rfl⟩)
      simpa [← inHighBand_iff] using low
    -- inside the band without a rise
    next high =>
      refine Or.inr (Or.inr ⟨?_, rfl⟩)
      simp only [← inHighBand_iff, not_not] at same high
      by_contra low
      exact same ⟨high, Or.inl low⟩

/-- What an update does to the clock: nothing but an acknowledgement, or a severity change. -/
inductive ClockEffect (row : Incident) (data : UpdateIncidentStateInput) : Prop
  | untouched (severity : data.severity = none) (cycle : data.escalationCycle = none)
      (level : data.currentEscalationLevel = none)
      (acknowledged : data.acknowledgedAt = none ∨ ∃ now, data.acknowledgedAt = some (some now))
  | changed (next : Severity) (now : Date) (severity : data.severity = some next)
      (cycle : data.escalationCycle =
        some (applySeverityChange row.severity next now row.clock).escalationCycle)
      (level : data.currentEscalationLevel =
        some (applySeverityChange row.severity next now row.clock).currentEscalationLevel)
      (acknowledged : data.acknowledgedAt =
        some (applySeverityChange row.severity next now row.clock).acknowledgedAt)

theorem decide_clock {operation : Operation} {actor : Actor} {id : Id} {row : TriageIncidentRow}
    {investigator : Option User} {now : Date} {mutation : Mutation}
    (decided : operation.decide actor id row investigator now = .ok mutation) :
    ClockEffect row.toIncident mutation.data := by
  cases operation with
  | triage =>
    rw [(triage_ok decided).2.1]
    exact .untouched rfl rfl rfl (Or.inl rfl)
  | changeSeverity input =>
    obtain ⟨_, _, data, _⟩ := changeSeverity_ok decided
    rw [data]
    exact .changed input.severity now rfl rfl rfl rfl
  | assignInvestigator investigatorId =>
    obtain ⟨_, _, _, _, _, _, data, _⟩ := assignInvestigator_ok decided
    rw [data]
    exact .untouched rfl rfl rfl (Or.inl rfl)
  | unassignInvestigator =>
    obtain ⟨_, _, _, _, data, _⟩ := unassignInvestigator_ok decided
    rw [data]
    exact .untouched rfl rfl rfl (Or.inl rfl)
  | acknowledge =>
    rw [(acknowledge_ok decided).2.2.1]
    exact .untouched rfl rfl rfl (Or.inr ⟨now, rfl⟩)
  | propose input =>
    rw [(propose_ok decided).2.2.1]
    exact .untouched rfl rfl rfl (Or.inl rfl)
  | approve =>
    rw [(approve_ok decided).2.2.1]
    exact .untouched rfl rfl rfl (Or.inl rfl)
  | reject reason =>
    rw [(reject_ok decided).2.1]
    exact .untouched rfl rfl rfl (Or.inl rfl)

/-! ### Cycles only move forward -/

/-- What makes a row a candidate in its cycle. -/
def Alive (row : Incident) : Prop :=
  row.acknowledgedAt = none ∧ row.stage ≠ .closed ∧ row.severity.inHighBand = true

/-- The row has gone past the cycle, or is no candidate in it. -/
def Ended (cycle : Nat) (row : Incident) : Prop :=
  cycle < row.escalationCycle ∨ row.escalationCycle = cycle ∧ ¬ Alive row

/-- Whatever has ended for the old row has ended for the new one. -/
structure CycleStep (old new : Incident) : Prop where
  forward : old.escalationCycle ≤ new.escalationCycle
  settled : new.escalationCycle = old.escalationCycle → ¬ Alive old → ¬ Alive new

theorem CycleStep.ended {old new : Incident} (cycleStep : CycleStep old new) {cycle : Nat}
    (ended : Ended cycle old) : Ended cycle new := by
  rcases ended with past | ⟨same, dead⟩
  · exact Or.inl (Nat.lt_of_lt_of_le past cycleStep.forward)
  · rcases Nat.eq_or_lt_of_le cycleStep.forward with equal | further
    · exact Or.inr ⟨equal.symm.trans same, cycleStep.settled equal.symm dead⟩
    · exact Or.inl (same ▸ further)

theorem CycleStep.of_protected {old new : Incident}
    (same : protectedPart new = protectedPart old) : CycleStep old new := by
  have cycle := protected_congr Incident.escalationCycle (fun _ => rfl) same
  have acknowledged := protected_congr Incident.acknowledgedAt (fun _ => rfl) same
  have stage := protected_congr Incident.stage (fun _ => rfl) same
  have severity := protected_congr Incident.severity (fun _ => rfl) same
  refine ⟨Nat.le_of_eq cycle.symm, fun _ => ?_⟩
  rw [Alive, Alive, acknowledged, stage, severity]
  exact id

/-- An update of an open row that changes no clock column cannot bring a candidate back. -/
theorem CycleStep.of_untouched {row : Incident} {data : UpdateIncidentStateInput} (wall : Date)
    (opened : row.stage ≠ .closed) (severity : data.severity = none)
    (cycle : data.escalationCycle = none)
    (acknowledged : data.acknowledgedAt = none ∨ ∃ now, data.acknowledgedAt = some (some now)) :
    CycleStep row (data.write wall row) := by
  refine ⟨by simp [UpdateIncidentStateInput.write, cycle], fun _ dead alive => dead ?_⟩
  obtain ⟨unacknowledged, _, high⟩ := alive
  refine ⟨?_, opened, by simpa [UpdateIncidentStateInput.write, severity] using high⟩
  rcases acknowledged with none | ⟨now, acknowledged⟩
  · simpa [UpdateIncidentStateInput.write, none] using unacknowledged
  · simp [UpdateIncidentStateInput.write, acknowledged] at unacknowledged

theorem ClockEffect.cycleStep {row : Incident} {data : UpdateIncidentStateInput} (wall : Date)
    (opened : row.stage ≠ .closed) (effect : ClockEffect row data) :
    CycleStep row (data.write wall row) := by
  cases effect with
  | untouched severity cycle level acknowledged =>
    exact .of_untouched wall opened severity cycle acknowledged
  | changed next now severity cycle level acknowledged =>
    have newCycle : (data.write wall row).escalationCycle =
        (applySeverityChange row.severity next now row.clock).escalationCycle := by
      simp [UpdateIncidentStateInput.write, cycle]
    have newSeverity : (data.write wall row).severity = next := by
      simp [UpdateIncidentStateInput.write, severity]
    have newAcknowledged : (data.write wall row).acknowledgedAt =
        (applySeverityChange row.severity next now row.clock).acknowledgedAt := by
      simp [UpdateIncidentStateInput.write, acknowledged]
    rcases applySeverityChange_cases row.severity next now row.clock with
      restarted | ⟨low, left⟩ | ⟨wasHigh, kept⟩
    -- a new cycle: nothing is asked of the rows in it
    · have further : (data.write wall row).escalationCycle = row.escalationCycle + 1 := by
        rw [newCycle, restarted]
        rfl
      exact ⟨by omega, fun same => by omega⟩
    -- no clock: the new severity is below the band
    · refine ⟨Nat.le_of_eq (by rw [newCycle, left]; rfl), fun _ _ alive => ?_⟩
      have high := alive.2.2
      rw [newSeverity, low] at high
      simp at high
    -- the clock as it was: a candidate now was one before
    · refine ⟨Nat.le_of_eq (by rw [newCycle, kept]; rfl), fun _ dead alive => dead ?_⟩
      have unacknowledged := alive.1
      rw [newAcknowledged, kept] at unacknowledged
      exact ⟨unacknowledged, opened, wasHigh⟩

theorem RowStep.cycleStep {sys : System} {action : Action} {rows : List AuditEvent}
    {old new : Incident} (rowStep : RowStep sys action rows old new) : CycleStep old new := by
  cases rowStep with
  | kept => exact .of_protected rfl
  | decided k now wall ids request mutation isCommit found free pins current decided logs =>
    -- the decision saw the protected columns of the overwritten row, so it moves the cycle alike
    have seen := (decide_clock decided).cycleStep wall (decide_lifecycle decided).opened
    have written := write_protected mutation.data wall current
    have cycle := protected_congr Incident.escalationCycle (fun _ => rfl) current
    have cycle' := protected_congr Incident.escalationCycle (fun _ => rfl) written
    refine ⟨by rw [← cycle, ← cycle']; exact seen.forward, fun same dead => ?_⟩
    have back : CycleStep old request.row.toIncident := .of_protected current
    have ahead : CycleStep (mutation.data.write wall request.row.toIncident)
        (mutation.data.write wall old) := .of_protected written.symm
    rw [← cycle, ← cycle'] at same
    exact ahead.settled cycle'.symm (seen.settled same (back.settled cycle dead))
  | cascaded actor targetId incident now wall named stage opened assignee free logs =>
    exact .of_untouched wall opened rfl rfl (Or.inl rfl)
  | bumped new job same => exact .of_protected same

/-! ### Levels with events -/

def HasEvent (events : List EscalationEvent) (id : Id) (cycle level : Nat) : Prop :=
  ∃ event ∈ events, event.key = (id, cycle, level)

/-- Every level up to a counter has its event. -/
def Supported (events : List EscalationEvent) (id : Id) (cycle counter : Nat) : Prop :=
  ∀ level, 1 ≤ level → level ≤ counter → HasEvent events id cycle level

/-- The counter of a row is supported in the row's own cycle. -/
def RowSupported (events : List EscalationEvent) (row : Incident) : Prop :=
  Supported events row.id row.escalationCycle row.currentEscalationLevel

theorem HasEvent.mono {events more : List EscalationEvent} (subset : events ⊆ more) {id : Id}
    {cycle level : Nat} (has : HasEvent events id cycle level) : HasEvent more id cycle level := by
  obtain ⟨event, member, key⟩ := has
  exact ⟨event, subset member, key⟩

theorem Supported.mono {events more : List EscalationEvent} (subset : events ⊆ more) {id : Id}
    {cycle counter : Nat} (supported : Supported events id cycle counter) :
    Supported more id cycle counter :=
  fun level one bound => (supported level one bound).mono subset

theorem supported_zero (events : List EscalationEvent) (id : Id) (cycle : Nat) :
    Supported events id cycle 0 :=
  fun level one bound => absurd one (by omega)

/-- An update keeps the support of a counter, if the row it was computed from was supported too:
it resets the counter, leaves it, or takes cycle and counter from that row. -/
theorem ClockEffect.supported {events : List EscalationEvent} {seen row : Incident}
    {data : UpdateIncidentStateInput} (wall : Date) (effect : ClockEffect seen data)
    (named : seen.id = row.id) (computed : RowSupported events seen)
    (stored : RowSupported events row) : RowSupported events (data.write wall row) := by
  cases effect with
  | untouched severity cycle level acknowledged =>
    simpa [RowSupported, UpdateIncidentStateInput.write, cycle, level] using stored
  | changed next now severity cycle level acknowledged =>
    rcases applySeverityChange_cases seen.severity next now seen.clock with
      restarted | ⟨_, left⟩ | ⟨_, kept⟩
    · rw [restarted] at cycle level
      simpa [RowSupported, UpdateIncidentStateInput.write, cycle, level] using
        supported_zero events row.id _
    · rw [left] at cycle level
      simpa [RowSupported, UpdateIncidentStateInput.write, cycle, level] using
        supported_zero events row.id _
    · rw [kept] at cycle level
      simpa [RowSupported, UpdateIncidentStateInput.write, cycle, level, Incident.clock, named]
        using computed

end IncidentApi.Properties
