import IncidentApi.Triage
import IncidentApi.Admin

/-!
# What the operations decide

One inversion lemma for each operation: when it decides to write, what its checks established
about the row it loaded and what the update sets. What is proved about mutations is proved from
these lemmas, and no later proof unfolds an operation.
-/
namespace IncidentApi.Properties

section Operations
variable {actor : Actor} {id : Id} {row : TriageIncidentRow} {now : Date} {mutation : Mutation}

theorem triage_ok (decided : triage actor id row now = .ok mutation) :
    canTransition row.stage .triage = true ∧
      mutation.data = { stage := some .triage } ∧
      mutation.records = [stageRecord actor id row.stage .triage none now] := by
  simp only [triage, bind, Except.bind] at decided
  split at decided
  · simp at decided
  next allowed =>
    obtain rfl := Except.ok.inj decided
    exact ⟨(assertTransition_ok _ _ _).mp allowed, rfl, rfl⟩

/-- The assignee a severity change strands. -/
def strandedAssignee (row : TriageIncidentRow) (severity : Severity) : Option AssigneeRow :=
  row.assignee.filter fun assignee => mustUnassignOnRaise assignee.clearanceLevel severity

theorem changeSeverity_ok {input : ChangeSeverityRequest}
    (decided : changeSeverity actor id input row now = .ok mutation) :
    row.stage ≠ .closed ∧ row.severity ≠ input.severity ∧
      (let clock := applySeverityChange row.severity input.severity now row.clock
      let stranded := (strandedAssignee row input.severity).isSome
      mutation.data =
        { severity := some input.severity
          highSeveritySince := some clock.highSeveritySince
          escalationCycle := some clock.escalationCycle
          currentEscalationLevel := some clock.currentEscalationLevel
          acknowledgedAt := some clock.acknowledgedAt
          acknowledgedById := some clock.acknowledgedById
          assignedInvestigatorId := if stranded then some none else none
          stage := if stranded && row.stage = .investigation then some .triage else none }) ∧
      mutation.records =
        { incidentId := some id
          actorId := some actor.id
          type := .severityChanged
          fromValue := some row.severity.text
          toValue := some input.severity.text
          reason := some input.reason.value
          occurredAt := now } ::
        ((strandedAssignee row input.severity).toList.map fun assignee =>
          unassignedRecord actor id assignee.id "CLEARANCE_BELOW_NEW_SEVERITY" now) ++
        if (strandedAssignee row input.severity).isSome && row.stage = .investigation then
          [stageRecord actor id row.stage .triage (some "CLEARANCE_BELOW_NEW_SEVERITY") now]
        else [] := by
  unfold changeSeverity at decided
  split at decided
  · simp at decided
  next opened =>
    split at decided
    · simp at decided
    -- the same severity again is refused
    next changed =>
      have equal := Except.ok.inj decided
      subst equal
      exact ⟨opened, changed, rfl, rfl⟩

theorem assignInvestigator_ok {investigatorId : Id} {investigator : Option User}
    (decided : assignInvestigator actor id investigatorId row investigator now = .ok mutation) :
    row.stage ≠ .closed ∧ ∃ user, investigator = some user ∧ user.role = .investigator ∧
      user.isActive = true ∧ canAssignInvestigator user.clearanceLevel row.severity = true ∧
      mutation.data =
        { assignedInvestigatorId := some (some user.id)
          stage := if row.stage = .triage then some .investigation else none } ∧
      mutation.records =
        ((row.assignee.filter (·.id ≠ user.id)).toList.map fun assignee =>
          unassignedRecord actor id assignee.id "REASSIGNED" now) ++
        [{ incidentId := some id
           actorId := some actor.id
           type := .investigatorAssigned
           toValue := some user.id
           occurredAt := now }] ++
        if row.stage = .triage then [stageRecord actor id row.stage .investigation none now]
        else [] := by
  unfold assignInvestigator at decided
  split at decided
  · simp at decided
  next opened =>
    cases investigator with
    | none => simp at decided
    | some user =>
      simp only at decided
      -- first the target itself, then its clearance
      split at decided
      · simp at decided
      next target =>
        split at decided
        · simp at decided
        next cleared =>
          have equal := Except.ok.inj decided
          subst equal
          simp only [ne_eq, Bool.not_eq_true, not_or, not_not, Bool.not_eq_false] at target cleared
          exact ⟨opened, user, rfl, target.1, target.2, cleared, rfl, rfl⟩

theorem unassignInvestigator_ok (decided : unassignInvestigator actor id row now = .ok mutation) :
    row.stage ≠ .closed ∧ row.stage ≠ .pendingClosure ∧
      ∃ removed, row.assignedInvestigatorId = some removed ∧
      mutation.data =
        { assignedInvestigatorId := some none
          stage := if row.stage = .investigation then some .triage else none } ∧
      mutation.records = unassignedRecord actor id removed "MANUAL" now ::
        if row.stage = .investigation then [stageRecord actor id row.stage .triage none now]
        else [] := by
  unfold unassignInvestigator at decided
  split at decided
  · simp at decided
  next opened =>
    split at decided
    · simp at decided
    next removed assigned =>
      split at decided
      · simp at decided
      next notPending =>
        have equal := Except.ok.inj decided
        subst equal
        exact ⟨opened, notPending, removed, assigned, rfl, rfl⟩

theorem acknowledge_ok (decided : acknowledge actor id row now = .ok mutation) :
    row.stage ≠ .closed ∧ row.acknowledgedAt = none ∧
      mutation.data =
        { acknowledgedAt := some (some now), acknowledgedById := some (some actor.id) } ∧
      mutation.records =
        [{ incidentId := some id
           actorId := some actor.id
           type := .incidentAcknowledged
           occurredAt := now }] := by
  unfold acknowledge at decided
  split at decided
  · simp at decided
  next opened =>
    split at decided
    · simp at decided
    next unacknowledged =>
      obtain rfl := Except.ok.inj decided
      exact ⟨opened, by simpa using unacknowledged, rfl, rfl⟩

theorem propose_ok {input : ProposeClosureRequest}
    (decided : propose actor id input row now = .ok mutation) :
    (actor.role = .admin ∨ row.assignedInvestigatorId = some actor.id) ∧
      canTransition row.stage .pendingClosure = true ∧
      mutation.data =
        { stage := some .pendingClosure
          rootCause := some (some input.rootCause.value)
          correctiveAction := some (some input.correctiveAction.value)
          closureProposedById := some (some actor.id)
          closureProposedAt := some (some now) } ∧
      mutation.records =
        [{ incidentId := some id
           actorId := some actor.id
           type := .closureProposed
           payload := some [("rootCauseLength", .num (jsLength input.rootCause.value)),
             ("correctiveActionLength", .num (jsLength input.correctiveAction.value))]
           occurredAt := now },
         stageRecord actor id row.stage .pendingClosure none now] := by
  simp only [propose, bind, Except.bind] at decided
  split at decided
  · simp at decided
  next entitled =>
    split at decided
    · simp at decided
    next allowed =>
      obtain rfl := Except.ok.inj decided
      refine ⟨?_, (assertTransition_ok _ _ _).mp allowed, rfl, rfl⟩
      -- the first check of `propose`, before the transition
      unfold assertIsAssigneeOrAdmin at entitled
      split at entitled
      · assumption
      · simp at entitled

theorem approve_ok (decided : approve actor id row now = .ok mutation) :
    canTransition row.stage .closed = true ∧ hasClosureRequirements row.toIncident = true ∧
      mutation.data =
        { stage := some .closed
          closedById := some (some actor.id)
          closedAt := some (some now) } ∧
      mutation.records =
        [{ incidentId := some id
           actorId := some actor.id
           type := .closureApproved
           occurredAt := now },
         stageRecord actor id row.stage .closed none now] := by
  simp only [approve, bind, Except.bind] at decided
  split at decided
  · simp at decided
  next allowed =>
    split at decided
    next documented =>
      obtain rfl := Except.ok.inj decided
      exact ⟨(assertTransition_ok _ _ _).mp allowed, documented, rfl, rfl⟩
    · simp at decided

theorem reject_ok {reason : TrimmedText 10 1000}
    (decided : reject actor id reason row now = .ok mutation) :
    row.stage = .pendingClosure ∧ mutation.data = { stage := some .investigation } ∧
      mutation.records =
        [{ incidentId := some id
           actorId := some actor.id
           type := .closureRejected
           reason := some reason.value
           occurredAt := now },
         stageRecord actor id row.stage .investigation (some reason.value) now] := by
  unfold reject at decided
  split at decided
  · simp at decided
  next pending =>
    obtain rfl := Except.ok.inj decided
    exact ⟨not_not.mp pending, rfl, rfl⟩

end Operations

/-! ### What the audit rows have in common -/

/-- An audit row about the incident that reports neither its creation nor an escalation, nor a
change of an account. -/
structure EntryAbout (id : Id) (entry : CreateAuditEventInput) : Prop where
  named : entry.incidentId = some id
  created : entry.type ≠ .incidentCreated
  unrelated : entry.type ≠ .incidentEscalated
  clearance : entry.type ≠ .userClearanceChanged
  role : entry.type ≠ .userRoleChanged

private theorem stageRecord_about (actor : Actor) (id : Id) (source target : Stage)
    (reason : Option String) (now : Date) :
    EntryAbout id (stageRecord actor id source target reason now) :=
  ⟨rfl, nofun, nofun, nofun, nofun⟩

private theorem unassignedRecord_about (actor : Actor) (id investigatorId : Id) (reason : String)
    (now : Date) : EntryAbout id (unassignedRecord actor id investigatorId reason now) :=
  ⟨rfl, nofun, nofun, nofun, nofun⟩

/-- The `STAGE_CHANGED` row that some operations append at the end. -/
private theorem last_about {moves : Prop} [Decidable moves] {id : Id}
    {last entry : CreateAuditEventInput} (about : EntryAbout id last)
    (member : entry ∈ if moves then [last] else []) : EntryAbout id entry := by
  split at member
  · exact List.mem_singleton.mp member ▸ about
  · simp at member

theorem decide_entries {operation : Operation} {actor : Actor} {id : Id} {row : TriageIncidentRow}
    {investigator : Option User} {now : Date} {mutation : Mutation}
    (decided : operation.decide actor id row investigator now = .ok mutation) :
    ∀ entry ∈ mutation.records, EntryAbout id entry := by
  intro entry member
  cases operation with
  | triage =>
    rw [(triage_ok decided).2.2] at member
    rw [List.mem_singleton.mp member]
    exact stageRecord_about ..
  | changeSeverity input =>
    rw [(changeSeverity_ok decided).2.2.2] at member
    simp only [List.mem_cons, List.cons_append, List.mem_append, List.mem_map] at member
    rcases member with rfl | ⟨_, _, rfl⟩ | last
    · exact ⟨rfl, nofun, nofun, nofun, nofun⟩
    · exact unassignedRecord_about ..
    · exact last_about (stageRecord_about ..) last
  | assignInvestigator investigatorId =>
    obtain ⟨_, _, _, _, _, _, _, records⟩ := assignInvestigator_ok decided
    rw [records] at member
    simp only [List.mem_append, List.mem_map, List.mem_singleton] at member
    rcases member with (⟨_, _, rfl⟩ | rfl) | last
    · exact unassignedRecord_about ..
    · exact ⟨rfl, nofun, nofun, nofun, nofun⟩
    · exact last_about (stageRecord_about ..) last
  | unassignInvestigator =>
    obtain ⟨_, _, _, _, _, records⟩ := unassignInvestigator_ok decided
    rw [records] at member
    rcases List.mem_cons.mp member with rfl | last
    · exact unassignedRecord_about ..
    · exact last_about (stageRecord_about ..) last
  | acknowledge =>
    rw [(acknowledge_ok decided).2.2.2] at member
    rw [List.mem_singleton.mp member]
    exact ⟨rfl, nofun, nofun, nofun, nofun⟩
  | propose input =>
    rw [(propose_ok decided).2.2.2] at member
    rcases List.mem_pair.mp member with rfl | rfl
    · exact ⟨rfl, nofun, nofun, nofun, nofun⟩
    · exact stageRecord_about ..
  | approve =>
    rw [(approve_ok decided).2.2.2] at member
    rcases List.mem_pair.mp member with rfl | rfl
    · exact ⟨rfl, nofun, nofun, nofun, nofun⟩
    · exact stageRecord_about ..
  | reject reason =>
    rw [(reject_ok decided).2.2] at member
    rcases List.mem_pair.mp member with rfl | rfl
    · exact ⟨rfl, nofun, nofun, nofun, nofun⟩
    · exact stageRecord_about ..

/-- Every operation that writes says so in the audit log. -/
theorem decide_records_ne {operation : Operation} {actor : Actor} {id : Id}
    {row : TriageIncidentRow} {investigator : Option User} {now : Date} {mutation : Mutation}
    (decided : operation.decide actor id row investigator now = .ok mutation) :
    mutation.records ≠ [] := by
  cases operation with
  | triage => simp [(triage_ok decided).2.2]
  | changeSeverity input => simp [(changeSeverity_ok decided).2.2.2]
  | assignInvestigator investigatorId =>
    obtain ⟨_, _, _, _, _, _, _, records⟩ := assignInvestigator_ok decided
    simp [records]
  | unassignInvestigator =>
    obtain ⟨_, _, _, _, _, records⟩ := unassignInvestigator_ok decided
    simp [records]
  | acknowledge => simp [(acknowledge_ok decided).2.2.2]
  | propose input => simp [(propose_ok decided).2.2.2]
  | approve => simp [(approve_ok decided).2.2.2]
  | reject reason => simp [(reject_ok decided).2.2]

/-- No operation reports an escalation in the audit log. -/
theorem decide_unrelated {operation : Operation} {actor : Actor} {id : Id}
    {row : TriageIncidentRow} {investigator : Option User} {now : Date} {mutation : Mutation}
    (decided : operation.decide actor id row investigator now = .ok mutation) :
    ∀ entry ∈ mutation.records, entry.type ≠ .incidentEscalated :=
  fun entry member => (decide_entries decided entry member).unrelated

theorem cascade_entries (actor : Actor) (targetId : Id) (incident : AssignedIncidentRow)
    (now : Date) : ∀ entry ∈ (cascade actor targetId incident now).records,
      EntryAbout incident.id entry := by
  intro entry member
  rcases List.mem_cons.mp member with rfl | last
  · exact ⟨rfl, nofun, nofun, nofun, nofun⟩
  · apply last_about _ last
    exact ⟨rfl, nofun, nofun, nofun, nofun⟩

theorem cascade_unrelated (actor : Actor) (targetId : Id) (incident : AssignedIncidentRow)
    (now : Date) : ∀ entry ∈ (cascade actor targetId incident now).records,
      entry.type ≠ .incidentEscalated :=
  fun entry member => (cascade_entries actor targetId incident now entry member).unrelated

end IncidentApi.Properties
