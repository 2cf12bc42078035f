import IncidentApi.Incidents

/-!
# Triage and closure operations

`triage.service.ts` and `closure.service.ts`. Each operation is split where the source splits
it: a decision computed from the row `getByIdForActor` returned, and the transaction that commits
it. The decisions are here, one definition for each operation; `Operation.decide` dispatches.
-/
namespace IncidentApi

/-- `SeverityClockFields`. -/
structure SeverityClock where
  highSeveritySince : Option Date
  escalationCycle : Nat
  currentEscalationLevel : Nat
  acknowledgedAt : Option Date
  acknowledgedById : Option Id
  deriving DecidableEq, Repr

def Incident.clock (row : Incident) : SeverityClock :=
  ⟨row.highSeveritySince, row.escalationCycle, row.currentEscalationLevel, row.acknowledgedAt,
    row.acknowledgedById⟩

def applySeverityChange (current next : Severity) (now : Date) (state : SeverityClock) :
    SeverityClock :=
  let wasHighBand := highBandRank ≤ severityRank current
  let isHighBand := highBandRank ≤ severityRank next
  if isHighBand ∧ (¬ wasHighBand ∨ severityRank current < severityRank next) then
    -- entering the band or rising within it opens a new cycle
    ⟨some now, state.escalationCycle + 1, 0, none, none⟩
  else if ¬ isHighBand then
    -- leaving the band stops the clock and keeps the acknowledgement
    ⟨none, state.escalationCycle, 0, state.acknowledgedAt, state.acknowledgedById⟩
  -- lowering within the band
  else state

structure ChangeSeverityRequest where
  severity : Severity
  reason : TrimmedText 10 500

structure ProposeClosureRequest where
  rootCause : TrimmedText minRcaLength 4000
  correctiveAction : TrimmedText minRcaLength 4000

def stageRecord (actor : Actor) (id : Id) (source target : Stage) (reason : Option String)
    (now : Date) : CreateAuditEventInput where
  incidentId := some id
  actorId := some actor.id
  type := .stageChanged
  fromValue := some source.text
  toValue := some target.text
  reason := reason
  occurredAt := now

def unassignedRecord (actor : Actor) (id investigatorId : Id) (reason : String) (now : Date) :
    CreateAuditEventInput where
  incidentId := some id
  actorId := some actor.id
  type := .investigatorUnassigned
  fromValue := some investigatorId
  reason := some reason
  occurredAt := now

/-! ### Triage -/

def triage (actor : Actor) (id : Id) (incident : TriageIncidentRow) (now : Date) :
    Except AppError Mutation := do
  assertTransition incident.stage .triage
  return { data := { stage := some .triage },
           records := [stageRecord actor id incident.stage .triage none now] }

def changeSeverity (actor : Actor) (id : Id) (input : ChangeSeverityRequest)
    (incident : TriageIncidentRow) (now : Date) : Except AppError Mutation :=
  if incident.stage = .closed then .error IncidentClosedError
  else if incident.severity = input.severity then .error SeverityUnchangedError
  else
    let clock := applySeverityChange incident.severity input.severity now incident.clock
    -- the assignee joined at the load, whatever the row holds at the commit
    let stranded := incident.assignee.filter fun assignee =>
      mustUnassignOnRaise assignee.clearanceLevel input.severity
    let returned := stranded.isSome && incident.stage = .investigation
    .ok
      { data :=
          { severity := some input.severity
            highSeveritySince := some clock.highSeveritySince
            escalationCycle := some clock.escalationCycle
            currentEscalationLevel := some clock.currentEscalationLevel
            acknowledgedAt := some clock.acknowledgedAt
            acknowledgedById := some clock.acknowledgedById
            assignedInvestigatorId := if stranded.isSome then some none else none
            stage := if returned then some .triage else none }
        records :=
          { incidentId := some id
            actorId := some actor.id
            type := .severityChanged
            fromValue := some incident.severity.text
            toValue := some input.severity.text
            reason := some input.reason.value
            occurredAt := now } ::
          (stranded.toList.map fun assignee =>
            unassignedRecord actor id assignee.id "CLEARANCE_BELOW_NEW_SEVERITY" now) ++
          if returned then
            [stageRecord actor id incident.stage .triage (some "CLEARANCE_BELOW_NEW_SEVERITY") now]
          else [] }

/-- `investigator` is what `findInvestigatorById` answered after the load. -/
def assignInvestigator (actor : Actor) (id investigatorId : Id) (incident : TriageIncidentRow)
    (investigator : Option User) (now : Date) : Except AppError Mutation :=
  if incident.stage = .closed then .error IncidentClosedError
  else match investigator with
  | none => .error (NotFoundError "Investigator" investigatorId)
  | some investigator =>
    if investigator.role ≠ .investigator ∨ ¬ investigator.isActive then
      .error InvalidAssignmentTargetError
    else if ¬ canAssignInvestigator investigator.clearanceLevel incident.severity then
      .error (InvestigatorClearanceTooLowError (severityRank incident.severity)
        investigator.clearanceLevel)
    else
      -- only an assignment out of `TRIAGE` moves the stage
      let advanced := incident.stage = .triage
      let previous := incident.assignee.filter (·.id ≠ investigator.id)
      .ok
        { data :=
            { assignedInvestigatorId := some (some investigator.id)
              stage := if advanced then some .investigation else none }
          records :=
            (previous.toList.map fun assignee =>
              unassignedRecord actor id assignee.id "REASSIGNED" now) ++
            [{ incidentId := some id
               actorId := some actor.id
               type := .investigatorAssigned
               toValue := some investigator.id
               occurredAt := now }] ++
            if advanced then [stageRecord actor id incident.stage .investigation none now] else [] }

def unassignInvestigator (actor : Actor) (id : Id) (incident : TriageIncidentRow) (now : Date) :
    Except AppError Mutation :=
  if incident.stage = .closed then .error IncidentClosedError
  else match incident.assignedInvestigatorId with
  | none => .error NoInvestigatorAssignedError
  | some removedAssigneeId =>
    if incident.stage = .pendingClosure then
      .error (InvalidStageTransitionError incident.stage .triage
        (some "cannot unassign while a closure is pending review"))
    else
      let returned := incident.stage = .investigation
      .ok
        { data :=
            { assignedInvestigatorId := some none
              stage := if returned then some .triage else none }
          records :=
            unassignedRecord actor id removedAssigneeId "MANUAL" now ::
            if returned then [stageRecord actor id incident.stage .triage none now] else [] }

def acknowledge (actor : Actor) (id : Id) (incident : TriageIncidentRow) (now : Date) :
    Except AppError Mutation :=
  if incident.stage = .closed then .error IncidentClosedError
  else if incident.acknowledgedAt.isSome then .error AlreadyAcknowledgedError
  else
    .ok
      { data := { acknowledgedAt := some (some now), acknowledgedById := some (some actor.id) }
        records :=
          [{ incidentId := some id
             actorId := some actor.id
             type := .incidentAcknowledged
             occurredAt := now }] }

/-! ### Closure -/

def assertIsAssigneeOrAdmin (actor : Actor) (incident : TriageIncidentRow) (id : Id) :
    Except AppError Unit :=
  if actor.role = .admin ∨ incident.assignedInvestigatorId = some actor.id then .ok ()
  else .error (NotAssignedInvestigatorError id)

def propose (actor : Actor) (id : Id) (input : ProposeClosureRequest)
    (incident : TriageIncidentRow) (now : Date) : Except AppError Mutation := do
  assertIsAssigneeOrAdmin actor incident id
  assertTransition incident.stage .pendingClosure
  return {
    data :=
      { stage := some .pendingClosure
        rootCause := some (some input.rootCause.value)
        correctiveAction := some (some input.correctiveAction.value)
        closureProposedById := some (some actor.id)
        closureProposedAt := some (some now) }
    records :=
      [{ incidentId := some id
         actorId := some actor.id
         type := .closureProposed
         payload := some [("rootCauseLength", .num (jsLength input.rootCause.value)),
           ("correctiveActionLength", .num (jsLength input.correctiveAction.value))]
         occurredAt := now },
       stageRecord actor id incident.stage .pendingClosure none now] }

def approve (actor : Actor) (id : Id) (incident : TriageIncidentRow) (now : Date) :
    Except AppError Mutation := do
  assertTransition incident.stage .closed
  if hasClosureRequirements incident.toIncident then
    return {
      data :=
        { stage := some .closed
          closedById := some (some actor.id)
          closedAt := some (some now) }
      records :=
        [{ incidentId := some id
           actorId := some actor.id
           type := .closureApproved
           occurredAt := now },
         stageRecord actor id incident.stage .closed none now] }
  else .error ClosureRequirementsMissingError

/-- The source stage is checked by hand: `INVESTIGATION` can be reached from `TRIAGE` too. -/
def reject (actor : Actor) (id : Id) (reason : TrimmedText 10 1000)
    (incident : TriageIncidentRow) (now : Date) : Except AppError Mutation :=
  if incident.stage ≠ .pendingClosure then
    .error (InvalidStageTransitionError incident.stage .investigation
      (some "closure can only be rejected while pending review"))
  else
    .ok
      { data := { stage := some .investigation }
        records :=
          [{ incidentId := some id
             actorId := some actor.id
             type := .closureRejected
             reason := some reason.value
             occurredAt := now },
           stageRecord actor id incident.stage .investigation (some reason.value) now] }

/-! ### The operations as requests -/

inductive Operation where
  | triage
  | changeSeverity (input : ChangeSeverityRequest)
  | assignInvestigator (investigatorId : Id)
  | unassignInvestigator
  | acknowledge
  | propose (input : ProposeClosureRequest)
  | approve
  | reject (reason : TrimmedText 10 1000)

def triageRoles : List Role := [.triageManager, .admin]

/-- `authorizeRole` on the route: a closure is proposed without a role gate. -/
def Operation.roles : Operation → List Role
  | .propose _ => roleValues
  | _ => triageRoles

def Operation.decide (operation : Operation) (actor : Actor) (id : Id)
    (incident : TriageIncidentRow) (investigator : Option User) (now : Date) :
    Except AppError Mutation :=
  match operation with
  | .triage => IncidentApi.triage actor id incident now
  | .changeSeverity input => IncidentApi.changeSeverity actor id input incident now
  | .assignInvestigator investigatorId =>
    IncidentApi.assignInvestigator actor id investigatorId incident investigator now
  | .unassignInvestigator => IncidentApi.unassignInvestigator actor id incident now
  | .acknowledge => IncidentApi.acknowledge actor id incident now
  | .propose input => IncidentApi.propose actor id input incident now
  | .approve => IncidentApi.approve actor id incident now
  | .reject reason => IncidentApi.reject actor id reason incident now

end IncidentApi
