import IncidentApi.Details
import IncidentApi.NoteTaking
import IncidentApi.Properties.Lifecycle

/-!
# The hints and the gates

`computeActions` states once more what the routes and services check. Six of the seven hints answer
as their requests do; the hint of an acknowledgement asks for the high band, and the request does
not.
-/
namespace IncidentApi.Properties

/-! ### Requests that pass -/

/-- The request passes the role gate of its route and all that its service checks, with
`investigator` for what `findInvestigatorById` answers. -/
def routePasses (store : Store) (userId : Id) (operation : Operation) (id : Id)
    (expectedVersion : Nat) (investigator : Option User) (now : Date) : Bool :=
  match loadRequest store userId operation id expectedVersion with
  | .error _ => false
  | .ok request =>
    ({ request with investigator := some investigator }.decide now).toBool &&
      -- else `StaleVersionError`
      (store.incidents.filter (pinned id expectedVersion)).length = 1

/-- An investigator that an incident of the severity may be given to. -/
def assignable (investigator : User) (severity : Severity) : Bool :=
  investigator.role = .investigator && investigator.isActive &&
    canAssignInvestigator investigator.clearanceLevel severity

/-- Every hint is the answer of its request with the version, whatever the request brings that the
incident has no say in: an assignable investigator, a cursor that decodes, a valid body. -/
structure HintsAgree (store : Store) (userId : Id) (actor : Actor) (row : Incident) (now : Date)
    (actions : IncidentActions) (version : Nat) : Prop where
  triage : actions.canTriage = routePasses store userId .triage row.id version none now
  assign : ∀ investigator, assignable investigator row.severity = true →
    actions.canAssign = routePasses store userId (.assignInvestigator investigator.id) row.id
      version (some investigator) now
  acknowledge : actions.canAcknowledge =
    routePasses store userId .acknowledge row.id version none now
  readNotes : ∀ js cursorRaw cursor pageSize,
    decodeOptional (decodeCreatedAtIdCursor js) cursorRaw = .ok cursor →
      actions.canReadNotes = (listNotes js store actor row.id cursorRaw pageSize).toBool
  addNote : ∀ body, actions.canAddNote = (loadNote store actor row.id body).toBool
  propose : ∀ input, actions.canProposeClosure =
    routePasses store userId (.propose input) row.id version none now
  approve : actions.canApproveClosure = routePasses store userId .approve row.id version none now

/-- A manager may acknowledge the incident, and is not told so. -/
def acknowledgesUnhinted (actor : Actor) (row : Incident) : Bool :=
  canManage actor && severityRank row.severity < highBandRank && row.stage ≠ .closed &&
    row.acknowledgedAt.isNone

section Requests
variable {store : Store} {userId : Id} {actor : Actor} {row : Incident}

/-- The scoped query finds the row that the actor may see. -/
theorem find_scoped (unique : (store.incidents.map Incident.id).Nodup)
    (stored : row ∈ store.incidents) (cleared : visibilityScope actor row = true) :
    store.incidents.find? (fun other => other.id = row.id && visibilityScope actor other) =
      some row := by
  -- whatever the query finds has the id, and the id is unique
  cases found : store.incidents.find?
      fun other => other.id = row.id && visibilityScope actor other with
  | none =>
    have missed := List.find?_eq_none.mp found row stored
    simp [cleared] at missed
  | some other =>
    have selected := List.find?_some found
    simp only [Bool.and_eq_true, decide_eq_true_eq] at selected
    rw [eq_of_id_eq unique (List.mem_of_find?_eq_some found) stored selected.1]

theorem getByIdForActor_scoped (unique : (store.incidents.map Incident.id).Nodup)
    (stored : row ∈ store.incidents) (cleared : visibilityScope actor row = true) :
    getByIdForActor store actor row.id = .ok (joinAssignee store row) := by
  simp only [getByIdForActor, loadForActorOrThrow, findTriageRowScoped,
    find_scoped unique stored cleared, Option.map_some]

theorem routePasses_eq (unique : (store.incidents.map Incident.id).Nodup)
    (known : authenticate store userId = .ok actor) (stored : row ∈ store.incidents)
    (cleared : visibilityScope actor row = true) (operation : Operation)
    (investigator : Option User) (now : Date) :
    routePasses store userId operation row.id row.version investigator now =
      (decide (actor.role ∈ operation.roles) &&
        (operation.decide actor row.id (joinAssignee store row) investigator now).toBool) := by
  -- the version is current, so the update counts one row
  have once := (pinned_single_iff unique row.id row.version).mpr ⟨row, stored, rfl, rfl⟩
  by_cases entitled : actor.role ∈ operation.roles
  · have loaded : loadRequest store userId operation row.id row.version =
        .ok ⟨actor, row.id, operation, row.version, joinAssignee store row, none⟩ := by
      simp only [loadRequest, known, authorizeRole, if_pos entitled,
        getByIdForActor_scoped unique stored cleared, bind, Except.bind, pure, Except.pure]
    simp only [routePasses, loaded, once, entitled, decide_true, Bool.and_true, Bool.true_and,
      Request.decide, Option.getD_some]
  · have refused : loadRequest store userId operation row.id row.version =
        .error (InsufficientRoleError operation.roles) := by
      simp only [loadRequest, known, authorizeRole, if_neg entitled, bind, Except.bind]
    simp [routePasses, refused, entitled]

/-! ### The checks of the services -/

variable {id : Id} {incident : TriageIncidentRow} {now : Date}

theorem canManage_eq (actor : Actor) : canManage actor = decide (actor.role ∈ triageRoles) := by
  simp [canManage, triageRoles]

theorem triage_passes :
    (triage actor id incident now).toBool = canTransition incident.stage .triage := by
  unfold triage assertTransition
  split
  next leads => rw [leads]; rfl
  next blocked => rw [Bool.eq_false_of_not_eq_true blocked]; rfl

theorem assignInvestigator_passes {investigator : User}
    (fits : assignable investigator incident.severity = true) :
    (assignInvestigator actor id investigator.id incident (some investigator) now).toBool =
      decide (incident.stage ≠ .closed) := by
  simp only [assignable, Bool.and_eq_true, decide_eq_true_eq] at fits
  obtain ⟨⟨role, active⟩, cleared⟩ := fits
  unfold assignInvestigator
  split
  next closed => simp [closed, Except.toBool]
  next opened => simp [opened, role, active, cleared, Except.toBool]

theorem acknowledge_passes :
    (acknowledge actor id incident now).toBool =
      (decide (incident.stage ≠ .closed) && incident.acknowledgedAt.isNone) := by
  unfold acknowledge
  split
  next closed => simp [closed, Except.toBool]
  next opened =>
    split
    next acknowledged => simp [acknowledged, Except.toBool]
    next unacknowledged =>
      simp only [Option.not_isSome_iff_eq_none] at unacknowledged
      simp [opened, unacknowledged, Except.toBool]

theorem propose_passes (input : ProposeClosureRequest) :
    (propose actor id input incident now).toBool =
      (isAssigneeOrAdmin actor incident.toIncident &&
        canTransition incident.stage .pendingClosure) := by
  by_cases entitled : actor.role = .admin ∨ incident.assignedInvestigatorId = some actor.id
  · by_cases leads : canTransition incident.stage .pendingClosure = true
    · simp [propose, assertIsAssigneeOrAdmin, assertTransition, isAssigneeOrAdmin, entitled, leads,
        bind, Except.bind, pure, Except.pure, Except.toBool]
    · simp [propose, assertIsAssigneeOrAdmin, assertTransition, entitled, leads, bind, Except.bind,
        Except.toBool]
  · simp [propose, assertIsAssigneeOrAdmin, isAssigneeOrAdmin, entitled, bind, Except.bind,
      Except.toBool]

theorem approve_passes :
    (approve actor id incident now).toBool =
      (decide (incident.stage = .pendingClosure) &&
        hasClosureRequirements incident.toIncident) := by
  have closes : canTransition incident.stage .closed =
      decide (incident.stage = .pendingClosure) := by
    cases incident.stage <;> decide
  by_cases pending : incident.stage = .pendingClosure
  · have leads : canTransition incident.stage .closed = true := by rw [closes]; simpa using pending
    by_cases documented : hasClosureRequirements incident.toIncident = true
    · simp [approve, assertTransition, leads, documented, bind, Except.bind, pure, Except.pure,
        Except.toBool, decide_eq_true pending]
    · simp [approve, assertTransition, leads, documented, bind, Except.bind, Except.toBool]
  · simp [approve, assertTransition, closes, pending, bind, Except.bind, Except.toBool]

theorem assertReadAccess_eq (unique : (store.incidents.map Incident.id).Nodup)
    (stored : row ∈ store.incidents) (cleared : visibilityScope actor row = true) :
    assertReadAccess store actor row.id =
      if canReadNotes actor row then .ok (joinAssignee store row)
      else .error (NotAssignedInvestigatorError row.id) := by
  unfold assertReadAccess
  rw [getByIdForActor_scoped unique stored cleared]
  rfl

/-! ### Every hint but one -/

/-- The hint of an acknowledgement has one condition more than the request. -/
theorem canAcknowledge_agrees_iff :
    ((computeActions actor row).canAcknowledge = (decide (actor.role ∈ triageRoles) &&
        (decide (row.stage ≠ .closed) && row.acknowledgedAt.isNone))) ↔
      acknowledgesUnhinted actor row = false := by
  rw [← canManage_eq, computeActions, acknowledgesUnhinted]
  cases canManage actor with
  | false => simp
  | true =>
    -- the band is a condition of the hint alone
    by_cases high : highBandRank ≤ severityRank row.severity
    · cases row.acknowledgedAt <;> simp [high, Nat.not_lt.mpr high]
    · cases row.acknowledgedAt <;> simp [high, Nat.lt_of_not_le high]

theorem hintsAgree_iff (unique : (store.incidents.map Incident.id).Nodup)
    (known : authenticate store userId = .ok actor) (stored : row ∈ store.incidents)
    (cleared : visibilityScope actor row = true) (now : Date) :
    HintsAgree store userId actor row now (computeActions actor row) row.version ↔
      acknowledgesUnhinted actor row = false := by
  have passes := routePasses_eq unique known stored cleared
  have reads := assertReadAccess_eq unique stored cleared
  have acknowledges : routePasses store userId .acknowledge row.id row.version none now =
      (decide (actor.role ∈ triageRoles) &&
        (decide (row.stage ≠ .closed) && row.acknowledgedAt.isNone)) := by
    rw [passes]
    exact congrArg _ acknowledge_passes
  -- six hints agree without a condition
  rw [← canAcknowledge_agrees_iff, ← acknowledges]
  refine ⟨HintsAgree.acknowledge, fun agrees => ⟨?triage, ?assign, agrees, ?readNotes, ?addNote,
    ?propose, ?approve⟩⟩
  case triage =>
    have passed : (Operation.triage.decide actor row.id (joinAssignee store row) none now).toBool =
        canTransition row.stage .triage := triage_passes
    rw [passes, passed, computeActions, canManage_eq]
    rfl
  case assign =>
    intro investigator fits
    have passed : ((Operation.assignInvestigator investigator.id).decide actor row.id
        (joinAssignee store row) (some investigator) now).toBool = decide (row.stage ≠ .closed) :=
      assignInvestigator_passes fits
    rw [passes, passed, computeActions, canManage_eq]
    rfl
  case readNotes =>
    intro js cursorRaw cursor pageSize decoded
    by_cases readable : canReadNotes actor row = true
    · simp [computeActions, listNotes, reads, readable, decoded, bind, Except.bind, pure,
        Except.pure, Except.toBool]
    · simp [computeActions, listNotes, reads, readable, bind, Except.bind, Except.toBool]
  case addNote =>
    intro body
    by_cases readable : canReadNotes actor row = true
    · cases writable : canWriteNotes actor row <;>
        simp [computeActions, loadNote, reads, readable, writable, bind, Except.bind, pure,
          Except.pure, Except.toBool]
    · have unwritable : canWriteNotes actor row = false := by simp [canWriteNotes, readable]
      simp [computeActions, loadNote, reads, readable, unwritable, bind, Except.bind, Except.toBool]
  case propose =>
    intro input
    have passed : ((Operation.propose input).decide actor row.id (joinAssignee store row) none
        now).toBool = (isAssigneeOrAdmin actor row && canTransition row.stage .pendingClosure) :=
      propose_passes input
    -- the route of a proposal has no role gate
    have open_ : actor.role ∈ (Operation.propose input).roles := by
      show actor.role ∈ roleValues
      cases actor.role <;> decide
    rw [passes, passed, computeActions, decide_eq_true open_, Bool.true_and]
  case approve =>
    have passed : (Operation.approve.decide actor row.id (joinAssignee store row) none now).toBool =
        (decide (row.stage = .pendingClosure) && hasClosureRequirements row) := approve_passes
    rw [passes, passed, computeActions, canManage_eq]
    exact Bool.and_assoc ..

end Requests

/-- The hints of an incident agree with its requests, except for a manager who may acknowledge an
incident below the high band. -/
theorem hints_agree_iff (config : JobConfig) (start : Store) (issued : List Id)
    (unique : start.UniqueIds) (sys : System)
    (reached : Machine.Reaches (step config) Machine.anyAction (System.boot start issued) sys)
    (userId : Id) (actor : Actor) (known : authenticate sys.store userId = .ok actor)
    (row : Incident) (stored : row ∈ sys.store.incidents)
    (cleared : canViewSeverity actor row.severity = true)
    (sign : String → Option String) (now : Date) :
    ∃ detail, getById sign sys.store actor row.id = .ok detail ∧
      (HintsAgree sys.store userId actor row now detail.actions detail.version ↔
        acknowledgesUnhinted actor row = false) := by
  have distinct := (reached_snapshots unique reached).unique.incidents
  rw [canViewSeverity_eq_visibilityScope] at cleared
  refine ⟨toIncidentDetail sign (joinDetail sys.store row) actor, ?_,
    hintsAgree_iff distinct known stored cleared now⟩
  rw [getById, loadForActorOrThrow, findByIdScoped, find_scoped distinct stored cleared]
  rfl

def sampleReader : Actor := ⟨"admin", .admin, 4⟩

theorem hints_agree_iff_sample :
    ∃ sys row detail, Machine.exec (step sampleConfig) (fun _ _ => true)
        (System.boot staffedStore []) reported = some sys ∧
      sys.store.incidents = [row] ∧ (row.severity, row.stage) = (.high, .reported) ∧
      getById (fun _ => none) sys.store sampleReader row.id = .ok detail ∧
      HintsAgree sys.store "admin" sampleReader row 1 detail.actions detail.version := by
  have ran : (Machine.exec (step sampleConfig) (fun _ _ => true) (System.boot staffedStore [])
      reported).map (fun sys => (sys.store.incidents.map fun row => (row.severity, row.stage),
        authenticate sys.store "admin")) = some ([(.high, .reported)], .ok sampleReader) := by
    decide
  obtain ⟨sys, executed, facts⟩ := Option.map_eq_some_iff.mp ran
  simp only [Prod.mk.injEq] at facts
  obtain ⟨row, only, columns⟩ := List.map_eq_singleton_iff.mp facts.1
  have cleared : canViewSeverity sampleReader row.severity = true := by
    rw [(Prod.mk.inj columns).1]
    decide
  obtain ⟨detail, answered, agree⟩ := hints_agree_iff sampleConfig staffedStore []
    ⟨by decide, by decide⟩ sys (Machine.reaches_of_exec _ (fun _ _ _ => trivial) _ _ _ executed)
    "admin" sampleReader facts.2 row (by simp [only]) cleared (fun _ => none) 1
  refine ⟨sys, row, detail, executed, only, columns, answered, agree.mpr ?_⟩
  simp [acknowledgesUnhinted, (Prod.mk.inj columns).1, highBandRank, severityRank]

/-- A report below the high band. -/
def mildlyReported : List Action :=
  [.create "admin" { sampleReport with severity := .medium } (.stored "leak.jpg") "i" 0 0
    fun _ => "created"]

/-- The admin is told that the mild incident cannot be acknowledged, and can acknowledge it. -/
theorem mild_incident_acknowledged_unhinted :
    ¬ ∀ (config : JobConfig) (start : Store) (issued : List Id), start.UniqueIds →
      ∀ sys, Machine.Reaches (step config) Machine.anyAction (System.boot start issued) sys →
      ∀ userId actor, authenticate sys.store userId = .ok actor →
      ∀ row ∈ sys.store.incidents, canViewSeverity actor row.severity = true →
      ∀ sign now detail, getById sign sys.store actor row.id = .ok detail →
        HintsAgree sys.store userId actor row now detail.actions detail.version := by
  intro agree
  have ran : (Machine.exec (step sampleConfig) (fun _ _ => true) (System.boot staffedStore [])
      mildlyReported).any (fun sys => decide (
        sys.store.incidents.map (fun row => (row.id, row.severity)) = [("i", .medium)] ∧
        authenticate sys.store "admin" = .ok sampleReader ∧
        (getById (fun _ => none) sys.store sampleReader "i").toOption.map
          (fun detail => (detail.actions.canAcknowledge, detail.version)) = some (false, 0) ∧
        routePasses sys.store "admin" .acknowledge "i" 0 none 1 = true)) = true := by decide
  obtain ⟨sys, executed, facts⟩ := Option.any_eq_true _ _ |>.mp ran
  obtain ⟨rows, known, told, passes⟩ := of_decide_eq_true facts
  obtain ⟨row, only, columns⟩ := List.map_eq_singleton_iff.mp rows
  -- The hint needs the high band, the operation does not.
  simp only [Prod.mk.injEq] at columns
  cases answered : getById (fun _ => none) sys.store sampleReader "i" with
  | error refusal =>
    rw [answered] at told
    simp [Except.toOption] at told
  | ok detail =>
    rw [answered] at told
    simp only [Except.toOption, Option.map_some, Option.some.injEq, Prod.mk.injEq] at told
    have hints := agree sampleConfig staffedStore [] ⟨by decide, by decide⟩ sys
      (Machine.reaches_of_exec _ (fun _ _ _ => trivial) _ _ _ executed) "admin" sampleReader known
      row (by simp [only]) (by rw [columns.2]; decide) (fun _ => none) 1 detail
      (by rw [columns.1]; exact answered)
    have acknowledges := hints.acknowledge
    rw [told.1, told.2, columns.1, passes] at acknowledges
    exact Bool.false_ne_true acknowledges

end IncidentApi.Properties
