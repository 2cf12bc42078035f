import IncidentApi.Tables
import IncidentApi.Errors
import IncidentApi.Text

/-!
# Policies

The pure decisions of `src/policy`: which incidents an actor may see, which stage follows which,
who may be assigned, who reads notes, and when a closure is documented well enough.
-/
namespace IncidentApi

/-- Built from the user row on every authenticated request. -/
structure Actor where
  id : Id
  role : Role
  clearanceLevel : Nat
  deriving DecidableEq, Repr

/-! ### Clearance -/

def visibleSeverities (clearance : Nat) : List Severity :=
  severityValues.filter fun s => severityRank s ≤ clearance

def canViewSeverity (actor : Actor) (severity : Severity) : Bool :=
  severityRank severity ≤ actor.clearanceLevel

/-- The `where` fragment of `visibilityScope`, as the predicate it selects rows with. -/
def visibilityScope (actor : Actor) (incident : Incident) : Bool :=
  incident.severity ∈ visibleSeverities actor.clearanceLevel

def effectiveSeverities (actor : Actor) (requested : Option (List Severity)) : List Severity :=
  let allowed := visibleSeverities actor.clearanceLevel
  match requested with
  | none => allowed
  -- an empty `severity` filter asks for everything the actor may see
  | some [] => allowed
  | some severities => severities.filter (· ∈ allowed)

theorem mem_visibleSeverities (clearance : Nat) (s : Severity) :
    s ∈ visibleSeverities clearance ↔ severityRank s ≤ clearance := by
  simp [visibleSeverities, mem_severityValues]

@[simp] theorem visibilityScope_iff (actor : Actor) (incident : Incident) :
    visibilityScope actor incident = true ↔
      severityRank incident.severity ≤ actor.clearanceLevel := by
  simp [visibilityScope, mem_visibleSeverities]

theorem canViewSeverity_eq_visibilityScope (actor : Actor) (incident : Incident) :
    canViewSeverity actor incident.severity = visibilityScope actor incident := by
  rw [Bool.eq_iff_iff, visibilityScope_iff]
  simp [canViewSeverity]

/-! ### Stages -/

def stageTransitions : Stage → List Stage
  | .reported => [.triage]
  | .triage => [.investigation]
  | .investigation => [.pendingClosure, .triage]
  | .pendingClosure => [.closed, .investigation]
  | .closed => []

def canTransition (source target : Stage) : Bool := target ∈ stageTransitions source

def assertTransition (source target : Stage) : Except AppError Unit :=
  if canTransition source target then .ok ()
  else .error (InvalidStageTransitionError source target none)

@[simp] theorem assertTransition_ok (source target : Stage) (result : Unit) :
    assertTransition source target = .ok result ↔ canTransition source target = true := by
  unfold assertTransition
  split <;> simp_all

/-! ### Assignment -/

def canAssignInvestigator (investigatorClearance : Nat) (incidentSeverity : Severity) : Bool :=
  severityRank incidentSeverity ≤ investigatorClearance

def mustUnassignOnRaise (assigneeClearance : Nat) (newSeverity : Severity) : Bool :=
  assigneeClearance < severityRank newSeverity

theorem mustUnassignOnRaise_eq_not (clearance : Nat) (severity : Severity) :
    mustUnassignOnRaise clearance severity = !canAssignInvestigator clearance severity := by
  simp only [mustUnassignOnRaise, canAssignInvestigator, ← decide_not, not_le]

/-! ### Notes -/

def canReadNotes (actor : Actor) (incident : Incident) : Bool :=
  canViewSeverity actor incident.severity &&
    (actor.role = .admin || incident.assignedInvestigatorId = some actor.id)

def canWriteNotes (actor : Actor) (incident : Incident) : Bool :=
  canReadNotes actor incident &&
    (incident.stage = .investigation || incident.stage = .pendingClosure)

/-! ### Closure -/

def minRcaLength : Nat := 20

/-- A `null` column fails, and so does the empty text, which is too short anyway. -/
def meetsMinLength : Option String → Bool
  | none => false
  | some value => minRcaLength ≤ jsLength (jsTrim value)

def hasClosureRequirements (incident : Incident) : Bool :=
  meetsMinLength incident.rootCause && meetsMinLength incident.correctiveAction

theorem meetsMinLength_trimmed {hi : Nat} (text : TrimmedText minRcaLength hi) :
    meetsMinLength (some text.value) = true := by
  simp [meetsMinLength, text.trimmed, text.atLeast]

end IncidentApi
