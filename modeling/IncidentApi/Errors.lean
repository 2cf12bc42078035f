import IncidentApi.Types

/-!
# Errors

The error classes of `core/errors`: each is one `AppError` value with its code, status, message
and `meta` object.
-/
namespace IncidentApi

structure ErrorDetail where
  path : String
  code : String
  message : String
  deriving DecidableEq, Repr

structure AppError where
  code : String
  status : Nat
  message : String
  details : List ErrorDetail
  info : List (String × Option String)
  deriving DecidableEq, Repr

/-- `meta` of the class is `info` here; numbers in it are kept as the text they print as. -/
private def domainError (code : String) (status : Nat) (message : String)
    (info : List (String × Option String)) : AppError :=
  ⟨code, status, message, [], info⟩

def InsufficientClearanceError (incidentId : Id) : AppError :=
  domainError "INSUFFICIENT_CLEARANCE" 403
    "You do not have sufficient clearance to view this incident."
    [("incidentId", some incidentId)]

def NotAssignedInvestigatorError (incidentId : Id) : AppError :=
  domainError "NOT_ASSIGNED_INVESTIGATOR" 403
    "You are not the assigned investigator for this incident." [("incidentId", some incidentId)]

def InvalidStageTransitionError (source target : Stage) (reason : Option String) : AppError :=
  domainError "INVALID_STAGE_TRANSITION" 409
    ("Cannot move an incident from " ++ source.text ++ " to " ++ target.text ++ ".")
    [("from", some source.text), ("to", some target.text), ("reason", reason)]

def ClosureRequirementsMissingError : AppError :=
  domainError "CLOSURE_REQUIREMENTS_MISSING" 409
    "A root cause and corrective action are required before closure can be approved." []

def InvestigatorClearanceTooLowError (required actual : Nat) : AppError :=
  domainError "INVESTIGATOR_CLEARANCE_TOO_LOW" 409
    "The selected investigator does not have sufficient clearance for this severity."
    [("required", some (toString required)), ("actual", some (toString actual))]

def StaleVersionError (expected : Nat) : AppError :=
  domainError "STALE_VERSION" 409
    "This incident changed while you were editing it. Please refresh and try again."
    [("expected", some (toString expected))]

def AlreadyAcknowledgedError : AppError :=
  domainError "ALREADY_ACKNOWLEDGED" 409
    "This incident has already been acknowledged in the current escalation cycle." []

def CursorSortMismatchError : AppError :=
  domainError "CURSOR_SORT_MISMATCH" 422
    "The pagination cursor does not match the requested sort order." []

def SelfModificationForbiddenError : AppError :=
  domainError "SELF_MODIFICATION_FORBIDDEN" 409
    "You cannot change your own role or clearance level." []

def LastAdminError : AppError :=
  domainError "LAST_ADMIN" 409
    "The last active administrator cannot be demoted or deactivated." []

def SeverityUnchangedError : AppError :=
  domainError "SEVERITY_UNCHANGED" 409
    "The requested severity is the same as the current severity." []

def InvalidAssignmentTargetError : AppError :=
  domainError "INVALID_ASSIGNMENT_TARGET" 409
    "The selected user is not an active investigator." []

def NoInvestigatorAssignedError : AppError :=
  domainError "NO_INVESTIGATOR_ASSIGNED" 409
    "This incident has no assigned investigator to remove." []

def IncidentClosedError : AppError :=
  domainError "INCIDENT_CLOSED" 409 "This incident is closed and cannot be modified." []

def NotesClosedError (stage : Stage) : AppError :=
  domainError "INVALID_STAGE_TRANSITION" 409
    "Notes can only be added while an incident is under investigation."
    [("stage", some stage.text), ("reason", some "NOTES_CLOSED")]

def ImageOrReasonRequiredError : AppError :=
  domainError "IMAGE_OR_REASON_REQUIRED" 422
    "Attach a photo, or explain why one is not available." []

def ImageUploadFailedError : AppError :=
  domainError "IMAGE_UPLOAD_FAILED" 502 "The photo could not be uploaded. Please try again." []

def ValidationFailedError (details : List ErrorDetail) : AppError :=
  ⟨"VALIDATION_FAILED", 422, "The request payload is invalid.", details, []⟩

def UnauthenticatedError : AppError :=
  domainError "UNAUTHENTICATED" 401 "Authentication is required." []

def InsufficientRoleError (requiredRoles : List Role) : AppError :=
  domainError "INSUFFICIENT_ROLE" 403 "Your role does not permit this action."
    (requiredRoles.map fun role => ("requiredRoles", some role.text))

def NotFoundError (resource : String) (id : Id) : AppError :=
  domainError "NOT_FOUND" 404 (resource ++ " '" ++ id ++ "' was not found.") []

def RateLimitedError (retryAfterSeconds : Int) : AppError :=
  domainError "RATE_LIMITED" 429 "Too many attempts. Please try again later."
    [("retryAfterSeconds", some (toString retryAfterSeconds))]

/-- What `error.middleware` answers for a database exception: a constraint violation included. -/
def InternalError : AppError :=
  domainError "INTERNAL" 500 "An unexpected error occurred." []

/-- What ends a run of the seed. -/
inductive SeedError where
  /-- `pick() called on empty array` -/
  | emptyArray
  | uniqueConstraint (column : String)
  | checkConstraint
  /-- A number that an `INT4` column cannot hold. -/
  | integerRange
  deriving DecidableEq, Repr

end IncidentApi
