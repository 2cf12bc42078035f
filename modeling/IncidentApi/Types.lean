import Mathlib.Data.List.Sort
import Mathlib.Data.String.Basic

/-!
# Shared vocabulary

The enumerations of `contracts/enums.ts`, the constants of `config/constants.ts`, and the
scalar types every table uses. Identifiers are the opaque strings `newId()` returns, ordered
by one total order in every `ORDER BY` and every cursor predicate.
-/
namespace IncidentApi

abbrev Id := String

/-- Milliseconds since the epoch, as `Date.getTime()` reports them. -/
abbrev Date := Int

inductive Role where
  | reporter | triageManager | investigator | admin
  deriving DecidableEq, Repr

inductive Severity where
  | low | medium | high | critical
  deriving DecidableEq, Repr

inductive Stage where
  | reported | triage | investigation | pendingClosure | closed
  deriving DecidableEq, Repr

inductive IncidentType where
  | safety | security | environmental | operational | dataPrivacy | equipment | other
  deriving DecidableEq, Repr

inductive AuditEventType where
  | incidentCreated | stageChanged | severityChanged | investigatorAssigned
  | investigatorUnassigned | incidentAcknowledged | noteAdded | closureProposed
  | closureApproved | closureRejected | incidentEscalated | accessDenied
  | userClearanceChanged | userRoleChanged
  deriving DecidableEq, Repr

def roleValues : List Role := [.reporter, .triageManager, .investigator, .admin]

def severityValues : List Severity := [.low, .medium, .high, .critical]

def stageValues : List Stage := [.reported, .triage, .investigation, .pendingClosure, .closed]

def incidentTypeValues : List IncidentType :=
  [.safety, .security, .environmental, .operational, .dataPrivacy, .equipment, .other]

theorem mem_severityValues (s : Severity) : s ∈ severityValues := by cases s <;> decide

/-! ### The wire spelling of an enumeration, as the text columns store it -/

def Role.text : Role → String
  | .reporter => "REPORTER"
  | .triageManager => "TRIAGE_MANAGER"
  | .investigator => "INVESTIGATOR"
  | .admin => "ADMIN"

def Severity.text : Severity → String
  | .low => "LOW"
  | .medium => "MEDIUM"
  | .high => "HIGH"
  | .critical => "CRITICAL"

def Stage.text : Stage → String
  | .reported => "REPORTED"
  | .triage => "TRIAGE"
  | .investigation => "INVESTIGATION"
  | .pendingClosure => "PENDING_CLOSURE"
  | .closed => "CLOSED"

def IncidentType.text : IncidentType → String
  | .safety => "SAFETY"
  | .security => "SECURITY"
  | .environmental => "ENVIRONMENTAL"
  | .operational => "OPERATIONAL"
  | .dataPrivacy => "DATA_PRIVACY"
  | .equipment => "EQUIPMENT"
  | .other => "OTHER"

/-! ### Constants -/

def severityRank : Severity → Nat
  | .low => 1
  | .medium => 2
  | .high => 3
  | .critical => 4

/-- Rank at which the escalation clock starts. -/
def highBandRank : Nat := severityRank .high

def dayMs : Int := 86400000

/-- `severity IN ('HIGH','CRITICAL')`, as the job's SQL spells the band. -/
def Severity.inHighBand : Severity → Bool
  | .high | .critical => true
  | _ => false

theorem inHighBand_iff (s : Severity) : s.inHighBand = true ↔ highBandRank ≤ severityRank s := by
  cases s <;> decide

theorem severityRank_injective : Function.Injective severityRank := by
  intro a b
  cases a <;> cases b <;> decide

/-- A JSON value, as `payload` columns and cursors carry them; a number that is no integer is kept
as the text it prints as. -/
inductive Json where
  | null
  | bool (b : Bool)
  | num (n : Int)
  | real (text : String)
  | str (s : String)
  | arr (items : List Json)
  | obj (fields : List (String × Json))

/-- The fields of a JSON object literal. -/
abbrev Payload := List (String × Json)

/-! ### Calendar

`getUTCFullYear` and Postgres' `date_trunc` need the civil calendar; days are counted from the
epoch and months start in March, so the leap day ends the year. -/

structure CivilDate where
  year : Int
  month : Int
  day : Int
  deriving DecidableEq, Repr

def civilDate (day : Int) : CivilDate :=
  let z := day + 719468
  -- an era is the 400 years after which the calendar repeats
  let era := z / 146097
  let doe := z - era * 146097
  let yoe := (doe - doe / 1460 + doe / 36524 - doe / 146096) / 365
  let doy := doe - (365 * yoe + yoe / 4 - yoe / 100)
  -- five months from March on have 153 days
  let mp := (5 * doy + 2) / 153
  let month := if mp < 10 then mp + 3 else mp - 9
  ⟨yoe + era * 400 + (if month ≤ 2 then 1 else 0), month, doy - (153 * mp + 2) / 5 + 1⟩

def getUTCFullYear (date : Date) : Int := (civilDate (date / dayMs)).year

example : getUTCFullYear 1767225600000 = 2026 := by decide

example : getUTCFullYear 1767225599999 = 2025 := by decide

end IncidentApi
