import IncidentApi.Incidents
import IncidentApi.Pagination
import IncidentApi.Library.Scope
import Mathlib.Order.Lex
import Mathlib.Data.Prod.Lex

/-!
# Incident lists

The paged reads of `incident.repository.ts` with the services that serve them: the filtered list,
`mine`, the triage queue, an investigator's own incidents, the pending closures, and the summary
by stage.
-/
namespace IncidentApi

/-! ### What the reads depend on -/

/-- The order in which Postgres returns rows that an `ORDER BY` leaves tied: that of some renaming
of their ids. -/
structure TieOrder where
  rank : Id → Id
  injective : Function.Injective rank

/-- The text operators of Postgres and the case mapping of JavaScript behind the `q` filter. -/
structure TextSearch where
  contains : String → String → Bool
  containsInsensitive : String → String → Bool
  toUpperCase : String → String

/-! ### Queries -/

/-- A date of a query string: `Date.parse` has accepted it. -/
structure DateParam (js : JsRuntime) where
  text : String
  date : Date
  parsed : js.newDate (.str text) = some date

/-- The pattern `\d{4}-\d{2}-\d{2}` on the whole text. -/
def isDateOnly (text : String) : Bool :=
  match text.toList with
  | [a, b, c, d, '-', e, f, '-', g, h] => [a, b, c, d, e, f, g, h].all Char.isDigit
  | _ => false

def exclusiveEndOfDay {js : JsRuntime} (param : DateParam js) : Date :=
  if isDateOnly (jsTrim param.text) then param.date + dayMs else param.date

/-- `offsetQuerySchema`. -/
structure OffsetQuery where
  page : Nat
  pageSize : Nat
  pagePositive : 1 ≤ page
  pageSizePositive : 1 ≤ pageSize
  pageSizeBounded : pageSize ≤ 100

/-- `cursorQuerySchema`. -/
structure CursorQuery where
  cursor : Option String
  pageSize : Nat
  pageSizePositive : 1 ≤ pageSize
  pageSizeBounded : pageSize ≤ 100

inductive SortField where
  | createdAt | severity | updatedAt
  deriving DecidableEq, Repr

inductive SortOrder where
  | asc | desc
  deriving DecidableEq, Repr

/-- `OrderBy` of `incident.types.ts`. -/
structure OrderBy where
  field : SortField
  direction : SortOrder

structure ListIncidentsQuery (js : JsRuntime) extends OffsetQuery where
  severity : Option (List Severity)
  stage : Option (List Stage)
  type : Option (List IncidentType)
  assignedToMe : Option Bool
  reportedByMe : Option Bool
  unacknowledged : Option Bool
  escalatedOnly : Option Bool
  from_ : Option (DateParam js)
  to_ : Option (DateParam js)
  q : Option (TrimmedText 0 120)
  sort : SortField
  order : SortOrder

structure IncidentListFilters where
  severity : Option (List Severity)
  stage : Option (List Stage)
  type : Option (List IncidentType)
  assignedToMe : Option Bool
  reportedByMe : Option Bool
  unacknowledged : Option Bool
  escalatedOnly : Option Bool
  from_ : Option Date
  to_ : Option Date
  q : Option String

/-- `toRepositoryFilters` copies every filter of the query but `q`. -/
def toRepositoryFilters {js : JsRuntime} (query : ListIncidentsQuery js) : IncidentListFilters where
  severity := query.severity
  stage := query.stage
  type := query.type
  assignedToMe := query.assignedToMe
  reportedByMe := query.reportedByMe
  unacknowledged := query.unacknowledged
  escalatedOnly := query.escalatedOnly
  from_ := query.from_.map (·.date)
  to_ := query.to_.map exclusiveEndOfDay
  q := none

/-! ### Conditions -/

/-- `{ in: values }`, which is left out when no value is given. -/
def oneOf {T : Type} [DecidableEq T] (values : Option (List T)) (value : T) : Bool :=
  match values with
  | none => true
  | some [] => true
  | some values => value ∈ values

/-- A condition that only a flag switched on adds. -/
def whenSet (flag : Option Bool) (condition : Bool) : Bool := flag ≠ some true || condition

def matchesText (search : TextSearch) (q : String) (row : Incident) : Bool :=
  search.containsInsensitive row.title q || search.contains row.reference (search.toUpperCase q)

/-- The conjunction `buildWhere` composes; the empty `q` adds nothing. -/
def buildWhere (search : TextSearch) (actor : Actor) (filters : IncidentListFilters)
    (row : Incident) : Bool :=
  visibilityScope actor row &&
  -- the scope once more, cut down to the requested severities
  decide (row.severity ∈ effectiveSeverities actor filters.severity) &&
  oneOf filters.stage row.stage &&
  oneOf filters.type row.type &&
  whenSet filters.assignedToMe (row.assignedInvestigatorId = some actor.id) &&
  whenSet filters.reportedByMe (row.reporterId = actor.id) &&
  whenSet filters.unacknowledged (row.acknowledgedAt = none) &&
  whenSet filters.escalatedOnly (0 < row.currentEscalationLevel) &&
  filters.from_.all (fun bound => bound ≤ row.createdAt) &&
  filters.to_.all (fun bound => row.createdAt < bound) &&
  filters.q.all fun q => q = "" || matchesText search q row

def triageQueueWhere (actor : Actor) (row : Incident) : Bool :=
  visibilityScope actor row &&
    (row.stage = .reported || row.stage = .triage ||
      (row.highSeveritySince.isSome && row.acknowledgedAt = none && row.stage ≠ .closed))

/-! ### Pages -/

/-- `USER_REF_SELECT`. -/
structure UserRef where
  id : Id
  displayName : String
  deriving DecidableEq, Repr

def userRef (store : Store) (id : Option Id) : Option UserRef :=
  id.bind fun id => (store.userById id).map fun user => ⟨user.id, user.displayName⟩

structure IncidentListRow extends Incident where
  assignee : Option UserRef

def joinListRow (store : Store) (row : Incident) : IncidentListRow :=
  { row with assignee := userRef store row.assignedInvestigatorId }

/-- An `ORDER BY` with its ties broken. -/
def tied {κ : Type} [LinearOrder κ] (ties : TieOrder) (order : Incident → κ) (row : Incident) :
    κ ×ₗ Id :=
  toLex (order row, ties.rank row.id)

/-- `$transaction([count, findMany])` with `skip` and `take`. -/
def findPage {κ : Type} [LinearOrder κ] (ties : TieOrder) (store : Store)
    (selects : Incident → Bool) (order : Incident → κ) (page pageSize : Nat) :
    List IncidentListRow × Nat :=
  let rows := store.incidents.filter selects
  ((((Keyset.sortOn (tied ties order) rows).drop ((page - 1) * pageSize)).take pageSize).map
    (joinListRow store), rows.length)

/-- `{ [field]: direction }`; the severities sort as the enum declares them. -/
def orderValue (orderBy : OrderBy) (row : Incident) : Int :=
  let value : Int := match orderBy.field with
    | .createdAt => row.createdAt
    | .severity => severityRank row.severity
    | .updatedAt => row.updatedAt
  match orderBy.direction with
  | .asc => value
  | .desc => -value

def newestFirst (row : Incident) : Dateᵒᵈ := OrderDual.toDual row.createdAt

def mostEscalatedFirst (row : Incident) : Natᵒᵈ ×ₗ Date :=
  toLex (OrderDual.toDual row.currentEscalationLevel, row.createdAt)

def countAndFindPage (search : TextSearch) (ties : TieOrder) (store : Store) (actor : Actor)
    (filters : IncidentListFilters) (page pageSize : Nat) (orderBy : OrderBy) :
    List IncidentListRow × Nat :=
  findPage ties store (buildWhere search actor filters) (orderValue orderBy) page pageSize

def findMinePage (ties : TieOrder) (store : Store) (actor : Actor) (page pageSize : Nat) :
    List IncidentListRow × Nat :=
  findPage ties store (fun row => visibilityScope actor row && row.reporterId = actor.id)
    newestFirst page pageSize

def findTriageQueuePage (ties : TieOrder) (store : Store) (actor : Actor) (page pageSize : Nat) :
    List IncidentListRow × Nat :=
  findPage ties store (triageQueueWhere actor) mostEscalatedFirst page pageSize

def findMyInvestigationsPage (ties : TieOrder) (store : Store) (actor : Actor)
    (page pageSize : Nat) : List IncidentListRow × Nat :=
  findPage ties store
    (fun row => visibilityScope actor row && row.assignedInvestigatorId = some actor.id)
    newestFirst page pageSize

def findClosuresPendingPage (ties : TieOrder) (store : Store) (actor : Actor)
    (page pageSize : Nat) : List IncidentListRow × Nat :=
  findPage ties store (fun row => visibilityScope actor row && row.stage = .pendingClosure)
    (·.updatedAt) page pageSize

/-- The groups of `countByStage`, in the order the database likes. -/
def countByStage (store : Store) (actor : Actor) : List (Stage × Nat) :=
  Scope.groupBy (·.stage) (store.incidents.filter (visibilityScope actor))

/-! ### Responses -/

structure IncidentListItem where
  id : Id
  reference : String
  type : IncidentType
  severity : Severity
  stage : Stage
  title : String
  assignedInvestigator : Option UserRef
  acknowledgedAt : Option Date
  currentEscalationLevel : Nat
  createdAt : Date
  updatedAt : Date
  deriving DecidableEq, Repr

def toIncidentListItem (incident : IncidentListRow) : IncidentListItem where
  id := incident.id
  reference := incident.reference
  type := incident.type
  severity := incident.severity
  stage := incident.stage
  title := incident.title
  assignedInvestigator := incident.assignee
  acknowledgedAt := incident.acknowledgedAt
  currentEscalationLevel := incident.currentEscalationLevel
  createdAt := incident.createdAt
  updatedAt := incident.updatedAt

abbrev IncidentListResponse := OffsetPage IncidentListItem

def listResponse (found : List IncidentListRow × Nat) (page pageSize : Nat) :
    IncidentListResponse :=
  buildOffsetPage (found.1.map toIncidentListItem) found.2 page pageSize

def list {js : JsRuntime} (search : TextSearch) (ties : TieOrder) (store : Store) (actor : Actor)
    (query : ListIncidentsQuery js) : IncidentListResponse :=
  listResponse
    (countAndFindPage search ties store actor (toRepositoryFilters query) query.page
      query.pageSize ⟨query.sort, query.order⟩)
    query.page query.pageSize

def mine (ties : TieOrder) (store : Store) (actor : Actor) (page pageSize : Nat) :
    IncidentListResponse :=
  listResponse (findMinePage ties store actor page pageSize) page pageSize

def getTriageQueue (ties : TieOrder) (store : Store) (actor : Actor) (page pageSize : Nat) :
    IncidentListResponse :=
  listResponse (findTriageQueuePage ties store actor page pageSize) page pageSize

def myInvestigations (ties : TieOrder) (store : Store) (actor : Actor) (page pageSize : Nat) :
    IncidentListResponse :=
  listResponse (findMyInvestigationsPage ties store actor page pageSize) page pageSize

def getClosuresPending (ties : TieOrder) (store : Store) (actor : Actor) (page pageSize : Nat) :
    IncidentListResponse :=
  listResponse (findClosuresPendingPage ties store actor page pageSize) page pageSize

/-- Every stage with its count, zero where no group came back. -/
def summary (store : Store) (actor : Actor) : List (Stage × Nat) :=
  stageValues.map fun stage => (stage, Scope.countOf (countByStage store actor) stage)

end IncidentApi
