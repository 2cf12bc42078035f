import IncidentApi.Timeline

/-!
# The lists of the administrators

`GET /admin/users` and `GET /audit`: the paged reads of `admin.repository.ts` and
`audit.repository.ts` with the services that serve them. Both order by an instant and then by id,
newest first.
-/
namespace IncidentApi

/-! ### Users -/

/-- `AdminUsersQuerySchema`. -/
structure AdminUsersQuery extends OffsetQuery where
  role : Option (List Role)
  isActive : Option Bool
  q : Option (TrimmedText 0 120)

def buildUsersWhere (search : TextSearch) (query : AdminUsersQuery) (user : User) : Bool :=
  oneOf query.role user.role &&
  query.isActive.all (fun isActive => user.isActive = isActive) &&
  -- a `q` that is empty after trimming is falsy
  query.q.all fun q => q.value = "" ||
    search.containsInsensitive user.email q.value ||
    search.containsInsensitive user.displayName q.value

/-- `listUsers` of the repository. -/
def listUsersRepo (search : TextSearch) (store : Store) (query : AdminUsersQuery) :
    List User × Nat :=
  let rows := store.users.filter (buildUsersWhere search query)
  (((Keyset.sortOn (fun user => newestKey user.createdAt user.id) rows).drop
    ((query.page - 1) * query.pageSize)).take query.pageSize, rows.length)

structure AdminUserRow where
  id : Id
  email : String
  displayName : String
  role : Role
  clearanceLevel : Nat
  isActive : Bool
  createdAt : Date
  deriving DecidableEq, Repr

def toAdminUserRow (user : User) : AdminUserRow where
  id := user.id
  email := user.email
  displayName := user.displayName
  role := user.role
  clearanceLevel := user.clearanceLevel
  isActive := user.isActive
  createdAt := user.createdAt

def listUsers (search : TextSearch) (store : Store) (query : AdminUsersQuery) :
    OffsetPage AdminUserRow :=
  let (items, totalItems) := listUsersRepo search store query
  buildOffsetPage (items.map toAdminUserRow) totalItems query.page query.pageSize

/-! ### The audit log -/

/-- `AuditSearchQuerySchema`. -/
structure AuditSearchQuery (js : JsRuntime) extends OffsetQuery where
  type : Option (List AuditEventType)
  actorId : Option Id
  incidentId : Option Id
  from_ : Option (DateParam js)
  to_ : Option (DateParam js)

structure AuditSearchFilters where
  type : Option (List AuditEventType)
  actorId : Option Id
  incidentId : Option Id
  from_ : Option Date
  to_ : Option Date

def toSearchFilters {js : JsRuntime} (query : AuditSearchQuery js) : AuditSearchFilters where
  type := query.type
  actorId := query.actorId
  incidentId := query.incidentId
  from_ := query.from_.map (·.date)
  to_ := query.to_.map exclusiveEndOfDay

/-- The empty id of a query string adds no condition. -/
def buildSearchWhere (filters : AuditSearchFilters) (event : AuditEvent) : Bool :=
  oneOf filters.type event.type &&
  filters.actorId.all (fun id => id = "" || event.actorId = some id) &&
  filters.incidentId.all (fun id => id = "" || event.incidentId = some id) &&
  filters.from_.all (fun bound => bound ≤ event.occurredAt) &&
  filters.to_.all fun bound => event.occurredAt < bound

structure AuditSearchRow extends AuditEventRow where
  incidentReference : Option String

/-- `AUDIT_SEARCH_INCLUDE`. -/
def joinSearchRow (store : Store) (event : AuditEvent) : AuditSearchRow :=
  { joinActor store event with
    incidentReference := (event.incidentId.bind store.incidentById).map (·.reference) }

def searchAudit (store : Store) (filters : AuditSearchFilters) (page pageSize : Nat) :
    List AuditSearchRow × Nat :=
  let rows := store.auditEvents.filter (buildSearchWhere filters)
  ((((Keyset.sortOn (fun event => newestKey event.occurredAt event.id) rows).drop
    ((page - 1) * pageSize)).take pageSize).map (joinSearchRow store), rows.length)

structure AuditRow where
  id : Id
  type : AuditEventType
  occurredAt : Date
  actor : Option UserRef
  incidentId : Option Id
  incidentReference : Option String
  fromValue : Option String
  toValue : Option String
  reason : Option String
  payload : Option Payload

def toAuditRow (row : AuditSearchRow) : AuditRow where
  id := row.id
  type := row.type
  occurredAt := row.occurredAt
  actor := row.actor
  incidentId := row.incidentId
  incidentReference := row.incidentReference
  fromValue := row.fromValue
  toValue := row.toValue
  reason := row.reason
  payload := row.payload

/-- `search` of `audit.service.ts`. -/
def auditSearch {js : JsRuntime} (store : Store) (query : AuditSearchQuery js) :
    OffsetPage AuditRow :=
  let (items, totalItems) := searchAudit store (toSearchFilters query) query.page query.pageSize
  buildOffsetPage (items.map toAuditRow) totalItems query.page query.pageSize

end IncidentApi
