import IncidentApi.Details
import IncidentApi.Timeline
import IncidentApi.Feed
import IncidentApi.Analytics

/-!
# The read side

Every read an authenticated actor can make of incidents and of what belongs to them, as one
function from the database to a response.
-/
namespace IncidentApi

/-- What the reads take from outside the repository. -/
structure Platform where
  js : JsRuntime
  search : TextSearch
  ties : TieOrder
  /-- `getSignedIncidentImageUrl`. -/
  sign : String → Option String

inductive ReadRequest (js : JsRuntime) where
  | list (query : ListIncidentsQuery js)
  | mine (query : OffsetQuery)
  | summary
  | triageQueue (query : OffsetQuery)
  | myInvestigations (query : OffsetQuery)
  | closuresPending (query : OffsetQuery)
  | feed (query : CursorQuery)
  | notifications (query : CursorQuery)
  | overview (query : AnalyticsQuery js)
  | matrix (query : AnalyticsQuery js)
  | exportCsv (query : AnalyticsQuery js)
  | trend (query : AnalyticsQuery js) (bucket : Bucket)
  | escalationPerformance (query : AnalyticsQuery js)
  | getById (id : Id)
  | listNotes (id : Id) (query : CursorQuery)
  | timeline (id : Id) (query : CursorQuery)
  | eventsForIncident (id : Id)

inductive ReadResponse where
  | incidents (response : IncidentListResponse)
  | summary (counts : List (Stage × Nat))
  | feed (response : CursorPage EscalationFeedItem)
  | notifications (response : NotificationsResponse)
  | overview (response : AnalyticsOverviewResponse)
  | matrix (response : TypeSeverityMatrixResponse)
  | csv (text : String)
  | trend (response : TrendResponse)
  | performance (response : EscalationPerformanceResponse)
  | detail (response : IncidentDetail)
  | notes (response : CursorPage Note)
  | timeline (response : CursorPage TimelineEvent)
  | events (response : List EscalationEventDto)

def respond (platform : Platform) (store : Store) (actor : Actor) :
    ReadRequest platform.js → Except AppError ReadResponse
  | .list query => .ok (.incidents (list platform.search platform.ties store actor query))
  | .mine query => .ok (.incidents (mine platform.ties store actor query.page query.pageSize))
  | .summary => .ok (.summary (summary store actor))
  | .triageQueue query =>
    .ok (.incidents (getTriageQueue platform.ties store actor query.page query.pageSize))
  | .myInvestigations query =>
    .ok (.incidents (myInvestigations platform.ties store actor query.page query.pageSize))
  | .closuresPending query =>
    .ok (.incidents (getClosuresPending platform.ties store actor query.page query.pageSize))
  | .feed query => (listFeed platform.js store actor query.cursor query.pageSize).map .feed
  | .notifications query =>
    (listNotifications platform.js store actor query.cursor query.pageSize).map .notifications
  | .overview query => .ok (.overview (overview store actor query))
  | .matrix query => .ok (.matrix (matrix store actor query))
  | .exportCsv query => .ok (.csv (exportCsv store actor query))
  | .trend query bucket => .ok (.trend (trend store actor query bucket))
  | .escalationPerformance query => .ok (.performance (escalationPerformance store actor query))
  | .getById id => (getById platform.sign store actor id).map .detail
  | .listNotes id query =>
    (listNotes platform.js store actor id query.cursor query.pageSize).map .notes
  | .timeline id query =>
    (timeline platform.js store actor id query.cursor query.pageSize).map .timeline
  | .eventsForIncident id =>
    (listEventsForIncident platform.ties store actor id).map .events

end IncidentApi
