import IncidentApi.Library.Routing
import IncidentApi.SignIn
import IncidentApi.Uploads

/-!
# Routes

The routers of the modules as `router.ts` mounts them, and the middleware that stands in front of
the handlers: `authenticate`, `authorizeRole`, `validate`, `ifMatch`, the upload and the limiter.
-/
namespace IncidentApi

open Routing

inductive Method where
  | get | post | put | patch | delete
  deriving DecidableEq, Repr

/-! ### What is validated -/

inductive BodySchema where
  | registerRequest | loginRequest | createIncidentRequest | changeSeverityRequest
  | assignInvestigatorRequest | addNoteRequest | proposeClosureRequest | approveClosureRequest
  | rejectClosureRequest | changeRoleRequest | changeClearanceRequest | changeStatusRequest
  | tierSetRequest
  deriving DecidableEq, Repr

inductive QuerySchema where
  | assignableInvestigatorQuery | mineQuery | listIncidentsQuery | notesCursorQuery | timelineQuery
  | triageQueueQuery | myInvestigationsQuery | closuresPendingQuery | escalationFeedQuery
  | notificationsQuery | auditSearchQuery | analyticsOverviewQuery | analyticsMatrixQuery
  | analyticsTrendQuery | analyticsEscalationPerformanceQuery | analyticsExportQuery
  | adminUsersQuery | clearanceImpactQuery | adminJobRunsQuery
  deriving DecidableEq, Repr

/-- The type that `z.infer` gives: the export has the fields and the checks of the matrix. -/
def QuerySchema.type : QuerySchema → QuerySchema
  | .analyticsExportQuery => .analyticsMatrixQuery
  | schema => schema

/-- The regular expression `/^[a-z0-9]{20,32}$/i`. -/
def isId (value : String) : Bool :=
  value.toList.all (fun c => c.isAlphanum) && 20 ≤ value.length && value.length ≤ 32

/-- A strict object with one id in it. -/
structure ParamsSchema where
  key : String
  message : String
  deriving DecidableEq, Repr

def IncidentIdParamsSchema : ParamsSchema := ⟨"id", "must be a valid incident id"⟩

def AdminUserIdParamsSchema : ParamsSchema := ⟨"id", "must be a valid user id"⟩

def EscalationEventsParamsSchema : ParamsSchema := ⟨"incidentId", "must be a valid incident id"⟩

def NotificationIdParamsSchema : ParamsSchema := ⟨"id", "must be a valid notification id"⟩

def ParamsSchema.issues (schema : ParamsSchema) (params : List (String × String)) :
    List ErrorDetail :=
  (match params.lookup schema.key with
    | none => [⟨schema.key, "invalid_type", "Required"⟩]
    | some value =>
      if isId value then [] else [⟨schema.key, "invalid_string", schema.message⟩]) ++
  match (params.map Prod.fst).filter (· ≠ schema.key) with
  | [] => []
  | keys => [⟨"", "unrecognized_keys", "Unrecognized key(s) in object: " ++
      ", ".intercalate (keys.map fun key => "'" ++ key ++ "'")⟩]

structure ValidateSchemas where
  body : Option BodySchema := none
  query : Option QuerySchema := none
  params : Option ParamsSchema := none
  deriving DecidableEq, Repr

/-! ### Requests -/

/-- `authRateLimit()` is called once for each of the two routes, and every call has its own map. -/
inductive Limiter where
  | register | login
  deriving DecidableEq, Repr

structure HttpRequest (B Q : Type) where
  method : Method
  /-- What stands between the slashes, less an empty segment at the end. -/
  path : List String
  /-- `req.path`. -/
  target : String
  authorization : Option String
  ifMatch : Option String
  ip : String
  body : B
  query : Q
  image : Option UploadedImage

/-- What the routes rest on beside the code: the bodies and queries with their schemas, the check of
`fileSize`, `Number` where it gives an integer, and how the router reads a path. -/
structure HttpConfig (B Q : Type) where
  signIn : SignInConfig
  /-- `String(req.body?.email ?? '')`. -/
  emailOf : B → String
  bodyIssues : BodySchema → B → List ErrorDetail
  queryIssues : QuerySchema → Q → List ErrorDetail
  exceeds : List UInt8 → Bool
  number : String → Option Int
  reading : Routing.Reading String String String

/-- What a request meets. -/
structure Moment where
  store : Store
  now : Date
  buckets : Limiter → Buckets

/-- The fields that the middleware adds to `req`. -/
structure RequestState where
  actor : Option (Actor × Id) := none
  ifMatchVersion : Option Nat := none
  validated : ValidateSchemas := {}
  file : Option UploadedImage := none
  deriving DecidableEq, Repr

/-! ### Middleware -/

inductive Gate where
  | authenticate
  | authorizeRole (roles : List Role)
  | validate (schemas : ValidateSchemas)
  | ifMatch
  | incidentImageUpload
  | authRateLimit (limiter : Limiter)
  deriving DecidableEq, Repr

section Middleware

variable {B Q : Type}

/-- `schema.parse` of each part that has a schema; the first that throws ends the check. -/
def validate (config : HttpConfig B Q) (request : HttpRequest B Q) (schemas : ValidateSchemas)
    (params : List (String × String)) : Except AppError ValidateSchemas := do
  let parse (issues : List ErrorDetail) : Except AppError Unit :=
    if issues = [] then .ok () else .error (ValidationFailedError issues)
  parse ((schemas.body.map (config.bodyIssues · request.body)).getD [])
  parse ((schemas.query.map (config.queryIssues · request.query)).getD [])
  parse ((schemas.params.map (·.issues params)).getD [])
  return schemas

/-- `If-Match`, with or without quotes. -/
def ifMatch (number : String → Option Int) (header : Option String) : Except AppError Nat :=
  match header with
  | none =>
    .error (ValidationFailedError [⟨"If-Match", "required",
      "An If-Match header with the current version is required."⟩])
  | some text =>
    match number (jsTrim (String.ofList (text.toList.filter (· ≠ '"')))) with
    | some version =>
      if version < 0 then
        .error (ValidationFailedError [⟨"If-Match", "invalid",
          "If-Match must be a non-negative integer version."⟩])
      else .ok version.toNat
    | none =>
      .error (ValidationFailedError [⟨"If-Match", "invalid",
        "If-Match must be a non-negative integer version."⟩])

def Gate.run (config : HttpConfig B Q) (moment : Moment) (request : HttpRequest B Q) (gate : Gate)
    (params : List (String × String)) (state : RequestState) : Except AppError RequestState :=
  match gate with
  | .authenticate =>
    (authenticateHeader config.signIn moment.store request.authorization moment.now).map
      fun actor => { state with actor := some actor }
  | .authorizeRole roles =>
    match state.actor with
    | none => .error UnauthenticatedError
    | some (actor, _) => (IncidentApi.authorizeRole roles actor).map fun _ => state
  | .validate schemas =>
    (IncidentApi.validate config request schemas params).map fun validated =>
      { state with validated := validated }
  | .ifMatch =>
    (IncidentApi.ifMatch config.number request.ifMatch).map fun version =>
      { state with ifMatchVersion := some version }
  | .incidentImageUpload =>
    (IncidentApi.incidentImageUpload config.exceeds request.image).map fun file =>
      { state with file := file }
  | .authRateLimit limiter =>
    (rateLimit IncidentApi.authRateLimit (authKey request.ip (config.emailOf request.body))
      moment.now (moment.buckets limiter)).1.map fun _ => state

end Middleware

/-! ### Handlers -/

inductive Handler where
  | health | registerHandler | loginHandler | refreshHandler | logoutHandler | meHandler
  | assignableInvestigatorsHandler | typesHandler | mineHandler | summaryHandler | createHandler
  | listHandler | getByIdHandler | triageHandler | changeSeverityHandler | assignInvestigatorHandler
  | unassignInvestigatorHandler | acknowledgeHandler | listNotesHandler | addNoteHandler
  | proposeClosureHandler | approveClosureHandler | rejectClosureHandler | timelineHandler
  | triageQueueHandler | myInvestigationsHandler | closuresPendingHandler | feedHandler
  | tiersHandler | incidentEventsHandler | listNotificationsHandler | markNotificationReadHandler
  | runJobHandler | searchAuditHandler | overviewHandler | matrixHandler | trendHandler
  | escalationPerformanceHandler | exportCsvHandler | listUsersHandler | clearanceImpactHandler
  | changeRoleHandler | changeClearanceHandler | changeStatusHandler | getTiersHandler
  | putTiersHandler | listJobRunsHandler
  deriving DecidableEq, Repr

/-- What a controller takes out of `req`, by the types that it casts to. -/
structure Reads where
  /-- `req.actor!`. -/
  actor : Bool := false
  /-- `req.ifMatchVersion as number`. -/
  version : Bool := false
  body : Option BodySchema := none
  query : Option QuerySchema := none
  params : Option ParamsSchema := none

def Handler.reads : Handler → Reads
  | .health | .refreshHandler | .logoutHandler | .typesHandler | .tiersHandler | .runJobHandler
  | .getTiersHandler => {}
  | .registerHandler => { body := some .registerRequest }
  | .loginHandler => { body := some .loginRequest }
  | .meHandler | .summaryHandler => { actor := true }
  | .assignableInvestigatorsHandler => { query := some .assignableInvestigatorQuery }
  | .mineHandler => { actor := true, query := some .mineQuery }
  | .createHandler => { actor := true, body := some .createIncidentRequest }
  | .listHandler => { actor := true, query := some .listIncidentsQuery }
  | .getByIdHandler => { actor := true, params := some IncidentIdParamsSchema }
  | .triageHandler | .unassignInvestigatorHandler | .acknowledgeHandler
  | .approveClosureHandler =>
    { actor := true, version := true, params := some IncidentIdParamsSchema }
  | .changeSeverityHandler =>
    { actor := true, version := true, params := some IncidentIdParamsSchema
      body := some .changeSeverityRequest }
  | .assignInvestigatorHandler =>
    { actor := true, version := true, params := some IncidentIdParamsSchema
      body := some .assignInvestigatorRequest }
  | .proposeClosureHandler =>
    { actor := true, version := true, params := some IncidentIdParamsSchema
      body := some .proposeClosureRequest }
  | .rejectClosureHandler =>
    { actor := true, version := true, params := some IncidentIdParamsSchema
      body := some .rejectClosureRequest }
  | .listNotesHandler =>
    { actor := true, params := some IncidentIdParamsSchema, query := some .notesCursorQuery }
  | .addNoteHandler =>
    { actor := true, params := some IncidentIdParamsSchema, body := some .addNoteRequest }
  | .timelineHandler =>
    { actor := true, params := some IncidentIdParamsSchema, query := some .timelineQuery }
  | .triageQueueHandler => { actor := true, query := some .triageQueueQuery }
  | .myInvestigationsHandler => { actor := true, query := some .myInvestigationsQuery }
  | .closuresPendingHandler => { actor := true, query := some .closuresPendingQuery }
  | .feedHandler => { actor := true, query := some .escalationFeedQuery }
  | .incidentEventsHandler => { actor := true, params := some EscalationEventsParamsSchema }
  | .listNotificationsHandler => { actor := true, query := some .notificationsQuery }
  | .markNotificationReadHandler => { actor := true, params := some NotificationIdParamsSchema }
  | .searchAuditHandler => { query := some .auditSearchQuery }
  | .overviewHandler => { actor := true, query := some .analyticsOverviewQuery }
  -- the export is cast to the query of the matrix
  | .matrixHandler | .exportCsvHandler => { actor := true, query := some .analyticsMatrixQuery }
  | .trendHandler => { actor := true, query := some .analyticsTrendQuery }
  | .escalationPerformanceHandler =>
    { actor := true, query := some .analyticsEscalationPerformanceQuery }
  | .listUsersHandler => { query := some .adminUsersQuery }
  | .clearanceImpactHandler =>
    { params := some AdminUserIdParamsSchema, query := some .clearanceImpactQuery }
  | .changeRoleHandler =>
    { actor := true, params := some AdminUserIdParamsSchema, body := some .changeRoleRequest }
  | .changeClearanceHandler =>
    { actor := true, params := some AdminUserIdParamsSchema, body := some .changeClearanceRequest }
  | .changeStatusHandler =>
    { actor := true, params := some AdminUserIdParamsSchema, body := some .changeStatusRequest }
  | .putTiersHandler => { actor := true, body := some .tierSetRequest }
  | .listJobRunsHandler => { query := some .adminJobRunsQuery }

/-- The controller that calls each operation of the services. -/
def Operation.handler : Operation → Handler
  | .triage => .triageHandler
  | .changeSeverity _ => .changeSeverityHandler
  | .assignInvestigator _ => .assignInvestigatorHandler
  | .unassignInvestigator => .unassignInvestigatorHandler
  | .acknowledge => .acknowledgeHandler
  | .propose _ => .proposeClosureHandler
  | .approve => .approveClosureHandler
  | .reject _ => .rejectClosureHandler

/-! ### Routers -/

abbrev ApiLayer := Layer Method String String Gate Handler

/-- `router.get(path, ...gates, asyncHandler(handler))`, and so on for the other methods. -/
def serve (method : Method) (path : List (Segment String String)) (gates : List Gate)
    (handler : Handler) : ApiLayer :=
  .route method path gates handler

def authRouter : List ApiLayer :=
  [serve .post [.literal "register"]
      [.authRateLimit .register, .validate { body := some .registerRequest }] .registerHandler,
    serve .post [.literal "login"]
      [.authRateLimit .login, .validate { body := some .loginRequest }] .loginHandler,
    serve .post [.literal "refresh"] [] .refreshHandler,
    serve .post [.literal "logout"] [.authenticate] .logoutHandler,
    serve .get [.literal "me"] [.authenticate] .meHandler]

def usersRouter : List ApiLayer :=
  [serve .get [.literal "assignable-investigators"]
    [.authenticate, .authorizeRole [.triageManager, .admin],
      .validate { query := some .assignableInvestigatorQuery }] .assignableInvestigatorsHandler]

def incidentRouter : List ApiLayer :=
  [serve .get [.literal "types"] [.authenticate] .typesHandler,
    serve .get [.literal "mine"] [.authenticate, .validate { query := some .mineQuery }]
      .mineHandler,
    serve .get [.literal "summary"] [.authenticate] .summaryHandler,
    serve .post []
      [.authenticate, .incidentImageUpload, .validate { body := some .createIncidentRequest }]
      .createHandler,
    serve .get [] [.authenticate, .validate { query := some .listIncidentsQuery }] .listHandler,
    serve .get [.param "id"]
      [.authenticate, .validate { params := some IncidentIdParamsSchema }] .getByIdHandler,
    serve .post [.param "id", .literal "triage"]
      [.authenticate, .authorizeRole triageRoles,
        .validate { params := some IncidentIdParamsSchema }, .ifMatch] .triageHandler,
    serve .patch [.param "id", .literal "severity"]
      [.authenticate, .authorizeRole triageRoles,
        .validate { params := some IncidentIdParamsSchema, body := some .changeSeverityRequest },
        .ifMatch] .changeSeverityHandler,
    serve .post [.param "id", .literal "assignment"]
      [.authenticate, .authorizeRole triageRoles,
        .validate
          { params := some IncidentIdParamsSchema, body := some .assignInvestigatorRequest },
        .ifMatch] .assignInvestigatorHandler,
    serve .delete [.param "id", .literal "assignment"]
      [.authenticate, .authorizeRole triageRoles,
        .validate { params := some IncidentIdParamsSchema }, .ifMatch] .unassignInvestigatorHandler,
    serve .post [.param "id", .literal "acknowledge"]
      [.authenticate, .authorizeRole triageRoles,
        .validate { params := some IncidentIdParamsSchema }, .ifMatch] .acknowledgeHandler,
    serve .get [.param "id", .literal "notes"]
      [.authenticate,
        .validate { params := some IncidentIdParamsSchema, query := some .notesCursorQuery }]
      .listNotesHandler,
    serve .post [.param "id", .literal "notes"]
      [.authenticate,
        .validate { params := some IncidentIdParamsSchema, body := some .addNoteRequest }]
      .addNoteHandler,
    -- whether the actor may propose is decided by the service
    serve .post [.param "id", .literal "closure-proposal"]
      [.authenticate,
        .validate { params := some IncidentIdParamsSchema, body := some .proposeClosureRequest },
        .ifMatch] .proposeClosureHandler,
    serve .post [.param "id", .literal "closure-approval"]
      [.authenticate, .authorizeRole triageRoles,
        .validate { params := some IncidentIdParamsSchema, body := some .approveClosureRequest },
        .ifMatch] .approveClosureHandler,
    serve .post [.param "id", .literal "closure-rejection"]
      [.authenticate, .authorizeRole triageRoles,
        .validate { params := some IncidentIdParamsSchema, body := some .rejectClosureRequest },
        .ifMatch] .rejectClosureHandler,
    serve .get [.param "id", .literal "timeline"]
      [.authenticate,
        .validate { params := some IncidentIdParamsSchema, query := some .timelineQuery }]
      .timelineHandler]

def triageRouter : List ApiLayer :=
  [serve .get [.literal "queue"]
    [.authenticate, .authorizeRole [.triageManager, .admin],
      .validate { query := some .triageQueueQuery }] .triageQueueHandler]

def investigationRouter : List ApiLayer :=
  [serve .get [.literal "mine"]
    [.authenticate, .authorizeRole [.investigator, .admin],
      .validate { query := some .myInvestigationsQuery }] .myInvestigationsHandler]

def closureRouter : List ApiLayer :=
  [serve .get [.literal "pending"]
    [.authenticate, .authorizeRole [.triageManager, .admin],
      .validate { query := some .closuresPendingQuery }] .closuresPendingHandler]

def escalationRouter : List ApiLayer :=
  [serve .get [] [.authenticate, .validate { query := some .escalationFeedQuery }] .feedHandler,
    serve .get [.literal "tiers"] [.authenticate] .tiersHandler,
    serve .get [.param "incidentId", .literal "events"]
      [.authenticate, .authorizeRole [.triageManager, .admin],
        .validate { params := some EscalationEventsParamsSchema }] .incidentEventsHandler]

def jobsRouter : List ApiLayer :=
  [serve .post [.literal "escalation", .literal "run"]
    [.authenticate, .authorizeRole [.admin]] .runJobHandler]

def notificationsRouter : List ApiLayer :=
  [serve .get [] [.authenticate, .validate { query := some .notificationsQuery }]
      .listNotificationsHandler,
    serve .post [.param "id", .literal "read"]
      [.authenticate, .validate { params := some NotificationIdParamsSchema }]
      .markNotificationReadHandler]

def auditRouter : List ApiLayer :=
  [serve .get []
    [.authenticate, .authorizeRole [.admin], .validate { query := some .auditSearchQuery }]
    .searchAuditHandler]

def analyticsRouter : List ApiLayer :=
  [serve .get [.literal "overview"]
      [.authenticate, .validate { query := some .analyticsOverviewQuery }] .overviewHandler,
    serve .get [.literal "by-type-severity"]
      [.authenticate, .validate { query := some .analyticsMatrixQuery }] .matrixHandler,
    serve .get [.literal "trend"]
      [.authenticate, .validate { query := some .analyticsTrendQuery }] .trendHandler,
    serve .get [.literal "escalation-performance"]
      [.authenticate, .authorizeRole [.triageManager, .admin],
        .validate { query := some .analyticsEscalationPerformanceQuery }]
      .escalationPerformanceHandler,
    serve .get [.literal "export.csv"]
      [.authenticate, .validate { query := some .analyticsExportQuery }] .exportCsvHandler]

/-- The whole module stands behind one pair of gates. -/
def adminRouter : List ApiLayer :=
  [.use [] [.authenticate, .authorizeRole [.admin]],
    serve .get [.literal "users"] [.validate { query := some .adminUsersQuery }] .listUsersHandler,
    serve .get [.literal "users", .param "id", .literal "clearance-impact"]
      [.validate { params := some AdminUserIdParamsSchema, query := some .clearanceImpactQuery }]
      .clearanceImpactHandler,
    serve .patch [.literal "users", .param "id", .literal "role"]
      [.validate { params := some AdminUserIdParamsSchema, body := some .changeRoleRequest }]
      .changeRoleHandler,
    serve .patch [.literal "users", .param "id", .literal "clearance"]
      [.validate { params := some AdminUserIdParamsSchema, body := some .changeClearanceRequest }]
      .changeClearanceHandler,
    serve .patch [.literal "users", .param "id", .literal "status"]
      [.validate { params := some AdminUserIdParamsSchema, body := some .changeStatusRequest }]
      .changeStatusHandler,
    serve .get [.literal "escalation-tiers"] [] .getTiersHandler,
    serve .put [.literal "escalation-tiers"] [.validate { body := some .tierSetRequest }]
      .putTiersHandler,
    serve .get [.literal "jobs", .literal "escalation", .literal "runs"]
      [.validate { query := some .adminJobRunsQuery }] .listJobRunsHandler]

def apiRouter : List ApiLayer :=
  serve .get [.literal "health"] [] .health ::
    mount ["auth"] authRouter ++ mount ["users"] usersRouter ++
    mount ["incidents"] incidentRouter ++ mount ["triage"] triageRouter ++
    mount ["investigations"] investigationRouter ++ mount ["closures"] closureRouter ++
    mount ["escalations"] escalationRouter ++ mount ["notifications"] notificationsRouter ++
    mount ["jobs"] jobsRouter ++ mount ["audit"] auditRouter ++
    mount ["analytics"] analyticsRouter ++ mount ["admin"] adminRouter

/-- `app.use('/api/v1', apiRouter)`. -/
def app : List ApiLayer := mount ["api", "v1"] apiRouter

/-- The handler that a request gets to, with its parameters and with what the middleware has added,
or the error of the envelope: `notFound` stands behind the router. -/
def answer {B Q : Type} (config : HttpConfig B Q) (moment : Moment) (request : HttpRequest B Q) :
    Except AppError (Handler × List (String × String) × RequestState) :=
  -- a `URIError` is no `AppError`
  match dispatch config.reading (Gate.run config moment request) InternalError request.method
      request.path app {} with
  | .ok (some served) => .ok served
  | .ok none => .error (NotFoundError "Route" request.target)
  | .error refused => .error refused

end IncidentApi
