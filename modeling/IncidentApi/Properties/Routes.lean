import IncidentApi.Routes
import IncidentApi.Properties.Credentials

/-!
# What stands in front of a handler

Literal segments are registered ahead of `/:id`, and ids have a form that no literal has. The flat
table of the routes is therefore the whole meaning of the routers.
-/
namespace IncidentApi.Properties

open Routing

/-! ### The table -/

/-- Who may get to a handler; `none` is the public. -/
def audience : Handler → Option (List Role)
  | .health | .registerHandler | .loginHandler | .refreshHandler => none
  | .assignableInvestigatorsHandler | .triageHandler | .changeSeverityHandler
  | .assignInvestigatorHandler | .unassignInvestigatorHandler | .acknowledgeHandler
  | .approveClosureHandler | .rejectClosureHandler | .triageQueueHandler | .closuresPendingHandler
  | .incidentEventsHandler | .escalationPerformanceHandler => some [.triageManager, .admin]
  | .myInvestigationsHandler => some [.investigator, .admin]
  | .runJobHandler | .searchAuditHandler | .listUsersHandler | .clearanceImpactHandler
  | .changeRoleHandler | .changeClearanceHandler | .changeStatusHandler | .getTiersHandler
  | .putTiersHandler | .listJobRunsHandler => some [.admin]
  | _ => some roleValues

/-- Literals are compared without regard to case, and a segment that reads as one is not encoded. -/
structure ReadsPaths (reading : Routing.Reading String String String) : Prop where
  cases : ∀ text other segment, reading.same text segment = true →
    reading.same other segment = true → text.toLower = other.toLower
  plain : ∀ text segment value, reading.same text segment = true →
    reading.decode segment = some value → value.length = text.length

def differs (text other : String) : Bool := text.toLower ≠ other.toLower

/-- Shorter than any id. -/
def tooShort (text : String) : Bool := text.length < 20

theorem ReadsPaths.distinguishes {reading : Routing.Reading String String String}
    (reads : ReadsPaths reading) :
    Distinguishes reading (fun value => isId value = true) differs tooShort where
  differ text other segment differ same := by
    by_contra also
    exact of_decide_eq_true differ (reads.cases text other segment same (by simpa using also))
  reserved text segment value short same decoded is := by
    have fewer : text.length < 20 := of_decide_eq_true short
    simp only [isId, Bool.and_eq_true, decide_eq_true_eq] at is
    have length := reads.plain text segment value same decoded
    omega

/-- The routes with all of their gates. -/
def routes : List (Route Method String String Gate Handler) := flatten [] app

/-- No route is hidden by one ahead of it. -/
theorem app_ordered :
    app.Pairwise fun early late => ordered differs tooShort early late = true := by
  decide +kernel

section Requests

variable {B Q : Type} {config : HttpConfig B Q} {moment : Moment} {request : HttpRequest B Q}

/-- Only `validate` looks at the parameters. -/
theorem run_blind {one : Gate} (other : ∀ schemas, one ≠ .validate schemas)
    (params : List (String × String)) (state : RequestState) :
    one.run config moment request params state = one.run config moment request [] state := by
  cases one with
  | validate schemas => exact absurd rfl (other schemas)
  | _ => rfl

theorem app_blind : Blind (Gate.run config moment request) app := by
  have plain : ((app.flatMap fun | .use _ gates => gates | .route .. => []).all fun
      | .validate _ => false
      | _ => true) = true := by
    decide +kernel
  intro mountedAt gates registered one among params state
  refine run_blind (fun schemas is => ?_) params state
  have other := List.all_eq_true.mp plain one (List.mem_flatMap.mpr ⟨_, registered, among⟩)
  rw [is] at other
  cases other

theorem mem_of_answer (reads : ReadsPaths config.reading) {handler : Handler}
    {params : List (String × String)} {state : RequestState}
    (served : answer config moment request = .ok (handler, params, state)) :
    ∃ route ∈ routes, ∃ raw, route.method = request.method ∧ route.handler = handler ∧
      take config.reading.same route.pattern request.path = some raw ∧
      decodeAll config.reading.decode raw = some params ∧
      pass (Gate.run config moment request) params route.gates {} = .ok state := by
  unfold answer at served
  split at served
  next answered =>
    obtain rfl := Except.ok.inj served
    exact mem_of_dispatch reads.distinguishes app_ordered app_blind answered
  · cases served
  · cases served

/-- The request is one for the route, and its ids are well formed. -/
structure Takes (config : HttpConfig B Q) (request : HttpRequest B Q)
    (route : Route Method String String Gate Handler) (params : List (String × String)) : Prop where
  method : route.method = request.method
  path : ∃ raw, take config.reading.same route.pattern request.path = some raw ∧
    decodeAll config.reading.decode raw = some params
  ids : ∀ param ∈ params, isId param.2 = true

theorem routes_apart : routes.Pairwise fun early late =>
    early.method ≠ late.method ∨ apart differs tooShort early.pattern late.pattern = true := by
  decide +kernel

theorem Takes.excludes (reads : ReadsPaths config.reading)
    {early late : Route Method String String Gate Handler} {params values : List (String × String)}
    (distinct : early.method ≠ late.method ∨
      apart differs tooShort early.pattern late.pattern = true)
    (first : Takes config request early params) : ¬Takes config request late values := by
  intro second
  rcases distinct with methods | patterns
  · exact methods (first.method.trans second.method.symm)
  · obtain ⟨raw, taken, decoded⟩ := second.path
    obtain ⟨_, before, _⟩ := first.path
    rw [take_of_apart reads.distinguishes patterns taken decoded second.ids] at before
    cases before

theorem Takes.unique (reads : ReadsPaths config.reading)
    {route other : Route Method String String Gate Handler} {params values : List (String × String)}
    (left : Takes config request route params) (right : Takes config request other values)
    (registered : route ∈ routes) (also : other ∈ routes) : route = other := by
  have apart := List.pairwise_iff_getElem.mp routes_apart
  obtain ⟨i, inside, rfl⟩ := List.getElem_of_mem registered
  obtain ⟨j, within', rfl⟩ := List.getElem_of_mem also
  rcases Nat.lt_trichotomy i j with less | rfl | more
  · exact absurd right (left.excludes reads (apart i j inside within' less))
  · rfl
  · exact absurd left (right.excludes reads (apart j i within' inside more))

/-! ### What the gates bring -/

/-- The `validate` gates of a route. -/
def validates (gates : List Gate) : List ValidateSchemas :=
  gates.filterMap fun | .validate schemas => some schemas | _ => none

/-- The gates that may refuse an actor come first. -/
theorem routes_authenticate : ∀ route ∈ routes, ∀ roles ∈ audience route.handler,
    route.gates.head? = some .authenticate ∧ .authenticate ∉ route.gates.tail ∧
      (roles = roleValues ∨ route.gates.tail.head? = some (.authorizeRole roles)) := by
  decide +kernel

theorem routes_lock : ∀ route ∈ routes, route.handler.reads.version = true →
    .ifMatch ∈ route.gates := by
  decide +kernel

theorem routes_actor : ∀ route ∈ routes, route.handler.reads.actor = true →
    audience route.handler ≠ none := by
  decide +kernel

/-- A route has at most one `validate`, and its controller reads nothing that was not parsed. -/
theorem routes_validate : ∀ route ∈ routes,
    (validates route.gates).length ≤ 1 ∧
      (∀ schema ∈ route.handler.reads.body, ∃ schemas ∈ validates route.gates,
        schemas.body = some schema) ∧
      (∀ schema ∈ route.handler.reads.query, ∃ schemas ∈ validates route.gates,
        schemas.query.map QuerySchema.type = some schema) ∧
      (∀ schema ∈ route.handler.reads.params, ∃ schemas ∈ validates route.gates,
        schemas.params = some schema) := by
  decide +kernel

/-- Every parameter is checked. -/
theorem routes_params : ∀ route ∈ routes, names route.pattern = [] ∨
    ∃ schemas ∈ validates route.gates, ∃ schema ∈ schemas.params,
      names route.pattern = [schema.key] := by
  decide +kernel

theorem validate_ok {schemas result : ValidateSchemas} {params : List (String × String)}
    (passed : validate config request schemas params = .ok result) :
    result = schemas ∧ (∀ schema ∈ schemas.body, config.bodyIssues schema request.body = []) ∧
      (∀ schema ∈ schemas.query, config.queryIssues schema request.query = []) ∧
      ∀ schema ∈ schemas.params, schema.issues params = [] := by
  have parsed {issues : List ErrorDetail} {fine : Unit}
      (checked : (if issues = [] then .ok () else .error (ValidationFailedError issues) :
        Except AppError Unit) = .ok fine) : issues = [] := by
    split at checked
    · assumption
    · cases checked
  obtain ⟨_, body, afterBody⟩ := of_bind passed
  obtain ⟨_, query, afterQuery⟩ := of_bind afterBody
  obtain ⟨_, params', done⟩ := of_bind afterQuery
  obtain rfl := Except.ok.inj done
  refine ⟨rfl, fun schema has => ?_, fun schema has => ?_, fun schema has => ?_⟩
  · simpa [Option.mem_def.mp has] using parsed body
  · simpa [Option.mem_def.mp has] using parsed query
  · simpa [Option.mem_def.mp has] using parsed params'

theorem run_authorizeRole {roles : List Role} {params : List (String × String)}
    {before after : RequestState}
    (passed : (Gate.authorizeRole roles).run config moment request params before = .ok after) :
    after = before ∧ ∃ actor sid, before.actor = some (actor, sid) ∧ actor.role ∈ roles := by
  simp only [Gate.run] at passed
  split at passed
  · cases passed
  next actor sid is =>
    obtain ⟨_, authorized, rfl⟩ := of_map passed
    unfold authorizeRole at authorized
    split at authorized
    next entitled => exact ⟨rfl, actor, sid, is, entitled⟩
    · cases authorized

/-- What a route has validated is what its one `validate` gate has parsed. -/
theorem validated_of_pass {gates : List Gate} {params : List (String × String)}
    {state final : RequestState} (single : (validates gates).length ≤ 1)
    {schemas : ValidateSchemas} (has : schemas ∈ validates gates)
    (passed : pass (Gate.run config moment request) params gates state = .ok final) :
    final.validated = schemas ∧ validate config request schemas params = .ok schemas := by
  have gate : .validate schemas ∈ gates := by
    obtain ⟨one, among, is⟩ := List.mem_filterMap.mp has
    cases one with
    | validate other =>
      obtain rfl := Option.some.inj is
      exact among
    | _ => cases is
  have only (other : ValidateSchemas) (among : .validate other ∈ gates) : other = schemas := by
    have also : other ∈ validates gates := List.mem_filterMap.mpr ⟨_, among, rfl⟩
    obtain ⟨first, is⟩ := List.length_eq_one_iff.mp
      (Nat.le_antisymm single (List.length_pos_of_mem has))
    rw [is, List.mem_singleton] at also has
    rw [also, has]
  -- The one `validate` of the gates brings what was asked for, and no other gate touches
  -- `validated`.
  refine pass_brings (fun state => state.validated = schemas ∧
    validate config request schemas params = .ok schemas) gate ?_ ?_ passed
  · intro before after brought
    obtain ⟨result, parsed, rfl⟩ := of_map brought
    obtain ⟨rfl, _⟩ := validate_ok parsed
    exact ⟨rfl, parsed⟩
  · intro other among before after kept held
    cases other with
    | validate others =>
      obtain ⟨result, parsed, rfl⟩ := of_map kept
      obtain ⟨rfl, _⟩ := validate_ok parsed
      obtain rfl := only _ among
      exact ⟨rfl, parsed⟩
    | authorizeRole roles => exact (run_authorizeRole kept).1 ▸ held
    | _ =>
      obtain ⟨_, _, rfl⟩ := of_map kept
      exact held

theorem locked_of_pass {gates : List Gate} {params : List (String × String)}
    {state final : RequestState} (has : .ifMatch ∈ gates)
    (passed : pass (Gate.run config moment request) params gates state = .ok final) :
    ∃ version, final.ifMatchVersion = some version ∧
      ifMatch config.number request.ifMatch = .ok version := by
  refine pass_brings (fun state => ∃ version, state.ifMatchVersion = some version ∧
    ifMatch config.number request.ifMatch = .ok version) has ?_ ?_ passed
  · intro before after brought
    obtain ⟨version, parsed, rfl⟩ := of_map brought
    exact ⟨version, rfl, parsed⟩
  · intro other among before after kept held
    cases other with
    | ifMatch =>
      obtain ⟨version, parsed, rfl⟩ := of_map kept
      exact ⟨version, rfl, parsed⟩
    | authorizeRole roles => exact (run_authorizeRole kept).1 ▸ held
    | _ =>
      obtain ⟨_, _, rfl⟩ := of_map kept
      exact held

/-- Only `authenticate` says who is calling. -/
theorem run_actor {one : Gate} (other : one ≠ .authenticate) {params : List (String × String)}
    {before after : RequestState}
    (kept : one.run config moment request params before = .ok after) :
    after.actor = before.actor := by
  cases one with
  | authenticate => exact absurd rfl other
  | authorizeRole roles => rw [(run_authorizeRole kept).1]
  | _ =>
    obtain ⟨_, _, rfl⟩ := of_map kept
    rfl

/-- Behind `authenticate`, the actor is the account of the header, with the roles of the route. -/
theorem actor_of_pass {gates : List Gate} {params : List (String × String)}
    {state final : RequestState} (first : gates.head? = some .authenticate)
    (once : .authenticate ∉ gates.tail)
    (passed : pass (Gate.run config moment request) params gates state = .ok final) :
    ∃ actor sid, final.actor = some (actor, sid) ∧
      authenticateHeader config.signIn moment.store request.authorization moment.now =
        .ok (actor, sid) ∧
      ∀ roles, .authorizeRole roles ∈ gates.tail → actor.role ∈ roles := by
  obtain ⟨rest, rfl⟩ := List.head?_eq_some_iff.mp first
  rw [pass_cons] at passed
  obtain ⟨behind, named, later⟩ := of_bind passed
  obtain ⟨⟨actor, sid⟩, verified, rfl⟩ := of_map named
  have keeps : ∀ other ∈ rest, ∀ before after,
      other.run config moment request params before = .ok after →
      before.actor = some (actor, sid) → after.actor = some (actor, sid) := by
    intro other among before after kept held
    rw [run_actor (fun is => once (is ▸ among)) kept, held]
  have named : final.actor = some (actor, sid) :=
    pass_keeps (fun state => state.actor = some (actor, sid)) keeps later rfl
  refine ⟨actor, sid, named, verified, fun roles among => ?_⟩
  obtain ⟨before, after, held, passes⟩ :=
    pass_at (fun state => state.actor = some (actor, sid)) (List.tail_cons ▸ among) keeps later rfl
  obtain ⟨_, own, session, is, entitled⟩ := run_authorizeRole passes
  obtain ⟨rfl, rfl⟩ := Prod.mk.inj (Option.some.inj (held.symm.trans is))
  exact entitled

/-! ### The handlers -/

/-- What a handler finds when it is called. -/
structure Serves (config : HttpConfig B Q) (moment : Moment) (request : HttpRequest B Q)
    (handler : Handler) (params : List (String × String)) (state : RequestState) : Prop where
  /-- The audience is checked against the columns that the account has now. -/
  audience : ∀ roles ∈ audience handler, ∃ actor sid, state.actor = some (actor, sid) ∧
    authenticateHeader config.signIn moment.store request.authorization moment.now =
      .ok (actor, sid) ∧ actor.role ∈ roles
  actor : handler.reads.actor = true → state.actor.isSome = true
  version : handler.reads.version = true → ∃ version, state.ifMatchVersion = some version ∧
    ifMatch config.number request.ifMatch = .ok version
  body : ∀ schema ∈ handler.reads.body, state.validated.body = some schema ∧
    config.bodyIssues schema request.body = []
  query : ∀ schema ∈ handler.reads.query, ∃ parsed, state.validated.query = some parsed ∧
    parsed.type = schema ∧ config.queryIssues parsed request.query = []
  ids : ∀ param ∈ params, isId param.2 = true
  params : ∀ schema ∈ handler.reads.params, state.validated.params = some schema

theorem ids_of_issues {schema : ParamsSchema} {params : List (String × String)}
    (named : params.map Prod.fst = [schema.key]) (none : schema.issues params = []) :
    ∀ param ∈ params, isId param.2 = true := by
  obtain ⟨⟨key, value⟩, rfl, rfl⟩ := List.map_eq_singleton_iff.mp named
  intro param member
  obtain rfl := List.mem_singleton.mp member
  have looked := (List.append_eq_nil_iff.mp none).1
  simp only [List.lookup_cons_self] at looked
  split at looked
  · assumption
  · cases looked

theorem serves_of_pass {route : Route Method String String Gate Handler}
    (registered : route ∈ routes) {params : List (String × String)} {state : RequestState}
    (named : params.map Prod.fst = names route.pattern)
    (passed : pass (Gate.run config moment request) params route.gates {} = .ok state) :
    Serves config moment request route.handler params state := by
  obtain ⟨single, bodies, queries, keys⟩ := routes_validate route registered
  -- The gate that sets the actor is there once, so the actor is the one of the header.
  have audience : ∀ roles ∈ audience route.handler, ∃ actor sid, state.actor = some (actor, sid) ∧
      authenticateHeader config.signIn moment.store request.authorization moment.now =
        .ok (actor, sid) ∧ actor.role ∈ roles := by
    intro roles has
    obtain ⟨first, once, entitled⟩ := routes_authenticate route registered roles has
    obtain ⟨actor, sid, is, verified, roleOf⟩ := actor_of_pass first once passed
    refine ⟨actor, sid, is, verified, ?_⟩
    rcases entitled with rfl | gate
    · exact mem_roleValues actor.role
    · exact roleOf roles (List.mem_of_mem_head? gate)
  refine ⟨audience, fun reads => ?_, fun reads => ?_, fun schema reads => ?_,
    fun schema reads => ?_, ?_, fun schema reads => ?_⟩
  · obtain ⟨roles, has⟩ := Option.ne_none_iff_exists'.mp (routes_actor route registered reads)
    obtain ⟨actor, sid, is, _⟩ := audience roles has
    rw [is]
    rfl
  · exact locked_of_pass (routes_lock route registered reads) passed
  -- There is one `validate` on the route, and its schema for the body is the one the handler reads.
  · obtain ⟨schemas, among, is⟩ := bodies schema reads
    obtain ⟨rfl, parsed⟩ := validated_of_pass single among passed
    exact ⟨is, (validate_ok parsed).2.1 schema is⟩
  · obtain ⟨schemas, among, is⟩ := queries schema reads
    obtain ⟨rfl, parsed⟩ := validated_of_pass single among passed
    obtain ⟨query, used, type⟩ := Option.map_eq_some_iff.mp is
    exact ⟨query, used, type, (validate_ok parsed).2.2.1 query used⟩
  · rcases routes_params route registered with free | ⟨schemas, among, schema, is, key⟩
    · rw [free, List.map_eq_nil_iff] at named
      rw [named]
      exact List.forall_mem_nil _
    · obtain ⟨_, parsed⟩ := validated_of_pass single among passed
      exact ids_of_issues (named.trans key) ((validate_ok parsed).2.2.2 schema is)
  · obtain ⟨schemas, among, is⟩ := keys schema reads
    obtain ⟨rfl, _⟩ := validated_of_pass single among passed
    exact is

end Requests

def samplePaths : Routing.Reading String String String where
  same text segment := text.toLower = segment.toLower
  decode segment := if '%' ∈ segment.toList then none else some segment

theorem samplePaths_reads : ReadsPaths samplePaths where
  cases text other segment left right :=
    (of_decide_eq_true left).trans (of_decide_eq_true right).symm
  plain text segment value same decoded := by
    have lower := congrArg String.length (of_decide_eq_true same)
    simp only [samplePaths] at decoded
    split at decoded
    · cases decoded
    · obtain rfl := Option.some.inj decoded
      have lengths (letters : String) : letters.toLower.length = letters.length :=
        String.length_map
      rwa [lengths, lengths, eq_comm] at lower

def sampleHttp : HttpConfig Unit Unit where
  signIn := sampleSignIn
  emailOf _ := ""
  bodyIssues _ _ := []
  queryIssues _ _ := []
  exceeds body := maxImageBytes < body.length
  number text :=
    if text.toList.all Char.isDigit then
      some (text.toList.foldl (fun value digit => 10 * value + (digit.toNat - '0'.toNat)) 0)
    else none
  reading := samplePaths

def sampleMoment : Moment := ⟨staffedStore, 0, fun _ _ => none⟩

/-- The administrator triages an incident. -/
def sampleTriage : HttpRequest Unit Unit where
  method := .post
  path := ["api", "v1", "Incidents", "tz4a98xxat96iws9zmbrgj3a", "triage"]
  target := "/api/v1/Incidents/tz4a98xxat96iws9zmbrgj3a/triage"
  authorization := some "Bearer admin.s0"
  ifMatch := some "\"7\""
  ip := "::1"
  body := ()
  query := ()
  image := none

theorem sampleTriage_answer :
    answer sampleHttp sampleMoment sampleTriage =
      .ok (.triageHandler, [("id", "tz4a98xxat96iws9zmbrgj3a")],
        { actor := some (⟨"admin", .admin, 4⟩, "s0"), ifMatchVersion := some 7
          validated := { params := some IncidentIdParamsSchema } }) := by
  decide +kernel

/-- No handler runs for somebody who may not call it, or without what its controller takes out of
the request unchecked. -/
theorem handlers_get_what_they_read {B Q : Type} (config : HttpConfig B Q)
    (reads : ReadsPaths config.reading) (moment : Moment) (request : HttpRequest B Q)
    (handler : Handler) (params : List (String × String)) (state : RequestState)
    (served : answer config moment request = .ok (handler, params, state)) :
    Serves config moment request handler params state := by
  obtain ⟨route, registered, raw, _, rfl, taken, decoded, passed⟩ := mem_of_answer reads served
  exact serves_of_pass registered (names_of_take taken decoded) passed

theorem handlers_get_what_they_read_sample :
    Serves sampleHttp sampleMoment sampleTriage .triageHandler [("id", "tz4a98xxat96iws9zmbrgj3a")]
      { actor := some (⟨"admin", .admin, 4⟩, "s0"), ifMatchVersion := some 7
        validated := { params := some IncidentIdParamsSchema } } :=
  handlers_get_what_they_read sampleHttp samplePaths_reads sampleMoment sampleTriage _ _ _
    sampleTriage_answer

/-! ### Strangers -/

section Strangers

variable {B Q : Type} {config : HttpConfig B Q} {request : HttpRequest B Q}

/-- Nobody has signed what stands in the `Authorization` header. -/
def Stranger (config : HttpConfig B Q) (request : HttpRequest B Q) (now : Date) : Prop :=
  ∀ token, bearerToken request.authorization = some token →
    ∀ payload, config.signIn.verifyAccessToken token now ≠ .ok payload

theorem Stranger.authenticateHeader_eq {now : Date} (stranger : Stranger config request now)
    (left right : Store) :
    authenticateHeader config.signIn left request.authorization now =
      authenticateHeader config.signIn right request.authorization now := by
  unfold authenticateHeader
  split
  · rfl
  next token presented =>
    cases verified : config.signIn.verifyAccessToken token now with
    | error fault => cases fault <;> rfl
    | ok payload => exact absurd verified (stranger token presented payload)

theorem Stranger.refused {now : Date} (stranger : Stranger config request now) (store : Store)
    (found : Actor × Id) :
    authenticateHeader config.signIn store request.authorization now ≠ .ok found := by
  unfold authenticateHeader
  split
  · exact nofun
  next token presented =>
    cases verified : config.signIn.verifyAccessToken token now with
    | error fault => cases fault <;> exact nofun
    | ok payload => exact absurd verified (stranger token presented payload)

end Strangers

/-- Whatever the database holds, a stranger gets the same answer, and gets to public handlers
only. -/
theorem strangers_see_no_data {B Q : Type} (config : HttpConfig B Q)
    (reads : ReadsPaths config.reading) (moment : Moment) (request : HttpRequest B Q)
    (stranger : Stranger config request moment.now) :
    (∀ store, answer config { moment with store := store } request = answer config moment request) ∧
      ∀ handler params state, answer config moment request = .ok (handler, params, state) →
        audience handler = none ∧ state.actor = none := by
  refine ⟨fun store => ?_, fun handler params state served => ?_⟩
  · have same : Gate.run config { moment with store := store } request =
        Gate.run config moment request := by
      funext one params state
      cases one with
      | authenticate => simp only [Gate.run, stranger.authenticateHeader_eq store moment.store]
      | _ => rfl
    rw [answer, answer, same]
  · obtain ⟨route, registered, raw, _, rfl, taken, decoded, passed⟩ := mem_of_answer reads served
    have serves := serves_of_pass registered (names_of_take taken decoded) passed
    constructor
    · cases whose : audience route.handler with
      | none => rfl
      | some roles =>
        obtain ⟨actor, sid, _, verified, _⟩ := serves.audience roles whose
        exact absurd verified (stranger.refused moment.store (actor, sid))
    · refine pass_keeps (fun state => state.actor = none) ?_ passed rfl
      intro one _ before after passes held
      by_cases names : one = .authenticate
      · subst names
        obtain ⟨found, verified, _⟩ := of_map passes
        exact absurd verified (stranger.refused moment.store found)
      · rw [run_actor names passes, held]

def sampleForgery : HttpRequest Unit Unit :=
  { sampleTriage with authorization := some "Bearer forged" }

theorem strangers_see_no_data_sample :
    answer sampleHttp { sampleMoment with store := sampleStore } sampleForgery =
        answer sampleHttp sampleMoment sampleForgery ∧
      ∀ handler params state,
        answer sampleHttp sampleMoment sampleForgery = .ok (handler, params, state) →
        audience handler = none ∧ state.actor = none := by
  have stranger : Stranger sampleHttp sampleForgery sampleMoment.now := by
    intro token presented payload
    have is : bearerToken sampleForgery.authorization = some "forged" := by decide +kernel
    obtain rfl := Option.some.inj (is.symm.trans presented)
    have unsigned : sampleHttp.signIn.verifyAccessToken "forged" sampleMoment.now =
        .error .invalid := by decide +kernel
    rw [unsigned]
    exact nofun
  obtain ⟨same, reached⟩ := strangers_see_no_data sampleHttp samplePaths_reads sampleMoment
    sampleForgery stranger
  exact ⟨same sampleStore, reached⟩

/-! ### The edge of the system -/

section Loads

variable {B Q : Type} {config : HttpConfig B Q} {moment : Moment} {request : HttpRequest B Q}

/-- A signed token says who is asked for in the database. -/
theorem authenticateHeader_eq (store : Store) {now : Date} {token : String}
    {payload : AccessTokenPayload} (presented : bearerToken request.authorization = some token)
    (verified : config.signIn.verifyAccessToken token now = .ok payload) :
    authenticateHeader config.signIn store request.authorization now =
      (authenticate store payload.sub).map fun actor => (actor, payload.sid) := by
  simp only [authenticateHeader, presented, verified]

end Loads

end IncidentApi.Properties
