import IncidentApi.NoteTaking
import IncidentApi.RateLimit
import IncidentApi.Sessions

/-!
# Signing in

`register`, `login` and `issueSession` of `auth.service.ts`, and `authenticate.middleware.ts`, which
turns the access token of a request into an actor. The machine at the end adds them to everything
else: any number of sign-ins run at once, and a request is served only to the actor of its token.
-/
namespace IncidentApi

def EmailAlreadyExistsError : AppError :=
  ⟨"EMAIL_ALREADY_EXISTS", 409, "An account with this email already exists.", [], []⟩

def TokenExpiredError : AppError :=
  ⟨"TOKEN_EXPIRED", 401, "Access token has expired.", [], []⟩

/-! ### What is sent -/

/-- A body of `POST /auth/register` whose `email` is text. -/
structure RegisterBody where
  email : String
  password : Option String
  displayName : Option String
  otherKeys : List String

structure RegisterRequest where
  email : String
  password : String
  displayName : TrimmedText 1 120

/-- The issues of `z.string().min(lo).max(hi)`. -/
def boundIssues (path : String) (lo hi : Nat) : Option String → List ErrorDetail
  | none => [⟨path, "invalid_type", "Required"⟩]
  | some text =>
    if jsLength text < lo then
      [⟨path, "too_small", "String must contain at least " ++ toString lo ++ " character(s)"⟩]
    else if hi < jsLength text then
      [⟨path, "too_big", "String must contain at most " ++ toString hi ++ " character(s)"⟩]
    else []

def registerIssues (rules : EmailRules) (body : RegisterBody) : List ErrorDetail :=
  (if rules.isEmail (rules.normalize body.email) then []
    else [⟨"email", "invalid_string", "Invalid email"⟩]) ++
  boundIssues "password" 8 200 body.password ++
  boundIssues "displayName" 1 120 (body.displayName.map jsTrim) ++
  (if body.otherKeys = [] then []
    -- the schema is `strict`: no `role` or `clearanceLevel` comes in with the body
    else [⟨"", "unrecognized_keys", "Unrecognized key(s) in object: " ++
      ", ".intercalate (body.otherKeys.map fun key => "'" ++ key ++ "'")⟩])

def RegisterRequestSchema (rules : EmailRules) (body : RegisterBody) :
    Except AppError RegisterRequest :=
  match registerIssues rules body, TrimmedText.parse 1 120 (body.displayName.getD "") with
  | [], some displayName => .ok ⟨rules.normalize body.email, body.password.getD "", displayName⟩
  | issues, _ => .error (ValidationFailedError issues)

theorem boundIssues_eq_nil {path : String} {lo hi : Nat} {value : Option String} :
    boundIssues path lo hi value = [] ↔ ∃ text, value = some text ∧ lo ≤ jsLength text ∧
      jsLength text ≤ hi := by
  cases value with
  | none => simp [boundIssues]
  | some text =>
    simp only [boundIssues, Option.some.injEq, exists_eq_left']
    split
    · simp only [List.cons_ne_nil, false_iff]
      omega
    · split
      · simp only [List.cons_ne_nil, false_iff]
        omega
      · simp only [true_iff]
        omega

/-- A registration is accepted if it has no issue, and a refusal has all of them. -/
theorem RegisterRequestSchema_refuses {rules : EmailRules} {body : RegisterBody} :
    (∃ request, RegisterRequestSchema rules body = .ok request) ∧ registerIssues rules body = [] ∨
      RegisterRequestSchema rules body =
        .error (ValidationFailedError (registerIssues rules body)) ∧
        registerIssues rules body ≠ [] := by
  unfold RegisterRequestSchema
  cases clean : registerIssues rules body with
  | cons first rest => exact .inr ⟨rfl, List.cons_ne_nil _ _⟩
  | nil =>
    have named : boundIssues "displayName" 1 120 (body.displayName.map jsTrim) = [] := by
      simp only [registerIssues, List.append_eq_nil_iff] at clean
      exact clean.1.2
    obtain ⟨text, trimmed, atLeast, atMost⟩ := boundIssues_eq_nil.mp named
    obtain ⟨raw, given, rfl⟩ := Option.map_eq_some_iff.mp trimmed
    -- the schema trims before it counts, as the issues do
    rw [given, Option.getD_some, TrimmedText.parse, dif_pos ⟨atLeast, atMost⟩]
    exact .inl ⟨⟨_, rfl⟩, rfl⟩

/-! ### Credentials -/

structure AccessTokenPayload where
  sub : Id
  sid : Id
  deriving DecidableEq, Repr

/-- Why `jwt.verify` throws. -/
inductive TokenFault where
  | expired | invalid
  deriving DecidableEq, Repr

/-- `bcrypt` and `jsonwebtoken` beside the hash of the refresh tokens. -/
structure SignInConfig extends TokenConfig where
  /-- `bcrypt.hash`, with the salt that it draws. -/
  bcryptHash : String → String → String
  bcryptCompare : String → String → Bool
  /-- `DUMMY_HASH`. -/
  dummyHash : String
  signAccessToken : AccessTokenPayload → Date → String
  verifyAccessToken : String → Date → Except TokenFault AccessTokenPayload

structure UserSummary where
  id : Id
  email : String
  displayName : String
  role : Role
  clearanceLevel : Nat
  deriving DecidableEq, Repr

def toUserSummary (user : User) : UserSummary :=
  ⟨user.id, user.email, user.displayName, user.role, user.clearanceLevel⟩

def findUserByEmail (store : Store) (email : String) : Option User :=
  store.users.find? (·.email = email)

/-- The row of `createUser`, with the column defaults of the model. -/
def newUser (input : RegisterRequest) (id : Id) (now : Date) : User where
  id := id
  email := input.email
  displayName := input.displayName.value
  role := .reporter
  clearanceLevel := 1
  isActive := true
  createdAt := now

def me (store : Store) (userId : Id) : Except AppError UserSummary :=
  match store.userById userId with
  | some user => .ok (toUserSummary user)
  | none => .error UnauthenticatedError

/-- The token of an `Authorization` header. -/
def bearerToken (header : Option String) : Option String :=
  (header.filter (·.startsWith "Bearer ")).map fun text =>
    String.ofList (text.toList.drop "Bearer ".length)

/-- `authenticate.middleware.ts`: whom the access token names, with the columns the row has now, and
the session of the token. -/
def authenticateHeader (config : SignInConfig) (store : Store) (header : Option String)
    (now : Date) : Except AppError (Actor × Id) :=
  match bearerToken header with
  | none => .error UnauthenticatedError
  | some token =>
    match config.verifyAccessToken token now with
    | .error .expired => .error TokenExpiredError
    | .error .invalid => .error { UnauthenticatedError with message := "Access token is invalid." }
    | .ok payload => (authenticate store payload.sub).map fun actor => (actor, payload.sid)

/-! ### Sign-ins in flight -/

/-- A `register` or a `login` between two of its statements. -/
inductive SignIn where
  /-- No account had the address; the password is hashed, and the insert is next. -/
  | registering (input : RegisterRequest) (passwordHash : String)
  /-- `findUserByEmail` has answered, with the hash of the row; `bcrypt.compare` is next. -/
  | comparing (input : LoginRequest) (user : Option (User × String))
  /-- `issueSession` is next; `password` is what the client has sent. -/
  | issuing (user : User) (password : String)

/-- A session with what it was issued for; no step reads it. -/
structure Grant where
  sessionId : Id
  user : User
  password : String

structure SignInSystem where
  rest : NoteSystem
  /-- The column `passwordHash`, by the primary key of its row. -/
  passwordHashes : List (Id × String)
  auth : AuthSystem
  signIns : List SignIn
  grants : List Grant
  /-- The payloads of the access tokens given out; no step reads them. -/
  signed : List AccessTokenPayload

def SignInSystem.store (sys : SignInSystem) : Store := sys.rest.store

def SignInSystem.hashOf (sys : SignInSystem) (userId : Id) : Option String :=
  (sys.passwordHashes.find? (·.1 = userId)).map (·.2)

/-- The user whose token a request needs; `none` for the later steps of a request and for the
job. -/
def Action.userId : Action → Option Id
  | .create userId .. | .load userId .. | .loadClearance userId .. | .putTiers userId _
  | .markRead userId .. => some userId
  | .recordDenial _ actorId .. => some actorId
  | _ => none

def AccountAction.userId : AccountAction → Option Id
  | .service action => action.userId
  | .load userId .. => some userId
  | _ => none

def NoteAction.userId : NoteAction → Option Id
  | .account action => action.userId
  | .load userId .. => some userId
  | _ => none

inductive SignInAction where
  /-- A request with its `Authorization` header. -/
  | request (header : Option String) (now : Date) (action : NoteAction)
  /-- The further steps of requests, and the job. -/
  | others (action : NoteAction)
  /-- `findUserByEmail` and `bcrypt.hash`. -/
  | register (input : RegisterRequest) (salt : String)
  | createUser (k : Nat) (id : Id) (now : Date)
  | login (input : LoginRequest)
  | compare (k : Nat)
  | issueSession (k : Nat) (sessionId id : Id) (token : String) (now : Date)
  /-- `refresh`, `logout` and their statements. -/
  | auth (action : AuthAction)
  | interrupt (k : Nat)

/-- `createUser`, and what `register` makes of a conflict: `P2002` does not say here which of the
two unique indexes it is about. -/
def createUser (sys : SignInSystem) (input : RegisterRequest) (passwordHash : String) (id : Id)
    (now : Date) : Except AppError SignInSystem :=
  if sys.store.users.any fun user => user.id = id || user.email = input.email then
    .error EmailAlreadyExistsError
  else
    .ok { sys with
      rest := sys.rest.withStore
        { sys.store with users := sys.store.users ++ [newUser input id now] }
      passwordHashes := sys.passwordHashes ++ [(id, passwordHash)] }

/-- What `login` makes of the row it found and the answer of `bcrypt.compare`. -/
def checkPassword (config : SignInConfig) (input : LoginRequest) (found : Option (User × String)) :
    Except AppError User :=
  let refused := { UnauthenticatedError with message := "Email or password is incorrect." }
  let passwordMatches := config.bcryptCompare input.password
    ((found.map (·.2)).getD config.dummyHash)
  match found with
  | none => .error refused
  | some (user, _) => if user.isActive && passwordMatches then .ok user else .error refused

/-- The access token that a statement of `refresh` leads to: that of the rotation it commits. -/
def refreshedPayload (before after : AuthSystem) : AuthAction → Option AccessTokenPayload
  | .statement k _ =>
    match before.calls[k]? with
    | some (.rotated row _ _) =>
      if before.rotations.length < after.rotations.length then some ⟨row.userId, row.sessionId⟩
      else none
    | _ => none
  | _ => none

def AuthAction.issues : AuthAction → Bool
  | .issue .. => true
  | _ => false

def signInStep (jobConfig : JobConfig) (config : SignInConfig) (sys : SignInSystem) :
    SignInAction → Option SignInSystem
  | .request header now action =>
    match authenticateHeader config sys.store header now with
    | .ok (actor, _) =>
      if action.userId = some actor.id then
        (noteStep jobConfig sys.rest action).map fun rest => { sys with rest := rest }
      else none
    | .error _ => some sys
  | .others action =>
    if action.userId = none then
      (noteStep jobConfig sys.rest action).map fun rest => { sys with rest := rest }
    else none
  | .register input salt =>
    match findUserByEmail sys.store input.email with
    -- `EmailAlreadyExistsError`
    | some _ => some sys
    | none =>
      some { sys with
        signIns := sys.signIns ++ [.registering input (config.bcryptHash input.password salt)] }
  | .createUser k id now =>
    match sys.signIns[k]? with
    | some (.registering input passwordHash) =>
      match createUser sys input passwordHash id now with
      | .ok created =>
        some { created with
          signIns := sys.signIns.set k (.issuing (newUser input id now) input.password) }
      | .error _ => some { sys with signIns := sys.signIns.eraseIdx k }
    | _ => none
  | .login input =>
    let found := findUserByEmail sys.store input.email
    some { sys with
      signIns := sys.signIns ++
        [.comparing input (found.bind fun user => (sys.hashOf user.id).map fun h => (user, h))] }
  | .compare k =>
    match sys.signIns[k]? with
    | some (.comparing input found) =>
      match checkPassword config input found with
      | .ok user => some { sys with signIns := sys.signIns.set k (.issuing user input.password) }
      | .error _ => some { sys with signIns := sys.signIns.eraseIdx k }
    | _ => none
  | .issueSession k sessionId id token now =>
    match sys.signIns[k]? with
    | some (.issuing user password) =>
      -- `newId()` answers no session id twice
      if sys.auth.tokens.any (·.sessionId = sessionId) then none
      else
        let answered := { sys with signIns := sys.signIns.eraseIdx k }
        match createRefreshToken sys.auth.tokens
          ⟨id, user.id, sessionId, config.sha256 token,
            refreshTokenExpiryDate config.toTokenConfig now⟩ with
        | .ok tokens =>
          some { answered with
            auth := { sys.auth with tokens := tokens }
            grants := sys.grants ++ [⟨sessionId, user, password⟩]
            signed := sys.signed ++ [⟨user.id, sessionId⟩] }
        | .error _ => some answered
    | _ => none
  | .auth action =>
    if action.issues then none
    else
      (authStep config.toTokenConfig sys.auth action).map fun auth =>
        { sys with
          auth := auth
          signed := sys.signed ++ (refreshedPayload sys.auth auth action).toList }
  | .interrupt k =>
    (sys.signIns[k]?).map fun _ => { sys with signIns := sys.signIns.eraseIdx k }

/-- A database without sessions. -/
def SignInSystem.boot (store : Store) (issued : List Id) (passwordHashes : List (Id × String)) :
    SignInSystem :=
  ⟨.boot store issued, passwordHashes, .boot [], [], [], []⟩

end IncidentApi
