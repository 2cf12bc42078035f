import IncidentApi.Errors
import IncidentApi.Text
import Mathlib.Logic.Function.Basic

/-!
# The login limiter

`rateLimit.middleware.ts` and the route `POST /auth/login`: the limiter keys its buckets on the body
as it was sent, and `LoginRequestSchema` parses the body after it.
-/
namespace IncidentApi

/-- `Bucket` of the middleware. -/
structure RateLimitBucket where
  count : Nat
  resetAt : Date
  deriving DecidableEq, Repr

/-- The `Map` that a limiter closes over. -/
abbrev Buckets := String → Option RateLimitBucket

structure RateLimitOptions where
  windowMs : Int
  max : Nat

def rateLimit (opts : RateLimitOptions) (key : String) (now : Date) (buckets : Buckets) :
    Except AppError Unit × Buckets :=
  let fresh := Function.update buckets key (some ⟨1, now + opts.windowMs⟩)
  match buckets key with
  | none => (.ok (), fresh)
  | some existing =>
    if existing.resetAt ≤ now then (.ok (), fresh)
    else if opts.max ≤ existing.count then
      -- `Math.ceil` of the seconds left
      (.error (RateLimitedError ((existing.resetAt - now + 999) / 1000)), buckets)
    else
      (.ok (), Function.update buckets key (some { existing with count := existing.count + 1 }))

/-- The options of `authRateLimit`: ten requests in 15 minutes. -/
def authRateLimit : RateLimitOptions := ⟨15 * 60 * 1000, 10⟩

/-- `keyFn` of `authRateLimit`, for a body whose `email` is text. -/
def authKey (ip email : String) : String := ip ++ ":" ++ email

/-! ### The route -/

/-- `String.prototype.toLowerCase`, and the pattern of `z.string().email()`. -/
structure EmailRules where
  toLowerCase : String → String
  isEmail : String → Bool

/-- A body whose `email` is text. -/
structure LoginBody where
  email : String
  password : Option String
  otherKeys : List String

structure LoginRequest where
  email : String
  password : String
  deriving DecidableEq, Repr

/-- `.trim().toLowerCase()`: the address an account is looked up by. -/
def EmailRules.normalize (rules : EmailRules) (email : String) : String :=
  rules.toLowerCase (jsTrim email)

def loginIssues (rules : EmailRules) (body : LoginBody) : List ErrorDetail :=
  (if rules.isEmail (rules.normalize body.email) then []
    else [⟨"email", "invalid_string", "Invalid email"⟩]) ++
  (match body.password with
    | none => [⟨"password", "invalid_type", "Required"⟩]
    | some password =>
      if jsLength password < 1 then
        [⟨"password", "too_small", "String must contain at least 1 character(s)"⟩]
      else if 200 < jsLength password then
        [⟨"password", "too_big", "String must contain at most 200 character(s)"⟩]
      else []) ++
  (if body.otherKeys = [] then []
    -- the schema is `strict`
    else [⟨"", "unrecognized_keys", "Unrecognized key(s) in object: " ++
      ", ".intercalate (body.otherKeys.map fun key => "'" ++ key ++ "'")⟩])

def LoginRequestSchema (rules : EmailRules) (body : LoginBody) : Except AppError LoginRequest :=
  if loginIssues rules body = [] then
    .ok ⟨rules.normalize body.email, body.password.getD ""⟩
  else .error (ValidationFailedError (loginIssues rules body))

structure LoginAttempt where
  now : Date
  body : LoginBody

/-- The two middlewares of the route. What they let through is the input of `authService.login`. -/
def loginRoute (opts : RateLimitOptions) (rules : EmailRules) (ip : String) (attempt : LoginAttempt)
    (buckets : Buckets) : Except AppError LoginRequest × Buckets :=
  let (passed, after) := rateLimit opts (authKey ip attempt.body.email) attempt.now buckets
  (passed >>= fun _ => LoginRequestSchema rules attempt.body, after)

/-- Requests one after another, each with what the middlewares answered. -/
def loginRoutes (opts : RateLimitOptions) (rules : EmailRules) (ip : String) :
    List LoginAttempt → Buckets → List (LoginAttempt × Except AppError LoginRequest) × Buckets
  | [], buckets => ([], buckets)
  | attempt :: rest, buckets =>
    let (answer, after) := loginRoute opts rules ip attempt buckets
    let (answers, final) := loginRoutes opts rules ip rest after
    ((attempt, answer) :: answers, final)

end IncidentApi
