import IncidentApi.Errors
import Mathlib.Data.String.Basic

/-!
# Refresh tokens

`auth.service.ts` and `auth.repository.ts`: sessions are issued, refreshed with rotation and reuse
detection, and logged out. The machine at the end runs any number of these calls at once, one
statement a step, under `READ COMMITTED`: a statement matches rows of the snapshot it starts with,
waits for the locks of other transactions on them, and checks its condition again on what was
committed meanwhile.
-/
namespace IncidentApi

structure RefreshToken where
  id : Id
  userId : Id
  sessionId : Id
  tokenHash : String
  expiresAt : Date
  revokedAt : Option Date
  replacedById : Option Id
  deriving DecidableEq, Repr

/-- `sha256` is `hashRefreshToken`. -/
structure TokenConfig where
  sha256 : String → String
  refreshTokenTtlMs : Int

def refreshTokenExpiryDate (config : TokenConfig) (start : Date) : Date :=
  start + config.refreshTokenTtlMs

/-! ### The repository -/

/-- `revokedAt: null`. -/
def isLive (token : RefreshToken) : Bool := token.revokedAt = none

def findRefreshTokenByHash (tokens : List RefreshToken) (tokenHash : String) :
    Option RefreshToken :=
  tokens.find? (·.tokenHash = tokenHash)

/-- `CreateRefreshTokenInput`, without the columns that no query reads. -/
structure CreateRefreshTokenInput where
  id : Id
  userId : Id
  sessionId : Id
  tokenHash : String
  expiresAt : Date

def CreateRefreshTokenInput.row (input : CreateRefreshTokenInput) : RefreshToken where
  id := input.id
  userId := input.userId
  sessionId := input.sessionId
  tokenHash := input.tokenHash
  expiresAt := input.expiresAt
  revokedAt := none
  replacedById := none

def createRefreshToken (tokens : List RefreshToken) (input : CreateRefreshTokenInput) :
    Except AppError (List RefreshToken) :=
  -- the primary key and the unique index on `tokenHash`
  if tokens.any fun row => row.id = input.id || row.tokenHash = input.tokenHash then
    .error InternalError
  else .ok (tokens ++ [input.row])

def markRotated (id replacedById : Id) (now : Date) (token : RefreshToken) : RefreshToken :=
  if token.id = id ∧ isLive token then
    { token with revokedAt := some now, replacedById := some replacedById }
  else token

/-- Whether a row matched, and the table with its update. -/
def markRefreshTokenRotated (tokens : List RefreshToken) (id replacedById : Id) (now : Date) :
    Bool × List RefreshToken :=
  (tokens.any fun token => token.id = id && isLive token,
    tokens.map (markRotated id replacedById now))

def revoke (ids : List Id) (now : Date) (token : RefreshToken) : RefreshToken :=
  if token.id ∈ ids ∧ isLive token then { token with revokedAt := some now } else token

/-- The rows `revokeSession` matches in its snapshot. -/
def liveOfSession (tokens : List RefreshToken) (sessionId : Id) : List Id :=
  (tokens.filter fun token => token.sessionId = sessionId && isLive token).map (·.id)

/-- The update of rows that a snapshot matched: those that are still live. -/
def revokeMatched (tokens : List RefreshToken) (ids : List Id) (now : Date) : List RefreshToken :=
  tokens.map (revoke ids now)

def revokeRefreshTokenById (tokens : List RefreshToken) (id : Id) (now : Date) :
    List RefreshToken :=
  revokeMatched tokens [id] now

/-! ### Calls in flight -/

/-- What `refresh` draws before its transaction. -/
structure NewToken where
  id : Id
  tokenHash : String
  expiresAt : Date

/-- A call between two of its statements; `row` is what `findRefreshTokenByHash` answered. Where a
`revokeSession` statement runs, `matched` are the rows of its snapshot once it has started. -/
inductive Call where
  /-- The row was revoked: the session is revoked outside any transaction, then the call refused. -/
  | reuse (row : RefreshToken) (matched : Option (List Id))
  | expired (row : RefreshToken)
  | rotating (row : RefreshToken) (next : NewToken)
  /-- The conditional update has matched; neither it nor the insert is committed. -/
  | rotated (row : RefreshToken) (next : NewToken) (now : Date)
  /-- The conditional update has matched nothing; `revokeSession` runs in the transaction. -/
  | lost (row : RefreshToken) (matched : Option (List Id))
  /-- The throw is next, which undoes what the transaction has revoked. -/
  | throwing (row : RefreshToken) (revoked : List Id)
  | logout (sessionId : Id) (matched : Option (List Id))

/-- The rows that an open transaction has updated. -/
def Call.locks : Call → List Id
  | .rotated row _ _ => [row.id]
  | .throwing _ revoked => revoked
  | _ => []

structure AuthSystem where
  /-- What is committed. -/
  tokens : List RefreshToken
  calls : List Call
  /-- The tokens whose rotation has committed, in that order; no step reads them. -/
  rotations : List Id

inductive AuthAction where
  /-- `issueSession`, at the end of a login or a registration. -/
  | issue (userId sessionId id : Id) (token : String) (now : Date)
  | refresh (token : String) (now : Date) (newId : Id) (newToken : String)
  | logout (token : Option String) (sessionId : Option Id)
  /-- The next statement of a call. -/
  | statement (k : Nat) (now : Date)
  /-- A statement throws: its transaction is undone and the call answered with an error. -/
  | interrupt (k : Nat)

def AuthSystem.othersLocks (sys : AuthSystem) (k : Nat) : List Id :=
  (sys.calls.eraseIdx k).flatMap Call.locks

/-- What `refresh` does with the row it found. -/
def startRefresh (config : TokenConfig) (row : RefreshToken) (now : Date) (newId : Id)
    (newToken : String) : Call :=
  if row.revokedAt.isSome then .reuse row none
  else if row.expiresAt ≤ now then .expired row
  else .rotating row ⟨newId, config.sha256 newToken, refreshTokenExpiryDate config now⟩

/-- The session `logout` revokes: that of the presented token, else that of the access token. -/
def logoutSession (config : TokenConfig) (tokens : List RefreshToken) (token : Option String)
    (sessionId : Option Id) : Option Id :=
  let presented := (token.filter (· ≠ "")).bind fun text =>
    findRefreshTokenByHash tokens (config.sha256 text)
  match presented with
  | some row => some row.sessionId
  | none => sessionId.filter (· ≠ "")

/-- The next statement of call `k`; `none` means that it waits for a lock. -/
def callStep (sys : AuthSystem) (k : Nat) (call : Call) (now : Date) : Option AuthSystem :=
  let continue_ (next : Call) : Option AuthSystem := some { sys with calls := sys.calls.set k next }
  let answered : AuthSystem := { sys with calls := sys.calls.eraseIdx k }
  let waits (ids : List Id) : Bool := ids.any (· ∈ sys.othersLocks k)
  match call with
  | .reuse row none => continue_ (.reuse row (some (liveOfSession sys.tokens row.sessionId)))
  | .reuse _ (some ids) =>
    if waits ids then none
    else some { answered with tokens := revokeMatched sys.tokens ids now }
  | .expired row =>
    if waits [row.id] then none
    else some { answered with tokens := revokeRefreshTokenById sys.tokens row.id now }
  | .rotating row next =>
    if waits [row.id] then none
    else if (markRefreshTokenRotated sys.tokens row.id next.id now).1 then
      continue_ (.rotated row next now)
    else continue_ (.lost row none)
  | .rotated row next marked =>
    match createRefreshToken (markRefreshTokenRotated sys.tokens row.id next.id marked).2
      ⟨next.id, row.userId, row.sessionId, next.tokenHash, next.expiresAt⟩ with
    -- the insert, and with it the commit
    | .ok tokens => some { answered with tokens := tokens, rotations := sys.rotations ++ [row.id] }
    | .error _ => some answered
  | .lost row none => continue_ (.lost row (some (liveOfSession sys.tokens row.sessionId)))
  | .lost row (some ids) =>
    if waits ids then none
    else continue_ (.throwing row
      ((sys.tokens.filter fun token => token.id ∈ ids && isLive token).map (·.id)))
  | .throwing _ _ => some answered
  | .logout sessionId none =>
    continue_ (.logout sessionId (some (liveOfSession sys.tokens sessionId)))
  | .logout _ (some ids) =>
    if waits ids then none
    else some { answered with tokens := revokeMatched sys.tokens ids now }

def authStep (config : TokenConfig) (sys : AuthSystem) : AuthAction → Option AuthSystem
  | .issue userId sessionId id token now =>
    -- `newId()` answers no session id twice
    if sys.tokens.any (·.sessionId = sessionId) then none
    else
      match createRefreshToken sys.tokens
        ⟨id, userId, sessionId, config.sha256 token, refreshTokenExpiryDate config now⟩ with
      | .ok tokens => some { sys with tokens := tokens }
      | .error _ => some sys
  | .refresh token now newId newToken =>
    match findRefreshTokenByHash sys.tokens (config.sha256 token) with
    | none => some sys
    | some row =>
      some { sys with calls := sys.calls ++ [startRefresh config row now newId newToken] }
  | .logout token sessionId =>
    match logoutSession config sys.tokens token sessionId with
    | none => some sys
    | some session => some { sys with calls := sys.calls ++ [.logout session none] }
  | .statement k now => (sys.calls[k]?).bind fun call => callStep sys k call now
  | .interrupt k => (sys.calls[k]?).map fun _ => { sys with calls := sys.calls.eraseIdx k }

/-- The session of the call that a statement refuses because its token was rotated or revoked. -/
def refusedReuse (sys : AuthSystem) : AuthAction → Option Id
  | .statement k _ =>
    match sys.calls[k]? with
    | some (.reuse row (some _)) => some row.sessionId
    | some (.throwing row _) => some row.sessionId
    | _ => none
  | _ => none

def AuthSystem.boot (tokens : List RefreshToken) : AuthSystem := ⟨tokens, [], []⟩

end IncidentApi
