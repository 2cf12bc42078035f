import IncidentApi.Properties.SignInSteps
import IncidentApi.Library.Scope

/-!
# Sessions and the passwords they were issued for

A session begins with a password that the stored hash of its account accepts, and every token of the
session, whichever call has put it there, names that account. An address belongs to one account,
however many registrations of it run at once.
-/
namespace IncidentApi.Properties

/-! ### Whom tokens name -/

/-- `callStep` without the log of rotations: the tokens and the calls it leaves name no user and
session that was not named before. -/
theorem callStep_owners {named : Id → Id → Prop} {sys next : AuthSystem} {k : Nat} {call : Call}
    {now : Date} (tokens : ∀ token ∈ sys.tokens, named token.userId token.sessionId)
    (calls : ∀ other ∈ sys.calls, ∀ row ∈ rowOf other, named row.userId row.sessionId)
    (found : sys.calls[k]? = some call) (stepped : callStep sys k call now = some next) :
    (∀ token ∈ next.tokens, named token.userId token.sessionId) ∧
      ∀ other ∈ next.calls, ∀ row ∈ rowOf other, named row.userId row.sessionId := by
  have own := calls call (List.mem_of_getElem? found)
  have erased : ∀ other ∈ sys.calls.eraseIdx k, ∀ row ∈ rowOf other,
      named row.userId row.sessionId :=
    fun other member => calls other (List.mem_of_mem_eraseIdx member)
  have moved : ∀ after, rowOf after = rowOf call → ∀ other ∈ sys.calls.set k after,
      ∀ row ∈ rowOf other, named row.userId row.sessionId := by
    intro after same other member
    rcases Pool.mem_set member with rfl | old
    · exact same ▸ own
    · exact calls other old
  have revoked : ∀ ids, ∀ token ∈ revokeMatched sys.tokens ids now,
      named token.userId token.sessionId := by
    intro ids token member
    obtain ⟨old, stored, rfl⟩ := List.mem_map.mp member
    unfold revoke
    split <;> exact tokens old stored
  cases call with
  | reuse row matched =>
    cases matched with
    | none => exact Option.some.inj stepped ▸ ⟨tokens, moved _ rfl⟩
    | some ids =>
      simp only [callStep] at stepped
      split at stepped
      · simp at stepped
      · exact Option.some.inj stepped ▸ ⟨revoked ids, erased⟩
  | expired row =>
    simp only [callStep] at stepped
    split at stepped
    · simp at stepped
    · exact Option.some.inj stepped ▸ ⟨revoked [row.id], erased⟩
  | rotating row new =>
    simp only [callStep] at stepped
    split at stepped
    · simp at stepped
    · split at stepped <;> exact Option.some.inj stepped ▸ ⟨tokens, moved _ rfl⟩
  | rotated row new marked =>
    simp only [callStep] at stepped
    split at stepped
    next after created =>
      obtain ⟨_, rfl⟩ := createRefreshToken_ok created
      refine Option.some.inj stepped ▸ ⟨fun token member => ?_, erased⟩
      rcases List.mem_append.mp member with old | last
      · obtain ⟨stored, among, rfl⟩ := List.mem_map.mp old
        unfold markRotated
        split <;> exact tokens stored among
      -- the new token takes the user and the session of the row
      · obtain rfl := List.mem_singleton.mp last
        exact own row rfl
    · exact Option.some.inj stepped ▸ ⟨tokens, erased⟩
  | lost row matched =>
    cases matched with
    | none => exact Option.some.inj stepped ▸ ⟨tokens, moved _ rfl⟩
    | some ids =>
      simp only [callStep] at stepped
      split at stepped
      · simp at stepped
      · exact Option.some.inj stepped ▸ ⟨tokens, moved _ rfl⟩
  | throwing row revoked => exact Option.some.inj stepped ▸ ⟨tokens, erased⟩
  | logout sessionId matched =>
    cases matched with
    | none => exact Option.some.inj stepped ▸ ⟨tokens, moved _ rfl⟩
    | some ids =>
      simp only [callStep] at stepped
      split at stepped
      · simp at stepped
      · exact Option.some.inj stepped ▸ ⟨revoked ids, erased⟩

theorem rowOf_startRefresh (config : TokenConfig) (row : RefreshToken) (now : Date) (newId : Id)
    (newToken : String) : rowOf (startRefresh config row now newId newToken) = some row := by
  unfold startRefresh
  split
  · rfl
  · split <;> rfl

theorem authStep_owners (named : Id → Id → Prop) {config : TokenConfig} {sys next : AuthSystem}
    {action : AuthAction} (other : action.issues = false)
    (tokens : ∀ token ∈ sys.tokens, named token.userId token.sessionId)
    (calls : ∀ call ∈ sys.calls, ∀ row ∈ rowOf call, named row.userId row.sessionId)
    (stepped : authStep config sys action = some next) :
    (∀ token ∈ next.tokens, named token.userId token.sessionId) ∧
      ∀ call ∈ next.calls, ∀ row ∈ rowOf call, named row.userId row.sessionId := by
  cases action with
  | issue => simp [AuthAction.issues] at other
  | refresh token now newId newToken =>
    simp only [authStep] at stepped
    split at stepped
    · exact Option.some.inj stepped ▸ ⟨tokens, calls⟩
    next row found =>
      -- A refresh carries the account and the session of the row it has found.
      refine Option.some.inj stepped ▸ ⟨tokens, fun call member => ?_⟩
      rcases List.mem_append.mp member with old | last
      · exact calls call old
      · rw [List.mem_singleton.mp last, rowOf_startRefresh]
        rintro _ ⟨⟩
        exact tokens row (List.mem_of_find?_eq_some found)
  | logout token sessionId =>
    simp only [authStep] at stepped
    split at stepped
    · exact Option.some.inj stepped ▸ ⟨tokens, calls⟩
    next session found =>
      refine Option.some.inj stepped ▸ ⟨tokens, fun call member => ?_⟩
      rcases List.mem_append.mp member with old | last
      · exact calls call old
      · rw [List.mem_singleton.mp last]
        rintro _ ⟨⟩
  | statement k now =>
    obtain ⟨call, found, moved⟩ := Option.bind_eq_some_iff.mp stepped
    exact callStep_owners tokens calls found moved
  | interrupt k =>
    obtain ⟨call, found, rfl⟩ := Option.map_eq_some_iff.mp stepped
    exact ⟨tokens, fun call member => calls call (List.mem_of_mem_eraseIdx member)⟩

/-- Tokens are never deleted, so neither is what is known of a session. -/
theorem authStep_sessions {config : TokenConfig} {sys next : AuthSystem} {action : AuthAction}
    (stepped : authStep config sys action = some next) {token : RefreshToken}
    (stored : token ∈ sys.tokens) : ∃ after ∈ next.tokens, after.sessionId = token.sessionId := by
  cases authStep_effect stepped with
  | issued => exact ⟨token, List.mem_append_left _ stored, rfl⟩
  | revoked k now call ids =>
    exact ⟨_, List.mem_map_of_mem stored, revoke_sessionId ids now token⟩
  | rotated k now row new marked =>
    exact ⟨_, List.mem_append_left _ (List.mem_map_of_mem stored), markRotated_sessionId ..⟩
  | _ => exact ⟨token, stored, rfl⟩

/-! ### The invariant -/

/-- The session was issued for a password of the account. -/
def Granted (sys : SignInSystem) (userId sessionId : Id) : Prop :=
  ∃ grant ∈ sys.grants, grant.user.id = userId ∧ grant.sessionId = sessionId

/-- The stored hash of the account accepts the password. -/
def Proven (config : SignInConfig) (sys : SignInSystem) (userId : Id) (password : String) : Prop :=
  ∃ passwordHash, (userId, passwordHash) ∈ sys.passwordHashes ∧
    config.bcryptCompare password passwordHash = true

def SignInProven (config : SignInConfig) (sys : SignInSystem) : SignIn → Prop
  | .registering input passwordHash => config.bcryptCompare input.password passwordHash = true
  | .comparing _ found => ∀ row ∈ found, (row.1.id, row.2) ∈ sys.passwordHashes
  | .issuing user password => user.isActive = true ∧ Proven config sys user.id password

structure CredentialInvariant (config : SignInConfig) (sys : SignInSystem) : Prop where
  ids : (sys.store.users.map User.id).Nodup
  hashed : sys.passwordHashes.map Prod.fst = sys.store.users.map User.id
  signIns : ∀ signIn ∈ sys.signIns, SignInProven config sys signIn
  grants : ∀ grant ∈ sys.grants,
    grant.user.isActive = true ∧ Proven config sys grant.user.id grant.password
  sessions : (sys.grants.map Grant.sessionId).Nodup
  backed : ∀ grant ∈ sys.grants, ∃ token ∈ sys.auth.tokens, token.sessionId = grant.sessionId
  tokens : ∀ token ∈ sys.auth.tokens, Granted sys token.userId token.sessionId
  calls : ∀ call ∈ sys.auth.calls, ∀ row ∈ rowOf call, Granted sys row.userId row.sessionId
  signed : ∀ payload ∈ sys.signed, Granted sys payload.sub payload.sid

/-- `bcrypt.compare` accepts a password against each of its hashes. -/
def AcceptsOwnHash (config : SignInConfig) : Prop :=
  ∀ password salt, config.bcryptCompare password (config.bcryptHash password salt) = true

section Steps
variable {jobConfig : JobConfig} {config : SignInConfig} {sys next : SignInSystem}

theorem Proven.mono (hashes : ∀ entry ∈ sys.passwordHashes, entry ∈ next.passwordHashes)
    {userId : Id} {password : String} (proven : Proven config sys userId password) :
    Proven config next userId password := by
  obtain ⟨passwordHash, stored, agrees⟩ := proven
  exact ⟨passwordHash, hashes _ stored, agrees⟩

theorem SignInProven.mono (hashes : ∀ entry ∈ sys.passwordHashes, entry ∈ next.passwordHashes)
    {signIn : SignIn} (proven : SignInProven config sys signIn) :
    SignInProven config next signIn := by
  cases signIn with
  | registering input passwordHash => exact proven
  | comparing input found => exact fun row read => hashes _ (proven row read)
  | issuing user password => exact ⟨proven.1, proven.2.mono hashes⟩

theorem refreshedPayload_row {before after : AuthSystem} {action : AuthAction}
    {payload : AccessTokenPayload} (given : payload ∈ refreshedPayload before after action) :
    ∃ call ∈ before.calls, ∃ row ∈ rowOf call, payload = ⟨row.userId, row.sessionId⟩ := by
  unfold refreshedPayload at given
  split at given
  · split at given
    next row new now found =>
      split at given
      · obtain rfl := Option.some.inj given
        exact ⟨_, List.mem_of_getElem? found, row, rfl, rfl⟩
      · simp at given
    · simp at given
  · simp at given

/-- The statement that issues a session to an account whose password was given. -/
theorem CredentialInvariant.issue (inv : CredentialInvariant config sys) {k : Nat}
    {sessionId : Id} {user : User} {password : String} {token : RefreshToken}
    (found : sys.signIns[k]? = some (.issuing user password))
    (new : ∀ stored ∈ sys.auth.tokens, stored.sessionId ≠ sessionId)
    (owner : token.userId = user.id) (session : token.sessionId = sessionId) :
    CredentialInvariant config { sys with
      signIns := sys.signIns.eraseIdx k
      auth := { sys.auth with tokens := sys.auth.tokens ++ [token] }
      grants := sys.grants ++ [⟨sessionId, user, password⟩]
      signed := sys.signed ++ [⟨user.id, sessionId⟩] } := by
  have proven := inv.signIns _ (List.mem_of_getElem? found)
  have later : ∀ userId other, Granted sys userId other →
      ∃ grant ∈ sys.grants ++ [⟨sessionId, user, password⟩],
        grant.user.id = userId ∧ grant.sessionId = other := by
    rintro userId other ⟨grant, member, same⟩
    exact ⟨grant, List.mem_append_left _ member, same⟩
  have own : ∃ grant ∈ sys.grants ++ [⟨sessionId, user, password⟩],
      grant.user.id = user.id ∧ grant.sessionId = sessionId :=
    ⟨_, List.mem_append_right _ (List.mem_singleton_self _), rfl, rfl⟩
  refine ⟨inv.ids, inv.hashed, ?_, ?_, ?_, ?_, ?_, ?_, ?_⟩
  · exact fun other member => inv.signIns other (List.mem_of_mem_eraseIdx member)
  · intro grant member
    rcases List.mem_append.mp member with old | last
    · exact inv.grants grant old
    · obtain rfl := List.mem_singleton.mp last
      exact proven
  · rw [List.map_append, List.map_singleton]
    refine List.nodup_append.mpr ⟨inv.sessions, List.nodup_singleton _, ?_⟩
    intro other old last same equal
    obtain ⟨grant, member, rfl⟩ := List.mem_map.mp old
    obtain ⟨stored, kept, session⟩ := inv.backed grant member
    -- the session of an earlier grant still has a token
    exact new stored kept (session.trans (equal.trans (List.mem_singleton.mp same)))
  · intro grant member
    rcases List.mem_append.mp member with old | last
    · obtain ⟨stored, kept, same⟩ := inv.backed grant old
      exact ⟨stored, List.mem_append_left _ kept, same⟩
    · obtain rfl := List.mem_singleton.mp last
      exact ⟨token, List.mem_append_right _ (List.mem_singleton_self _), session⟩
  · intro stored member
    rcases List.mem_append.mp member with old | last
    · exact later _ _ (inv.tokens stored old)
    · rw [List.mem_singleton.mp last, owner, session]
      exact own
  · exact fun call member row read => later _ _ (inv.calls call member row read)
  · intro payload member
    rcases List.mem_append.mp member with old | last
    · exact later _ _ (inv.signed payload old)
    · obtain rfl := List.mem_singleton.mp last
      exact own

theorem CredentialInvariant.step (accepts : AcceptsOwnHash config) {action : SignInAction}
    (inv : CredentialInvariant config sys)
    (stepped : signInStep jobConfig config sys action = some next) :
    CredentialInvariant config next := by
  -- what most steps do to the sign-ins: one goes, or one comes in
  have erased (k : Nat) : ∀ signIn ∈ sys.signIns.eraseIdx k, SignInProven config sys signIn :=
    fun other member => inv.signIns other (List.mem_of_mem_eraseIdx member)
  have appended {signIn : SignIn} (proven : SignInProven config sys signIn) :
      ∀ other ∈ sys.signIns ++ [signIn], SignInProven config sys other := by
    intro other member
    rcases List.mem_append.mp member with old | last
    · exact inv.signIns other old
    · exact List.mem_singleton.mp last ▸ proven
  cases signInStep_effect stepped with
  | refused => exact inv
  | served _ inner after moved bearer =>
    have ids : after.store.users.map User.id = sys.store.users.map User.id :=
      (noteStep_users moved).column User.id fun event => congrArg Prod.fst event.identity
    exact ⟨ids ▸ inv.ids, inv.hashed.trans ids.symm, inv.signIns, inv.grants, inv.sessions,
      inv.backed, inv.tokens, inv.calls, inv.signed⟩
  | began input salt =>
    exact ⟨inv.ids, inv.hashed, appended (accepts _ _), inv.grants, inv.sessions, inv.backed,
      inv.tokens, inv.calls, inv.signed⟩
  | created k id now input passwordHash found free =>
    have more : ∀ entry ∈ sys.passwordHashes, entry ∈ sys.passwordHashes ++ [(id, passwordHash)] :=
      fun entry member => List.mem_append_left _ member
    refine ⟨?_, ?_, ?_, fun grant member => ?_, inv.sessions, inv.backed, inv.tokens, inv.calls,
      inv.signed⟩
    · change ((sys.store.users ++ [newUser input id now]).map User.id).Nodup
      rw [List.map_append, List.map_singleton]
      refine List.nodup_append.mpr ⟨inv.ids, List.nodup_singleton _, ?_⟩
      intro other old last same equal
      obtain ⟨user, member, rfl⟩ := List.mem_map.mp old
      exact (free user member).1 (equal.trans (List.mem_singleton.mp same))
    · change (sys.passwordHashes ++ [(id, passwordHash)]).map Prod.fst =
        (sys.store.users ++ [newUser input id now]).map User.id
      rw [List.map_append, List.map_append, inv.hashed]
      rfl
    · intro signIn member
      rcases Pool.mem_set member with rfl | old
      · have agrees := inv.signIns _ (List.mem_of_getElem? found)
        exact ⟨rfl, passwordHash, List.mem_append_right _ (List.mem_singleton_self _), agrees⟩
      · exact (inv.signIns signIn old).mono more
    · exact ⟨(inv.grants grant member).1, (inv.grants grant member).2.mono more⟩
  | taken k id now input passwordHash =>
    exact ⟨inv.ids, inv.hashed, erased k, inv.grants, inv.sessions, inv.backed, inv.tokens,
      inv.calls, inv.signed⟩
  | looked input found read =>
    exact ⟨inv.ids, inv.hashed, appended fun row member => (read row member).2.2, inv.grants,
      inv.sessions, inv.backed, inv.tokens, inv.calls, inv.signed⟩
  | matched k input user passwordHash found active agrees =>
    refine ⟨inv.ids, inv.hashed, fun signIn member => ?_, inv.grants, inv.sessions, inv.backed,
      inv.tokens, inv.calls, inv.signed⟩
    rcases Pool.mem_set member with rfl | old
    · have known := inv.signIns _ (List.mem_of_getElem? found)
      exact ⟨active, passwordHash, known _ rfl, agrees⟩
    · exact inv.signIns signIn old
  | issued k sessionId id token now user password found new =>
    exact inv.issue found new rfl rfl
  | auth action after other moved =>
    obtain ⟨tokens, calls⟩ := authStep_owners (Granted sys) other inv.tokens inv.calls
      moved
    refine ⟨inv.ids, inv.hashed, inv.signIns, inv.grants, inv.sessions, fun grant member => ?_,
      tokens, calls, fun payload member => ?_⟩
    · obtain ⟨token, stored, session⟩ := inv.backed grant member
      obtain ⟨kept, remains, same⟩ := authStep_sessions moved stored
      exact ⟨kept, remains, same.trans session⟩
    · rcases List.mem_append.mp member with old | last
      · exact inv.signed payload old
      · obtain ⟨call, among, row, read, rfl⟩ := refreshedPayload_row (Option.mem_toList.mp last)
        exact inv.calls call among row read
  | dropped k =>
    exact ⟨inv.ids, inv.hashed, erased k, inv.grants, inv.sessions, inv.backed, inv.tokens,
      inv.calls, inv.signed⟩

theorem CredentialInvariant.boot {start : Store} {issued : List Id}
    {passwordHashes : List (Id × String)} (ids : (start.users.map User.id).Nodup)
    (hashed : passwordHashes.map Prod.fst = start.users.map User.id) :
    CredentialInvariant config (SignInSystem.boot start issued passwordHashes) := by
  have none {T : Type} {holds : T → Prop} : ∀ other ∈ ([] : List T), holds other :=
    List.forall_mem_nil holds
  exact ⟨ids, hashed, none, none, List.nodup_nil, none, none, none, none⟩

variable {start : Store} {issued : List Id} {passwordHashes : List (Id × String)}
  {allowed : SignInSystem → SignInAction → Prop}

theorem reached_credentials (accepts : AcceptsOwnHash config)
    (ids : (start.users.map User.id).Nodup)
    (hashed : passwordHashes.map Prod.fst = start.users.map User.id)
    (reached : Machine.Reaches (signInStep jobConfig config) allowed
      (SignInSystem.boot start issued passwordHashes) sys) : CredentialInvariant config sys :=
  reached.invariant (CredentialInvariant config) (.boot ids hashed)
    fun _ _ _ _ inv _ stepped => inv.step accepts stepped

end Steps

/-! ### Whom a request is served as -/

/-- Nobody but the service makes access tokens: what verifies was given out by it. -/
def Genuine (config : SignInConfig) (sys : SignInSystem) (header : Option String) (now : Date) :
    Prop :=
  ∀ payload, Presents config header now payload → payload ∈ sys.signed

/-- Every session is one account's and began with a password that the account's hash accepts; every
refresh token and every access token of the session names that account; and an accepted request acts
as an active account of such a session, with the role and the clearance the account has now. -/
theorem sessions_begin_with_passwords (jobConfig : JobConfig) (config : SignInConfig)
    (accepts : AcceptsOwnHash config) (start : Store) (issued : List Id)
    (passwordHashes : List (Id × String)) (ids : (start.users.map User.id).Nodup)
    (hashed : passwordHashes.map Prod.fst = start.users.map User.id) (sys : SignInSystem)
    (reached : Machine.Reaches (signInStep jobConfig config) Machine.anyAction
      (SignInSystem.boot start issued passwordHashes) sys) :
    (sys.grants.map Grant.sessionId).Nodup ∧
    (∀ grant ∈ sys.grants, grant.user.isActive = true ∧
      ∃ passwordHash, sys.hashOf grant.user.id = some passwordHash ∧
        config.bcryptCompare grant.password passwordHash = true) ∧
    (∀ token ∈ sys.auth.tokens, Granted sys token.userId token.sessionId) ∧
    (∀ payload ∈ sys.signed, Granted sys payload.sub payload.sid) ∧
    ∀ header now actor sessionId, Genuine config sys header now →
      authenticateHeader config sys.store header now = .ok (actor, sessionId) →
      Granted sys actor.id sessionId ∧
        ∃ user ∈ sys.store.users, user.isActive = true ∧
          actor = ⟨user.id, user.role, user.clearanceLevel⟩ := by
  have inv := reached_credentials accepts ids hashed reached
  refine ⟨inv.sessions, fun grant member => ?_, inv.tokens, inv.signed, ?_⟩
  · obtain ⟨active, passwordHash, stored, agrees⟩ := inv.grants grant member
    refine ⟨active, passwordHash, ?_, agrees⟩
    have keys : (sys.passwordHashes.map Prod.fst).Nodup := inv.hashed ▸ inv.ids
    have found := (Scope.find?_eq_some_iff_mem keys (·.1 = grant.user.id) grant.user.id
      (fun _ same => by simpa using same) (grant.user.id, passwordHash)).mpr ⟨stored, by simp⟩
    simp [SignInSystem.hashOf, found]
  · intro header now actor sessionId genuine accepted
    obtain ⟨presented, authenticated⟩ := authenticateHeader_ok accepted
    obtain ⟨user, stored, _, active, same⟩ := authenticate_named authenticated
    exact ⟨inv.signed _ (genuine _ presented), user, stored, active, same⟩

def sampleSignIn : SignInConfig where
  sha256 text := "sha256:" ++ text
  refreshTokenTtlMs := 604800000
  bcryptHash password salt := salt ++ ":" ++ password
  bcryptCompare password passwordHash := (':' :: password.toList).isSuffixOf passwordHash.toList
  dummyHash := "salt:no-such-user-placeholder"
  signAccessToken payload _ := payload.sub ++ "." ++ payload.sid
  verifyAccessToken token _ :=
    if token = "ann.s1" then .ok ⟨"ann", "s1"⟩
    else if token = "admin.s0" then .ok ⟨"admin", "s0"⟩
    else .error .invalid

theorem sampleSignIn_accepts : AcceptsOwnHash sampleSignIn := by
  intro password salt
  simp only [sampleSignIn, List.isSuffixOf_iff_suffix, String.toList_append]
  exact ⟨salt.toList, by simp⟩

def sampleRegistration (displayName : String) (bounds : jsTrim displayName = displayName ∧
    1 ≤ jsLength displayName ∧ jsLength displayName ≤ 120) : RegisterRequest :=
  ⟨"ann@example.com", "correct horse", ⟨displayName, bounds.1, bounds.2.1, bounds.2.2⟩⟩

/-- Ann registers twice at once, and the second insert comes too late. -/
def annRegisters : List SignInAction :=
  [.register (sampleRegistration "Ann" (by decide)) "salt",
    .register (sampleRegistration "Ann again" (by decide)) "pepper", .createUser 0 "ann" 1,
    .createUser 1 "annie" 2, .issueSession 0 "s1" "t1" "secret" 3]

theorem sessions_begin_with_passwords_sample :
    ∃ sys, Machine.exec (signInStep sampleConfig sampleSignIn) (fun _ _ => true)
        (SignInSystem.boot staffedStore []
          [("admin", "salt:admin"), ("investigator", "salt:investigator")]) annRegisters =
        some sys ∧
      (authenticateHeader sampleSignIn sys.store (some "Bearer ann.s1") 4).toOption =
        some (⟨"ann", .reporter, 1⟩, "s1") ∧
      Granted sys "ann" "s1" := by
  have ran : ((Machine.exec (signInStep sampleConfig sampleSignIn) (fun _ _ => true)
      (SignInSystem.boot staffedStore []
        [("admin", "salt:admin"), ("investigator", "salt:investigator")]) annRegisters).bind
        fun sys => (authenticateHeader sampleSignIn sys.store (some "Bearer ann.s1") 4).toOption.map
          fun accepted => (accepted, sys.signed)) =
      some ((⟨"ann", .reporter, 1⟩, "s1"), [⟨"ann", "s1"⟩]) := by decide +kernel
  obtain ⟨sys, executed, ran⟩ := Option.bind_eq_some_iff.mp ran
  obtain ⟨accepted, known, same⟩ := Option.map_eq_some_iff.mp ran
  obtain ⟨rfl, signed⟩ := Prod.mk.inj same
  refine ⟨sys, executed, known, ?_⟩
  refine ((sessions_begin_with_passwords sampleConfig sampleSignIn sampleSignIn_accepts
    staffedStore [] [("admin", "salt:admin"), ("investigator", "salt:investigator")] (by decide)
    (by decide) sys (Machine.reaches_of_exec (fun _ _ => true) (fun _ _ _ => trivial) _ _ _
      executed)).2.2.2.2 (some "Bearer ann.s1") 4 _ _ ?_ (eq_ok_of_toOption known)).1
  rintro payload ⟨token, carried, verified⟩
  obtain rfl : token = "ann.s1" := Option.some.inj (carried.symm.trans (by decide +kernel))
  obtain rfl := Except.ok.inj verified
  simp [signed]

/-! ### Addresses -/

theorem count_newUser {users : List User} {input : RegisterRequest} {id : Id} {now : Date}
    (free : ∀ user ∈ users, user.email ≠ input.email) :
    (users ++ [newUser input id now]).countP (·.email = input.email) = 1 := by
  rw [List.countP_append, List.countP_eq_zero.mpr fun user member => by
    simpa using free user member]
  simp [newUser]

section Addresses
variable {jobConfig : JobConfig} {config : SignInConfig} {sys next : SignInSystem}

theorem signInStep_addresses {action : SignInAction}
    (distinct : (sys.store.users.map User.email).Nodup)
    (stepped : signInStep jobConfig config sys action = some next) :
    (next.store.users.map User.email).Nodup := by
  cases signInStep_effect stepped with
  | served _ inner after moved bearer =>
    have emails : after.store.users.map User.email = sys.store.users.map User.email :=
      (noteStep_users moved).column User.email fun event => congrArg Prod.snd event.identity
    exact emails ▸ distinct
  | created k id now input passwordHash found free =>
    change ((sys.store.users ++ [newUser input id now]).map User.email).Nodup
    rw [List.map_append, List.map_singleton]
    refine List.nodup_append.mpr ⟨distinct, List.nodup_singleton _, ?_⟩
    intro other old last same equal
    obtain ⟨user, member, rfl⟩ := List.mem_map.mp old
    exact (free user member).2 (equal.trans (List.mem_singleton.mp same))
  | _ => exact distinct

end Addresses

/-- However many registrations run at once, with whatever else: no address has two accounts. After
the insert of a registration exactly one account has its address; the registration is refused
exactly if one had it before, and then nothing has changed; no earlier account or hash is
touched. -/
theorem one_account_per_address (jobConfig : JobConfig) (config : SignInConfig) (start : Store)
    (issued : List Id) (passwordHashes : List (Id × String))
    (distinct : (start.users.map User.email).Nodup) (sys : SignInSystem)
    (reached : Machine.Reaches (signInStep jobConfig config) Machine.anyAction
      (SignInSystem.boot start issued passwordHashes) sys) :
    (sys.store.users.map User.email).Nodup ∧
    ∀ (k : Nat) (id : Id) (now : Date) (input : RegisterRequest) (passwordHash : String),
      sys.signIns[k]? = some (.registering input passwordHash) →
      (∀ user ∈ sys.store.users, user.id ≠ id) →
      ∃ next, signInStep jobConfig config sys (.createUser k id now) = some next ∧
        next.store.users.countP (·.email = input.email) = 1 ∧
        (createUser sys input passwordHash id now = .error EmailAlreadyExistsError ↔
          ∃ user ∈ sys.store.users, user.email = input.email) ∧
        ((∃ user ∈ sys.store.users, user.email = input.email) →
          next.store = sys.store ∧ next.passwordHashes = sys.passwordHashes) ∧
        ((¬ ∃ user ∈ sys.store.users, user.email = input.email) →
          next.store.users = sys.store.users ++ [newUser input id now] ∧
          next.passwordHashes = sys.passwordHashes ++ [(id, passwordHash)]) := by
  have emails : (sys.store.users.map User.email).Nodup :=
    reached.invariant (fun sys => (sys.store.users.map User.email).Nodup) distinct
      fun _ _ _ _ inv _ stepped => signInStep_addresses inv stepped
  refine ⟨emails, fun k id now input passwordHash found unused => ?_⟩
  -- The address is taken, and `P2002` refuses, or it is free, and the new row is its only one.
  by_cases held : ∃ user ∈ sys.store.users, user.email = input.email
  · obtain ⟨user, stored, same⟩ := held
    have refused : createUser sys input passwordHash id now = .error EmailAlreadyExistsError :=
      if_pos (List.any_eq_true.mpr ⟨user, stored, by simp [same]⟩)
    refine ⟨{ sys with signIns := sys.signIns.eraseIdx k }, ?_, ?_, ⟨fun _ => ⟨user, stored, same⟩,
      fun _ => refused⟩, fun _ => ⟨rfl, rfl⟩, fun free => absurd ⟨user, stored, same⟩ free⟩
    · simp only [signInStep, found, refused]
    -- At most one account has the address by the unique index, and this one does.
    · have once := List.nodup_iff_count_le_one.mp emails input.email
      have some_ : 0 < sys.store.users.countP (·.email = input.email) :=
        List.countP_pos_iff.mpr ⟨user, stored, by simpa using same⟩
      rw [List.count, List.countP_map] at once
      have agree : sys.store.users.countP ((· == input.email) ∘ User.email) =
          sys.store.users.countP (·.email = input.email) :=
        List.countP_congr fun other _ => by simp
      change sys.store.users.countP (·.email = input.email) = 1
      omega
  · have free : ∀ user ∈ sys.store.users, user.email ≠ input.email :=
      fun user stored same => held ⟨user, stored, same⟩
    have clear : ¬ sys.store.users.any (fun user => user.id = id || user.email = input.email) := by
      intro clash
      obtain ⟨user, stored, either⟩ := List.any_eq_true.mp clash
      -- `P2002` would name the id or the address: the one is new, the other free.
      rcases (by simpa using either : user.id = id ∨ user.email = input.email) with same | same
      · exact unused user stored same
      · exact free user stored same
    have created : createUser sys input passwordHash id now = .ok { sys with
        rest := sys.rest.withStore
          { sys.store with users := sys.store.users ++ [newUser input id now] }
        passwordHashes := sys.passwordHashes ++ [(id, passwordHash)] } := if_neg clear
    refine ⟨{ sys with
      rest := sys.rest.withStore
        { sys.store with users := sys.store.users ++ [newUser input id now] }
      passwordHashes := sys.passwordHashes ++ [(id, passwordHash)]
      signIns := sys.signIns.set k (.issuing (newUser input id now) input.password) }, ?_,
      count_newUser free, by simp [created, held], fun has => absurd has held,
      fun _ => ⟨rfl, rfl⟩⟩
    simp only [signInStep, found, created]

/-- The address and the hash of a registration whose insert is next. -/
def registeringAs : SignIn → Option (String × String)
  | .registering input passwordHash => some (input.email, passwordHash)
  | _ => none

theorem one_account_per_address_sample :
    ∃ sys, Machine.exec (signInStep sampleConfig sampleSignIn) (fun _ _ => true)
        (SignInSystem.boot staffedStore [] []) (annRegisters.take 3) = some sys ∧
      ∃ next, signInStep sampleConfig sampleSignIn sys (.createUser 1 "annie" 2) = some next ∧
        next.store.users.countP (·.email = "ann@example.com") = 1 := by
  have ran : (Machine.exec (signInStep sampleConfig sampleSignIn) (fun _ _ => true)
      (SignInSystem.boot staffedStore [] []) (annRegisters.take 3)).map
        (fun sys => (sys.store.users.map User.id, sys.signIns[1]?.bind registeringAs)) =
      some (["admin", "investigator", "ann"],
        some ("ann@example.com", "pepper:correct horse")) := by decide +kernel
  obtain ⟨sys, executed, same⟩ := Option.map_eq_some_iff.mp ran
  obtain ⟨users, pending⟩ := Prod.mk.inj same
  refine ⟨sys, executed, ?_⟩
  obtain ⟨signIn, found, pending⟩ := Option.bind_eq_some_iff.mp pending
  unfold registeringAs at pending
  split at pending
  next input passwordHash =>
    obtain ⟨address, _⟩ := Prod.mk.inj (Option.some.inj pending)
    obtain ⟨next, stepped, once, _⟩ := (one_account_per_address sampleConfig sampleSignIn
      staffedStore [] [] (by decide) sys (Machine.reaches_of_exec (fun _ _ => true)
        (fun _ _ _ => trivial) _ _ _ executed)).2 1 "annie" 2 input passwordHash found (by
          intro user stored same
          -- Three accounts are there, and none of them has the new id.
          have among : "annie" ∈ sys.store.users.map User.id :=
            same ▸ List.mem_map_of_mem stored
          rw [users] at among
          simp at among)
    exact ⟨next, stepped, address ▸ once⟩
  · simp at pending

end IncidentApi.Properties
