import IncidentApi.Properties.Actors
import IncidentApi.Properties.Families

/-!
# What a step does to accounts and credentials

A request is served to the subject of its token. An account comes in with an unused id and an unused
address, as a reporter of clearance 1, and afterwards only the statements of an administrator's
request write to it; its address and its password hash stay.
-/
namespace IncidentApi.Properties

/-! ### Accounts -/

/-- What a step of the rest of the service can do to one account. -/
inductive UserEvent (sys : NoteSystem) (after : Store) (old : User) : User → Prop
  | kept : UserEvent sys after old old
  | leveled (request : ClearanceRequest) (now : Date) (rowId : Id)
      (pending : request ∈ sys.service.clearances) (own : old.id = request.target.id)
      (logged : (clearanceRecord request.actor request.target request.clearance now).row rowId ∈
        after.auditEvents) :
      UserEvent sys after old { old with clearanceLevel := request.clearance.level }
  | promoted (request : AccountRequest) (role : Role) (now : Date) (rowId : Id)
      (pending : request ∈ sys.accounts.changes) (own : old.id = request.target.id)
      (isRole : request.change = .role role)
      (logged : (roleRecord request.actor request.target role now).row rowId ∈ after.auditEvents) :
      UserEvent sys after old { old with role := role }
  | switched (isActive : Bool) : UserEvent sys after old { old with isActive := isActive }

theorem UserEvent.identity {sys : NoteSystem} {after : Store} {old new : User}
    (event : UserEvent sys after old new) : (new.id, new.email) = (old.id, old.email) := by
  cases event <;> rfl

theorem cascadeAll_tables {actor : Actor} {targetId : Id} {now wall : Date} {ids : Nat → Nat → Id}
    {affected : List AssignedIncidentRow} {index : Nat} {store after : Store}
    (committed : cascadeAll actor targetId now wall ids affected index store = .ok after) :
    after.users = store.users ∧ ∀ row ∈ store.auditEvents, row ∈ after.auditEvents := by
  obtain ⟨rows, rfl, _⟩ := cascadeAll_ok committed
  exact ⟨rfl, fun row member => List.mem_append_left _ member⟩

theorem commitClearance_users {store after : Store} {actor : Actor} {target : User}
    {clearance : ClearanceLevel} {affected : List AssignedIncidentRow} {now wall : Date}
    {ids : Nat → Nat → Id}
    (committed : commitClearance store actor target clearance affected now wall ids = .ok after) :
    after.users = store.users.map (fun user =>
      if user.id = target.id then { user with clearanceLevel := clearance.level } else user) ∧
    ∃ rowId, (clearanceRecord actor target clearance now).row rowId ∈ after.auditEvents := by
  obtain ⟨updated, found, cascading⟩ := bind_ok committed
  obtain rfl := updateUserClearance_ok found
  obtain ⟨users, kept⟩ := cascadeAll_tables cascading
  obtain ⟨i, recorded⟩ := exists_auditRow
    (List.mem_singleton_self (clearanceRecord actor target clearance now)) (ids 0)
  exact ⟨users, _, kept _ (List.mem_append_right _ recorded)⟩

theorem accountCommit_users {store after : Store} {request : AccountRequest} {now : Date}
    {ids : Nat → Id} (committed : request.commit store now ids = .ok after) :
    after.users = written request store.users ∧
      ∀ role, request.change = .role role →
        ∃ rowId, (roleRecord request.actor request.target role now).row rowId ∈
          after.auditEvents := by
  unfold AccountRequest.commit at committed
  cases isChange : request.change with
  | role newRole =>
    rw [isChange] at committed
    obtain ⟨updated, done, last⟩ := bind_ok committed
    obtain rfl := Except.ok.inj last
    unfold updateUserRole updateUser at done
    split at done
    · obtain rfl := Except.ok.inj done
      refine ⟨by rw [written, isChange]; rfl, fun role same => ?_⟩
      obtain rfl := AccountChange.role.inj same
      -- The row of the log is written in the transaction of the update.
      obtain ⟨i, recorded⟩ := exists_auditRow
        (List.mem_singleton_self (roleRecord request.actor request.target newRole now)) ids
      exact ⟨_, List.mem_append_right _ recorded⟩
    · simp at done
  | status isActive =>
    rw [isChange] at committed
    unfold updateUserStatus updateUser at committed
    simp only at committed
    split at committed
    · obtain rfl := Except.ok.inj committed
      refine ⟨by rw [written, isChange], ?_⟩
      rintro _ ⟨⟩
    · simp at committed

/-- The accounts after a step of the rest of the service, each from the one of its id. -/
def UsersFollow (sys : NoteSystem) (after : Store) : Prop :=
  ∃ change : User → User, after.users = sys.store.users.map change ∧
    ∀ user ∈ sys.store.users, UserEvent sys after user (change user)

theorem UsersFollow.same {sys : NoteSystem} {after : Store}
    (users : after.users = sys.store.users) : UsersFollow sys after :=
  ⟨id, by rw [users, List.map_id], fun _ _ => .kept⟩

theorem noteStep_users {config : JobConfig} {sys next : NoteSystem} {action : NoteAction}
    (stepped : noteStep config sys action = some next) : UsersFollow sys next.store := by
  cases noteStep_effect stepped with
  | account action accounts moved =>
    cases action with
    | service inner =>
      simp only [accountStep] at moved
      split at moved
      · simp at moved
      obtain ⟨after, taken, rfl⟩ := Option.map_eq_some_iff.mp moved
      -- Among the service's actions a commit of a clearance alone writes to the table of users.
      by_cases clearance : ∃ k now wall ids, inner = .commitClearance k now wall ids
      · obtain ⟨k, now, wall, ids, rfl⟩ := clearance
        cases step_effect rfl taken with
        | refused => exact .same rfl
        | answeredClearance => exact .same rfl
        | committedClearance k now wall ids request affected store found read free changes
            committed =>
          obtain ⟨users, rowId, logged⟩ := commitClearance_users committed
          refine ⟨_, users, fun user _ => ?_⟩
          split
          next own =>
            exact .leveled request now rowId (List.mem_of_getElem? found) own logged
          · exact .kept
      · apply UsersFollow.same
        exact step_users taken fun k now wall ids same => clearance ⟨k, now, wall, ids, same⟩
    | load userId targetId change =>
      simp only [accountStep] at moved
      split at moved <;> (obtain rfl := Option.some.inj moved; exact .same rfl)
    | statement k now ids =>
      obtain ⟨request, found, taken⟩ := Option.bind_eq_some_iff.mp moved
      rcases changeStep_acts taken with ⟨phase, rfl⟩ | rfl | ⟨store, committed, rfl⟩
      · exact .same rfl
      · exact .same rfl
      · obtain ⟨users, logged⟩ := accountCommit_users committed
        refine ⟨_, users, fun user _ => ?_⟩
        -- The statement writes one row; the others are kept.
        split
        next own =>
          cases isChange : request.change with
          | role role =>
            obtain ⟨rowId, recorded⟩ := logged role isChange
            exact .promoted request role now rowId (List.mem_of_getElem? found) own isChange
              recorded
          | status isActive => exact .switched isActive
        · exact .kept
    | interrupt k =>
      obtain ⟨request, _, rfl⟩ := Option.map_eq_some_iff.mp moved
      exact .same rfl
  | loaded => exact .same rfl
  | refused => exact .same rfl
  | written k now noteId ids request result found committed =>
    apply UsersFollow.same
    have users := congrArg Store.users (noteCommit_ok committed)
    exact users
  | dropped => exact .same rfl

theorem UsersFollow.column {T : Type} {sys : NoteSystem} {after : Store}
    (follow : UsersFollow sys after) (column : User → T)
    (kept : ∀ {old new : User}, UserEvent sys after old new → column new = column old) :
    after.users.map column = sys.store.users.map column := by
  obtain ⟨change, users, each⟩ := follow
  rw [users, List.map_map]
  exact List.map_congr_left fun user member => kept (each user member)

/-! ### Steps -/

/-- The payload that a header carries. -/
def Presents (config : SignInConfig) (header : Option String) (now : Date)
    (payload : AccessTokenPayload) : Prop :=
  ∃ token, bearerToken header = some token ∧ config.verifyAccessToken token now = .ok payload

theorem authenticateHeader_ok {config : SignInConfig} {store : Store} {header : Option String}
    {now : Date} {actor : Actor} {sessionId : Id}
    (accepted : authenticateHeader config store header now = .ok (actor, sessionId)) :
    Presents config header now ⟨actor.id, sessionId⟩ ∧ authenticate store actor.id = .ok actor := by
  unfold authenticateHeader at accepted
  split at accepted
  · simp at accepted
  next token carried =>
    split at accepted
    · simp at accepted
    · simp at accepted
    next payload verified =>
      cases authenticated : authenticate store payload.sub with
      | error refusal =>
        rw [authenticated] at accepted
        simp [Except.map] at accepted
      | ok found =>
        rw [authenticated] at accepted
        simp only [Except.map, Except.ok.injEq, Prod.mk.injEq] at accepted
        obtain ⟨rfl, rfl⟩ := accepted
        have named := authenticate_id authenticated
        exact ⟨⟨token, carried, named ▸ verified⟩, named ▸ authenticated⟩

inductive SignInEffect (jobConfig : JobConfig) (config : SignInConfig) (sys : SignInSystem) :
    SignInAction → SignInSystem → Prop
  | refused (action : SignInAction) : SignInEffect jobConfig config sys action sys
  | served (action : SignInAction) (inner : NoteAction) (after : NoteSystem)
      (stepped : noteStep jobConfig sys.rest inner = some after)
      (bearer : ∀ userId ∈ inner.userId, ∃ header now sessionId actor,
        action = .request header now inner ∧ Presents config header now ⟨userId, sessionId⟩ ∧
          authenticate sys.store userId = .ok actor) :
      SignInEffect jobConfig config sys action { sys with rest := after }
  | began (input : RegisterRequest) (salt : String) :
      SignInEffect jobConfig config sys (.register input salt)
        { sys with
          signIns := sys.signIns ++ [.registering input (config.bcryptHash input.password salt)] }
  | created (k : Nat) (id : Id) (now : Date) (input : RegisterRequest) (passwordHash : String)
      (found : sys.signIns[k]? = some (.registering input passwordHash))
      (free : ∀ user ∈ sys.store.users, user.id ≠ id ∧ user.email ≠ input.email) :
      SignInEffect jobConfig config sys (.createUser k id now)
        { sys with
          rest := sys.rest.withStore
            { sys.store with users := sys.store.users ++ [newUser input id now] }
          passwordHashes := sys.passwordHashes ++ [(id, passwordHash)]
          signIns := sys.signIns.set k (.issuing (newUser input id now) input.password) }
  | taken (k : Nat) (id : Id) (now : Date) (input : RegisterRequest) (passwordHash : String)
      (found : sys.signIns[k]? = some (.registering input passwordHash))
      (user : User) (stored : user ∈ sys.store.users)
      (clash : user.id = id ∨ user.email = input.email) :
      SignInEffect jobConfig config sys (.createUser k id now)
        { sys with signIns := sys.signIns.eraseIdx k }
  | looked (input : LoginRequest) (found : Option (User × String))
      (read : ∀ row ∈ found, row.1 ∈ sys.store.users ∧ row.1.email = input.email ∧
        (row.1.id, row.2) ∈ sys.passwordHashes) :
      SignInEffect jobConfig config sys (.login input)
        { sys with signIns := sys.signIns ++ [.comparing input found] }
  | matched (k : Nat) (input : LoginRequest) (user : User) (passwordHash : String)
      (found : sys.signIns[k]? = some (.comparing input (some (user, passwordHash))))
      (active : user.isActive = true)
      (agrees : config.bcryptCompare input.password passwordHash = true) :
      SignInEffect jobConfig config sys (.compare k)
        { sys with signIns := sys.signIns.set k (.issuing user input.password) }
  | issued (k : Nat) (sessionId id : Id) (token : String) (now : Date) (user : User)
      (password : String) (found : sys.signIns[k]? = some (.issuing user password))
      (new : ∀ stored ∈ sys.auth.tokens, stored.sessionId ≠ sessionId) :
      SignInEffect jobConfig config sys (.issueSession k sessionId id token now)
        { sys with
          signIns := sys.signIns.eraseIdx k
          auth := { sys.auth with
            tokens := sys.auth.tokens ++ [CreateRefreshTokenInput.row
              ⟨id, user.id, sessionId, config.sha256 token,
                refreshTokenExpiryDate config.toTokenConfig now⟩] }
          grants := sys.grants ++ [⟨sessionId, user, password⟩]
          signed := sys.signed ++ [⟨user.id, sessionId⟩] }
  | auth (action : AuthAction) (after : AuthSystem) (other : action.issues = false)
      (stepped : authStep config.toTokenConfig sys.auth action = some after) :
      SignInEffect jobConfig config sys (.auth action)
        { sys with
          auth := after
          signed := sys.signed ++ (refreshedPayload sys.auth after action).toList }
  | dropped (k : Nat) (action : SignInAction) :
      SignInEffect jobConfig config sys action { sys with signIns := sys.signIns.eraseIdx k }

section Effects
variable {jobConfig : JobConfig} {config : SignInConfig} {sys next : SignInSystem}

theorem createUser_effect {k : Nat} {id : Id} {now : Date}
    (stepped : signInStep jobConfig config sys (.createUser k id now) = some next) :
    SignInEffect jobConfig config sys (.createUser k id now) next := by
  simp only [signInStep] at stepped
  split at stepped
  next input passwordHash found =>
    unfold createUser at stepped
    split at stepped
    next created inserted =>
      split at inserted
      · simp at inserted
      next free =>
        obtain rfl := Except.ok.inj inserted
        obtain rfl := Option.some.inj stepped
        refine .created k id now input passwordHash found fun user stored => ?_
        constructor <;> intro same <;>
          exact free (List.any_eq_true.mpr ⟨user, stored, by simp [same]⟩)
    next refusal inserted =>
      obtain rfl := Option.some.inj stepped
      split at inserted
      next clash =>
        obtain ⟨user, stored, either⟩ := List.any_eq_true.mp clash
        exact .taken k id now input passwordHash found user stored (by simpa using either)
      · simp at inserted
  · simp at stepped

theorem checkPassword_ok {input : LoginRequest} {found : Option (User × String)} {user : User}
    (checked : checkPassword config input found = .ok user) :
    ∃ passwordHash, found = some (user, passwordHash) ∧ user.isActive = true ∧
      config.bcryptCompare input.password passwordHash = true := by
  cases found with
  | none => simp [checkPassword] at checked
  | some row =>
    simp only [checkPassword, Option.map_some, Option.getD_some] at checked
    split at checked
    next both =>
      obtain rfl := Except.ok.inj checked
      exact ⟨row.2, rfl, by simpa using both⟩
    · simp at checked

theorem signInStep_effect {action : SignInAction}
    (stepped : signInStep jobConfig config sys action = some next) :
    SignInEffect jobConfig config sys action next := by
  cases action with
  | request header now inner =>
    simp only [signInStep] at stepped
    split at stepped
    next actor sessionId accepted =>
      split at stepped
      next own =>
        obtain ⟨rest, moved, rfl⟩ := Option.map_eq_some_iff.mp stepped
        -- The authenticated actor is the one in whose name the inner action is done.
        refine .served _ inner rest moved fun userId named => ?_
        obtain rfl : actor.id = userId := Option.some.inj (own.symm.trans named)
        exact ⟨header, now, sessionId, actor, rfl, authenticateHeader_ok accepted⟩
      · simp at stepped
    · obtain rfl := Option.some.inj stepped
      exact .refused _
  | others inner =>
    simp only [signInStep] at stepped
    split at stepped
    next unnamed =>
      obtain ⟨rest, moved, rfl⟩ := Option.map_eq_some_iff.mp stepped
      exact .served _ inner rest moved fun userId named => by simp [unnamed] at named
    · simp at stepped
  | register input salt =>
    simp only [signInStep] at stepped
    split at stepped <;> obtain rfl := Option.some.inj stepped
    · exact .refused _
    · exact .began input salt
  | createUser k id now => exact createUser_effect stepped
  | login input =>
    obtain rfl := Option.some.inj stepped
    -- What `login` keeps for bcrypt was read in one statement: the account and its own hash.
    refine .looked input _ fun row read => ?_
    obtain ⟨user, found, hashed⟩ := Option.bind_eq_some_iff.mp read
    obtain ⟨passwordHash, known, rfl⟩ := Option.map_eq_some_iff.mp hashed
    obtain ⟨entry, stored, rfl⟩ := Option.map_eq_some_iff.mp known
    have same : entry.1 = user.id := by simpa using List.find?_some stored
    refine ⟨List.mem_of_find?_eq_some found, by simpa using List.find?_some found, ?_⟩
    exact same ▸ List.mem_of_find?_eq_some stored
  | compare k =>
    simp only [signInStep] at stepped
    split at stepped
    next input row found =>
      split at stepped <;> obtain rfl := Option.some.inj stepped
      next user checked =>
        obtain ⟨passwordHash, rfl, active, agrees⟩ := checkPassword_ok checked
        exact .matched k input user passwordHash found active agrees
      · exact .dropped k _
    · simp at stepped
  | issueSession k sessionId id token now =>
    simp only [signInStep] at stepped
    split at stepped
    next user password found =>
      split at stepped
      · simp at stepped
      next unused =>
        split at stepped <;> obtain rfl := Option.some.inj stepped
        next tokens created =>
          obtain ⟨_, rfl⟩ := createRefreshToken_ok created
          -- No stored token is of this session, which the step has checked.
          refine .issued k sessionId id token now user password found fun stored member same => ?_
          exact unused (List.any_eq_true.mpr ⟨stored, member, by simp [same]⟩)
        · exact .dropped k _
    · simp at stepped
  | auth action =>
    simp only [signInStep] at stepped
    split at stepped
    · simp at stepped
    next other =>
      obtain ⟨after, moved, rfl⟩ := Option.map_eq_some_iff.mp stepped
      exact .auth action after (by simpa using other) moved
  | interrupt k =>
    obtain ⟨_, _, rfl⟩ := Option.map_eq_some_iff.mp stepped
    exact .dropped k _

end Effects

end IncidentApi.Properties
