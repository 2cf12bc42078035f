import IncidentApi.Concurrency

/-!
# Changing a role or a status

`changeRole` and `changeStatus` of `admin.service.ts`, and the machine in which any number of them
runs among everything else. Each reads its target first. Its transaction locks the active
administrators and counts them if the target it read was one and is to be one no longer, and then
updates the user.
-/
namespace IncidentApi

/-! ### The two operations -/

inductive AccountChange where
  | role (role : Role)
  | status (isActive : Bool)

/-- What `updateUserRole` and `updateUserStatus` write. -/
def AccountChange.write (user : User) : AccountChange → User
  | .role newRole => { user with role := newRole }
  | .status isActive => { user with isActive := isActive }

/-- The early return: the target has this role or status already. -/
def AccountChange.isNoop (target : User) : AccountChange → Bool
  | .role newRole => target.role = newRole
  | .status isActive => target.isActive = isActive

/-- The condition of the last-admin check. -/
def AccountChange.removesAdmin (target : User) : AccountChange → Bool
  | .role newRole => target.role = .admin && target.isActive && newRole ≠ .admin
  | .status isActive => target.role = .admin && target.isActive && !isActive

def updateUser (store : Store) (id : Id) (change : AccountChange) : Except AppError Store :=
  if store.users.any (·.id = id) then
    .ok { store with
      users := store.users.map fun user => if user.id = id then change.write user else user }
  else .error InternalError

def updateUserRole (store : Store) (id : Id) (role : Role) : Except AppError Store :=
  updateUser store id (.role role)

def updateUserStatus (store : Store) (id : Id) (isActive : Bool) : Except AppError Store :=
  updateUser store id (.status isActive)

/-- `role = 'ADMIN' AND "isActive" = true`. -/
def isActiveAdmin (user : User) : Bool := user.role = .admin && user.isActive

/-- The rows a `SELECT` of the active administrators matches. -/
def activeAdminIds (store : Store) : List Id := (store.users.filter isActiveAdmin).map (·.id)

/-- What `activeAdminIdsForUpdate` answers for the rows its snapshot matched: `FOR UPDATE` checks
the condition again on each once it has the lock. -/
def activeAdminIdsForUpdate (store : Store) (matched : List Id) : List Id :=
  (activeAdminIds store).filter (· ∈ matched)

def isLastAdmin (adminIds : List Id) (targetId : Id) : Bool :=
  adminIds.length ≤ 1 && targetId ∈ adminIds

def roleRecord (actor : Actor) (target : User) (role : Role) (now : Date) :
    CreateAuditEventInput where
  actorId := some actor.id
  type := .userRoleChanged
  fromValue := some target.role.text
  toValue := some role.text
  payload := some [("targetUserId", .str target.id),
    ("targetDisplayName", .str target.displayName)]
  occurredAt := now

/-- Where the transaction of a change stands. -/
inductive AccountPhase where
  /-- `SELECT … FOR UPDATE` is next. -/
  | checking
  /-- It has taken its snapshot. -/
  | counting (matched : List Id)
  /-- The update is next; `locked` are the rows that the count answered. -/
  | writing (locked : List Id)
  deriving DecidableEq

/-- A `changeRole` or `changeStatus` past the read of its target. -/
structure AccountRequest where
  actor : Actor
  target : User
  change : AccountChange
  phase : AccountPhase

def AccountRequest.start (actor : Actor) (target : User) (change : AccountChange) :
    Option AccountRequest :=
  if change.isNoop target then none
  else some ⟨actor, target, change, if change.removesAdmin target then .checking else .writing []⟩

/-- `changeRole` up to its transaction; `none` is its early return. -/
def loadRole (store : Store) (userId targetId : Id) (role : Role) :
    Except AppError (Option AccountRequest) := do
  let actor ← authenticate store userId
  authorizeRole [.admin] actor
  assertNotSelf actor targetId
  let target ← loadTargetOrThrow store targetId
  return AccountRequest.start actor target (.role role)

/-- `changeStatus` up to its transaction: an administrator may name themselves. -/
def loadStatus (store : Store) (userId targetId : Id) (isActive : Bool) :
    Except AppError (Option AccountRequest) := do
  let actor ← authenticate store userId
  authorizeRole [.admin] actor
  let target ← loadTargetOrThrow store targetId
  return AccountRequest.start actor target (.status isActive)

def loadAccount (store : Store) (userId targetId : Id) :
    AccountChange → Except AppError (Option AccountRequest)
  | .role role => loadRole store userId targetId role
  | .status isActive => loadStatus store userId targetId isActive

/-- The update and what follows it in the transaction: only a role change is audited. -/
def AccountRequest.commit (store : Store) (request : AccountRequest) (now : Date)
    (ids : Nat → Id) : Except AppError Store :=
  match request.change with
  | .role role => do
    let updated ← updateUserRole store request.target.id role
    return updated.record [roleRecord request.actor request.target role now] ids
  | .status isActive => updateUserStatus store request.target.id isActive

/-! ### Among everything else -/

structure AccountSystem where
  service : System
  changes : List AccountRequest

inductive AccountAction where
  | service (action : Action)
  | load (userId targetId : Id) (change : AccountChange)
  /-- The next statement of a change. -/
  | statement (k : Nat) (now : Date) (ids : Nat → Id)
  | interrupt (k : Nat)

/-- The user rows that a transaction holds. -/
def AccountRequest.locks (request : AccountRequest) : List Id :=
  match request.phase with
  | .writing locked => locked
  | _ => []

def AccountSystem.othersLocks (sys : AccountSystem) (k : Nat) : List Id :=
  (sys.changes.eraseIdx k).flatMap AccountRequest.locks

/-- A `changeClearance` that changes the level waits for the row of its user. -/
def AccountSystem.clearanceWaits (sys : AccountSystem) : Action → Bool
  | .commitClearance k _ _ _ =>
    (sys.service.clearances[k]?).any fun request =>
      request.target.clearanceLevel ≠ request.clearance.level &&
        request.target.id ∈ sys.changes.flatMap AccountRequest.locks
  | _ => false

/-- The next statement of change `k`; `none` means that it waits for a lock. -/
def changeStep (sys : AccountSystem) (k : Nat) (request : AccountRequest) (now : Date)
    (ids : Nat → Id) : Option AccountSystem :=
  let continue_ (phase : AccountPhase) : Option AccountSystem :=
    some { sys with changes := sys.changes.set k { request with phase := phase } }
  let answered : AccountSystem := { sys with changes := sys.changes.eraseIdx k }
  match request.phase with
  | .checking => continue_ (.counting (activeAdminIds sys.service.store))
  | .counting matched =>
    if matched.any (· ∈ sys.othersLocks k) then none
    else
      let adminIds := activeAdminIdsForUpdate sys.service.store matched
      -- `LastAdminError`
      if isLastAdmin adminIds request.target.id then some answered
      else continue_ (.writing adminIds)
  | .writing _ =>
    if request.target.id ∈ sys.othersLocks k then none
    else
      match request.commit sys.service.store now ids with
      | .ok store => some { answered with service := { sys.service with store := store } }
      | .error _ => some answered

def accountStep (config : JobConfig) (sys : AccountSystem) : AccountAction → Option AccountSystem
  | .service action =>
    if sys.clearanceWaits action then none
    else (step config sys.service action).map fun service => { sys with service := service }
  | .load userId targetId change =>
    match loadAccount sys.service.store userId targetId change with
    | .ok request => some { sys with changes := sys.changes ++ request.toList }
    | .error _ => some sys
  | .statement k now ids =>
    (sys.changes[k]?).bind fun request => changeStep sys k request now ids
  | .interrupt k =>
    (sys.changes[k]?).map fun _ => { sys with changes := sys.changes.eraseIdx k }

def AccountSystem.boot (store : Store) (issued : List Id) : AccountSystem :=
  ⟨.boot store issued, []⟩

end IncidentApi
