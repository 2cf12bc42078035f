import IncidentApi.Accounts
import IncidentApi.Properties.Assignments

/-!
# What a step does to the accounts

No incident operation touches a role or a status, and `changeClearance` writes the level alone. A
change of a role or a status locks administrators that it found active and not locked by another,
and updates its target when no other change holds that row.
-/
namespace IncidentApi.Properties

/-! ### Accounts -/

/-- The columns that decide what a user may be. -/
def accountOf (user : User) : Id × Role × Bool := (user.id, user.role, user.isActive)

/-- There is a user of that id, role and status. -/
def HasAccount (users : List User) (id : Id) (role : Role) (isActive : Bool) : Prop :=
  (id, role, isActive) ∈ users.map accountOf

theorem hasAccount_iff {users : List User} {id : Id} {role : Role} {isActive : Bool} :
    HasAccount users id role isActive ↔
      ∃ user ∈ users, user.id = id ∧ user.role = role ∧ user.isActive = isActive := by
  simp [HasAccount, accountOf]

theorem mem_activeAdminIds {store : Store} {id : Id} :
    id ∈ activeAdminIds store ↔ HasAccount store.users id .admin true := by
  rw [hasAccount_iff]
  constructor
  · intro among
    obtain ⟨user, chosen, rfl⟩ := List.mem_map.mp among
    obtain ⟨member, both⟩ := List.mem_filter.mp chosen
    simp only [isActiveAdmin, Bool.and_eq_true, decide_eq_true_eq] at both
    exact ⟨user, member, rfl, both⟩
  · rintro ⟨user, member, rfl, role, active⟩
    refine List.mem_map_of_mem (List.mem_filter.mpr ⟨member, ?_⟩)
    simp [isActiveAdmin, role, active]

/-- The update is the next statement. -/
def isWriting (request : AccountRequest) : Bool :=
  match request.phase with
  | .writing _ => true
  | _ => false

/-- The users once a change has been written. -/
def written (request : AccountRequest) (users : List User) : List User :=
  users.map fun user => if user.id = request.target.id then request.change.write user else user

theorem accountWrite_id (change : AccountChange) (user : User) :
    (change.write user).id = user.id := by
  cases change <;> rfl

theorem HasAccount.written {users : List User} {id : Id} {role : Role} {isActive : Bool}
    (account : HasAccount users id role isActive) {request : AccountRequest}
    (other : id ≠ request.target.id) : HasAccount (written request users) id role isActive := by
  rw [hasAccount_iff] at account ⊢
  obtain ⟨user, member, rfl, columns⟩ := account
  refine ⟨user, List.mem_map.mpr ⟨user, member, if_neg other⟩, rfl, columns⟩

theorem commit_ok {store after : Store} {request : AccountRequest} {now : Date} {ids : Nat → Id}
    (committed : request.commit store now ids = .ok after) :
    ∃ rows, after = { store with
      users := written request store.users
      auditEvents := store.auditEvents ++ rows } ∧ ∀ row ∈ rows, row.incidentId = none := by
  have update : ∀ {updated : Store}, updateUser store request.target.id request.change =
      .ok updated → updated = { store with users := written request store.users } := by
    intro updated done
    unfold updateUser at done
    split at done
    · exact (Except.ok.inj done).symm
    · simp at done
  unfold AccountRequest.commit at committed
  cases isChange : request.change with
  | role newRole =>
    rw [isChange] at committed update
    obtain ⟨updated, done, last⟩ := bind_ok committed
    obtain rfl := Except.ok.inj last
    obtain rfl := update done
    refine ⟨_, rfl, fun row member => ?_⟩
    obtain ⟨entry, among, rowId, rfl⟩ := auditRow_input member
    rw [List.mem_singleton.mp among]
    rfl
  | status isActive =>
    rw [isChange] at committed update
    obtain rfl := update committed
    exact ⟨[], by simp, by simp⟩

/-! ### Steps -/

/-- No action of the service touches a role or a status. -/
theorem step_accountOf {config : JobConfig} {sys next : System} {action : Action}
    (stepped : step config sys action = some next) :
    next.store.users.map accountOf = sys.store.users.map accountOf := by
  by_cases clearance : ∃ k now wall ids, action = .commitClearance k now wall ids
  · obtain ⟨k, now, wall, ids, rfl⟩ := clearance
    cases step_effect rfl stepped with
    | refused => rfl
    | answeredClearance => rfl
    | committedClearance k now wall ids request affected after found read free changes written =>
      obtain ⟨rows, rfl, _⟩ := commitClearance_ok written
      rw [List.map_map]
      apply List.map_congr_left
      intro user _
      simp only [Function.comp_apply]
      split <;> rfl
  · rw [step_users stepped]
    intro k now wall ids same
    exact clearance ⟨k, now, wall, ids, same⟩

theorem step_hasAccount {config : JobConfig} {sys next : System} {action : Action}
    (stepped : step config sys action = some next) (id : Id) (role : Role) (isActive : Bool) :
    HasAccount next.store.users id role isActive ↔ HasAccount sys.store.users id role isActive := by
  rw [HasAccount, HasAccount, step_accountOf stepped]

/-- What an action does, as far as accounts and the locks on them go. -/
inductive AccountEffect (config : JobConfig) (sys : AccountSystem) :
    AccountAction → AccountSystem → Prop
  | service (action : Action) (after : System)
      (stepped : step config sys.service action = some after) :
      AccountEffect config sys (.service action) { sys with service := after }
  | loaded (userId targetId : Id) (change : AccountChange) (request : Option AccountRequest)
      (found : loadAccount sys.service.store userId targetId change = .ok request) :
      AccountEffect config sys (.load userId targetId change)
        { sys with changes := sys.changes ++ request.toList }
  | refused (action : AccountAction) : AccountEffect config sys action sys
  | moved (k : Nat) (now : Date) (ids : Nat → Id) (request : AccountRequest)
      (phase : AccountPhase) (found : sys.changes[k]? = some request)
      (locks : ∀ id ∈ AccountRequest.locks { request with phase := phase },
        HasAccount sys.service.store.users id .admin true) :
      AccountEffect config sys (.statement k now ids)
        { sys with changes := sys.changes.set k { request with phase := phase } }
  | written (k : Nat) (now : Date) (ids : Nat → Id) (request : AccountRequest)
      (rows : List AuditEvent) (found : sys.changes[k]? = some request)
      (writes : isWriting request = true)
      (free : request.target.id ∉ sys.othersLocks k) :
      AccountEffect config sys (.statement k now ids)
        { service := { sys.service with
            store := { sys.service.store with
              users := IncidentApi.Properties.written request sys.service.store.users
              auditEvents := sys.service.store.auditEvents ++ rows } }
          changes := sys.changes.eraseIdx k }
  | dropped (k : Nat) (action : AccountAction) :
      AccountEffect config sys action { sys with changes := sys.changes.eraseIdx k }

theorem accountStep_effect {config : JobConfig} {sys next : AccountSystem}
    {action : AccountAction} (stepped : accountStep config sys action = some next) :
    AccountEffect config sys action next := by
  cases action with
  | service action =>
    simp only [accountStep] at stepped
    split at stepped
    · simp at stepped
    · obtain ⟨after, moved, rfl⟩ := Option.map_eq_some_iff.mp stepped
      exact .service action after moved
  | load userId targetId change =>
    simp only [accountStep] at stepped
    split at stepped
    next request found =>
      obtain rfl := Option.some.inj stepped
      exact .loaded userId targetId change request found
    · obtain rfl := Option.some.inj stepped
      exact .refused _
  | interrupt k =>
    obtain ⟨request, _, rfl⟩ := Option.map_eq_some_iff.mp stepped
    exact .dropped k _
  | statement k now ids =>
    obtain ⟨request, found, moved⟩ := Option.bind_eq_some_iff.mp stepped
    cases phase : request.phase with
    | checking =>
      simp only [changeStep, phase] at moved
      obtain rfl := Option.some.inj moved
      exact .moved k now ids request _ found (by simp [AccountRequest.locks])
    | counting matched =>
      simp only [changeStep, phase] at moved
      split at moved
      · simp at moved
      · split at moved
        · obtain rfl := Option.some.inj moved
          exact .dropped k _
        · obtain rfl := Option.some.inj moved
          -- what gets locked was found as an active administrator
          refine .moved k now ids request _ found ?_
          intro id locked
          exact mem_activeAdminIds.mp (List.mem_filter.mp locked).1
    | writing locked =>
      simp only [changeStep, phase] at moved
      split at moved
      · simp at moved
      next free =>
        split at moved
        next store committed =>
          obtain rfl := Option.some.inj moved
          obtain ⟨rows, rfl, _⟩ := commit_ok committed
          exact .written k now ids request rows found (by simp [isWriting, phase]) free
        · obtain rfl := Option.some.inj moved
          exact .dropped k _

/-- A change of an account leaves the requests and the runs alone and logs under no incident. -/
theorem accountStep_quiet {config : JobConfig} {sys next : AccountSystem} {action : AccountAction}
    (stepped : accountStep config sys action = some next) :
    (∃ inner, action = .service inner ∧ step config sys.service inner = some next.service) ∨
      (∀ inner, action ≠ .service inner) ∧
      ∃ store rows, next.service = { sys.service with store := store } ∧
        store.auditEvents = sys.service.store.auditEvents ++ rows ∧
        ∀ row ∈ rows, row.incidentId = none := by
  -- The steps that commit nothing log nothing.
  have idle : next.service = sys.service → ∃ store rows,
      next.service = { sys.service with store := store } ∧
        store.auditEvents = sys.service.store.auditEvents ++ rows ∧
        ∀ row ∈ rows, row.incidentId = none := by
    intro same
    exact ⟨sys.service.store, [], same, (List.append_nil _).symm, by simp⟩
  cases action with
  | service inner =>
    simp only [accountStep] at stepped
    split at stepped
    · simp at stepped
    · obtain ⟨after, moved, rfl⟩ := Option.map_eq_some_iff.mp stepped
      exact .inl ⟨inner, rfl, moved⟩
  | load userId targetId change =>
    refine .inr ⟨fun inner same => (by cases same), idle ?_⟩
    simp only [accountStep] at stepped
    split at stepped <;> rw [← Option.some.inj stepped]
  | interrupt k =>
    refine .inr ⟨fun inner same => (by cases same), idle ?_⟩
    obtain ⟨request, _, rfl⟩ := Option.map_eq_some_iff.mp stepped
    rfl
  | statement k now ids =>
    refine .inr ⟨fun inner same => (by cases same), ?_⟩
    obtain ⟨request, found, moved⟩ := Option.bind_eq_some_iff.mp stepped
    cases phase : request.phase with
    | checking =>
      simp only [changeStep, phase] at moved
      exact idle (Option.some.inj moved ▸ rfl)
    | counting matched =>
      simp only [changeStep, phase] at moved
      split at moved
      · simp at moved
      · split at moved <;> exact idle (Option.some.inj moved ▸ rfl)
    | writing locked =>
      simp only [changeStep, phase] at moved
      split at moved
      · simp at moved
      · split at moved
        next store committed =>
          obtain rfl := Option.some.inj moved
          obtain ⟨rows, rfl, apart⟩ := commit_ok committed
          exact ⟨_, rows, rfl, rfl, apart⟩
        · exact idle (Option.some.inj moved ▸ rfl)

theorem written_ids (request : AccountRequest) (users : List User) :
    (written request users).map User.id = users.map User.id := by
  rw [written, List.map_map]
  apply List.map_congr_left
  intro user _
  simp only [Function.comp_apply]
  split
  · exact accountWrite_id _ user
  · rfl

theorem accountStep_snapshots {config : JobConfig} {sys next : AccountSystem}
    {action : AccountAction} (inv : SnapshotInvariant sys.service)
    (stepped : accountStep config sys action = some next) :
    SnapshotInvariant next.service := by
  cases accountStep_effect stepped with
  | service action after moved => exact inv.step moved
  | written k now ids request rows found writes free =>
    refine ⟨⟨?_, inv.unique.incidents⟩, inv.impacts, inv.requests, inv.clearances⟩
    rw [show _ = _ from written_ids request _]
    exact inv.unique.users
  | _ => exact inv

end IncidentApi.Properties
