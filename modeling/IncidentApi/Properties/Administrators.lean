import IncidentApi.Properties.AccountSteps

/-!
# The last administrator

The count of the active administrators is locked until its transaction ends, so whoever it found
beside the target stays one until the target has been updated. Whether it runs at all is decided on
the target as it was read before the transaction.
-/
namespace IncidentApi.Properties

/-! ### The condition -/

/-- An update that would take the role or the status from an active administrator comes from a
change whose count has found another one. -/
def CountedBefore (users : List User) (request : AccountRequest) : Prop :=
  isWriting request = true →
    (∃ user ∈ users, user.id = request.target.id ∧ request.change.removesAdmin user = true) →
      ∃ id ∈ request.locks, id ≠ request.target.id

instance (users : List User) (request : AccountRequest) :
    Decidable (CountedBefore users request) :=
  inferInstanceAs (Decidable (_ → _ → _))

def AdminsCounted (sys : AccountSystem) : AccountAction → Prop
  | .statement k _ _ =>
    ∀ request ∈ sys.changes[k]?, CountedBefore sys.service.store.users request
  | _ => True

instance (sys : AccountSystem) : (action : AccountAction) → Decidable (AdminsCounted sys action)
  | .statement k _ _ => inferInstanceAs
      (Decidable (∀ request ∈ sys.changes[k]?, CountedBefore sys.service.store.users request))
  | .service _ | .load _ _ _ | .interrupt _ => inferInstanceAs (Decidable True)

/-! ### The invariant -/

def HasActiveAdmin (store : Store) : Prop :=
  ∃ user ∈ store.users, user.role = .admin ∧ user.isActive = true

/-- Locked administrators are active. -/
structure AdminInvariant (sys : AccountSystem) : Prop where
  remains : ∃ id, HasAccount sys.service.store.users id .admin true
  locked : ∀ request ∈ sys.changes, ∀ id ∈ request.locks,
    HasAccount sys.service.store.users id .admin true

theorem removesAdmin_write {change : AccountChange} {user : User} (role : user.role = .admin)
    (active : user.isActive = true) (spares : change.removesAdmin user = false) :
    (change.write user).role = .admin ∧ (change.write user).isActive = true := by
  cases change with
  | role newRole =>
    simp only [AccountChange.removesAdmin, role, active, decide_true, Bool.true_and,
      decide_eq_false_iff_not, not_not] at spares
    exact ⟨spares, active⟩
  | status isActive =>
    simp only [AccountChange.removesAdmin, role, active, decide_true, Bool.true_and,
      Bool.not_eq_false'] at spares
    exact ⟨role, spares⟩

/-- An update leaves an administrator, if it spares its target or another one is locked. -/
theorem written_remains {users : List User} {request : AccountRequest} {locked : List Id}
    (remains : ∃ id, HasAccount users id .admin true)
    (held : ∀ id ∈ locked, HasAccount users id .admin true)
    (counted : (∃ user ∈ users, user.id = request.target.id ∧
      request.change.removesAdmin user = true) → ∃ id ∈ locked, id ≠ request.target.id) :
    ∃ id, HasAccount (written request users) id .admin true := by
  by_cases removes : ∃ user ∈ users, user.id = request.target.id ∧
      request.change.removesAdmin user = true
  · obtain ⟨id, among, other⟩ := counted removes
    exact ⟨id, (held id among).written other⟩
  · obtain ⟨id, account⟩ := remains
    by_cases target : id = request.target.id
    -- the target itself is an active administrator, and stays one
    · obtain ⟨user, member, rfl, role, active⟩ := hasAccount_iff.mp account
      have spares : request.change.removesAdmin user = false := by
        by_contra taken
        exact removes ⟨user, member, target, by simpa using taken⟩
      obtain ⟨still, on⟩ := removesAdmin_write role active spares
      have updated : request.change.write user ∈ written request users :=
        List.mem_map.mpr ⟨user, member, if_pos target⟩
      exact ⟨user.id, hasAccount_iff.mpr
        ⟨request.change.write user, updated, accountWrite_id _ user, still, on⟩⟩
    · exact ⟨id, account.written target⟩

theorem start_locks {actor : Actor} {target : User} {change : AccountChange}
    {request : AccountRequest} (started : AccountRequest.start actor target change = some request) :
    request.locks = [] := by
  unfold AccountRequest.start at started
  split at started
  · simp at started
  · obtain rfl := Option.some.inj started
    by_cases checked : change.removesAdmin target = true <;> simp [AccountRequest.locks, checked]

theorem loadAccount_locks {store : Store} {userId targetId : Id} {change : AccountChange}
    {request : Option AccountRequest}
    (loaded : loadAccount store userId targetId change = .ok request) :
    ∀ started ∈ request, started.locks = [] := by
  cases change with
  | role newRole =>
    obtain ⟨actor, _, rest⟩ := bind_ok loaded
    obtain ⟨_, _, rest⟩ := bind_ok rest
    obtain ⟨_, _, rest⟩ := bind_ok rest
    obtain ⟨target, _, rest⟩ := bind_ok rest
    obtain rfl := Except.ok.inj rest
    exact fun _ => start_locks
  | status isActive =>
    obtain ⟨actor, _, rest⟩ := bind_ok loaded
    obtain ⟨_, _, rest⟩ := bind_ok rest
    obtain ⟨target, _, rest⟩ := bind_ok rest
    obtain rfl := Except.ok.inj rest
    exact fun _ => start_locks

theorem AdminInvariant.step {config : JobConfig} {sys next : AccountSystem}
    {action : AccountAction} (inv : AdminInvariant sys) (counted : AdminsCounted sys action)
    (stepped : accountStep config sys action = some next) : AdminInvariant next := by
  have effect := accountStep_effect stepped
  cases effect with
  | service action after moved =>
    constructor
    · obtain ⟨id, account⟩ := inv.remains
      exact ⟨id, (step_hasAccount moved id .admin true).mpr account⟩
    · intro request pending id locked
      exact (step_hasAccount moved id .admin true).mpr (inv.locked request pending id locked)
  | loaded userId targetId change request found =>
    refine ⟨inv.remains, ?_⟩
    intro other among id locked
    rcases List.mem_append.mp among with old | last
    · exact inv.locked other old id locked
    -- a change that has just been read locks nothing
    · simp [loadAccount_locks found other (by simpa using last)] at locked
  | refused action => exact inv
  | moved k now ids request phase found locks =>
    refine ⟨inv.remains, ?_⟩
    intro other among
    rcases Pool.mem_set among with rfl | old
    · exact locks
    · exact inv.locked other old
  | written k now ids request rows found writes free =>
    constructor
    · exact written_remains inv.remains (inv.locked request (List.mem_of_getElem? found))
        (counted request found writes)
    · intro other among id holds
      apply (inv.locked other (List.mem_of_mem_eraseIdx among) id holds).written
      rintro rfl
      exact free (List.mem_flatMap.mpr ⟨other, among, holds⟩)
  | dropped k action =>
    refine ⟨inv.remains, ?_⟩
    intro other among
    exact inv.locked other (List.mem_of_mem_eraseIdx among)

/-- From any database with an active administrator, under every interleaving in which nobody loses
that place without a count that has found another, there always is one. -/
theorem active_admin_remains {config : JobConfig} {start : Store} {issued : List Id}
    (administered : HasActiveAdmin start) {sys : AccountSystem}
    (reached : Machine.Reaches (accountStep config) AdminsCounted
      (AccountSystem.boot start issued) sys) : HasActiveAdmin sys.service.store := by
  have inv : AdminInvariant sys := by
    apply reached.invariant AdminInvariant
    · obtain ⟨user, member, role, active⟩ := administered
      exact ⟨⟨user.id, hasAccount_iff.mpr ⟨user, member, rfl, role, active⟩⟩,
        by simp [AccountSystem.boot]⟩
    · intro before action after _ inv counted stepped
      exact inv.step counted stepped
  obtain ⟨id, account⟩ := inv.remains
  obtain ⟨user, member, _, columns⟩ := hasAccount_iff.mp account
  exact ⟨user, member, columns⟩

/-! ### Two runs -/

def secondAdmin (isActive : Bool) : User :=
  ⟨"second", "second@example.com", "Second", .admin, 4, isActive, 0⟩

/-- Two administrators, the second active or not. -/
def administered (isActive : Bool) : Store :=
  { staffedStore with users := [sampleAdmin, secondAdmin isActive] }

def accountWritten (k : Nat) (now : Date) : AccountAction :=
  .statement k now fun n => toString now ++ toString n

/-- Each of two administrators demotes the other at the same time. -/
def mutualDemotion : List AccountAction :=
  [.load "admin" "second" (.role .reporter), .load "second" "admin" (.role .reporter),
    accountWritten 0 1, accountWritten 1 1, accountWritten 0 2, accountWritten 0 3,
    accountWritten 0 4]

theorem active_admin_remains_sample :
    ∃ sys, Machine.exec (accountStep sampleConfig) (fun sys action => decide
        (AdminsCounted sys action)) (AccountSystem.boot (administered true) []) mutualDemotion =
          some sys ∧
      sys.service.store.users.map accountOf =
        [("admin", .admin, true), ("second", .reporter, true)] ∧
      sys.changes = [] ∧ HasActiveAdmin sys.service.store := by
  have ran : (Machine.exec (accountStep sampleConfig) (fun sys action => decide
      (AdminsCounted sys action)) (AccountSystem.boot (administered true) []) mutualDemotion).map
        (fun sys => (sys.service.store.users.map accountOf, sys.changes.length)) =
      some ([("admin", .admin, true), ("second", .reporter, true)], 0) := by decide
  obtain ⟨sys, executed, facts⟩ := Option.map_eq_some_iff.mp ran
  simp only [Prod.mk.injEq, List.length_eq_zero_iff] at facts
  refine ⟨sys, executed, facts.1, facts.2, ?_⟩
  have initial : HasActiveAdmin (administered true) := ⟨sampleAdmin, by decide, rfl, rfl⟩
  exact active_admin_remains initial
    (Machine.reaches_of_exec _ (fun _ _ => of_decide_eq_true) _ _ _ executed)

/-- The second administrator is read while inactive, activated, deactivates the first, and is then
demoted without a count. -/
def uncountedDemotion : List AccountAction :=
  [.load "admin" "second" (.role .reporter), .load "admin" "second" (.status true),
    accountWritten 1 1, .load "second" "admin" (.status false), accountWritten 1 2,
    accountWritten 1 2, accountWritten 1 2, accountWritten 0 3]

theorem uncounted_demotion_leaves_no_admin :
    ∃ sys, Machine.Reaches (accountStep sampleConfig) Machine.anyAction
        (AccountSystem.boot (administered false) []) sys ∧
      HasActiveAdmin (administered false) ∧ ¬ HasActiveAdmin sys.service.store := by
  have ran : (Machine.exec (accountStep sampleConfig) (fun _ _ => true)
      (AccountSystem.boot (administered false) []) uncountedDemotion).map
        (fun sys => sys.service.store.users.map accountOf) =
      some [("admin", .admin, false), ("second", .reporter, true)] := by decide
  obtain ⟨sys, executed, users⟩ := Option.map_eq_some_iff.mp ran
  refine ⟨sys, Machine.reaches_of_exec _ (fun _ _ _ => trivial) _ _ _ executed,
    ⟨sampleAdmin, by decide, rfl, rfl⟩, ?_⟩
  rintro ⟨user, member, role, active⟩
  have account : accountOf user ∈ sys.service.store.users.map accountOf :=
    List.mem_map_of_mem member
  rw [users] at account
  simp [accountOf, role, active] at account

end IncidentApi.Properties
