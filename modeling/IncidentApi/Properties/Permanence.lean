import IncidentApi.Properties.Credentials
import IncidentApi.Properties.JobAccounts
import IncidentApi.Library.Growth

/-!
# What is never taken back

No statement of the service deletes a row, and most tables are not even written to in place. What a
row of the others may become is said once for each table, and a run of any length keeps to it.
-/
namespace IncidentApi.Properties

open Growth OptimisticLock

/-! ### What becomes of a row -/

/-- The columns of an incident that no operation writes. -/
def reportOf (row : Incident) :
    Id × String × IncidentType × String × String × Option String × Option String × Id × Date :=
  (row.id, row.reference, row.type, row.title, row.description, row.imagePath, row.noImageReason,
    row.reporterId, row.createdAt)

structure SameReport (old new : Incident) : Prop where
  report : reportOf new = reportOf old
  follows : Follows Incident.version protectedPart old new

/-- The columns of an account that no operation writes. -/
def identityOf (user : User) : Id × String × String × Date :=
  (user.id, user.email, user.displayName, user.createdAt)

def SameAccount (old new : User) : Prop := identityOf new = identityOf old

/-- A notification is read at one instant only. -/
def ReadOnce : NotificationLog → NotificationLog → Prop :=
  Once (fun row => row.readAt = none) fun row => { row with readAt := none }

/-- A job run is finished at most once. -/
def ClosedOnce : JobRun → JobRun → Prop :=
  Once (fun run => run.finishedAt = none) fun run => (run.id, run.jobName, run.startedAt)

/-- A refresh token is revoked, or rotated, at most once. -/
def RevokedOnce : RefreshToken → RefreshToken → Prop :=
  Once isLive fun token => { token with revokedAt := none, replacedById := none }

theorem SameReport.refl (row : Incident) : SameReport row row := ⟨rfl, .refl row⟩

theorem SameReport.trans {first second third : Incident} (left : SameReport first second)
    (right : SameReport second third) : SameReport first third :=
  ⟨right.report.trans left.report, left.follows.trans right.follows⟩

theorem SameAccount.refl (user : User) : SameAccount user user := rfl

theorem bumpedBy_report (writes : List Write) (row : Incident) :
    reportOf (bumpedBy writes row) = reportOf row :=
  protected_congr reportOf (fun _ => rfl) (bumpedBy_protected writes row)

theorem RowEvent.report {sys : System} {action : Action} {rows : List AuditEvent}
    {old new : Incident} (event : RowEvent sys action rows old new) : SameReport old new := by
  refine ⟨?_, event.follows⟩
  cases event with
  | bumped k reading run batch isJob found opened done => exact bumpedBy_report batch.writes old
  | _ => rfl

theorem RowsEffect.grows {sys : System} {action : Action} {rows : List AuditEvent}
    {incidents : List Incident} (effect : RowsEffect sys action rows incidents) :
    Grows SameReport sys.store.incidents incidents := by
  cases effect with
  | created => exact (Grows.refl SameReport.refl _).append _
  | changed change each => exact .of_map change fun row stored => (each row stored).report

theorem UserEvent.account {sys : NoteSystem} {after : Store} {old new : User}
    (event : UserEvent sys after old new) : SameAccount old new := by
  cases event <;> rfl

theorem UsersFollow.grows {sys : NoteSystem} {after : Store} (follow : UsersFollow sys after) :
    Grows SameAccount sys.store.users after.users := by
  obtain ⟨change, users, each⟩ := follow
  rw [users]
  exact .of_map change fun user stored => (each user stored).account

/-! ### Tables -/

/-- The tables that the service of incidents writes to, before and after. -/
structure StoreFollows (old new : Store) : Prop where
  audits : old.auditEvents <+: new.auditEvents
  events : old.escalationEvents <+: new.escalationEvents
  notes : old.notes <+: new.notes
  notifications : Grows ReadOnce old.notificationLog new.notificationLog
  jobRuns : Grows ClosedOnce old.jobRuns new.jobRuns
  incidents : Grows SameReport old.incidents new.incidents
  users : Grows SameAccount old.users new.users

theorem StoreFollows.refl (store : Store) : StoreFollows store store where
  audits := List.prefix_rfl
  events := List.prefix_rfl
  notes := List.prefix_rfl
  notifications := .refl Once.refl _
  jobRuns := .refl Once.refl _
  incidents := .refl SameReport.refl _
  users := .refl SameAccount.refl _

theorem StoreFollows.trans {first second third : Store} (left : StoreFollows first second)
    (right : StoreFollows second third) : StoreFollows first third where
  audits := left.audits.trans right.audits
  events := left.events.trans right.events
  notes := left.notes.trans right.notes
  notifications := left.notifications.trans (fun _ _ _ => Once.trans) right.notifications
  jobRuns := left.jobRuns.trans (fun _ _ _ => Once.trans) right.jobRuns
  incidents := left.incidents.trans (fun _ _ _ => SameReport.trans) right.incidents
  users := left.users.trans (fun _ _ _ first second => second.trans first) right.users

/-! ### Steps of the service -/

section Steps
variable {config : JobConfig}

theorem create_follows (store : Store) (actor : Actor) (input : CreateIncidentRequest)
    (image : Upload) (id : Id) (now wall : Date) (ids : Nat → Id) :
    StoreFollows store (create store actor input image id now wall ids).2 := by
  have inserted : ∀ imagePath,
      StoreFollows store (create.insert store actor input id now wall ids imagePath).2 := by
    intro imagePath
    simp only [create.insert]
    split
    · exact { StoreFollows.refl store with }
    · exact { StoreFollows.refl store with
        audits := List.prefix_append _ _
        incidents := (Grows.refl SameReport.refl _).append _ }
  unfold create
  split
  · exact .refl store
  · split
    · exact .refl store
    · exact inserted none
  · exact inserted _

theorem markRead_follows (store : Store) (id : Id) (now : Date) :
    StoreFollows store (markRead store id now) := by
  refine { StoreFollows.refl store with notifications := .of_map _ fun row _ => ?_ }
  split
  next pending => exact .inr ⟨by simp [pending.2], rfl, rfl⟩
  · exact .refl row

theorem finishJobRun_grows (id : Id) (outcome : JobOutcome) (counts : Counts)
    (error : Option String) (finishedAt : Date) (store : Store) :
    Grows ClosedOnce store.jobRuns
      (finishJobRun id outcome counts error finishedAt store).jobRuns := by
  refine .of_map _ fun run _ => ?_
  split
  next pending => exact .inr ⟨by simp [pending.2], rfl, rfl⟩
  · exact .refl run

theorem step_jobRuns {sys next : System} {action : Action}
    (stepped : step config sys action = some next) :
    Grows ClosedOnce sys.store.jobRuns next.store.jobRuns := by
  have same : Grows ClosedOnce sys.store.jobRuns sys.store.jobRuns := .refl Once.refl _
  cases step_account stepped with
  | still runs rows => exact rows ▸ same
  | started jobRunId startedAt isStart store => exact store ▸ same.append _
  | ran k reading run after isJob found runs moved =>
    have effect := runStep_jobRuns moved
    generalize next.store = left at effect
    cases effect with
    | kept _ _ rows => exact rows ▸ same
    | finished outcome phase => exact finishJobRun_grows _ _ _ _ _ _
    | released phase => exact releaseLease_jobRuns run.runId ▸ same
  | dropped k run after isDrop found runs store => exact store ▸ same

theorem step_follows {sys next : System} {action : Action} (distinct : DistinctImpacts sys)
    (users : Grows SameAccount sys.store.users next.store.users)
    (stepped : step config sys action = some next) : StoreFollows sys.store next.store := by
  have jobRuns := step_jobRuns stepped
  obtain ⟨rows, audits, rowsEffect⟩ := (step_store distinct stepped).incidents
  have incidents := rowsEffect.grows
  have audited : sys.store.auditEvents <+: next.store.auditEvents := ⟨rows, audits.symm⟩
  -- the tables that are left
  suffices sys.store.escalationEvents <+: next.store.escalationEvents ∧
      sys.store.notes <+: next.store.notes ∧
      Grows ReadOnce sys.store.notificationLog next.store.notificationLog from
    ⟨audited, this.1, this.2.1, this.2.2, jobRuns, incidents, users⟩
  have same : Grows ReadOnce sys.store.notificationLog sys.store.notificationLog :=
    .refl Once.refl _
  by_cases job : Action.ofJob action = true
  · cases step_job job stepped with
    | stepped k run after store reading isJob found drawn effect =>
      cases effect with
      | outside _ _ closed still tables =>
        exact ⟨tables.events ▸ List.prefix_rfl, tables.notes ▸ List.prefix_rfl,
          tables.notifications ▸ same⟩
      | committed batch _ phase done =>
        rw [view_eq]
        exact ⟨List.prefix_append _ _, List.prefix_rfl, same.append _⟩
      | _ => exact ⟨List.prefix_rfl, List.prefix_rfl, same⟩
    | _ => exact ⟨List.prefix_rfl, List.prefix_rfl, same⟩
  · cases step_effect (by simpa using job) stepped with
    | created userId input image id now wall ids actor =>
      have follows := create_follows sys.store actor input image id now wall ids
      exact ⟨follows.events, follows.notes, follows.notifications⟩
    | committed k now wall ids request mutation after found free decided written =>
      obtain ⟨_, rfl⟩ := commitMutation_ok _ _ _ _ _ _ _ written
      exact ⟨List.prefix_rfl, List.prefix_rfl, same⟩
    | committedClearance k now wall ids request affected after found read free changes written =>
      obtain ⟨_, rfl, _⟩ := commitClearance_ok written
      exact ⟨List.prefix_rfl, List.prefix_rfl, same⟩
    | markedRead userId id now =>
      exact ⟨List.prefix_rfl, List.prefix_rfl, (markRead_follows sys.store id now).notifications⟩
    | _ => exact ⟨List.prefix_rfl, List.prefix_rfl, same⟩

theorem noteStep_follows {sys next : NoteSystem} {action : NoteAction}
    (distinct : DistinctImpacts sys.service) (stepped : noteStep config sys action = some next) :
    StoreFollows sys.store next.store := by
  have users := (noteStep_users stepped).grows
  cases noteStep_effect stepped with
  | account action after moved =>
    cases accountStep_effect moved with
    | service inner after taken => exact step_follows distinct users taken
    | written k now ids request rows found writes free =>
      exact { StoreFollows.refl sys.store with
        users := users
        audits := List.prefix_append _ _ }
    | _ => exact .refl _
  | written k now noteId ids request result found committed =>
    change StoreFollows sys.store result.2
    rw [noteCommit_ok committed]
    exact { StoreFollows.refl sys.store with
      notes := List.prefix_append _ _
      audits := List.prefix_append _ _ }
  | _ => exact .refl _

end Steps

/-! ### Every run -/

section Runs
variable {jobConfig : JobConfig} {config : SignInConfig} {sys next : SignInSystem}

theorem noteStep_snapshots {before after : NoteSystem} {action : NoteAction}
    (inv : SnapshotInvariant before.service)
    (stepped : noteStep jobConfig before action = some after) :
    SnapshotInvariant after.service := by
  rcases noteStep_service stepped with ⟨inner, taken⟩ | ⟨store, same, incidents, users⟩
  · exact inv.step taken
  · rw [same]
    exact inv.withStore incidents users

theorem signInStep_snapshots {action : SignInAction} (inv : SnapshotInvariant sys.rest.service)
    (stepped : signInStep jobConfig config sys action = some next) :
    SnapshotInvariant next.rest.service := by
  cases signInStep_effect stepped with
  | served _ inner after moved bearer => exact noteStep_snapshots inv moved
  | created k id now input passwordHash found free =>
    -- what was read is about incidents
    refine ⟨⟨?_, inv.unique.incidents⟩, inv.impacts, inv.requests, inv.clearances⟩
    change ((sys.store.users ++ [newUser input id now]).map User.id).Nodup
    rw [List.map_append, List.map_singleton]
    refine List.nodup_append.mpr ⟨inv.unique.users, List.nodup_singleton _, ?_⟩
    intro other old last same equal
    obtain ⟨user, member, rfl⟩ := List.mem_map.mp old
    exact (free user member).1 (equal.trans (List.mem_singleton.mp same))
  | _ => exact inv

theorem authStep_grows {tokens : TokenConfig} {before after : AuthSystem} {action : AuthAction}
    (stepped : authStep tokens before action = some after) :
    Grows RevokedOnce before.tokens after.tokens := by
  cases authStep_effect stepped with
  | issued input => exact (Grows.refl Once.refl _).append _
  | revoked k now call ids =>
    refine .of_map _ fun token _ => ?_
    unfold revoke
    split
    next live => exact .inr ⟨live.2, rfl, rfl⟩
    · exact .refl token
  | rotated k now row new marked =>
    refine Grows.append (.of_map _ fun token _ => ?_) _
    unfold markRotated
    split
    next live => exact .inr ⟨live.2, rfl, rfl⟩
    · exact .refl token
  | _ => exact .refl Once.refl _

structure SystemFollows (old new : SignInSystem) : Prop where
  store : StoreFollows old.store new.store
  passwordHashes : old.passwordHashes <+: new.passwordHashes
  tokens : Grows RevokedOnce old.auth.tokens new.auth.tokens

theorem SystemFollows.refl (sys : SignInSystem) : SystemFollows sys sys :=
  ⟨.refl _, List.prefix_rfl, .refl Once.refl _⟩

theorem SystemFollows.trans {first second third : SignInSystem} (left : SystemFollows first second)
    (right : SystemFollows second third) : SystemFollows first third :=
  ⟨left.store.trans right.store, left.passwordHashes.trans right.passwordHashes,
    left.tokens.trans (fun _ _ _ => Once.trans) right.tokens⟩

theorem signInStep_follows {action : SignInAction} (inv : SnapshotInvariant sys.rest.service)
    (stepped : signInStep jobConfig config sys action = some next) : SystemFollows sys next := by
  cases signInStep_effect stepped with
  | served _ inner after moved bearer =>
    exact { SystemFollows.refl sys with store := noteStep_follows inv.impacts moved }
  | created k id now input passwordHash found free =>
    exact { SystemFollows.refl sys with
      store := { StoreFollows.refl sys.store with
        users := (Grows.refl SameAccount.refl _).append _ }
      passwordHashes := List.prefix_append _ _ }
  | issued k sessionId id token now user password found new =>
    exact { SystemFollows.refl sys with tokens := (Grows.refl Once.refl _).append _ }
  | auth action after other moved =>
    exact { SystemFollows.refl sys with tokens := authStep_grows moved }
  | _ => exact { SystemFollows.refl sys with }

theorem reaches_snapshots {earlier later : SignInSystem}
    (snapshots : SnapshotInvariant earlier.rest.service)
    (between : Machine.Reaches (signInStep jobConfig config) Machine.anyAction earlier later) :
    SnapshotInvariant later.rest.service :=
  between.invariant (fun sys => SnapshotInvariant sys.rest.service) snapshots
    fun _ _ _ _ inv _ stepped => signInStep_snapshots inv stepped

theorem reaches_follows {earlier later : SignInSystem}
    (snapshots : SnapshotInvariant earlier.rest.service)
    (between : Machine.Reaches (signInStep jobConfig config) Machine.anyAction earlier later) :
    SystemFollows earlier later := by
  refine (between.invariant
    (fun sys => SnapshotInvariant sys.rest.service ∧ SystemFollows earlier sys)
    ⟨snapshots, .refl earlier⟩ ?_).2
  intro before action after _ inv _ stepped
  exact ⟨signInStep_snapshots inv.1 stepped, inv.2.trans (signInStep_follows inv.1 stepped)⟩

end Runs

/-- Whatever the service, the job and any number of sign-ins do between two states of a run: no row
is gone, and each is where it was. Audit rows, escalation events, notes and password hashes are as
they were; a notification has been read, a job run finished and a refresh token revoked at most
once; an account keeps its address and an incident its report, and the protected columns of an
incident are as they were unless its version has grown. -/
theorem history_is_permanent (jobConfig : JobConfig) (config : SignInConfig) (start : Store)
    (issued : List Id) (passwordHashes : List (Id × String)) (unique : start.UniqueIds)
    (earlier later : SignInSystem)
    (reached : Machine.Reaches (signInStep jobConfig config) Machine.anyAction
      (SignInSystem.boot start issued passwordHashes) earlier)
    (between : Machine.Reaches (signInStep jobConfig config) Machine.anyAction earlier later) :
    SystemFollows earlier later := by
  have booted : SnapshotInvariant (SignInSystem.boot start issued passwordHashes).rest.service :=
    .boot unique issued
  exact reaches_follows (reaches_snapshots booted reached) between

/-- Ann signs in with her new account and reports an incident. -/
def annReports : List SignInAction :=
  [.issueSession 0 "s1" "t1" "secret" 3,
    .request (some "Bearer ann.s1") 4
      (.account (.service
        (.create "ann" sampleReport (.stored "leak.jpg") "i" 4 4 fun _ => "audit")))]

theorem history_is_permanent_sample :
    ∃ earlier later,
      Machine.exec (signInStep sampleConfig sampleSignIn) (fun _ _ => true)
        (SignInSystem.boot staffedStore [] []) (annRegisters.take 3) = some earlier ∧
      Machine.exec (signInStep sampleConfig sampleSignIn) (fun _ _ => true) earlier annReports =
        some later ∧
      later.store.auditEvents.length = 1 ∧ SystemFollows earlier later := by
  have ran : ((Machine.exec (signInStep sampleConfig sampleSignIn) (fun _ _ => true)
      (SignInSystem.boot staffedStore [] []) (annRegisters.take 3)).bind fun earlier =>
        (Machine.exec (signInStep sampleConfig sampleSignIn) (fun _ _ => true) earlier
          annReports).map fun later => later.store.auditEvents.length) = some 1 := by
    decide +kernel
  obtain ⟨earlier, first, ran⟩ := Option.bind_eq_some_iff.mp ran
  obtain ⟨later, second, length⟩ := Option.map_eq_some_iff.mp ran
  refine ⟨earlier, later, first, second, length, ?_⟩
  exact history_is_permanent sampleConfig sampleSignIn staffedStore [] [] ⟨by decide, by decide⟩
    earlier later
    (Machine.reaches_of_exec (fun _ _ => true) (fun _ _ _ => trivial) _ _ _ first)
    (Machine.reaches_of_exec (fun _ _ => true) (fun _ _ _ => trivial) _ _ _ second)

end IncidentApi.Properties
