import IncidentApi.Properties.Privileges

/-!
# What the log justifies

A request is let in by the role that its actor has when it is read, and it writes later. The log
itself bears this out: every row names an account that the rows before it had, at one point, given a
role whose routes write such a row.
-/
namespace IncidentApi.Properties

/-- An actor with the role that some first part of the log gives the account. -/
def Held (start : Store) (rows : List AuditEvent) (actor : Actor) : Prop :=
  ∃ earlier, earlier <+: rows ∧
    (earlier.foldl (applyChange actor.id) (firstPrivileges start actor.id)).1 = actor.role.text

/-- Every row is one that somebody with such a role may write, going by what was logged before. -/
def AllEntitled (start : Store) (rows : List AuditEvent) : Prop :=
  ∀ before row after, rows = before ++ row :: after → LoggedBy (Held start before) row

section Authority
variable {jobConfig : JobConfig} {config : SignInConfig} {start : Store} {sys next : SignInSystem}
  {rows more : List AuditEvent} {actor : Actor}

theorem Held.mono (held : Held start rows actor) (longer : rows <+: more) :
    Held start more actor := by
  obtain ⟨earlier, first, role⟩ := held
  exact ⟨earlier, first.trans longer, role⟩

theorem LoggedBy.mono {acts other : Actor → Prop} {row : AuditEvent} (logged : LoggedBy acts row)
    (implies : ∀ actor, acts actor → other actor) : LoggedBy other row :=
  logged.imp_right fun ⟨actor, acted, written⟩ => ⟨actor, implies actor acted, written⟩

theorem AllEntitled.append (entitled : AllEntitled start rows)
    (new : ∀ row ∈ more, LoggedBy (Held start rows) row) : AllEntitled start (rows ++ more) := by
  intro before row after split
  rcases List.append_eq_append_iff.mp split with ⟨front, rfl, rest⟩ | ⟨back, whole, rest⟩
  -- the row is one of the new ones
  · exact (new row (rest ▸ by simp)).mono fun actor held => held.mono ⟨front, rfl⟩
  · cases back with
    | nil =>
      rw [List.append_nil] at whole
      rw [← whole]
      obtain rfl : row :: after = more := rest
      exact new row List.mem_cons_self
    | cons first back =>
      obtain ⟨rfl, _⟩ := List.cons.inj rest
      exact entitled before row back whole

/-- The role of the row is the one that the whole log gives. -/
theorem PrivilegeInvariant.held (inv : PrivilegeInvariant start sys rows) {userId : Id}
    (authenticated : authenticate sys.store userId = .ok actor) : Held start rows actor := by
  obtain ⟨user, stored, _, _, rfl⟩ := authenticate_named authenticated
  exact ⟨rows, List.prefix_refl rows, congrArg Prod.fst (inv.accounts user stored).symm⟩

/-- The log so far, and who is behind the requests in flight. -/
structure AuthorityInvariant (start : Store) (sys : SignInSystem) (rows : List AuditEvent) :
    Prop where
  privileges : PrivilegeInvariant start sys rows
  acted : ActedBy (Held start rows) sys.store.auditEvents sys.rest
  entitled : AllEntitled start rows

theorem ActedBy.rebase {acts : Actor → Prop} {old : List AuditEvent} {sys : NoteSystem}
    (inv : ActedBy acts old sys) : ActedBy acts sys.store.auditEvents sys :=
  ⟨⟨inv.service.requests, inv.service.clearances, [], (List.append_nil _).symm,
    List.forall_mem_nil _⟩, inv.changes, inv.notes⟩

theorem authority_step {action : SignInAction} (actors : ActorInvariant config start sys)
    (inv : ∃ rows, AuthorityInvariant start sys rows)
    (stepped : signInStep jobConfig config sys action = some next) :
    ∃ rows, AuthorityInvariant start next rows := by
  obtain ⟨rows, inv⟩ := inv
  cases signInStep_effect stepped with
  | served _ inner after moved bearer =>
    obtain ⟨more, replays⟩ := noteStep_replays actors.acted actors.flight moved
    -- Whoever acts was authenticated with the role that his rows of the log give him.
    have acted := inv.acted.step actors.flight (fun id named => by
      obtain ⟨_, _, _, actor, _, _, authenticated⟩ := bearer id named
      exact ⟨actor, authenticated, inv.privileges.held authenticated⟩) moved
    obtain ⟨logged, audits, each⟩ := acted.service.logged
    obtain rfl : logged = more := List.append_cancel_left (audits.symm.trans replays.audits)
    exact ⟨rows ++ logged, inv.privileges.replay rfl replays,
      (acted.mono fun actor held => held.mono (List.prefix_append rows logged)).rebase,
      inv.entitled.append each⟩
  | created k id now input passwordHash found free =>
    exact ⟨rows, inv.privileges.create rfl rfl rfl (fun other stored => (free other stored).1) rfl,
      inv.acted.withUsers _, inv.entitled⟩
  | issued k sessionId id token now user password found new =>
    refine ⟨rows, ⟨inv.privileges.audits, inv.privileges.kept, inv.privileges.accounts, ?_⟩,
      inv.acted, inv.entitled⟩
    -- A new session only adds to the grants.
    intro row member id changed
    obtain ⟨known, actorId, named, differs, grant, granted, same⟩ :=
      inv.privileges.others row member id changed
    exact ⟨known, actorId, named, differs, grant, List.mem_append_left _ granted, same⟩
  | _ =>
    exact ⟨rows, ⟨inv.privileges.audits, inv.privileges.kept, inv.privileges.accounts,
      inv.privileges.others⟩, inv.acted, inv.entitled⟩

end Authority

/-- Going by the log alone, nobody has done what their role never allowed: for every row since the
start, the job's rows apart, the changes logged before it give the account that it names, after some
of them, a role whose route appends such a row. -/
theorem log_shows_authority (jobConfig : JobConfig) (config : SignInConfig)
    (accepts : AcceptsOwnHash config) (start : Store) (issued : List Id)
    (passwordHashes : List (Id × String)) (ids : (start.users.map User.id).Nodup)
    (hashed : passwordHashes.map Prod.fst = start.users.map User.id) (sys : SignInSystem)
    (reached : Machine.Reaches (signInStep jobConfig config) (GenuineRequests config)
      (SignInSystem.boot start issued passwordHashes) sys) :
    ∃ rows, sys.store.auditEvents = start.auditEvents ++ rows ∧
      ∀ before row after, rows = before ++ row :: after → row.type = .incidentEscalated ∨
        ∃ id role earlier, row.actorId = some id ∧ role ∈ writers row.type row.toValue ∧
          earlier <+: before ∧
          (earlier.foldl (applyChange id) (firstPrivileges start id)).1 = role.text := by
  have first : ActorInvariant config start (SignInSystem.boot start issued passwordHashes) :=
    .boot ids hashed
  have none : AllEntitled start [] := by
    intro before row after split
    simp at split
  obtain ⟨rows, inv⟩ : ∃ rows, AuthorityInvariant start sys rows :=
    (reached.invariant
      (fun sys => ActorInvariant config start sys ∧ ∃ rows, AuthorityInvariant start sys rows)
      ⟨first, [], .boot ids, ⟨⟨List.forall_mem_nil _, List.forall_mem_nil _, [],
        (List.append_nil _).symm, List.forall_mem_nil _⟩, List.forall_mem_nil _,
        List.forall_mem_nil _⟩, none⟩
      fun _ _ _ _ inv genuine stepped =>
        ⟨inv.1.step accepts genuine stepped, authority_step inv.1 inv.2 stepped⟩).2
  refine ⟨rows, inv.privileges.audits, fun before row after split => ?_⟩
  refine (inv.entitled before row after split).imp_right ?_
  rintro ⟨actor, ⟨earlier, shorter, role⟩, named, entitled⟩
  exact ⟨actor.id, actor.role, earlier, named, entitled, shorter, role⟩

/-- Ann is promoted, signs in, reports an incident and triages it. -/
def annTriages : List SignInAction :=
  annIsPromoted ++
    [.issueSession 0 "s1" "t1" "other" 6,
    .request (some "Bearer ann.s1") 6 (.account (.service
      (.create "ann" { sampleReport with severity := .low } (.stored "leak.jpg") "i" 6 6
        fun _ => "b"))),
    .request (some "Bearer ann.s1") 7 (.account (.service (.load "ann" .triage "i" 0))),
    .others (.account (.service (.commit 0 8 8 fun _ => "c")))]

theorem log_shows_authority_sample :
    ∃ sys, Machine.exec (signInStep sampleConfig sampleSignIn) (genuineRequest sampleSignIn)
        (SignInSystem.boot staffedStore []
          [("admin", "salt:admin"), ("investigator", "salt:investigator")]) annTriages = some sys ∧
      ∃ earlier, earlier <+: sys.store.auditEvents ∧ ∃ role ∈ triageRoles,
        (earlier.foldl (applyChange "ann") (firstPrivileges staffedStore "ann")).1 =
          role.text := by
  have ran : (Machine.exec (signInStep sampleConfig sampleSignIn) (genuineRequest sampleSignIn)
      (SignInSystem.boot staffedStore []
        [("admin", "salt:admin"), ("investigator", "salt:investigator")]) annTriages).map
        (fun sys => sys.store.auditEvents.map fun row => (row.type, row.actorId, row.toValue)) =
      some ([(.userRoleChanged, some "admin", some "TRIAGE_MANAGER"),
        (.incidentCreated, some "ann", some "LOW")] ++
        [(.stageChanged, some "ann", some "TRIAGE")]) := by decide +kernel
  obtain ⟨sys, executed, columns⟩ := Option.map_eq_some_iff.mp ran
  obtain ⟨before, last, stored, _, isLast⟩ := List.map_eq_append_iff.mp columns
  obtain ⟨row, rfl, is⟩ := List.map_eq_singleton_iff.mp isLast
  obtain ⟨type, actorId, toValue⟩ : row.type = .stageChanged ∧ row.actorId = some "ann" ∧
      row.toValue = some "TRIAGE" := by simpa using is
  refine ⟨sys, executed, ?_⟩
  obtain ⟨rows, audits, each⟩ := log_shows_authority sampleConfig sampleSignIn sampleSignIn_accepts
    staffedStore [] [("admin", "salt:admin"), ("investigator", "salt:investigator")] (by decide)
    (by decide) sys (Machine.reaches_of_exec _ (genuineRequest_sound sampleSignIn) _ _ _ executed)
  have split : rows = before ++ row :: [] := audits.symm.trans stored
  rcases each before row [] split with job | ⟨id, role, earlier, named, entitled, shorter, held⟩
  · rw [type] at job
    cases job
  · obtain rfl : id = "ann" := Option.some.inj (named.symm.trans actorId)
    rw [type, toValue] at entitled
    exact ⟨earlier, stored ▸ shorter.trans (List.prefix_append _ _), role, entitled, held⟩

end IncidentApi.Properties
