import IncidentApi.Concurrency
import IncidentApi.Properties.Batches
import IncidentApi.Properties.Decisions
import IncidentApi.Library.Pool

/-!
# What each step leaves alone

The tables a batch transaction's writes touch, in closed form, and the frame of every other
action: which tables it cannot change, and what it can append to the audit log.
-/
namespace IncidentApi.Properties

/-! ### The writes of a transaction, table by table -/

def eventsOf (writes : List Write) : List EscalationEvent :=
  writes.filterMap fun write => match write with
    | .event inserted => some inserted
    | _ => none

def notificationsOf (writes : List Write) : List NotificationLog :=
  writes.flatMap fun write => match write with
    | .notifications rows => rows
    | _ => []

def auditsOf (writes : List Write) : List AuditEvent :=
  writes.filterMap fun write => match write with
    | .audit row => some row
    | _ => none

def bumpedBy (writes : List Write) (row : Incident) : Incident :=
  writes.foldl
    (fun row write => match write with
      | .bump id level now wall => bumpRow id level now wall row
      | _ => row)
    row

theorem applyAll_eq (store : Store) (writes : List Write) :
    store.applyAll writes =
      { store with
        incidents := store.incidents.map (bumpedBy writes)
        escalationEvents := store.escalationEvents ++ eventsOf writes
        notificationLog := store.notificationLog ++ notificationsOf writes
        auditEvents := store.auditEvents ++ auditsOf writes } := by
  induction writes generalizing store with
  | nil =>
    have unchanged : bumpedBy [] = id := rfl
    simp [Store.applyAll, eventsOf, notificationsOf, auditsOf, unchanged]
  | cons write rest ih =>
    have peeled : store.applyAll (write :: rest) = (Write.apply store write).applyAll rest := rfl
    rw [peeled, ih]
    cases write <;>
    · simp [Write.apply, eventsOf, notificationsOf, auditsOf]
      intro row _
      rfl

theorem eventsOf_append (first second : List Write) :
    eventsOf (first ++ second) = eventsOf first ++ eventsOf second :=
  List.filterMap_append

theorem notificationsOf_append (first second : List Write) :
    notificationsOf (first ++ second) = notificationsOf first ++ notificationsOf second :=
  List.flatMap_append

theorem auditsOf_append (first second : List Write) :
    auditsOf (first ++ second) = auditsOf first ++ auditsOf second :=
  List.filterMap_append

theorem bumpedBy_same (writes : List Write) (row : Incident) :
    SameButBump row (bumpedBy writes row) := by
  induction writes generalizing row with
  | nil => exact ⟨rfl, rfl, rfl, rfl, rfl, rfl, rfl, Nat.le_refl _⟩
  | cons write rest ih =>
    cases write with
    | bump id level now wall => exact (bumpRow_same id level now wall row).trans (ih _)
    | event _ => exact ih row
    | notifications _ => exact ih row
    | audit _ => exact ih row

/-! ### The escalation an audit row reports -/

/-- The `escalationEventId` in the payload of an `INCIDENT_ESCALATED` row. -/
def reportedEvent (row : AuditEvent) : Option Id :=
  if row.type = .incidentEscalated then
    match row.payload.bind (Json.field · "escalationEventId") with
    | some (.str id) => some id
    | _ => none
  else none

theorem reportedEvent_escalated (due : Due) (eventId : Id) (now : Date) (id : Id) :
    reportedEvent ((escalatedRecord due eventId now).row id) = some eventId := by
  simp [reportedEvent, escalatedRecord, CreateAuditEventInput.row, Json.field]

/-- Audit rows that report no escalation. -/
def Unrelated (rows : List AuditEvent) : Prop := ∀ row ∈ rows, row.type ≠ .incidentEscalated

theorem unrelated_auditRows {inputs : List CreateAuditEventInput} (ids : Nat → Id)
    (unrelated : ∀ input ∈ inputs, input.type ≠ .incidentEscalated) :
    Unrelated (auditRows inputs ids) := by
  intro row member
  obtain ⟨input, among, _, rfl⟩ := auditRow_input member
  exact unrelated input among

/-! ### Requests leave the escalation history alone -/

theorem bind_ok {S T : Type} {first : Except AppError S} {second : S → Except AppError T}
    {value : T} (bound : first >>= second = .ok value) :
    ∃ middle, first = .ok middle ∧ second middle = .ok value := by
  cases first with
  | error _ => simp [bind, Except.bind] at bound
  | ok middle => exact ⟨middle, rfl, bound⟩

/-- The escalation tables of one store, seen from another: the same events and notifications, and
no further report of an escalation. -/
structure SameHistory (old new : Store) : Prop where
  events : new.escalationEvents = old.escalationEvents
  notifications : new.notificationLog.map (·.key) = old.notificationLog.map (·.key)
  audits : ∃ rows, new.auditEvents = old.auditEvents ++ rows ∧ Unrelated rows

theorem SameHistory.of_eq {old new : Store} (events : new.escalationEvents = old.escalationEvents)
    (notifications : new.notificationLog = old.notificationLog)
    (audits : new.auditEvents = old.auditEvents) : SameHistory old new :=
  ⟨events, by rw [notifications], [], by simpa using audits, by simp [Unrelated]⟩

theorem SameHistory.refl (store : Store) : SameHistory store store := .of_eq rfl rfl rfl

theorem SameHistory.trans {first second third : Store} (left : SameHistory first second)
    (right : SameHistory second third) : SameHistory first third where
  events := right.events.trans left.events
  notifications := right.notifications.trans left.notifications
  audits := by
    obtain ⟨rows, added, unrelated⟩ := left.audits
    obtain ⟨more, addedMore, unrelatedMore⟩ := right.audits
    -- what both steps append is appended in order
    refine ⟨rows ++ more, by rw [addedMore, added, List.append_assoc], ?_⟩
    intro row member
    rcases List.mem_append.mp member with early | late
    · exact unrelated row early
    · exact unrelatedMore row late

theorem record_history (store : Store) (inputs : List CreateAuditEventInput) (ids : Nat → Id)
    (unrelated : ∀ input ∈ inputs, input.type ≠ .incidentEscalated) :
    SameHistory store (store.record inputs ids) :=
  ⟨rfl, rfl, auditRows inputs ids, rfl, unrelated_auditRows ids unrelated⟩

theorem create_history (store : Store) (actor : Actor) (input : CreateIncidentRequest)
    (image : Upload) (id : Id) (now wall : Date) (ids : Nat → Id) :
    SameHistory store (create store actor input image id now wall ids).2 := by
  have inserted : ∀ imagePath, SameHistory store
      (create.insert store actor input id now wall ids imagePath).2 := by
    intro imagePath
    simp only [create.insert]
    split
    · exact .of_eq rfl rfl rfl
    -- the row and its `INCIDENT_CREATED` record
    · exact ⟨rfl, rfl, auditRows _ ids, rfl, unrelated_auditRows ids (by simp [creationRecord])⟩
  unfold create
  split
  · exact .refl store
  · split
    · exact .refl store
    · exact inserted none
  · exact inserted _

theorem commitMutation_history {store after : Store} {id : Id} {expectedVersion : Nat}
    {mutation : Mutation} {wall : Date} {ids : Nat → Id}
    (committed : commitMutation store id expectedVersion mutation wall ids = .ok after)
    (unrelated : ∀ entry ∈ mutation.records, entry.type ≠ .incidentEscalated) :
    SameHistory store after := by
  obtain ⟨_, rfl⟩ := commitMutation_ok _ _ _ _ _ _ _ committed
  exact ⟨rfl, rfl, _, rfl, unrelated_auditRows ids unrelated⟩

theorem cascadeAll_history {actor : Actor} {targetId : Id} {now wall : Date}
    {ids : Nat → Nat → Id} {affected : List AssignedIncidentRow} {index : Nat}
    {store after : Store}
    (committed : cascadeAll actor targetId now wall ids affected index store = .ok after) :
    SameHistory store after := by
  induction affected generalizing index store with
  | nil =>
    obtain rfl := Except.ok.inj committed
    exact .refl store
  | cons incident rest ih =>
    simp only [cascadeAll, bind, Except.bind] at committed
    split at committed
    · simp at committed
    next written first =>
      exact (commitMutation_history first (cascade_unrelated _ _ _ _)).trans (ih committed)

theorem updateUserClearance_ok {store updated : Store} {id : Id} {clearance : ClearanceLevel}
    (found : updateUserClearance store id clearance = .ok updated) :
    updated = { store with
      users := store.users.map fun user =>
        if user.id = id then { user with clearanceLevel := clearance.level } else user } := by
  unfold updateUserClearance at found
  split at found
  · exact (Except.ok.inj found).symm
  · simp at found

theorem commitClearance_history {store after : Store} {actor : Actor} {target : User}
    {clearance : ClearanceLevel} {affected : List AssignedIncidentRow} {now wall : Date}
    {ids : Nat → Nat → Id}
    (committed : commitClearance store actor target clearance affected now wall ids = .ok after) :
    SameHistory store after := by
  obtain ⟨updated, found, cascaded⟩ := bind_ok committed
  -- the user row and its record first, then the loop
  refine SameHistory.trans ?_ (cascadeAll_history cascaded)
  obtain rfl := updateUserClearance_ok found
  exact ⟨rfl, rfl, auditRows _ _, rfl, unrelated_auditRows _ (by simp [clearanceRecord])⟩

theorem markRead_history (store : Store) (id : Id) (now : Date) :
    SameHistory store (markRead store id now) := by
  -- `readAt` is no part of the unique key
  refine ⟨rfl, ?_, [], by simp [markRead], by simp [Unrelated]⟩
  simp only [markRead, List.map_map]
  refine List.map_congr_left fun row _ => ?_
  simp only [Function.comp_apply, NotificationLog.key]
  split <;> rfl

theorem markNotificationRead_store {store : Store} {actor : Actor} {id : Id} {now : Date}
    {result : NotificationItem × Store}
    (marked : markNotificationRead store actor id now = .ok result) :
    result.2 = markRead store id now := by
  unfold markNotificationRead at marked
  split at marked
  · simp at marked
  · obtain rfl := Except.ok.inj marked
    rfl

/-! ### The actions of the system -/

/-- The actions that belong to runs of the job. -/
def Action.ofJob : Action → Bool
  | .startRun .. | .job .. | .interrupt _ | .crash _ => true
  | _ => false

theorem accept_cases {T : Type} {sys next : System} {result : Except AppError T}
    {change : T → System} (accepted : sys.accept result change = some next) :
    next = sys ∨ ∃ value, result = .ok value ∧ next = change value := by
  unfold System.accept at accepted
  split at accepted
  next value => exact Or.inr ⟨value, rfl, (Option.some.inj accepted).symm⟩
  · exact Or.inl (Option.some.inj accepted).symm

theorem commitRequest_ok {store after : Store} {request : Request} {now wall : Date}
    {ids : Nat → Id} (committed : commitRequest store request now wall ids = .ok after) :
    ∃ mutation, request.decide now = .ok mutation ∧
      commitMutation store request.id request.expectedVersion mutation wall ids = .ok after :=
  bind_ok committed

/-- What the actions of requests do, with what their guards found. -/
inductive ServiceEffect (sys : System) : Action → System → Prop
  /-- Answered with an error, or with nothing to write. -/
  | refused (action : Action) : ServiceEffect sys action sys
  | created (userId : Id) (input : CreateIncidentRequest) (image : Upload) (id : Id)
      (now wall : Date) (ids : Nat → Id) (actor : Actor) :
      ServiceEffect sys (.create userId input image id now wall ids)
        { sys with store := (create sys.store actor input image id now wall ids).2 }
  | loaded (userId : Id) (operation : Operation) (id : Id) (expectedVersion : Nat)
      (request : Request)
      (loaded : loadRequest sys.store userId operation id expectedVersion = .ok request) :
      ServiceEffect sys (.load userId operation id expectedVersion)
        { sys with requests := sys.requests ++ [request] }
  | readInvestigator (k : Nat) (request : Request) (id : Id)
      (found : sys.requests[k]? = some request)
      (names : request.operation.investigatorId = some id) :
      ServiceEffect sys (.readInvestigator k) { sys with
        requests := sys.requests.set k
          { request with investigator := some (sys.store.userById id) } }
  /-- The transaction of a mutation was undone. -/
  | answered (k : Nat) (now wall : Date) (ids : Nat → Id) :
      ServiceEffect sys (.commit k now wall ids) { sys with requests := sys.requests.eraseIdx k }
  | committed (k : Nat) (now wall : Date) (ids : Nat → Id) (request : Request)
      (mutation : Mutation) (after : Store) (found : sys.requests[k]? = some request)
      (free : sys.locked request.id = false) (decided : request.decide now = .ok mutation)
      (written : commitMutation sys.store request.id request.expectedVersion mutation wall ids =
        .ok after) :
      ServiceEffect sys (.commit k now wall ids)
        { sys with requests := sys.requests.eraseIdx k, store := after }
  | loadedClearance (userId targetId : Id) (clearance : ClearanceLevel)
      (request : ClearanceRequest)
      (loaded : loadClearance sys.store userId targetId clearance = .ok request) :
      ServiceEffect sys (.loadClearance userId targetId clearance)
        { sys with clearances := sys.clearances ++ [request] }
  | readImpact (k : Nat) (request : ClearanceRequest)
      (found : sys.clearances[k]? = some request) :
      ServiceEffect sys (.readImpact k) { sys with
        clearances := sys.clearances.set k
          { request with
            affected := some (clearanceImpact sys.store request.target request.clearance) } }
  | answeredClearance (k : Nat) (now wall : Date) (ids : Nat → Nat → Id) :
      ServiceEffect sys (.commitClearance k now wall ids)
        { sys with clearances := sys.clearances.eraseIdx k }
  | committedClearance (k : Nat) (now wall : Date) (ids : Nat → Nat → Id)
      (request : ClearanceRequest) (affected : List AssignedIncidentRow) (after : Store)
      (found : sys.clearances[k]? = some request) (read : request.affected = some affected)
      (free : ∀ incident ∈ affected, sys.locked incident.id = false)
      (changes : request.target.clearanceLevel ≠ request.clearance.level)
      (written : commitClearance sys.store request.actor request.target request.clearance affected
        now wall ids = .ok after) :
      ServiceEffect sys (.commitClearance k now wall ids)
        { sys with clearances := sys.clearances.eraseIdx k, store := after }
  | replacedTiers (userId : Id) (request : TierSetRequest) (updatedById : Id)
      (fits : request.tiers.all Tier.fits = true) :
      ServiceEffect sys (.putTiers userId request) { sys with
        store := { sys.store with
          escalationTiers := request.tiers.map fun tier => ⟨tier, true, some updatedById⟩ } }
  | markedRead (userId id : Id) (now : Date) :
      ServiceEffect sys (.markRead userId id now)
        { sys with store := markRead sys.store id now }
  | recordedDenial (incidentId actorId auditId : Id) (clearanceLevel : Nat) (now : Date) :
      ServiceEffect sys (.recordDenial incidentId actorId auditId clearanceLevel now)
        { sys with
          store := sys.store.record [denialRecord incidentId actorId clearanceLevel now]
            fun _ => auditId }

theorem step_effect {config : JobConfig} {sys next : System} {action : Action}
    (service : Action.ofJob action = false) (stepped : step config sys action = some next) :
    ServiceEffect sys action next := by
  cases action with
  | startRun | job | interrupt | crash => simp [Action.ofJob] at service
  | create userId input image id now wall ids =>
    rcases accept_cases stepped with rfl | ⟨actor, _, rfl⟩
    · exact .refused _
    · exact .created userId input image id now wall ids actor
  | load userId operation id expectedVersion =>
    rcases accept_cases stepped with rfl | ⟨request, loaded, rfl⟩
    · exact .refused _
    · exact .loaded userId operation id expectedVersion request loaded
  | readInvestigator k =>
    obtain ⟨request, found, read⟩ := Option.bind_eq_some_iff.mp stepped
    obtain ⟨id, names, rfl⟩ := Option.map_eq_some_iff.mp read
    exact .readInvestigator k request id found names
  | commit k now wall ids =>
    obtain ⟨request, found, committed⟩ := Option.bind_eq_some_iff.mp stepped
    split at committed
    · simp at committed
    next free =>
      rcases accept_cases committed with rfl | ⟨store, done, rfl⟩
      · exact .answered k now wall ids
      · obtain ⟨mutation, decided, written⟩ := commitRequest_ok done
        have unlocked : sys.locked request.id = false := by
          simpa using fun locked => free (Or.inl locked)
        exact .committed k now wall ids request mutation store found unlocked decided written
  | loadClearance userId targetId clearance =>
    rcases accept_cases stepped with rfl | ⟨request, loaded, rfl⟩
    · exact .refused _
    · exact .loadedClearance userId targetId clearance request loaded
  | readImpact k =>
    obtain ⟨request, found, rfl⟩ := Option.map_eq_some_iff.mp stepped
    exact .readImpact k request found
  | commitClearance k now wall ids =>
    obtain ⟨request, found, impact⟩ := Option.bind_eq_some_iff.mp stepped
    obtain ⟨affected, read, committed⟩ := Option.bind_eq_some_iff.mp impact
    split at committed
    · simp at committed
    next free =>
      split at committed
      · obtain rfl := Option.some.inj committed
        exact .answeredClearance k now wall ids
      next changes =>
        rcases accept_cases committed with rfl | ⟨store, done, rfl⟩
        · exact .answeredClearance k now wall ids
        -- the whole cascade waits if one of its rows is locked
        · have unlocked : ∀ incident ∈ affected, sys.locked incident.id = false := by
            simpa only [List.any_eq_true, not_exists, not_and, Bool.not_eq_true] using free
          exact .committedClearance k now wall ids request affected store found read unlocked
            changes done
  | putTiers userId request =>
    rcases accept_cases stepped with rfl | ⟨after, served, rfl⟩
    · exact .refused _
    · obtain ⟨actor, _, served⟩ := bind_ok served
      obtain ⟨_, _, replaced⟩ := bind_ok served
      obtain ⟨fits, rfl⟩ := replaceTierSet_ok.mp replaced
      exact .replacedTiers userId request actor.id fits
  | markRead userId id now =>
    rcases accept_cases stepped with rfl | ⟨result, marked, rfl⟩
    · exact .refused _
    · obtain ⟨actor, _, written⟩ := bind_ok marked
      rw [show result.2 = _ from markNotificationRead_store written]
      exact .markedRead userId id now
  | recordDenial incidentId actorId auditId clearanceLevel now =>
    simp only [step] at stepped
    split at stepped <;> obtain rfl := Option.some.inj stepped
    · exact .refused _
    · exact .recordedDenial incidentId actorId auditId clearanceLevel now

/-- What a request can do to the rest of the system. -/
structure ServiceFrame (sys next : System) : Prop where
  runs : next.runs = sys.runs
  issued : next.issued = sys.issued
  history : SameHistory sys.store next.store

theorem step_service {config : JobConfig} {sys next : System} {action : Action}
    (service : Action.ofJob action = false) (stepped : step config sys action = some next) :
    ServiceFrame sys next := by
  cases step_effect service stepped with
  | created => exact ⟨rfl, rfl, create_history _ _ _ _ _ _ _ _⟩
  | committed k now wall ids request mutation after found free decided written =>
    exact ⟨rfl, rfl, commitMutation_history written (decide_unrelated decided)⟩
  | committedClearance k now wall ids request affected after found read free changes written =>
    exact ⟨rfl, rfl, commitClearance_history written⟩
  | replacedTiers => exact ⟨rfl, rfl, .of_eq rfl rfl rfl⟩
  | markedRead => exact ⟨rfl, rfl, markRead_history _ _ _⟩
  | recordedDenial => exact ⟨rfl, rfl, record_history _ _ _ (by simp [denialRecord])⟩
  -- the others write nothing
  | _ => exact ⟨rfl, rfl, .refl _⟩

end IncidentApi.Properties
