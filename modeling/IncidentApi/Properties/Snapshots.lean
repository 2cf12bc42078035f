import IncidentApi.Properties.Rows
import IncidentApi.Library.OptimisticLock

/-!
# The rows that requests in flight have read

A mutation decides on the row its load returned, and the clearance cascade on the rows its impact
query returned. `Seen` relates such a row to the one that is stored now: every write moves the
version, so where the versions agree the protected columns do as well.
-/
namespace IncidentApi.Properties

open OptimisticLock

/-! ### Reading -/

/-- `row` was the stored row of its id, then or earlier. -/
def Seen (store : Store) (row : Incident) : Prop :=
  ∃ stored ∈ store.incidents, stored.id = row.id ∧
    Follows Incident.version protectedPart row stored

theorem Seen.now {store : Store} {row : Incident} (stored : row ∈ store.incidents) :
    Seen store row :=
  ⟨row, stored, rfl, .refl row⟩

/-- Ids are unique, so the stored row of that id is the one that follows it. -/
theorem Seen.follows {store : Store} {row stored : Incident} (seen : Seen store row)
    (unique : (store.incidents.map Incident.id).Nodup) (member : stored ∈ store.incidents)
    (same : stored.id = row.id) : Follows Incident.version protectedPart row stored := by
  obtain ⟨other, among, named, follows⟩ := seen
  exact eq_of_id_eq unique among member (named.trans same.symm) ▸ follows

theorem RowEvent.id {sys : System} {action : Action} {rows : List AuditEvent}
    {old new : Incident} (event : RowEvent sys action rows old new) : new.id = old.id := by
  cases event with
  | bumped k reading run batch isJob found opened done => exact (bumpedBy_same _ old).id
  | _ => rfl

theorem RowEvent.follows {sys : System} {action : Action} {rows : List AuditEvent}
    {old new : Incident} (event : RowEvent sys action rows old new) :
    Follows Incident.version protectedPart old new := by
  cases event with
  | kept => exact .refl old
  | mutated => exact .of_write (Nat.lt_succ_self _)
  | cascaded => exact .of_write (Nat.lt_succ_self _)
  | bumped k reading run batch isJob found opened done =>
    -- a bump moves neither the version nor a protected column
    have same := bumpedBy_protected batch.writes old
    exact .of_touch (congrArg Incident.version same).symm same.symm

/-- No step takes a row away. -/
theorem RowsEffect.later {sys : System} {action : Action} {rows : List AuditEvent}
    {incidents : List Incident} (effect : RowsEffect sys action rows incidents) {old : Incident}
    (stored : old ∈ sys.store.incidents) :
    ∃ new ∈ incidents, new.id = old.id ∧ Follows Incident.version protectedPart old new := by
  obtain ⟨new, member, event⟩ := effect.image stored
  exact ⟨new, member, event.id, event.follows⟩

/-- Every row before a step is found again after it. -/
theorem step_keeps_row {config : JobConfig} {sys next : System} {action : Action}
    (distinct : DistinctImpacts sys) (stepped : step config sys action = some next)
    {old : Incident} (stored : old ∈ sys.store.incidents) :
    ∃ row ∈ next.store.incidents, row.id = old.id := by
  obtain ⟨rows, _, effect⟩ := (step_store distinct stepped).incidents
  obtain ⟨row, later, named, _⟩ := effect.later stored
  exact ⟨row, later, named⟩

theorem Seen.step {sys : System} {action : Action} {rows : List AuditEvent} {after : Store}
    {row : Incident} (seen : Seen sys.store row)
    (effect : RowsEffect sys action rows after.incidents) : Seen after row := by
  obtain ⟨stored, among, named, follows⟩ := seen
  obtain ⟨new, later, same, moved⟩ := effect.later among
  exact ⟨new, later, same.trans named, follows.trans moved⟩

theorem RowsEffect.nodup {sys : System} {action : Action} {rows : List AuditEvent}
    {incidents : List Incident} (effect : RowsEffect sys action rows incidents)
    (unique : (sys.store.incidents.map Incident.id).Nodup) : (incidents.map Incident.id).Nodup := by
  cases effect with
  | created actor input imagePath id reference now wall fresh service =>
    rw [List.map_append, List.map_singleton]
    refine List.nodup_append.mpr ⟨unique, List.nodup_singleton _, ?_⟩
    intro taken old new last equal
    obtain ⟨row, stored, rfl⟩ := List.mem_map.mp old
    exact fresh row stored (equal.trans (List.mem_singleton.mp last))
  | changed change each =>
    have ids : (sys.store.incidents.map change).map Incident.id =
        sys.store.incidents.map Incident.id := by
      rw [List.map_map]
      exact List.map_congr_left fun row stored => (each row stored).id
    rwa [ids]

/-! ### Requests in flight -/

theorem loadRequest_ok {store : Store} {userId : Id} {operation : Operation} {id : Id}
    {expectedVersion : Nat} {request : Request}
    (loaded : loadRequest store userId operation id expectedVersion = .ok request) :
    request.row.toIncident ∈ store.incidents ∧ request.row.id = id ∧
      request.row = joinAssignee store request.row.toIncident ∧ request.id = id ∧
      request.operation = operation ∧ request.expectedVersion = expectedVersion ∧
      request.investigator = none := by
  obtain ⟨actor, _, rest⟩ := bind_ok loaded
  obtain ⟨_, _, rest⟩ := bind_ok rest
  obtain ⟨row, found, last⟩ := bind_ok rest
  obtain rfl := Except.ok.inj last
  obtain ⟨stored, same, _, joined⟩ := getByIdForActor_ok store actor id row found
  exact ⟨stored, same, joined, rfl, rfl, rfl, rfl⟩

theorem loadClearance_ok {store : Store} {userId targetId : Id} {clearance : ClearanceLevel}
    {request : ClearanceRequest}
    (loaded : loadClearance store userId targetId clearance = .ok request) :
    request.affected = none := by
  obtain ⟨actor, _, rest⟩ := bind_ok loaded
  obtain ⟨_, _, rest⟩ := bind_ok rest
  obtain ⟨_, _, rest⟩ := bind_ok rest
  obtain ⟨target, _, last⟩ := bind_ok rest
  obtain rfl := Except.ok.inj last
  rfl

/-- Where the requests in flight after an action come from. -/
structure PendingEffect (sys : System) (action : Action) (next : System) : Prop where
  requests : ∀ request ∈ next.requests,
    request ∈ sys.requests ∨
    (∃ userId operation id expectedVersion,
      action = .load userId operation id expectedVersion ∧
      loadRequest sys.store userId operation id expectedVersion = .ok request) ∨
    ∃ old ∈ sys.requests, ∃ investigator, request = { old with investigator := investigator }
  clearances : ∀ request ∈ next.clearances,
    request ∈ sys.clearances ∨ request.affected = none ∨
    ∃ old ∈ sys.clearances,
      request = { old with affected := some (clearanceImpact sys.store old.target old.clearance) }

/-- The mutations in flight after an action, each with the read that put it there. -/
theorem step_requests {config : JobConfig} {sys next : System} {action : Action}
    (stepped : step config sys action = some next) {request : Request}
    (member : request ∈ next.requests) :
    request ∈ sys.requests ∨
    (∃ userId operation id expectedVersion,
      action = .load userId operation id expectedVersion ∧
      loadRequest sys.store userId operation id expectedVersion = .ok request) ∨
    ∃ k old id, action = .readInvestigator k ∧ sys.requests[k]? = some old ∧
      old.operation.investigatorId = some id ∧
      request = { old with investigator := some (sys.store.userById id) } := by
  by_cases job : Action.ofJob action = true
  · cases step_job job stepped <;> exact Or.inl member
  · cases step_effect (by simpa using job) stepped with
    | loaded userId operation id expectedVersion loadedRequest loaded =>
      rcases List.mem_append.mp member with old | last
      · exact Or.inl old
      · obtain rfl := List.mem_singleton.mp last
        exact Or.inr (Or.inl ⟨userId, operation, id, expectedVersion, rfl, loaded⟩)
    | readInvestigator k old id found names =>
      rcases Pool.mem_set member with rfl | other
      · exact Or.inr (Or.inr ⟨k, old, id, rfl, found, names, rfl⟩)
      · exact Or.inl other
    -- the commit answers its request, whatever its outcome
    | answered => exact Or.inl ((List.eraseIdx_sublist ..).subset member)
    | committed => exact Or.inl ((List.eraseIdx_sublist ..).subset member)
    | _ => exact Or.inl member

theorem step_pending {config : JobConfig} {sys next : System} {action : Action}
    (stepped : step config sys action = some next) : PendingEffect sys action next := by
  have requests : ∀ request ∈ next.requests, request ∈ sys.requests ∨
      (∃ userId operation id expectedVersion,
        action = .load userId operation id expectedVersion ∧
        loadRequest sys.store userId operation id expectedVersion = .ok request) ∨
      ∃ old ∈ sys.requests, ∃ investigator,
        request = { old with investigator := investigator } := by
    intro request member
    rcases step_requests stepped member with old | loaded | ⟨k, old, id, _, found, _, rfl⟩
    · exact Or.inl old
    · exact Or.inr (Or.inl loaded)
    · exact Or.inr (Or.inr ⟨old, List.mem_of_getElem? found, _, rfl⟩)
  -- Most steps leave the pending changes of clearances alone.
  have still (same : next.clearances = sys.clearances) : PendingEffect sys action next :=
    ⟨requests, fun _ member => Or.inl (same ▸ member)⟩
  by_cases job : Action.ofJob action = true
  · cases step_job job stepped <;> exact still rfl
  · cases step_effect (by simpa using job) stepped with
    | loadedClearance userId targetId clearance request loaded =>
      refine ⟨requests, fun other member => ?_⟩
      refine (List.mem_append.mp member).imp_right fun last => Or.inl ?_
      obtain rfl := List.mem_singleton.mp last
      exact loadClearance_ok loaded
    | readImpact k request found =>
      refine ⟨requests, fun other member => ?_⟩
      rcases Pool.mem_set member with rfl | old
      · exact Or.inr (Or.inr ⟨request, List.mem_of_getElem? found, rfl⟩)
      · exact Or.inl old
    | answeredClearance =>
      exact ⟨requests, fun _ member => Or.inl ((List.eraseIdx_sublist ..).subset member)⟩
    | committedClearance =>
      exact ⟨requests, fun _ member => Or.inl ((List.eraseIdx_sublist ..).subset member)⟩
    | _ => exact still rfl

/-- A property of the rows that mutations in flight have loaded: it holds of what a load finds
now, and of what the earlier ones found. -/
theorem step_loaded {config : JobConfig} {sys next : System} {action : Action}
    (holds : TriageIncidentRow → Prop) (stepped : step config sys action = some next)
    (earlier : ∀ request ∈ sys.requests, holds request.row)
    (found : ∀ row ∈ sys.store.incidents, holds (joinAssignee sys.store row)) :
    ∀ request ∈ next.requests, holds request.row := by
  intro request member
  rcases (step_pending stepped).requests request member with old | ⟨_, _, _, _, _, loaded⟩ |
    ⟨old, among, _, rfl⟩
  · exact earlier request old
  · obtain ⟨stored, _, joined, _⟩ := loadRequest_ok loaded
    rw [joined]
    exact found _ stored
  · exact earlier old among

/-! ### The invariant -/

/-- An affected incident as its query returned it. -/
def ImpactSeen (store : Store) (target : User) (incident : AssignedIncidentRow) : Prop :=
  ∃ row, row.assigned = incident ∧ row.stage ≠ .closed ∧
    row.assignedInvestigatorId = some target.id ∧ Seen store row

structure SnapshotInvariant (sys : System) : Prop where
  unique : sys.store.UniqueIds
  impacts : DistinctImpacts sys
  requests : ∀ request ∈ sys.requests,
    request.row.id = request.id ∧ Seen sys.store request.row.toIncident
  clearances : ∀ request ∈ sys.clearances, ∀ affected, request.affected = some affected →
    ∀ incident ∈ affected, ImpactSeen sys.store request.target incident

theorem SnapshotInvariant.boot {start : Store} (unique : start.UniqueIds) (issued : List Id) :
    SnapshotInvariant (System.boot start issued) where
  unique := unique
  impacts request member := by simp [System.boot] at member
  requests request member := by simp [System.boot] at member
  clearances request member := by simp [System.boot] at member

theorem clearanceImpact_nodup {store : Store} (unique : (store.incidents.map Incident.id).Nodup)
    (target : User) (clearance : ClearanceLevel) :
    ((clearanceImpact store target clearance).map (·.id)).Nodup := by
  unfold clearanceImpact
  split
  · have ids : ((store.incidents.filter fun row =>
        row.assignedInvestigatorId = some target.id && row.stage ≠ .closed).map
          (·.assigned)).map (·.id) =
        (store.incidents.filter fun row =>
          row.assignedInvestigatorId = some target.id && row.stage ≠ .closed).map Incident.id := by
      rw [List.map_map]
      rfl
    -- the impact is a part of the table, whose ids are distinct
    apply List.Nodup.sublist (List.filter_sublist.map _)
    rw [findAssignedNonClosedIncidents, ids]
    exact unique.sublist (List.filter_sublist.map _)
  · exact List.nodup_nil

theorem SnapshotInvariant.step {config : JobConfig} {sys next : System} {action : Action}
    (inv : SnapshotInvariant sys) (stepped : step config sys action = some next) :
    SnapshotInvariant next := by
  have effect := step_store inv.impacts stepped
  have pending := step_pending stepped
  obtain ⟨rows, _, incidents⟩ := effect.incidents
  refine ⟨⟨effect.userIds ▸ inv.unique.users, incidents.nodup inv.unique.incidents⟩, ?_, ?_, ?_⟩
  · intro request member affected read
    rcases pending.clearances request member with old | unread | ⟨old, _, rfl⟩
    · exact inv.impacts request old affected read
    · rw [unread] at read
      simp at read
    · obtain rfl := Option.some.inj read
      exact clearanceImpact_nodup inv.unique.incidents _ _
  · intro request member
    rcases pending.requests request member with old | ⟨_, _, _, _, _, loaded⟩ |
      ⟨old, among, _, rfl⟩
    · exact ⟨(inv.requests request old).1, (inv.requests request old).2.step incidents⟩
    -- a request that has just been loaded read the row that is stored
    · obtain ⟨stored, same, _, named, _⟩ := loadRequest_ok loaded
      exact ⟨same.trans named.symm, (Seen.now stored).step incidents⟩
    · exact ⟨(inv.requests old among).1, (inv.requests old among).2.step incidents⟩
  · intro request member affected read incident among
    rcases pending.clearances request member with old | unread | ⟨old, _, rfl⟩
    · obtain ⟨row, shown, opened, assignee, seen⟩ :=
        inv.clearances request old affected read incident among
      exact ⟨row, shown, opened, assignee, seen.step incidents⟩
    · rw [unread] at read
      simp at read
    · obtain rfl := Option.some.inj read
      obtain ⟨row, stored, shown, opened, assignee⟩ := mem_clearanceImpact among
      exact ⟨row, shown, opened, assignee, (Seen.now stored).step incidents⟩

/-- Writes to other tables leave what was read as it was. -/
theorem SnapshotInvariant.withStore {sys : System} (inv : SnapshotInvariant sys) {store : Store}
    (incidents : store.incidents = sys.store.incidents)
    (users : store.users.map User.id = sys.store.users.map User.id) :
    SnapshotInvariant { sys with store := store } where
  unique := ⟨users ▸ inv.unique.users, incidents ▸ inv.unique.incidents⟩
  impacts := inv.impacts
  requests request member := by
    obtain ⟨named, stored, among, same⟩ := inv.requests request member
    exact ⟨named, stored, incidents ▸ among, same⟩
  clearances request member affected read incident among := by
    obtain ⟨row, shown, opened, assignee, stored, found, same⟩ :=
      inv.clearances request member affected read incident among
    exact ⟨row, shown, opened, assignee, stored, incidents ▸ found, same⟩

theorem reached_snapshots {config : JobConfig} {start : Store} {issued : List Id}
    (unique : start.UniqueIds) {allowed : System → Action → Prop} {sys : System}
    (reached : Machine.Reaches (step config) allowed (System.boot start issued) sys) :
    SnapshotInvariant sys :=
  reached.invariant SnapshotInvariant (.boot unique issued)
    (fun _ _ _ _ inv _ stepped => inv.step stepped) sys

/-! ### Conditions on commits -/

/-- The condition that the requests of a run meet when they commit. -/
def OnCommit (condition : System → Request → Prop) (sys : System) : Action → Prop
  | .commit k _ _ _ => ∀ request, sys.requests[k]? = some request → condition sys request
  | _ => True

def onCommit (check : System → Request → Bool) (sys : System) : Action → Bool
  | .commit k _ _ _ => (sys.requests[k]?).all (check sys)
  | _ => true

theorem onCommit_sound {condition : System → Request → Prop} {check : System → Request → Bool}
    (sound : ∀ sys request, check sys request = true → condition sys request) (sys : System)
    (action : Action) (passed : onCommit check sys action = true) :
    OnCommit condition sys action := by
  cases action with
  | commit k now wall ids =>
    intro request found
    rw [onCommit, found] at passed
    exact sound sys request passed
  | _ => trivial

theorem OnCommit.imp {condition other : System → Request → Prop} {sys : System} {action : Action}
    (holds : OnCommit condition sys action)
    (implies : ∀ request ∈ sys.requests, condition sys request → other sys request) :
    OnCommit other sys action := by
  cases action with
  | commit k now wall ids =>
    intro request found
    exact implies request (List.mem_of_getElem? found) (holds request found)
  | _ => trivial

/-- A write that matches a row matches the version its operation loaded. -/
def PinsWhatItRead (sys : System) (request : Request) : Prop :=
  ∀ row ∈ sys.store.incidents, pinned request.id request.expectedVersion row = true →
    row.version = request.row.version

instance (sys : System) (request : Request) : Decidable (PinsWhatItRead sys request) :=
  inferInstanceAs (Decidable (∀ row ∈ sys.store.incidents, _ → _))

/-- The `If-Match` value is at most the version the operation loaded. -/
def IfMatchNotAhead (_ : System) (request : Request) : Prop :=
  request.expectedVersion ≤ request.row.version

instance (sys : System) (request : Request) : Decidable (IfMatchNotAhead sys request) :=
  inferInstanceAs (Decidable (_ ≤ _))

theorem SnapshotInvariant.follows {sys : System} (inv : SnapshotInvariant sys) {request : Request}
    (pending : request ∈ sys.requests) {row : Incident} (stored : row ∈ sys.store.incidents)
    (pins : pinned request.id request.expectedVersion row = true) :
    Follows Incident.version protectedPart request.row.toIncident row := by
  obtain ⟨named, seen⟩ := inv.requests request pending
  have same := ((pinned_iff _ _ _).mp pins).1
  exact seen.follows inv.unique.incidents stored (same.trans named.symm)

theorem IfMatchNotAhead.pinsRead {sys : System} (inv : SnapshotInvariant sys) {action : Action}
    (fresh : OnCommit IfMatchNotAhead sys action) : OnCommit PinsWhatItRead sys action := by
  apply fresh.imp
  intro request pending notAhead row stored pins
  -- versions only grow, so a pin at or below the read version can match that version alone
  exact ((inv.follows pending stored pins).pinned_iff ((pinned_iff _ _ _).mp pins).2).mpr notAhead

/-! ### Following a row -/

/-- A relation between an incident and its later rows that every change of a row establishes, in
runs whose steps meet a condition. -/
structure Moves (allowed : System → Action → Prop) (related : Incident → Incident → Prop) :
    Prop where
  refl : ∀ row, related row row
  trans : ∀ {first second third}, related first second → related second third →
    related first third
  event : ∀ {sys action rows old new}, SnapshotInvariant sys → allowed sys action →
    old ∈ sys.store.incidents → RowEvent sys action rows old new → related old new

section Moves
variable {config : JobConfig} {allowed : System → Action → Prop}
  {related : Incident → Incident → Prop}

/-- Every row after a step comes from the row of its id, or has a new id. -/
theorem Moves.step {sys next : System} {action : Action} (moves : Moves allowed related)
    (inv : SnapshotInvariant sys) (permitted : allowed sys action)
    (stepped : step config sys action = some next) :
    ∀ row ∈ next.store.incidents,
      (∃ old ∈ sys.store.incidents, old.id = row.id ∧ related old row) ∨
      ∀ old ∈ sys.store.incidents, old.id ≠ row.id := by
  obtain ⟨rows, _, effect⟩ := (step_store inv.impacts stepped).incidents
  intro row member
  rcases effect.origin member with ⟨old, stored, event⟩ | ⟨_, _, _, _, _, _, _, rfl, fresh⟩
  · exact Or.inl ⟨old, stored, event.id.symm, moves.event inv permitted stored event⟩
  · exact Or.inr fresh

/-- Over any number of steps a row is followed by one of its id. -/
theorem Moves.followed {sys later : System} (moves : Moves allowed related)
    (inv : SnapshotInvariant sys)
    (onward : Machine.Reaches (IncidentApi.step config) allowed sys later)
    {old : Incident} (stored : old ∈ sys.store.incidents) :
    SnapshotInvariant later ∧
      ∃ next ∈ later.store.incidents, next.id = old.id ∧ related old next := by
  refine onward.invariant
    (fun state => SnapshotInvariant state ∧
      ∃ next ∈ state.store.incidents, next.id = old.id ∧ related old next)
    ⟨inv, old, stored, rfl, moves.refl old⟩ ?_ later
  rintro before action after _ ⟨held, next, inside, same, moved⟩ permitted stepped
  refine ⟨held.step stepped, ?_⟩
  obtain ⟨new, later, kept⟩ := step_keeps_row held.impacts stepped inside
  refine ⟨new, later, kept.trans same, ?_⟩
  rcases moves.step held permitted stepped new later with ⟨other, among, equal, further⟩ | fresh
  · obtain rfl := eq_of_id_eq held.unique.incidents among inside (equal.trans kept)
    exact moves.trans moved further
  · exact absurd kept.symm (fresh next inside)

/-- Every later row of its id is that one. -/
theorem Moves.reached {sys later : System} (moves : Moves allowed related)
    (inv : SnapshotInvariant sys)
    (onward : Machine.Reaches (IncidentApi.step config) allowed sys later)
    {old row : Incident} (stored : old ∈ sys.store.incidents)
    (member : row ∈ later.store.incidents) (named : row.id = old.id) : related old row := by
  obtain ⟨held, next, inside, same, moved⟩ := moves.followed inv onward stored
  exact eq_of_id_eq held.unique.incidents member inside (named.trans same.symm) ▸ moved

end Moves

end IncidentApi.Properties
