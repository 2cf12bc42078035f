import IncidentApi.ClearanceChange
import IncidentApi.Properties.ClosureGates

/-!
# What a lowering does

The loop over the affected incidents either pins every one of them once and commits, or stops at
one whose version has moved and undoes everything.
-/
namespace IncidentApi.Properties

/-- What the database itself enforces: primary keys and `CHECK` constraints. -/
structure Constrained (store : Store) : Prop where
  unique : store.UniqueIds
  checks : ∀ row ∈ store.incidents, checksHold row = true

/-- Some other write has moved the version of an incident that was read, or it is gone. -/
def VersionMoved (store : Store) (incident : AssignedIncidentRow) : Prop :=
  ∀ row ∈ store.incidents, row.id = incident.id → row.version ≠ incident.version

instance (store : Store) (incident : AssignedIncidentRow) :
    Decidable (VersionMoved store incident) :=
  inferInstanceAs (Decidable (∀ row ∈ store.incidents, row.id = incident.id →
    row.version ≠ incident.version))

/-- What the cascade makes of an incident it takes from its investigator. -/
def released (wall : Date) (row : Incident) : Incident :=
  { row with
    assignedInvestigatorId := none
    stage := if row.stage = .investigation then .triage else row.stage
    version := row.version + 1
    updatedAt := wall }

/-! ### One incident of the loop -/

/-- The cascade of a row keeps the constraints of the row. -/
theorem cascade_checks {actor : Actor} {targetId : Id} {incident : AssignedIncidentRow}
    {now wall : Date} {row : Incident} (checks : checksHold row = true) :
    checksHold ((cascade actor targetId incident now).data.write wall row) = true := by
  simp only [checksHold, Bool.and_eq_true] at checks ⊢
  refine ⟨?_, checks.2⟩
  by_cases investigated : incident.stage = .investigation
  · simp [closedRequiresRca, cascade, UpdateIncidentStateInput.write, investigated]
  · simpa [closedRequiresRca, cascade, UpdateIncidentStateInput.write, investigated] using checks.1

/-- An update that breaks no constraint commits if it matches one row, and is stale otherwise. -/
theorem commitMutation_eq (store : Store) (id : Id) (expectedVersion : Nat) (mutation : Mutation)
    (wall : Date) (ids : Nat → Id)
    (checks : ∀ row ∈ store.incidents, checksHold (mutation.data.write wall row) = true) :
    commitMutation store id expectedVersion mutation wall ids =
      if (store.incidents.filter (pinned id expectedVersion)).length = 1 then
        .ok { store with
          incidents := store.incidents.map fun row =>
            if pinned id expectedVersion row then mutation.data.write wall row else row
          auditEvents := store.auditEvents ++ auditRows mutation.records ids }
      else .error (StaleVersionError expectedVersion) := by
  have passed : (store.incidents.filter (pinned id expectedVersion)).all
      (fun row => checksHold (mutation.data.write wall row)) = true :=
    List.all_eq_true.mpr fun row member => checks row (List.mem_filter.mp member).1
  simp only [commitMutation, updateVersioned, passed, if_true, bind, Except.bind, ne_eq, ite_not,
    Store.record]

/-- Writing one incident leaves the rows that pin another as they are. -/
theorem filter_pinned_other {id other : Id} (differ : other ≠ id) (version expected : Nat)
    (data : UpdateIncidentStateInput) (wall : Date) (rows : List Incident) :
    (rows.map fun row => if pinned id version row then data.write wall row else row).filter
      (pinned other expected) = rows.filter (pinned other expected) := by
  induction rows with
  | nil => rfl
  | cons row rest ih =>
    rw [List.map_cons, List.filter_cons, List.filter_cons, ih]
    by_cases pins : pinned id version row = true
    · have own := ((pinned_iff _ _ _).mp pins).1
      have before : pinned other expected row = false := by simp [pinned, own, differ.symm]
      have after : pinned other expected (data.write wall row) = false := by
        simp [pinned, own, differ.symm]
      simp only [if_pos pins, before, after, Bool.false_eq_true, if_false]
    · rw [if_neg pins]

/-- The loop pins each incident once and commits, or stops at one that it cannot pin. -/
theorem cascadeAll_cases (actor : Actor) (targetId : Id) (now wall : Date) (ids : Nat → Nat → Id)
    {affected : List AssignedIncidentRow} (index : Nat) (store : Store)
    (distinct : (affected.map (·.id)).Nodup)
    (checks : ∀ row ∈ store.incidents, checksHold row = true) :
    ((∀ incident ∈ affected,
        (store.incidents.filter (pinned incident.id incident.version)).length = 1) ∧
      ∃ after, cascadeAll actor targetId now wall ids affected index store = .ok after) ∨
    ∃ incident ∈ affected,
      (store.incidents.filter (pinned incident.id incident.version)).length ≠ 1 ∧
      cascadeAll actor targetId now wall ids affected index store =
        .error (StaleVersionError incident.version) := by
  induction affected generalizing index store with
  | nil => exact .inl ⟨by simp, store, rfl⟩
  | cons incident rest ih =>
    obtain ⟨fresh, distinct⟩ := List.nodup_cons.mp distinct
    have committed := commitMutation_eq store incident.id incident.version
      (cascade actor targetId incident now) wall (ids index)
      fun row member => cascade_checks (checks row member)
    by_cases once : (store.incidents.filter (pinned incident.id incident.version)).length = 1
    · rw [if_pos once] at committed
      -- Only this incident's row was written, and the rest is about others.
      have others : ∀ later ∈ rest, later.id ≠ incident.id := fun later member same =>
        fresh (List.mem_map.mpr ⟨later, member, same⟩)
      have onward := ih (index + 1) _ distinct (commitMutation_checks checks committed)
      simp only [cascadeAll, committed, bind, Except.bind]
      rcases onward with ⟨pinnedOnce, done⟩ | ⟨later, member, missed, stale⟩
      · refine .inl ⟨?_, done⟩
        intro other member
        rcases List.mem_cons.mp member with rfl | later
        · exact once
        · rw [← pinnedOnce other later, filter_pinned_other (others other later)]
      · refine .inr ⟨later, List.mem_cons_of_mem _ member, ?_, stale⟩
        rwa [filter_pinned_other (others later member)] at missed
    · rw [if_neg once] at committed
      refine .inr ⟨incident, List.mem_cons_self, once, ?_⟩
      simp only [cascadeAll, committed, bind, Except.bind]

/-- With distinct ids an incident is pinned once unless its version has moved. -/
theorem pinned_once_iff {store : Store} (unique : (store.incidents.map Incident.id).Nodup)
    (incident : AssignedIncidentRow) :
    (store.incidents.filter (pinned incident.id incident.version)).length = 1 ↔
      ¬ VersionMoved store incident := by
  rw [pinned_single_iff unique]
  simp only [VersionMoved, ne_eq, not_forall, not_not, exists_prop]

/-- The transaction of a change commits, or is stale at an incident whose version has moved. -/
theorem commitClearance_cases {store : Store} (constrained : Constrained store) (actor : Actor)
    {target : User} (clearance : ClearanceLevel) {affected : List AssignedIncidentRow}
    (now wall : Date) (ids : Nat → Nat → Id) (distinct : (affected.map (·.id)).Nodup)
    (known : target.id ∈ store.users.map (·.id)) :
    ((∀ incident ∈ affected, ¬ VersionMoved store incident) ∧
      ∃ after, commitClearance store actor target clearance affected now wall ids = .ok after) ∨
    ∃ incident ∈ affected, VersionMoved store incident ∧
      commitClearance store actor target clearance affected now wall ids =
        .error (StaleVersionError incident.version) := by
  have present : (store.users.any fun user => user.id = target.id) = true := by
    simpa using List.mem_map.mp known
  simp only [commitClearance, updateUserClearance, present, if_true, bind, Except.bind]
  have settled := cascadeAll_cases actor target.id now wall ids 1
    { store with
      users := store.users.map fun user =>
        if user.id = target.id then { user with clearanceLevel := clearance.level } else user
      auditEvents := store.auditEvents ++
        auditRows [clearanceRecord actor target clearance now] (ids 0) }
    distinct constrained.checks
  simp only [pinned_once_iff constrained.unique.incidents, ne_eq, not_not] at settled
  exact settled

/-! ### The call -/

section Lowering
variable {actor : Actor} {targetId : Id} {target : User} {clearance : ClearanceLevel}

theorem clearanceImpact_lowered (store : Store)
    (lower : clearance.level < target.clearanceLevel) :
    clearanceImpact store target clearance =
      computeClearanceImpact store target.id clearance.level := if_pos lower

theorem mem_computeClearanceImpact {store : Store} {incident : AssignedIncidentRow} :
    incident ∈ computeClearanceImpact store targetId clearance.level ↔
      ∃ row ∈ store.incidents, row.assignedInvestigatorId = some targetId ∧ row.stage ≠ .closed ∧
        clearance.level < severityRank row.severity ∧ row.assigned = incident := by
  simp only [computeClearanceImpact, findAssignedNonClosedIncidents, List.mem_filter, List.mem_map,
    Bool.and_eq_true, decide_eq_true_eq, mustUnassignOnRaise]
  constructor
  · rintro ⟨⟨row, ⟨stored, assignee, opened⟩, rfl⟩, above⟩
    exact ⟨row, stored, assignee, opened, above, rfl⟩
  · rintro ⟨row, stored, assignee, opened, above, rfl⟩
    exact ⟨⟨row, ⟨stored, assignee, opened⟩, rfl⟩, above⟩

/-- A lowering of another user answers as its transaction does. -/
theorem changeClearance_committed {stores : ClearanceStores} {now wall : Date}
    {ids : Nat → Nat → Id} {after : Store} (other : actor.id ≠ targetId)
    (found : stores.load.userById targetId = some target)
    (lower : clearance.level < target.clearanceLevel)
    (committed : commitClearance stores.transaction actor target clearance
      (computeClearanceImpact stores.impact target.id clearance.level) now wall ids = .ok after) :
    changeClearance stores actor targetId clearance now wall ids =
      (.ok ⟨toAdminUserRow ((after.userById target.id).getD target),
        (computeClearanceImpact stores.impact target.id clearance.level).length⟩, after) := by
  have differ : target.clearanceLevel ≠ clearance.level := Nat.ne_of_gt lower
  simp only [changeClearance, assertNotSelf, other, if_false, loadTargetOrThrow, found, bind,
    Except.bind, differ, clearanceImpact_lowered stores.impact lower, committed]

theorem changeClearance_failed {stores : ClearanceStores} {now wall : Date}
    {ids : Nat → Nat → Id} {error : AppError} (other : actor.id ≠ targetId)
    (found : stores.load.userById targetId = some target)
    (lower : clearance.level < target.clearanceLevel)
    (failed : commitClearance stores.transaction actor target clearance
      (computeClearanceImpact stores.impact target.id clearance.level) now wall ids =
        .error error) :
    changeClearance stores actor targetId clearance now wall ids =
      (.error error, stores.transaction) := by
  have differ : target.clearanceLevel ≠ clearance.level := Nat.ne_of_gt lower
  simp only [changeClearance, assertNotSelf, other, if_false, loadTargetOrThrow, found, bind,
    Except.bind, differ, clearanceImpact_lowered stores.impact lower, failed]

end Lowering

/-! ### Undisturbed -/

theorem cascaded_pinned (actor : Actor) (targetId : Id) (now wall : Date)
    {affected : List AssignedIncidentRow} (distinct : (affected.map (·.id)).Nodup)
    {row : Incident} (listed : row.assigned ∈ affected) :
    cascaded actor targetId now wall affected row =
      (cascade actor targetId row.assigned now).data.write wall row := by
  induction affected with
  | nil => cases listed
  | cons incident rest ih =>
    obtain ⟨fresh, distinct⟩ := List.nodup_cons.mp distinct
    rw [cascaded_cons]
    rcases List.mem_cons.mp listed with rfl | later
    · have pins : pinned row.assigned.id row.assigned.version row = true :=
        (pinned_iff _ _ _).mpr ⟨rfl, rfl⟩
      rw [if_pos pins]
      exact cascaded_other fresh
    -- a row pinned by the first incident would be listed twice
    · have unpinned : ¬ pinned incident.id incident.version row = true := fun pins =>
        fresh (List.mem_map.mpr ⟨row.assigned, later, ((pinned_iff _ _ _).mp pins).1⟩)
      rw [if_neg unpinned]
      exact ih distinct later

/-- Ids are distinct, so a listed id lists the row itself. -/
theorem listed_iff {store : Store} (unique : (store.incidents.map Incident.id).Nodup)
    {targetId : Id} {clearance : ClearanceLevel} {row : Incident} (stored : row ∈ store.incidents) :
    row.id ∈ (computeClearanceImpact store targetId clearance.level).map (·.id) ↔
      row.assigned ∈ computeClearanceImpact store targetId clearance.level := by
  constructor
  · intro listed
    obtain ⟨incident, among, same⟩ := List.mem_map.mp listed
    obtain ⟨other, present, -, -, -, rfl⟩ := mem_computeClearanceImpact.mp among
    rwa [← List.inj_on_of_nodup_map unique present stored same]
  · intro among
    exact List.mem_map.mpr ⟨row.assigned, among, rfl⟩

theorem cascade_released (actor : Actor) (targetId : Id) (now wall : Date) (row : Incident) :
    (cascade actor targetId row.assigned now).data.write wall row = released wall row := by
  by_cases investigated : row.stage = .investigation <;>
    simp [cascade, UpdateIncidentStateInput.write, released, Incident.assigned, investigated]

/-- The loop over an impact releases the rows that it lists. -/
theorem cascaded_impact {store : Store} (unique : (store.incidents.map Incident.id).Nodup)
    {actor : Actor} {target : User} {clearance : ClearanceLevel}
    (lower : clearance.level < target.clearanceLevel) (now wall : Date) {row : Incident}
    (stored : row ∈ store.incidents) :
    cascaded actor target.id now wall
        (computeClearanceImpact store target.id clearance.level) row =
      if row.id ∈ (computeClearanceImpact store target.id clearance.level).map (·.id) then
        released wall row
      else row := by
  split
  next listed =>
    have distinct := clearanceImpact_nodup unique target clearance
    rw [clearanceImpact_lowered store lower] at distinct
    rw [cascaded_pinned actor target.id now wall distinct ((listed_iff unique stored).mp listed)]
    exact cascade_released actor target.id now wall row
  next other => exact cascaded_other other

/-- What a lowering made of a store, next to what its preview listed. -/
structure Lowered (store after : Store) (targetId : Id) (clearance : ClearanceLevel) (wall : Date)
    (preview : ClearanceImpactResponse) (response : AdminUserMutationResponse) : Prop where
  incidents : after.incidents = store.incidents.map fun row =>
    if row.id ∈ preview.affectedIncidents.map (·.id) then released wall row else row
  listed : ∀ listed ∈ preview.affectedIncidents, ∃ row ∈ store.incidents,
    listed = ⟨row.id, row.reference, row.severity⟩
  once : (preview.affectedIncidents.map (·.id)).Nodup
  users : after.users = store.users.map fun user =>
    if user.id = targetId then { user with clearanceLevel := clearance.level } else user
  permitted : ∀ row ∈ after.incidents, row.stage ≠ .closed →
    row.assignedInvestigatorId = some targetId → severityRank row.severity ≤ clearance.level
  counted : response.affectedIncidentCount = preview.affectedIncidents.length

theorem previewClearanceImpact_eq {store : Store} {targetId : Id} {target : User}
    (found : store.userById targetId = some target) (clearance : ClearanceLevel) :
    previewClearanceImpact store targetId clearance =
      .ok ⟨(computeClearanceImpact store targetId clearance.level).map fun incident =>
          ⟨incident.id, incident.reference, incident.severity⟩,
        (computeClearanceImpact store targetId clearance.level).length⟩ := by
  simp only [previewClearanceImpact, loadTargetOrThrow, found, bind, Except.bind, pure, Except.pure]

theorem changeClearance_undisturbed {store : Store} (constrained : Constrained store)
    {actor : Actor} {targetId : Id} {target : User} (other : actor.id ≠ targetId)
    (found : store.userById targetId = some target) {clearance : ClearanceLevel}
    (lower : clearance.level < target.clearanceLevel) (now wall : Date) (ids : Nat → Nat → Id) :
    ∃ preview response after, previewClearanceImpact store targetId clearance = .ok preview ∧
      changeClearance (.undisturbed store) actor targetId clearance now wall ids =
        (.ok response, after) ∧
      Lowered store after targetId clearance wall preview response := by
  have own : target.id = targetId := by simpa using List.find?_some found
  subst own
  have distinct := clearanceImpact_nodup constrained.unique.incidents target clearance
  rw [clearanceImpact_lowered store lower] at distinct
  have ids_eq : ((computeClearanceImpact store target.id clearance.level).map fun incident =>
      (⟨incident.id, incident.reference, incident.severity⟩ : AffectedIncident)).map (·.id) =
      (computeClearanceImpact store target.id clearance.level).map (·.id) := by
    rw [List.map_map]
    rfl
  have stored := List.mem_of_find?_eq_some found
  -- every listed incident is still at the version that was read
  have unmoved : ∀ incident ∈ computeClearanceImpact store target.id clearance.level,
      ¬ VersionMoved store incident := by
    intro incident among moved
    obtain ⟨row, present, -, -, -, rfl⟩ := mem_computeClearanceImpact.mp among
    exact moved row present rfl rfl
  have known : target.id ∈ store.users.map (·.id) := List.mem_map.mpr ⟨target, stored, rfl⟩
  rcases commitClearance_cases constrained actor clearance now wall ids distinct known with
    ⟨-, after, committed⟩ | ⟨stale, among, moved, -⟩
  · obtain ⟨rows, afterEq, -⟩ := commitClearance_ok committed
    have answered : changeClearance (.undisturbed store) actor target.id clearance now wall ids =
        _ := changeClearance_committed other found lower committed
    refine ⟨_, _, after, previewClearanceImpact_eq found clearance, answered, ?_⟩
    have incidents : after.incidents = store.incidents.map fun row =>
        if row.id ∈ (computeClearanceImpact store target.id clearance.level).map (·.id) then
          released wall row
        else row := by
      rw [afterEq]
      exact List.map_congr_left fun row present =>
        cascaded_impact constrained.unique.incidents lower now wall present
    constructor
    · rw [incidents, ids_eq]
    · intro listed member
      obtain ⟨incident, among, rfl⟩ := List.mem_map.mp member
      obtain ⟨row, present, -, -, -, rfl⟩ := mem_computeClearanceImpact.mp among
      exact ⟨row, present, rfl⟩
    · exact ids_eq ▸ distinct
    · rw [afterEq]
    -- an open incident above the new level was listed, and has lost its assignee
    · intro row member opened assigned
      rw [incidents] at member
      obtain ⟨old, present, rfl⟩ := List.mem_map.mp member
      by_cases listed : old.id ∈ (computeClearanceImpact store target.id clearance.level).map (·.id)
      · rw [if_pos listed] at assigned
        cases assigned
      · rw [if_neg listed] at opened assigned ⊢
        by_contra above
        refine listed ((listed_iff constrained.unique.incidents present).mpr
          (mem_computeClearanceImpact.mpr ⟨old, present, assigned, opened, ?_, rfl⟩))
        exact Nat.lt_of_not_le above
    · exact (List.length_map _).symm
  · exact absurd moved (unmoved stale among)

/-! ### The law -/

/-- A lowering that nothing disturbs does to each incident what its preview lists, and no other. One
that finds the version of a listed incident moved is stale, and leaves the store as it found it. -/
theorem lowering_does_as_previewed (store : Store) (constrained : Constrained store) (actor : Actor)
    (targetId : Id) (other : actor.id ≠ targetId) (target : User)
    (found : store.userById targetId = some target) (clearance : ClearanceLevel)
    (lower : clearance.level < target.clearanceLevel) (now wall : Date) (ids : Nat → Nat → Id) :
    ∃ preview, previewClearanceImpact store targetId clearance = .ok preview ∧
      (∃ response after,
        changeClearance (.undisturbed store) actor targetId clearance now wall ids =
          (.ok response, after) ∧
        Lowered store after targetId clearance wall preview response) ∧
      ∀ load loaded later, load.userById targetId = some loaded →
        clearance.level < loaded.clearanceLevel → Constrained later →
        targetId ∈ later.users.map (·.id) →
        (∃ row ∈ store.incidents, row.id ∈ preview.affectedIncidents.map (·.id) ∧
          VersionMoved later row.assigned) →
        ∃ row ∈ store.incidents, row.id ∈ preview.affectedIncidents.map (·.id) ∧
          VersionMoved later row.assigned ∧
          changeClearance ⟨load, store, later⟩ actor targetId clearance now wall ids =
            (.error (StaleVersionError row.version), later) := by
  obtain ⟨preview, response, after, previewed, answered, lowered⟩ :=
    changeClearance_undisturbed constrained other found lower now wall ids
  refine ⟨preview, previewed, ⟨response, after, answered, lowered⟩, ?_⟩
  rintro load loaded later atLoad lowers laterConstrained known ⟨row, present, listed, moved⟩
  have own : loaded.id = targetId := by simpa using List.find?_some atLoad
  subst own
  obtain rfl := Except.ok.inj ((previewClearanceImpact_eq found clearance).symm.trans previewed)
  have unique := constrained.unique.incidents
  -- The commit fails at the first incident whose version has moved, which names the error.
  simp only [List.map_map, Function.comp_def] at listed ⊢
  have distinct := clearanceImpact_nodup unique loaded clearance
  rw [clearanceImpact_lowered store lowers] at distinct
  rcases commitClearance_cases laterConstrained actor clearance now wall ids distinct known with
    ⟨unmoved, -⟩ | ⟨incident, among, stale, failed⟩
  · exact absurd moved (unmoved _ ((listed_iff unique present).mp listed))
  · obtain ⟨first, stored, -, -, -, rfl⟩ := mem_computeClearanceImpact.mp among
    refine ⟨first, stored, (listed_iff unique stored).mpr among, stale, ?_⟩
    exact changeClearance_failed other atLoad lowers failed

def sampleInspector : User :=
  ⟨"inspector", "inspector@example.com", "Inspector", .investigator, 4, true, 0⟩

/-- An investigator with an investigation, a triaged incident and one of low severity. -/
def inspectedStore : Store :=
  { sampleStore with
    users := [sampleManager, sampleInspector]
    incidents :=
      [{ sampleIncident "b" .high with
          stage := .investigation, assignedInvestigatorId := some "inspector" },
        { sampleIncident "a" .critical with
          stage := .triage, assignedInvestigatorId := some "inspector" },
        { sampleIncident "c" .low with
          stage := .triage, assignedInvestigatorId := some "inspector" }] }

/-- Meanwhile another write has moved the version of the second listed incident. -/
def racedStore : Store :=
  { inspectedStore with
    incidents := inspectedStore.incidents.map fun row =>
      if row.id = "a" then { row with version := 1 } else row }

theorem lowering_does_as_previewed_sample :
    (∃ preview response after,
      previewClearanceImpact inspectedStore "inspector" ⟨2, by decide, by decide⟩ = .ok preview ∧
      preview.affectedIncidents.map (·.id) = ["b", "a"] ∧
      changeClearance (.undisturbed inspectedStore) ⟨"manager", .admin, 4⟩ "inspector"
        ⟨2, by decide, by decide⟩ 60000 60000 (fun _ _ => "audit") = (.ok response, after) ∧
      Lowered inspectedStore after "inspector" ⟨2, by decide, by decide⟩ 60000 preview
        response) ∧
    changeClearance ⟨inspectedStore, inspectedStore, racedStore⟩ ⟨"manager", .admin, 4⟩ "inspector"
      ⟨2, by decide, by decide⟩ 60000 60000 (fun _ _ => "audit") =
        (.error (StaleVersionError 0), racedStore) := by
  obtain ⟨preview, previewed, ⟨response, after, answered, lowered⟩, raced⟩ :=
    lowering_does_as_previewed inspectedStore ⟨⟨by decide, by decide⟩, by decide⟩
      ⟨"manager", .admin, 4⟩ "inspector" (by decide) sampleInspector (by decide)
      ⟨2, by decide, by decide⟩ (by decide) 60000 60000 fun _ _ => "audit"
  have ids : preview.affectedIncidents.map (·.id) = ["b", "a"] := by
    have listed : (previewClearanceImpact inspectedStore "inspector" ⟨2, by decide, by decide⟩).map
        (·.affectedIncidents.map (·.id)) = .ok ["b", "a"] := by decide
    rw [previewed] at listed
    exact Except.ok.inj listed
  refine ⟨⟨preview, response, after, previewed, ids, answered, lowered⟩, ?_⟩
  rw [ids] at raced
  obtain ⟨row, stored, -, -, failed⟩ := raced inspectedStore sampleInspector racedStore (by decide)
    (by decide) ⟨⟨by decide, by decide⟩, by decide⟩ (by decide) (by decide)
  have unwritten : ∀ row ∈ inspectedStore.incidents, row.version = 0 := by decide
  rw [failed, unwritten row stored]

end IncidentApi.Properties
