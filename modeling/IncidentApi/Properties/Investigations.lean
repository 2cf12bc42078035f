import IncidentApi.Properties.Lifecycle

/-!
# Investigations, one request at a time

Runs in which no request starts while another is in flight. An operation then decides on the row
that is stored, so what becomes of the assignee of an investigation depends on the operations
alone.
-/
namespace IncidentApi.Properties

/-! ### One request at a time -/

/-- Only the next half of the request in flight may follow its first. -/
def oneAtATime (sys : System) : Action → Bool
  | .readInvestigator _ | .commit .. | .readImpact _ | .commitClearance .. => true
  | _ => sys.requests.isEmpty && sys.clearances.isEmpty

/-- At most one mutation is in flight, and the row it read is the stored one. -/
def Sequential (sys : System) : Prop :=
  sys.requests = [] ∨
    ∃ request, sys.requests = [request] ∧ request.row.toIncident ∈ sys.store.incidents ∧
      sys.clearances = []

theorem Sequential.step {config : JobConfig} {sys next : System} {action : Action}
    (sequential : Sequential sys) (single : oneAtATime sys action = true)
    (stepped : step config sys action = some next) : Sequential next := by
  rcases sequential with idle | ⟨request, only, stored, noClearance⟩
  -- idle: only a load can put a request in flight
  · by_cases load : ∃ userId operation id version, action = .load userId operation id version
    · obtain ⟨userId, operation, id, version, rfl⟩ := load
      simp only [oneAtATime, Bool.and_eq_true, List.isEmpty_iff] at single
      rcases accept_cases stepped with rfl | ⟨request, loaded, rfl⟩
      · exact Or.inl idle
      · exact Or.inr ⟨request, by simp [idle], (loadRequest_ok loaded).1, single.2⟩
    · refine Or.inl (List.eq_nil_iff_forall_not_mem.mpr fun request member => ?_)
      rcases (step_pending stepped).requests request member with old | loaded | ⟨old, among, _⟩
      · simp [idle] at old
      · obtain ⟨userId, operation, id, version, isLoad, _⟩ := loaded
        exact load ⟨userId, operation, id, version, isLoad⟩
      · simp [idle] at among
  -- busy: what may follow is the next half of that request
  · have busy : ∀ other, oneAtATime sys other = (sys.requests.isEmpty && sys.clearances.isEmpty) →
        action ≠ other := by
      rintro other closed rfl
      rw [closed, only] at single
      simp at single
    cases action with
    | readInvestigator k =>
      obtain ⟨pending, found, read⟩ := Option.bind_eq_some_iff.mp stepped
      obtain ⟨id, _, rfl⟩ := Option.map_eq_some_iff.mp read
      rw [only, List.getElem?_singleton, Option.ite_none_right_eq_some] at found
      obtain ⟨rfl, same⟩ := found
      obtain rfl := Option.some.inj same
      refine Or.inr ⟨{ request with investigator := some (sys.store.userById id) }, ?_, stored,
        noClearance⟩
      simp only [only, List.set_cons_zero]
    | commit k now wall ids =>
      obtain ⟨pending, found, committed⟩ := Option.bind_eq_some_iff.mp stepped
      rw [only, List.getElem?_singleton, Option.ite_none_right_eq_some] at found
      -- the commit answers the only request, whatever its outcome
      have answered : sys.requests.eraseIdx k = [] := by
        rw [only, found.1]
        rfl
      split at committed
      · simp at committed
      · rcases accept_cases committed with rfl | ⟨store, done, rfl⟩ <;> exact Or.inl answered
    | readImpact k =>
      obtain ⟨pending, found, _⟩ := Option.map_eq_some_iff.mp stepped
      simp [noClearance] at found
    | commitClearance k now wall ids =>
      obtain ⟨pending, found, _⟩ := Option.bind_eq_some_iff.mp stepped
      simp [noClearance] at found
    | _ => exact absurd rfl (busy _ rfl)

theorem reached_sequential {config : JobConfig} {start : Store} {issued : List Id}
    {allowed : System → Action → Prop} {sys : System}
    (single : ∀ sys action, allowed sys action → oneAtATime sys action = true)
    (reached : Machine.Reaches (step config) allowed (System.boot start issued) sys) :
    Sequential sys :=
  reached.invariant Sequential (Or.inl rfl)
    (fun _ _ _ _ holds permitted stepped => holds.step (single _ _ permitted) stepped) sys

/-- What a request read is what it overwrites, whatever its `If-Match` value. -/
theorem Sequential.pinsRead {sys : System} (inv : SnapshotInvariant sys)
    (sequential : Sequential sys) (action : Action) : OnCommit PinsWhatItRead sys action := by
  have current : ∀ request ∈ sys.requests, PinsWhatItRead sys request := by
    intro request pending row stored pins
    rcases sequential with idle | ⟨only, isOnly, inside, _⟩
    · simp [idle] at pending
    · rw [isOnly] at pending
      obtain rfl := List.mem_singleton.mp pending
      have named := (inv.requests request (by simp [isOnly])).1
      have same := ((pinned_iff _ _ _).mp pins).1
      exact congrArg Incident.version
        (eq_of_id_eq inv.unique.incidents stored inside (same.trans named.symm))
  cases action with
  | commit k now wall ids => exact fun request found => current request (List.mem_of_getElem? found)
  | _ => trivial

/-! ### Back to triage -/

def isTriage : Operation → Bool
  | .triage => true
  | _ => false

/-- The incident a triage request would overwrite is not under investigation. -/
def TriagesNoInvestigation (sys : System) (request : Request) : Prop :=
  isTriage request.operation = true → ∀ row ∈ sys.store.incidents,
    pinned request.id request.expectedVersion row = true → row.stage ≠ .investigation

instance (sys : System) (request : Request) : Decidable (TriagesNoInvestigation sys request) :=
  inferInstanceAs (Decidable (_ → _))

/-- An audit row of a release. -/
def Releases (id : Id) (entry : AuditEvent) : Prop :=
  entry.type = .investigatorUnassigned ∧ entry.incidentId = some id

/-- An operation that takes an investigation back to triage is `triage` itself or takes the
investigator off, with an audit row. -/
theorem decide_release {operation : Operation} {actor : Actor} {id : Id}
    {row : TriageIncidentRow} {investigator : Option User} {now : Date} {mutation : Mutation}
    (decided : operation.decide actor id row investigator now = .ok mutation)
    (returned : mutation.data.stage = some .triage) :
    isTriage operation = true ∨
      mutation.data.assignedInvestigatorId = some none ∧
        ∃ entry ∈ mutation.records, ∀ id', Releases id (entry.row id') := by
  cases operation with
  | triage => exact Or.inl rfl
  | changeSeverity input =>
    obtain ⟨_, _, data, records⟩ := changeSeverity_ok decided
    rw [data] at returned ⊢
    simp only at returned
    split at returned
    next both =>
      simp only [Bool.and_eq_true] at both
      obtain ⟨assignee, stranded⟩ := Option.isSome_iff_exists.mp both.1
      refine Or.inr ⟨by simp [both.1],
        unassignedRecord actor id assignee.id "CLEARANCE_BELOW_NEW_SEVERITY" now, ?_,
        fun _ => ⟨rfl, rfl⟩⟩
      -- the row right after `SEVERITY_CHANGED`
      simp [records, stranded]
    · simp at returned
  | assignInvestigator investigatorId =>
    obtain ⟨_, _, _, _, _, _, data, _⟩ := assignInvestigator_ok decided
    rw [data] at returned
    exact absurd returned (optional_ne (by decide))
  | unassignInvestigator =>
    obtain ⟨_, _, removed, _, data, records⟩ := unassignInvestigator_ok decided
    rw [data, records]
    exact Or.inr ⟨rfl, _, List.mem_cons_self, fun _ => ⟨rfl, rfl⟩⟩
  | acknowledge =>
    rw [(acknowledge_ok decided).2.2.1] at returned
    simp at returned
  | propose input =>
    rw [(propose_ok decided).2.2.1] at returned
    simp at returned
  | approve =>
    rw [(approve_ok decided).2.2.1] at returned
    simp at returned
  | reject reason =>
    rw [(reject_ok decided).2.1] at returned
    simp at returned

theorem write_stage_cases (data : UpdateIncidentStateInput) (wall : Date) (row : Incident) :
    (data.write wall row).stage = row.stage ∨ data.stage = some (data.write wall row).stage := by
  cases target : data.stage with
  | none => exact Or.inl (by simp [UpdateIncidentStateInput.write, target])
  | some stage => exact Or.inr (by simp [UpdateIncidentStateInput.write, target])

/-- What is guaranteed when an investigation becomes a triage in one step. -/
def ReleasedBy (rows : List AuditEvent) (old new : Incident) : Prop :=
  old.stage = .investigation → new.stage = .triage →
    new.assignedInvestigatorId = none ∧ ∃ entry ∈ rows, Releases old.id entry

theorem RowStep.release {sys : System} {action : Action} {rows : List AuditEvent}
    {old new : Incident} (triages : OnCommit TriagesNoInvestigation sys action)
    (stored : old ∈ sys.store.incidents) (rowStep : RowStep sys action rows old new) :
    ReleasedBy rows old new := by
  intro investigated returned
  cases rowStep with
  | kept =>
    rw [investigated] at returned
    simp at returned
  | decided k now wall ids request mutation isCommit found free pins current decided logs =>
    have target : mutation.data.stage = some .triage := by
      rcases write_stage_cases mutation.data wall old with same | target
      · rw [same, investigated] at returned
        simp at returned
      · rw [target, returned]
    rcases decide_release decided target with triage | ⟨released, entry, recorded, names⟩
    -- the step is a triage of an incident under investigation, which the condition excludes
    · exact absurd investigated ((isCommit ▸ triages) request found triage old stored pins)
    · obtain ⟨id, logged⟩ := logs entry recorded
      have named := ((pinned_iff _ _ _).mp pins).1
      exact ⟨by simp [UpdateIncidentStateInput.write, released], _, logged, named ▸ names id⟩
  | cascaded actor targetId incident now wall named stage opened assignee free logs =>
    obtain ⟨id, logged⟩ := logs (cascadeRecord actor targetId incident now) (by simp [cascade])
    exact ⟨rfl, _, logged, rfl, congrArg some named⟩
  | bumped new job same =>
    have stage := protected_congr Incident.stage (fun _ => rfl) same
    rw [stage, investigated] at returned
    simp at returned

theorem decide_triage {operation : Operation} {actor : Actor} {id : Id} {row : TriageIncidentRow}
    {investigator : Option User} {now : Date} {mutation : Mutation}
    (isTriage : isTriage operation = true)
    (decided : operation.decide actor id row investigator now = .ok mutation) :
    canTransition row.stage .triage = true := by
  cases operation with
  | triage => exact (triage_ok decided).1
  | _ => simp [Properties.isTriage] at isTriage

theorem reported_of_transition {stage : Stage} (edge : canTransition stage .triage = true)
    (other : stage ≠ .investigation) : stage = .reported := by
  cases stage <;> simp_all [canTransition, stageTransitions]

/-- In every run of requests one at a time, a step that does not triage an incident under
investigation triages reported incidents only, and takes no investigation back to triage without
releasing its investigator in the audit log. -/
theorem return_to_triage_releases_investigator (config : JobConfig) (start : Store)
    (issued : List Id) (unique : start.UniqueIds) (sys : System)
    (reached : Machine.Reaches (step config) (fun sys action => oneAtATime sys action = true)
      (System.boot start issued) sys) (action : Action) (next : System)
    (triages : OnCommit TriagesNoInvestigation sys action)
    (stepped : step config sys action = some next) :
    (∀ k now wall ids request after, action = .commit k now wall ids →
      sys.requests[k]? = some request → isTriage request.operation = true →
      commitRequest sys.store request now wall ids = .ok after →
      ∀ row ∈ sys.store.incidents, row.id = request.id → row.stage = .reported) ∧
    ∃ rows, next.store.auditEvents = sys.store.auditEvents ++ rows ∧
      ∀ old ∈ sys.store.incidents, ∀ new ∈ next.store.incidents, new.id = old.id →
        ReleasedBy rows old new := by
  have inv := reached_snapshots unique reached
  have pinsRead := (reached_sequential (fun _ _ single => single) reached).pinsRead inv action
  refine ⟨?_, ?_⟩
  · rintro k now wall ids request after rfl found triage committed row stored named
    -- The stage that `triage` has read is the one it overwrites, in a run of one request at a time.
    obtain ⟨overwritten, inside, pins⟩ := overwritten_row committed
    obtain rfl := eq_of_id_eq inv.unique.incidents inside stored
      (((pinned_iff _ _ _).mp pins).1.trans named.symm)
    have follows := inv.follows (List.mem_of_getElem? found) inside pins
    have stage := protected_congr Incident.stage (fun _ => rfl)
      (follows.same (pinsRead request found overwritten inside pins).symm)
    obtain ⟨mutation, decided, _⟩ := commitRequest_ok committed
    exact reported_of_transition (stage ▸ decide_triage triage decided)
      (triages request found triage overwritten inside pins)
  · obtain ⟨rows, audits, origin⟩ := step_rowSteps inv pinsRead stepped
    refine ⟨rows, audits, fun old stored new member same => ?_⟩
    rcases origin new member with ⟨other, among, named, rowStep⟩ |
      ⟨actor, input, imagePath, id, reference, now, wall, rfl, fresh⟩
    · obtain rfl := eq_of_id_eq inv.unique.incidents among stored (named.symm.trans same)
      exact rowStep.release triages among
    · exact absurd same.symm (fresh old stored)

/-- The sample incident under investigation, with one more request loaded for it. -/
def underInvestigation (operation : Operation) : List Action :=
  reported ++ performed .triage 0 1 ++ investigated 1 2 ++ [.load "admin" operation "i" 2]

def lastCommit : Action := .commit 0 3 3 fun n => "last" ++ toString n

theorem return_to_triage_releases_investigator_sample :
    ∃ sys next, Machine.exec (step sampleConfig) oneAtATime (System.boot staffedStore [])
        (underInvestigation .unassignInvestigator) = some sys ∧
      step sampleConfig sys lastCommit = some next ∧
      sys.store.incidents.map (·.stage) = [.investigation] ∧
      next.store.incidents.map (·.stage) = [.triage] ∧
      ∃ rows, next.store.auditEvents = sys.store.auditEvents ++ rows ∧
        ∀ old ∈ sys.store.incidents, ∀ new ∈ next.store.incidents, new.id = old.id →
          ReleasedBy rows old new := by
  have ran : ((Machine.exec (step sampleConfig) oneAtATime (System.boot staffedStore [])
      (underInvestigation .unassignInvestigator)).bind fun sys =>
        (step sampleConfig sys lastCommit).map fun next =>
          (sys.store.incidents.map (·.stage), next.store.incidents.map (·.stage),
            onCommit (fun sys request => decide (TriagesNoInvestigation sys request)) sys
              lastCommit)) = some ([.investigation], [.triage], true) := by decide
  obtain ⟨sys, executed, ran⟩ := Option.bind_eq_some_iff.mp ran
  obtain ⟨next, stepped, facts⟩ := Option.map_eq_some_iff.mp ran
  simp only [Prod.mk.injEq] at facts
  obtain ⟨before, after, passed⟩ := facts
  refine ⟨sys, next, executed, stepped, before, after, ?_⟩
  exact (return_to_triage_releases_investigator sampleConfig staffedStore []
    ⟨by decide, by decide⟩ sys
    (Machine.reaches_of_exec _ (fun _ _ => id) _ _ _ executed) lastCommit next
    (onCommit_sound (fun _ _ => of_decide_eq_true) _ _ passed) stepped).2

/-- A second triage takes an incident out of its investigation and leaves its investigator. -/
theorem second_triage_keeps_investigator :
    ¬ ∀ (config : JobConfig) (start : Store) (issued : List Id), start.UniqueIds →
      start.incidents = [] → ∀ sys, Machine.Reaches (step config)
        (fun sys action => oneAtATime sys action = true) (System.boot start issued) sys →
      ∀ action next, oneAtATime sys action = true → step config sys action = some next →
        (∀ k now wall ids request after, action = .commit k now wall ids →
          sys.requests[k]? = some request → isTriage request.operation = true →
          commitRequest sys.store request now wall ids = .ok after →
          ∀ row ∈ sys.store.incidents, row.id = request.id → row.stage = .reported) ∧
        ∃ rows, next.store.auditEvents = sys.store.auditEvents ++ rows ∧
          ∀ old ∈ sys.store.incidents, ∀ new ∈ next.store.incidents, new.id = old.id →
            ReleasedBy rows old new := by
  intro releases
  have ran : ((Machine.exec (step sampleConfig) oneAtATime (System.boot staffedStore [])
      (underInvestigation .triage)).bind fun sys =>
        (step sampleConfig sys lastCommit).map fun next =>
          (sys.store.incidents.map fun row => (row.id, row.stage),
            next.store.incidents.map fun row => (row.id, row.stage, row.assignedInvestigatorId))) =
      some ([("i", .investigation)], [("i", .triage, some "investigator")]) := by decide
  obtain ⟨sys, executed, ran⟩ := Option.bind_eq_some_iff.mp ran
  obtain ⟨next, stepped, facts⟩ := Option.map_eq_some_iff.mp ran
  simp only [Prod.mk.injEq] at facts
  obtain ⟨old, before, oldFacts⟩ := List.map_eq_singleton_iff.mp facts.1
  obtain ⟨new, after, newFacts⟩ := List.map_eq_singleton_iff.mp facts.2
  simp only [Prod.mk.injEq] at oldFacts newFacts
  obtain ⟨_, rows, _, released⟩ := releases sampleConfig staffedStore [] ⟨by decide, by decide⟩ rfl
    sys (Machine.reaches_of_exec _ (fun _ _ => id) _ _ _ executed) lastCommit next rfl stepped
  have free := (released old (by simp [before]) new (by simp [after])
    (newFacts.1.trans oldFacts.1.symm) oldFacts.2 newFacts.2.1).1
  rw [newFacts.2.2] at free
  simp at free

/-! ### The investigator of an investigation -/

def isReject : Operation → Bool
  | .reject _ => true
  | _ => false

/-- The incident a rejection would overwrite has an investigator to go back to. -/
def RejectsStaffed (sys : System) (request : Request) : Prop :=
  isReject request.operation = true → ∀ row ∈ sys.store.incidents,
    pinned request.id request.expectedVersion row = true → row.stage = .pendingClosure →
      row.assignedInvestigatorId.isSome = true

instance (sys : System) (request : Request) : Decidable (RejectsStaffed sys request) :=
  inferInstanceAs (Decidable (_ → _))

def Staffed (row : Incident) : Prop :=
  row.stage = .investigation → row.assignedInvestigatorId.isSome = true

theorem Staffed.congr {row other : Incident} (staffed : Staffed row)
    (same : protectedPart row = protectedPart other) : Staffed other := by
  have stage := protected_congr Incident.stage (fun _ => rfl) same
  have assignee := protected_congr Incident.assignedInvestigatorId (fun _ => rfl) same
  rw [Staffed, ← stage, ← assignee]
  exact staffed

theorem staffed_write {row : Incident} {data : UpdateIncidentStateInput} (wall : Date)
    (staffed : Staffed row)
    (enters : data.stage = some .investigation →
      (data.assignedInvestigatorId.getD row.assignedInvestigatorId).isSome = true)
    (leaves : data.assignedInvestigatorId = some none → row.stage = .investigation →
      data.stage = some .triage) : Staffed (data.write wall row) := by
  intro investigated
  rcases write_stage_cases data wall row with same | target
  · have before : row.stage = .investigation := same.symm.trans investigated
    cases assignee : data.assignedInvestigatorId with
    | none => simpa [UpdateIncidentStateInput.write, assignee] using staffed before
    | some new =>
      cases new with
      | some id => simp [UpdateIncidentStateInput.write, assignee]
      | none =>
        -- taking the assignee off an investigation comes with a return to `TRIAGE`
        have returned := leaves assignee before
        simp [UpdateIncidentStateInput.write, returned] at investigated
  · rw [investigated] at target
    exact enters target

theorem decide_staffed {operation : Operation} {actor : Actor} {id : Id} {row : TriageIncidentRow}
    {investigator : Option User} {now : Date} {mutation : Mutation}
    (decided : operation.decide actor id row investigator now = .ok mutation)
    (staffed : Staffed row.toIncident)
    (rejects : isReject operation = true → row.stage = .pendingClosure →
      row.assignedInvestigatorId.isSome = true) (wall : Date) :
    Staffed (mutation.data.write wall row.toIncident) := by
  cases operation with
  | triage =>
    rw [(triage_ok decided).2.1]
    exact staffed_write wall staffed (by simp) (by simp)
  | changeSeverity input =>
    obtain ⟨_, _, data, _⟩ := changeSeverity_ok decided
    rw [data]
    refine staffed_write wall staffed (fun target => absurd target (optional_ne (by decide))) ?_
    intro released investigated
    simp only at released ⊢
    split at released
    next stranded => simp [stranded, investigated]
    · simp at released
  | assignInvestigator investigatorId =>
    obtain ⟨_, user, _, _, _, _, data, _⟩ := assignInvestigator_ok decided
    rw [data]
    exact staffed_write wall staffed (fun _ => rfl) (by simp)
  | unassignInvestigator =>
    obtain ⟨_, _, removed, _, data, _⟩ := unassignInvestigator_ok decided
    rw [data]
    refine staffed_write wall staffed (fun target => absurd target (optional_ne (by decide))) ?_
    intro _ investigated
    simp [investigated]
  | acknowledge =>
    rw [(acknowledge_ok decided).2.2.1]
    exact staffed_write wall staffed (by simp) (by simp)
  | propose input =>
    rw [(propose_ok decided).2.2.1]
    exact staffed_write wall staffed (by simp) (by simp)
  | approve =>
    rw [(approve_ok decided).2.2.1]
    exact staffed_write wall staffed (by simp) (by simp)
  | reject reason =>
    obtain ⟨pending, data, _⟩ := reject_ok decided
    rw [data]
    -- the one operation that enters `INVESTIGATION` without naming an investigator
    exact staffed_write wall staffed (fun _ => rejects rfl pending) (by simp)

theorem cascade_staffed (actor : Actor) (targetId : Id) {incident : AssignedIncidentRow}
    {row : Incident} (now wall : Date) (stage : incident.stage = row.stage)
    (staffed : Staffed row) :
    Staffed ((cascade actor targetId incident now).data.write wall row) := by
  refine staffed_write wall staffed (fun target => absurd target (optional_ne (by decide))) ?_
  intro _ investigated
  simp [cascade, stage, investigated]

theorem RowStep.staffed {sys : System} {action : Action} {rows : List AuditEvent}
    {old new : Incident} (rejects : OnCommit RejectsStaffed sys action)
    (stored : old ∈ sys.store.incidents) (rowStep : RowStep sys action rows old new)
    (staffed : Staffed old) : Staffed new := by
  cases rowStep with
  | kept => exact staffed
  | decided k now wall ids request mutation isCommit found free pins current decided logs =>
    refine (decide_staffed decided (staffed.congr current.symm) ?_ wall).congr
      (write_protected mutation.data wall current)
    intro reject pending
    have stage := protected_congr Incident.stage (fun _ => rfl) current
    have assignee := protected_congr Incident.assignedInvestigatorId (fun _ => rfl) current
    rw [assignee]
    exact (isCommit ▸ rejects) request found reject old stored pins (stage.symm.trans pending)
  | cascaded actor targetId incident now wall named stage opened assignee free logs =>
    exact cascade_staffed actor targetId now wall stage staffed
  | bumped new job same => exact staffed.congr same.symm

theorem newIncident_staffed (actor : Actor) (input : CreateIncidentRequest)
    (imagePath : Option String) (id : Id) (reference : String) (now wall : Date) :
    Staffed (newIncident actor input imagePath id reference now wall) := by
  intro investigated
  simp [newIncident] at investigated

/-- Incidents made by `create` and any requests one at a time: an investigation has its
investigator as long as no closure is rejected that has lost its own. -/
theorem investigation_keeps_investigator (config : JobConfig) (start : Store) (issued : List Id)
    (users : (start.users.map User.id).Nodup) (created : start.incidents = []) (sys : System)
    (reached : Machine.Reaches (step config)
      (fun sys action => oneAtATime sys action = true ∧ OnCommit RejectsStaffed sys action)
      (System.boot start issued) sys) :
    ∀ row ∈ sys.store.incidents, row.stage = .investigation →
      row.assignedInvestigatorId ≠ none := by
  have unique : start.UniqueIds := ⟨users, by simp [created]⟩
  have each : ∀ row ∈ sys.store.incidents, Staffed row := by
    refine reached.invariant (fun sys => ∀ row ∈ sys.store.incidents, Staffed row) ?_ ?_ sys
    · simp [System.boot, created]
    · rintro before action after earlier staffed ⟨_, rejects⟩ stepped new member
      have inv := reached_snapshots unique earlier
      have sequential := reached_sequential (fun _ _ allowed => allowed.1) earlier
      obtain ⟨rows, _, origin⟩ := step_rowSteps inv (sequential.pinsRead inv action) stepped
      rcases origin new member with ⟨old, stored, _, rowStep⟩ |
        ⟨actor, input, imagePath, id, reference, now, wall, rfl, _⟩
      · exact rowStep.staffed rejects stored (staffed old stored)
      · exact newIncident_staffed actor input imagePath id reference now wall
  intro row stored investigated unassigned
  have staffed := each row stored investigated
  rw [unassigned] at staffed
  simp at staffed

def staffedGuard (sys : System) (action : Action) : Bool :=
  oneAtATime sys action &&
    onCommit (fun sys request => decide (RejectsStaffed sys request)) sys action

theorem staffedGuard_sound (sys : System) (action : Action)
    (passed : staffedGuard sys action = true) :
    oneAtATime sys action = true ∧ OnCommit RejectsStaffed sys action := by
  simp only [staffedGuard, Bool.and_eq_true] at passed
  exact ⟨passed.1, onCommit_sound (fun _ _ => of_decide_eq_true) sys action passed.2⟩

def sampleRejection : Operation :=
  .reject ⟨"Not documented yet", by decide, by decide, by decide⟩

/-- The sample incident with its closure proposed. -/
def proposedClosure : List Action :=
  reported ++ performed .triage 0 1 ++ investigated 1 2 ++ performed (.propose sampleProposal) 2 3

theorem investigation_keeps_investigator_sample :
    ∃ sys, Machine.exec (step sampleConfig) staffedGuard (System.boot staffedStore [])
        (proposedClosure ++ performed sampleRejection 3 4) = some sys ∧
      sys.store.incidents.map (·.stage) = [.investigation] ∧
      ∀ row ∈ sys.store.incidents, row.stage = .investigation →
        row.assignedInvestigatorId ≠ none := by
  have ran : (Machine.exec (step sampleConfig) staffedGuard (System.boot staffedStore [])
      (proposedClosure ++ performed sampleRejection 3 4)).map
        (fun sys => sys.store.incidents.map (·.stage)) = some [.investigation] := by decide
  obtain ⟨sys, executed, stages⟩ := Option.map_eq_some_iff.mp ran
  exact ⟨sys, executed, stages, investigation_keeps_investigator sampleConfig staffedStore []
    (by decide) rfl sys (Machine.reaches_of_exec _ staffedGuard_sound _ _ _ executed)⟩

/-- The clearance of the investigator is lowered while the closure is under review, and the
closure is rejected. -/
def abandonedInvestigation : List Action :=
  proposedClosure ++
    [.loadClearance "admin" "investigator" ⟨2, by decide, by decide⟩, .readImpact 0,
      .commitClearance 0 4 4 fun n m => toString n ++ "-" ++ toString m] ++
    performed sampleRejection 4 5

theorem rejection_strands_investigation :
    ¬ ∀ (config : JobConfig) (start : Store) (issued : List Id),
      (start.users.map User.id).Nodup → start.incidents = [] →
      ∀ sys, Machine.Reaches (step config) (fun sys action => oneAtATime sys action = true)
        (System.boot start issued) sys →
      ∀ row ∈ sys.store.incidents, row.stage = .investigation →
        row.assignedInvestigatorId ≠ none := by
  intro staffed
  have ran : (Machine.exec (step sampleConfig) oneAtATime (System.boot staffedStore [])
      abandonedInvestigation).map
        (fun sys => sys.store.incidents.map fun row => (row.stage, row.assignedInvestigatorId)) =
      some [(.investigation, none)] := by decide
  obtain ⟨sys, executed, rows⟩ := Option.map_eq_some_iff.mp ran
  obtain ⟨row, only, facts⟩ := List.map_eq_singleton_iff.mp rows
  simp only [Prod.mk.injEq] at facts
  exact staffed sampleConfig staffedStore [] (by decide) rfl sys
    (Machine.reaches_of_exec _ (fun _ _ => id) _ _ _ executed) row (by simp [only]) facts.1 facts.2

end IncidentApi.Properties
