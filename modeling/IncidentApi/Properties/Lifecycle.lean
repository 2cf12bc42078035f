import IncidentApi.Properties.Lock

/-!
# The incident lifecycle

Every operation checks the row it loaded. When its write is pinned to that row's version, the row
it overwrites agrees on everything the check looked at, so what each operation guarantees about
its own row holds of the stored one.
-/
namespace IncidentApi.Properties

/-! ### Writes that were decided on the row they overwrite -/

/-- How a row changes when every mutation overwrites what it decided on. -/
inductive RowStep (sys : System) (action : Action) (rows : List AuditEvent) (old : Incident) :
    Incident → Prop
  | kept : RowStep sys action rows old old
  | decided (k : Nat) (now wall : Date) (ids : Nat → Id) (request : Request) (mutation : Mutation)
      (isCommit : action = .commit k now wall ids) (found : sys.requests[k]? = some request)
      (free : sys.locked old.id = false)
      (pins : pinned request.id request.expectedVersion old = true)
      (current : protectedPart request.row.toIncident = protectedPart old)
      (decided : request.decide now = .ok mutation) (logs : Logs rows mutation) :
      RowStep sys action rows old (mutation.data.write wall old)
  | cascaded (actor : Actor) (targetId : Id) (incident : AssignedIncidentRow) (now wall : Date)
      (named : incident.id = old.id) (stage : incident.stage = old.stage)
      (opened : old.stage ≠ .closed) (assignee : old.assignedInvestigatorId = some targetId)
      (free : sys.locked old.id = false) (logs : Logs rows (cascade actor targetId incident now)) :
      RowStep sys action rows old ((cascade actor targetId incident now).data.write wall old)
  | bumped (new : Incident) (job : Action.ofJob action = true)
      (same : protectedPart new = protectedPart old) : RowStep sys action rows old new

theorem RowEvent.rowStep {sys : System} {action : Action} {rows : List AuditEvent}
    {old new : Incident} (inv : SnapshotInvariant sys)
    (pinsRead : OnCommit PinsWhatItRead sys action)
    (stored : old ∈ sys.store.incidents) (event : RowEvent sys action rows old new) :
    RowStep sys action rows old new := by
  cases event with
  | kept => exact .kept
  | mutated k now wall ids request mutation isCommit found decided free pins logs =>
    have follows := inv.follows (List.mem_of_getElem? found) stored pins
    have version := (isCommit ▸ pinsRead) request found old stored pins
    have named := ((pinned_iff _ _ _).mp pins).1
    exact .decided k now wall ids request mutation isCommit found (named ▸ free) pins
      -- equal versions, so the protected columns are those the operation saw
      (follows.same version.symm) decided logs
  | cascaded k now wall ids request affected incident isCommit found read among free pins logs =>
    obtain ⟨same, version⟩ := (pinned_iff _ _ _).mp pins
    obtain ⟨row, shown, opened, assignee, seen⟩ :=
      inv.clearances request (List.mem_of_getElem? found) affected read incident among
    subst shown
    have follows := seen.follows inv.unique.incidents stored same
    have current := follows.same version.symm
    have stage : row.stage = old.stage := protected_congr Incident.stage (fun _ => rfl) current
    have assigned : row.assignedInvestigatorId = old.assignedInvestigatorId :=
      protected_congr Incident.assignedInvestigatorId (fun _ => rfl) current
    exact .cascaded request.actor request.target.id row.assigned now wall same.symm stage
      (stage ▸ opened) (assigned ▸ assignee) (same ▸ free) logs
  | bumped k reading run batch isJob found opened done =>
    exact .bumped _ (by rw [isJob]; rfl) (bumpedBy_protected batch.writes old)

/-- The rows of a step that pins what it read: old rows by `RowStep`, and those of `create`. -/
theorem step_rowSteps {config : JobConfig} {sys next : System} {action : Action}
    (inv : SnapshotInvariant sys)
    (pinsRead : OnCommit PinsWhatItRead sys action)
    (stepped : step config sys action = some next) :
    ∃ rows, next.store.auditEvents = sys.store.auditEvents ++ rows ∧
      ∀ new ∈ next.store.incidents,
        (∃ old ∈ sys.store.incidents, new.id = old.id ∧ RowStep sys action rows old new) ∨
        ∃ actor input imagePath id reference now wall,
          new = newIncident actor input imagePath id reference now wall ∧
            ∀ row ∈ sys.store.incidents, row.id ≠ id := by
  obtain ⟨rows, audits, effect⟩ := (step_store inv.impacts stepped).incidents
  refine ⟨rows, audits, fun new member => ?_⟩
  apply (effect.origin member).imp_left
  rintro ⟨old, stored, event⟩
  exact ⟨old, stored, event.id, event.rowStep inv pinsRead stored⟩

/-! ### What an update does to the lifecycle -/

/-- What the update of an operation does to the stage and to the columns tied to it. -/
structure LifecycleEffect (row : Incident) (data : UpdateIncidentStateInput) : Prop where
  opened : row.stage ≠ .closed
  edge : ∀ target, data.stage = some target → canTransition row.stage target = true
  closes : (data.stage = some .closed ∧ (∃ at_, data.closedAt = some (some at_)) ∧
      (∃ by_, data.closedById = some (some by_)) ∧ hasClosureRequirements row = true) ∨
    (data.stage ≠ some .closed ∧ data.closedAt = none ∧ data.closedById = none)
  documents : (data.rootCause = none ∧ data.correctiveAction = none ∧
      data.stage ≠ some .pendingClosure) ∨
    ∃ cause correction, data.rootCause = some cause ∧ data.correctiveAction = some correction ∧
      meetsMinLength cause = true ∧ meetsMinLength correction = true

theorem opened_of_transition {source target : Stage} (edge : canTransition source target = true) :
    source ≠ .closed := by
  rintro rfl
  simp [canTransition, stageTransitions] at edge

/-- A stage that an operation writes under a condition only. -/
private theorem optional_edge {moves : Prop} [Decidable moves] {source target : Stage}
    (edge : moves → canTransition source target = true) (written : Stage)
    (equal : (if moves then some target else none) = some written) :
    canTransition source written = true := by
  split at equal
  next holds =>
    obtain rfl := Option.some.inj equal
    exact edge holds
  · simp at equal

theorem optional_ne {moves : Prop} [Decidable moves] {target other : Stage}
    (differ : target ≠ other) : (if moves then some target else none) ≠ some other := by
  split <;> simp [differ]

theorem decide_lifecycle {operation : Operation} {actor : Actor} {id : Id}
    {row : TriageIncidentRow} {investigator : Option User} {now : Date} {mutation : Mutation}
    (decided : operation.decide actor id row investigator now = .ok mutation) :
    LifecycleEffect row.toIncident mutation.data := by
  cases operation with
  | triage =>
    obtain ⟨edge, data, _⟩ := triage_ok decided
    rw [data]
    -- Open, along an edge of the table; neither the closing columns nor the proposal are written.
    refine ⟨opened_of_transition edge, ?_, Or.inr ⟨by simp, rfl, rfl⟩,
      Or.inl ⟨rfl, rfl, by simp⟩⟩
    rintro target ⟨⟩
    exact edge
  | changeSeverity input =>
    obtain ⟨opened, _, data, _⟩ := changeSeverity_ok decided
    rw [data]
    refine ⟨opened, optional_edge fun both => ?_, Or.inr ⟨optional_ne (by decide), rfl, rfl⟩,
      Or.inl ⟨rfl, rfl, optional_ne (by decide)⟩⟩
    -- The stage is written only where a stranded investigator leaves an INVESTIGATION.
    simp only [Bool.and_eq_true, decide_eq_true_eq] at both
    rw [both.2]
    rfl
  | assignInvestigator investigatorId =>
    obtain ⟨opened, user, _, _, _, _, data, _⟩ := assignInvestigator_ok decided
    rw [data]
    refine ⟨opened, optional_edge fun inTriage => ?_, Or.inr ⟨optional_ne (by decide), rfl, rfl⟩,
      Or.inl ⟨rfl, rfl, optional_ne (by decide)⟩⟩
    rw [inTriage]
    rfl
  | unassignInvestigator =>
    obtain ⟨opened, _, removed, _, data, _⟩ := unassignInvestigator_ok decided
    rw [data]
    refine ⟨opened, optional_edge fun investigated => ?_,
      Or.inr ⟨optional_ne (by decide), rfl, rfl⟩, Or.inl ⟨rfl, rfl, optional_ne (by decide)⟩⟩
    rw [investigated]
    rfl
  | acknowledge =>
    obtain ⟨opened, _, data, _⟩ := acknowledge_ok decided
    rw [data]
    exact ⟨opened, by simp, Or.inr ⟨by simp, rfl, rfl⟩, Or.inl ⟨rfl, rfl, by simp⟩⟩
  | propose input =>
    obtain ⟨_, edge, data, _⟩ := propose_ok decided
    rw [data]
    refine ⟨opened_of_transition edge, ?_, Or.inr ⟨by simp, rfl, rfl⟩,
      Or.inr ⟨_, _, rfl, rfl, meetsMinLength_trimmed _, meetsMinLength_trimmed _⟩⟩
    rintro target ⟨⟩
    exact edge
  -- The one operation that closes: it writes both closing columns and asks for a documented
  -- proposal.
  | approve =>
    obtain ⟨edge, documented, data, _⟩ := approve_ok decided
    rw [data]
    refine ⟨opened_of_transition edge, ?_, Or.inl ⟨rfl, ⟨_, rfl⟩, ⟨_, rfl⟩, documented⟩,
      Or.inl ⟨rfl, rfl, by simp⟩⟩
    rintro target ⟨⟩
    exact edge
  | reject reason =>
    obtain ⟨pending, data, _⟩ := reject_ok decided
    rw [data]
    refine ⟨by simp [pending], ?_, Or.inr ⟨by simp, rfl, rfl⟩, Or.inl ⟨rfl, rfl, by simp⟩⟩
    rintro target ⟨⟩
    rw [pending]
    rfl

theorem cascade_lifecycle (actor : Actor) (targetId : Id) {incident : AssignedIncidentRow}
    {row : Incident} (now : Date) (stage : incident.stage = row.stage)
    (opened : row.stage ≠ .closed) :
    LifecycleEffect row (cascade actor targetId incident now).data := by
  refine ⟨opened, optional_edge fun investigated => ?_,
    Or.inr ⟨optional_ne (by decide), rfl, rfl⟩, Or.inl ⟨rfl, rfl, optional_ne (by decide)⟩⟩
  rw [← stage, investigated]
  rfl

/-! ### The invariant of a row -/

/-- The closing columns are set exactly in `CLOSED`, and the closure is documented from its
proposal on. -/
structure LifecycleInvariant (row : Incident) : Prop where
  closedAt : row.closedAt.isSome = decide (row.stage = .closed)
  closedById : row.closedById.isSome = decide (row.stage = .closed)
  documented : row.stage = .pendingClosure ∨ row.stage = .closed →
    hasClosureRequirements row = true

theorem newIncident_lifecycle (actor : Actor) (input : CreateIncidentRequest)
    (imagePath : Option String) (id : Id) (reference : String) (now wall : Date) :
    LifecycleInvariant (newIncident actor input imagePath id reference now wall) :=
  ⟨rfl, rfl, by simp [newIncident]⟩

/-- Only the protected columns matter to the lifecycle. -/
theorem LifecycleInvariant.congr {old new : Incident} (inv : LifecycleInvariant old)
    (same : protectedPart new = protectedPart old) : LifecycleInvariant new := by
  have stage : new.stage = old.stage := protected_congr Incident.stage (fun _ => rfl) same
  have closedAt : new.closedAt = old.closedAt :=
    protected_congr Incident.closedAt (fun _ => rfl) same
  have closedById : new.closedById = old.closedById :=
    protected_congr Incident.closedById (fun _ => rfl) same
  have rootCause : new.rootCause = old.rootCause :=
    protected_congr Incident.rootCause (fun _ => rfl) same
  have correctiveAction : new.correctiveAction = old.correctiveAction :=
    protected_congr Incident.correctiveAction (fun _ => rfl) same
  refine ⟨by rw [closedAt, stage, inv.closedAt], by rw [closedById, stage, inv.closedById], ?_⟩
  rw [stage, hasClosureRequirements, rootCause, correctiveAction]
  exact inv.documented

theorem LifecycleEffect.congr {row other : Incident} {data : UpdateIncidentStateInput}
    (effect : LifecycleEffect row data) (same : protectedPart row = protectedPart other) :
    LifecycleEffect other data := by
  have stage : row.stage = other.stage := protected_congr Incident.stage (fun _ => rfl) same
  have rootCause : row.rootCause = other.rootCause :=
    protected_congr Incident.rootCause (fun _ => rfl) same
  have correctiveAction : row.correctiveAction = other.correctiveAction :=
    protected_congr Incident.correctiveAction (fun _ => rfl) same
  have closes := effect.closes
  rw [hasClosureRequirements, rootCause, correctiveAction] at closes
  exact ⟨stage ▸ effect.opened, stage ▸ effect.edge, closes, effect.documents⟩

theorem LifecycleEffect.edges {row : Incident} {data : UpdateIncidentStateInput}
    (effect : LifecycleEffect row data) (wall : Date) :
    (data.write wall row).stage = row.stage ∨
      canTransition row.stage (data.write wall row).stage = true := by
  cases target : data.stage with
  | none => exact Or.inl (by simp [UpdateIncidentStateInput.write, target])
  | some stage =>
    apply Or.inr
    simpa [UpdateIncidentStateInput.write, target] using effect.edge stage target

theorem LifecycleEffect.keeps {row : Incident} {data : UpdateIncidentStateInput}
    (effect : LifecycleEffect row data) (inv : LifecycleInvariant row) (wall : Date) :
    LifecycleInvariant (data.write wall row) := by
  rcases effect.closes with ⟨stage, ⟨at_, closedAt⟩, ⟨by_, closedById⟩, documented⟩ |
    ⟨stage, closedAt, closedById⟩
  -- the update closes the incident
  · refine ⟨by simp [UpdateIncidentStateInput.write, stage, closedAt],
      by simp [UpdateIncidentStateInput.write, stage, closedById], fun _ => ?_⟩
    rcases effect.documents with ⟨cause, correction, _⟩ | ⟨_, _, cause, correction, long, enough⟩
    · simpa [UpdateIncidentStateInput.write, hasClosureRequirements, cause, correction] using
        documented
    · simp [UpdateIncidentStateInput.write, hasClosureRequirements, cause, correction, long, enough]
  -- the update leaves the closing columns, and the stage does not become `CLOSED`
  · have notClosed : (data.write wall row).stage ≠ .closed := by
      cases target : data.stage with
      | none => simpa [UpdateIncidentStateInput.write, target] using effect.opened
      | some other =>
        simp only [UpdateIncidentStateInput.write, target, Option.getD_some]
        rintro rfl
        exact stage target
    have at_ := inv.closedAt
    have by_ := inv.closedById
    simp only [effect.opened, decide_false] at at_ by_
    refine ⟨?_, ?_, ?_⟩
    · simpa [notClosed] using
        show ((data.write wall row).closedAt).isSome = false by
          simpa [UpdateIncidentStateInput.write, closedAt] using at_
    · simpa [notClosed] using
        show ((data.write wall row).closedById).isSome = false by
          simpa [UpdateIncidentStateInput.write, closedById] using by_
    · rintro (pending | closed)
      · rcases effect.documents with ⟨cause, correction, other⟩ |
          ⟨_, _, cause, correction, long, enough⟩
        -- an update that writes no cause does not enter `PENDING_CLOSURE` either
        · have same : row.stage = .pendingClosure := by
            cases target : data.stage with
            | none => simpa [UpdateIncidentStateInput.write, target] using pending
            | some stage =>
              simp only [UpdateIncidentStateInput.write, target, Option.getD_some] at pending
              exact absurd (pending ▸ target) other
          simpa [UpdateIncidentStateInput.write, hasClosureRequirements, cause, correction] using
            inv.documented (Or.inl same)
        · simp [UpdateIncidentStateInput.write, hasClosureRequirements, cause, correction, long,
            enough]
      · exact absurd closed notClosed

/-- A step of a row keeps its invariant, moves its stage along an edge, and leaves a closed row
alone up to the columns of the job. -/
theorem RowStep.lifecycle {sys : System} {action : Action} {rows : List AuditEvent}
    {old new : Incident}
    (rowStep : RowStep sys action rows old new) (inv : LifecycleInvariant old) :
    LifecycleInvariant new ∧
      (new.stage = old.stage ∨ canTransition old.stage new.stage = true) ∧
      (old.stage = .closed → protectedPart new = protectedPart old ∧
        (Action.ofJob action = false → new = old)) := by
  cases rowStep with
  | kept => exact ⟨inv, Or.inl rfl, fun _ => ⟨rfl, fun _ => rfl⟩⟩
  | decided k now wall ids request mutation isCommit found free pins current decided logs =>
    have effect := (decide_lifecycle decided).congr current
    exact ⟨effect.keeps inv wall, effect.edges wall, fun closed => absurd closed effect.opened⟩
  | cascaded actor targetId incident now wall named stage opened assignee free logs =>
    have effect := cascade_lifecycle actor targetId now stage opened
    exact ⟨effect.keeps inv wall, effect.edges wall, fun closed => absurd closed effect.opened⟩
  | bumped new job same =>
    refine ⟨inv.congr same, Or.inl (protected_congr Incident.stage (fun _ => rfl) same),
      fun _ => ⟨same, fun service => ?_⟩⟩
    rw [job] at service
    simp at service

/-! ### Every interleaving of fresh requests -/

/-- What a step may do to a row with a lifecycle. -/
structure LifecycleStep (action : Action) (old new : Incident) : Prop where
  edge : new.stage = old.stage ∨ canTransition old.stage new.stage = true
  closed : old.stage = .closed → protectedPart new = protectedPart old ∧
    (Action.ofJob action = false → new = old)

theorem step_lifecycle {config : JobConfig} {sys next : System} {action : Action}
    (inv : SnapshotInvariant sys)
    (pinsRead : OnCommit PinsWhatItRead sys action)
    (each : ∀ row ∈ sys.store.incidents, LifecycleInvariant row)
    (stepped : step config sys action = some next) :
    (∀ new ∈ next.store.incidents, LifecycleInvariant new) ∧
    ∀ old ∈ sys.store.incidents, ∀ new ∈ next.store.incidents, new.id = old.id →
      LifecycleStep action old new := by
  obtain ⟨rows, _, origin⟩ := step_rowSteps inv pinsRead stepped
  refine ⟨fun new member => ?_, fun old stored new member same => ?_⟩
  · rcases origin new member with ⟨old, stored, _, rowStep⟩ |
      ⟨actor, input, imagePath, id, reference, now, wall, rfl, _⟩
    · exact (rowStep.lifecycle (each old stored)).1
    · exact newIncident_lifecycle actor input imagePath id reference now wall
  · rcases origin new member with ⟨other, among, named, rowStep⟩ |
      ⟨actor, input, imagePath, id, reference, now, wall, rfl, fresh⟩
    · obtain rfl := eq_of_id_eq inv.unique.incidents among stored (named.symm.trans same)
      obtain ⟨_, edge, closed⟩ := rowStep.lifecycle (each other among)
      exact ⟨edge, closed⟩
    · exact absurd same.symm (fresh old stored)

/-- Incidents made by `create`, under every interleaving of the halves of requests whose
`If-Match` value is not ahead of what they loaded: each stage change is an edge of the transition
map, a closed incident is final, and the closing columns agree with the stage. -/
theorem lifecycle_safety (config : JobConfig) (start : Store) (issued : List Id)
    (users : (start.users.map User.id).Nodup) (created : start.incidents = []) (sys : System)
    (reached : Machine.Reaches (step config) (OnCommit IfMatchNotAhead)
      (System.boot start issued) sys) :
    (∀ row ∈ sys.store.incidents, LifecycleInvariant row) ∧
    ∀ action next, OnCommit IfMatchNotAhead sys action → step config sys action = some next →
      ∀ old ∈ sys.store.incidents, (∃ new ∈ next.store.incidents, new.id = old.id) ∧
        ∀ new ∈ next.store.incidents, new.id = old.id → LifecycleStep action old new := by
  have unique : start.UniqueIds := ⟨users, by simp [created]⟩
  have each : ∀ row ∈ sys.store.incidents, LifecycleInvariant row := by
    refine reached.invariant (fun sys => ∀ row ∈ sys.store.incidents, LifecycleInvariant row) ?_ ?_
      sys
    · simp [System.boot, created]
    · intro before action after earlier holds fresh stepped
      have inv := reached_snapshots unique earlier
      exact (step_lifecycle inv (IfMatchNotAhead.pinsRead inv fresh) holds stepped).1
  have inv := reached_snapshots unique reached
  refine ⟨each, fun action next fresh stepped old stored => ⟨?_, ?_⟩⟩
  · exact step_keeps_row inv.impacts stepped stored
  · exact (step_lifecycle inv (IfMatchNotAhead.pinsRead inv fresh) each stepped).2 old stored

/-! ### One incident from report to closure -/

def sampleAdmin : User := ⟨"admin", "admin@example.com", "Admin", .admin, 4, true, 0⟩

def sampleInvestigator : User :=
  ⟨"investigator", "investigator@example.com", "Investigator", .investigator, 4, true, 0⟩

/-- A database with its staff and no incident yet. -/
def staffedStore : Store :=
  { sampleStore with users := [sampleAdmin, sampleInvestigator], incidents := [] }

def sampleReport : CreateIncidentRequest :=
  ⟨.safety, .high, ⟨"Leak in the hall", by decide, by decide, by decide⟩,
    ⟨"Water is leaking into the hall", by decide, by decide, by decide⟩, none⟩

def sampleProposal : ProposeClosureRequest :=
  ⟨⟨"A worn seal gave way", by decide, by decide, by decide⟩,
    ⟨"Every seal was replaced", by decide, by decide, by decide⟩⟩

/-- A mutation of the sample incident with nothing between its halves. -/
def performed (operation : Operation) (version : Nat) (now : Date) : List Action :=
  [.load "admin" operation "i" version, .commit 0 now now fun n => toString now ++ toString n]

def reported : List Action :=
  [.create "admin" sampleReport (.stored "leak.jpg") "i" 0 0 fun _ => "created"]

def investigated (version : Nat) (now : Date) : List Action :=
  [.load "admin" (.assignInvestigator "investigator") "i" version, .readInvestigator 0,
    .commit 0 now now fun n => toString now ++ toString n]

/-- Two triages are loaded before the first commits, and the second loses. -/
def closedIncident : List Action :=
  reported ++ [.load "admin" .triage "i" 0] ++ performed .triage 0 1 ++
    [.commit 0 1 1 fun n => "late" ++ toString n] ++ investigated 1 2 ++
    performed (.propose sampleProposal) 2 3 ++ performed .approve 3 4

theorem lifecycle_safety_sample :
    ∃ sys, Machine.exec (step sampleConfig)
        (onCommit fun sys request => decide (IfMatchNotAhead sys request))
        (System.boot staffedStore []) closedIncident = some sys ∧
      sys.store.incidents.map (fun row => (row.stage, row.version)) = [(.closed, 4)] ∧
      (∀ row ∈ sys.store.incidents, LifecycleInvariant row) ∧
      ∀ action next, OnCommit IfMatchNotAhead sys action →
        step sampleConfig sys action = some next →
        ∀ old ∈ sys.store.incidents, (∃ new ∈ next.store.incidents, new.id = old.id) ∧
          ∀ new ∈ next.store.incidents, new.id = old.id → LifecycleStep action old new := by
  have ran : (Machine.exec (step sampleConfig)
      (onCommit fun sys request => decide (IfMatchNotAhead sys request))
      (System.boot staffedStore []) closedIncident).map
        (fun sys => sys.store.incidents.map fun row => (row.stage, row.version)) =
      some [(.closed, 4)] := by decide
  obtain ⟨sys, executed, rows⟩ := Option.map_eq_some_iff.mp ran
  refine ⟨sys, executed, rows, ?_⟩
  exact lifecycle_safety sampleConfig staffedStore [] (by decide) rfl sys
    (Machine.reaches_of_exec _ (onCommit_sound fun _ _ => of_decide_eq_true) _ _ _ executed)

end IncidentApi.Properties
