import IncidentApi.Properties.Lifecycle

/-!
# The gates of a closure

Three checks ask for twenty characters: the schema of a proposal and `hasClosureRequirements`
count UTF-16 units, the `closed_requires_rca` constraint counts code points. They disagree exactly
on texts that reach the minimum only because some of their characters take two units.
-/
namespace IncidentApi.Properties

/-! ### One text -/

/-- `.trim().min(20)` of `ProposeClosureRequestSchema`, on the text as it was sent. -/
def schemaMinimum (raw : String) : Bool := minRcaLength ≤ jsLength (jsTrim raw)

/-- The three gates give one answer for a text, the last two on the value that is stored. -/
def GatesAgree (raw : String) : Prop :=
  meetsMinLength (some (jsTrim raw)) = schemaMinimum raw ∧
    charLengthAtLeast 20 (some (jsTrim raw)) = schemaMinimum raw

/-- Fewer than twenty code points, and twenty or more once the supplementary ones count twice. -/
def LongInUnitsOnly (text : String) : Prop :=
  text.toList.length < 20 ∧ 20 ≤ text.toList.length + supplementaryCount text

instance (text : String) : Decidable (LongInUnitsOnly text) := by
  unfold LongInUnitsOnly
  infer_instance

theorem gatesAgree_iff (raw : String) : GatesAgree raw ↔ ¬ LongInUnitsOnly (jsTrim raw) := by
  have service : meetsMinLength (some (jsTrim raw)) = schemaMinimum raw := by
    simp [meetsMinLength, schemaMinimum]
  unfold GatesAgree LongInUnitsOnly
  simp only [service, true_and, charLengthAtLeast, schemaMinimum, minRcaLength,
    trimmedCharLength_jsTrim, jsLength_eq, decide_eq_decide]
  constructor
  · intro same both
    have enough := same.mpr both.2
    omega
  · intro notBoth
    constructor
    · intro points
      omega
    · intro units
      by_contra short
      exact notBoth ⟨by omega, units⟩

/-- A text that passed the schema passes the constraint unless it is long in units only. -/
theorem charLengthAtLeast_trimmed {hi : Nat} (text : TrimmedText minRcaLength hi) :
    charLengthAtLeast 20 (some text.value) = false ↔ LongInUnitsOnly text.value := by
  have points := trimmedCharLength_jsTrim text.value
  rw [text.trimmed] at points
  have units := text.atLeast
  simp only [jsLength_eq, minRcaLength] at units
  simp only [charLengthAtLeast, points, LongInUnitsOnly, decide_eq_false_iff_not, not_le]
  constructor
  · intro short
    exact ⟨short, units⟩
  · intro both
    exact both.1

/-! ### Stored rows pass their constraints -/

theorem checksHold_congr {row other : Incident} (same : protectedPart row = protectedPart other) :
    checksHold row = checksHold other :=
  protected_congr checksHold (fun _ => rfl) same

theorem newIncident_checks (actor : Actor) (input : CreateIncidentRequest)
    (imagePath : Option String) (id : Id) (reference : String) (now wall : Date) :
    checksHold (newIncident actor input imagePath id reference now wall) = true := by
  simp only [checksHold, closedRequiresRca, highSeverityClock, newIncident]
  cases input.severity <;> rfl

theorem commitMutation_checks {store after : Store} {id : Id} {expectedVersion : Nat}
    {mutation : Mutation} {wall : Date} {ids : Nat → Id}
    (checks : ∀ row ∈ store.incidents, checksHold row = true)
    (committed : commitMutation store id expectedVersion mutation wall ids = .ok after) :
    ∀ row ∈ after.incidents, checksHold row = true := by
  obtain ⟨⟨count, written⟩, updated, rest⟩ := bind_ok committed
  unfold updateVersioned at updated
  dsimp only at updated
  split at updated
  next passed =>
    obtain ⟨rfl, rfl⟩ := Prod.mk.inj (Except.ok.inj updated)
    dsimp only at rest
    split at rest
    · simp at rest
    · obtain rfl := Except.ok.inj rest
      intro row member
      obtain ⟨old, stored, rfl⟩ := List.mem_map.mp member
      split
      next pins => exact List.all_eq_true.mp passed old (List.mem_filter.mpr ⟨stored, pins⟩)
      · exact checks old stored
  · simp at updated

theorem cascadeAll_checks {actor : Actor} {targetId : Id} {now wall : Date} {ids : Nat → Nat → Id}
    {affected : List AssignedIncidentRow} {index : Nat} {store after : Store}
    (checks : ∀ row ∈ store.incidents, checksHold row = true)
    (committed : cascadeAll actor targetId now wall ids affected index store = .ok after) :
    ∀ row ∈ after.incidents, checksHold row = true := by
  induction affected generalizing index store with
  | nil =>
    obtain rfl := Except.ok.inj committed
    exact checks
  | cons incident rest ih =>
    obtain ⟨written, first, later⟩ := bind_ok committed
    exact ih (commitMutation_checks checks first) later

/-- A statement that would store a row against its `CHECK` constraints fails. -/
theorem step_checks {config : JobConfig} {sys next : System} {action : Action}
    (distinct : DistinctImpacts sys)
    (checks : ∀ row ∈ sys.store.incidents, checksHold row = true)
    (stepped : step config sys action = some next) :
    ∀ row ∈ next.store.incidents, checksHold row = true := by
  obtain ⟨rows, _, effect⟩ := (step_store distinct stepped).incidents
  intro row member
  rcases effect.origin member with ⟨old, stored, event⟩ |
    ⟨actor, input, imagePath, id, reference, now, wall, rfl, _⟩
  · cases event with
    | kept => exact checks row stored
    | mutated _ _ _ _ _ _ isCommit =>
      subst isCommit
      cases step_effect rfl stepped with
      | committed _ _ _ _ _ _ _ _ _ _ written =>
        exact commitMutation_checks checks written _ member
      | _ => exact checks _ member
    | cascaded _ _ _ _ _ _ _ isCommit =>
      subst isCommit
      cases step_effect rfl stepped with
      | committedClearance _ _ _ _ _ _ after _ _ _ _ written =>
        obtain ⟨updated, found, cascading⟩ := bind_ok written
        obtain rfl := updateUserClearance_ok found
        apply cascadeAll_checks _ cascading _ member
        exact checks
      | _ => exact checks _ member
    -- no other action writes a constrained column of a stored row
    | bumped _ _ _ batch =>
      rw [checksHold_congr (bumpedBy_protected batch.writes old)]
      exact checks old stored
  · exact newIncident_checks actor input imagePath id reference now wall

/-! ### Rows under review hold the texts of a proposal -/

/-- What `propose` stored in a row that awaits its approval. -/
def HoldsProposal (row : Incident) : Prop :=
  row.stage = .pendingClosure → ∃ input : ProposeClosureRequest,
    row.rootCause = some input.rootCause.value ∧
      row.correctiveAction = some input.correctiveAction.value

theorem HoldsProposal.congr {row other : Incident} (holds : HoldsProposal row)
    (same : protectedPart other = protectedPart row) : HoldsProposal other := by
  have stage : other.stage = row.stage := protected_congr Incident.stage (fun _ => rfl) same
  have cause : other.rootCause = row.rootCause :=
    protected_congr Incident.rootCause (fun _ => rfl) same
  have correction : other.correctiveAction = row.correctiveAction :=
    protected_congr Incident.correctiveAction (fun _ => rfl) same
  intro pending
  rw [cause, correction]
  exact holds (stage ▸ pending)

/-- An update writes both texts of a proposal, or neither and does not move the row under
review. -/
def ProposalEffect (data : UpdateIncidentStateInput) : Prop :=
  (data.rootCause = none ∧ data.correctiveAction = none ∧ data.stage ≠ some .pendingClosure) ∨
    ∃ input : ProposeClosureRequest, data.rootCause = some (some input.rootCause.value) ∧
      data.correctiveAction = some (some input.correctiveAction.value)

theorem decide_proposal {operation : Operation} {actor : Actor} {id : Id}
    {row : TriageIncidentRow} {investigator : Option User} {now : Date} {mutation : Mutation}
    (decided : operation.decide actor id row investigator now = .ok mutation) :
    ProposalEffect mutation.data := by
  cases operation with
  | triage =>
    obtain ⟨_, data, _⟩ := triage_ok decided
    rw [data]
    exact Or.inl ⟨rfl, rfl, by simp⟩
  | changeSeverity input =>
    obtain ⟨_, _, data, _⟩ := changeSeverity_ok decided
    rw [data]
    exact Or.inl ⟨rfl, rfl, optional_ne (by decide)⟩
  | assignInvestigator investigatorId =>
    obtain ⟨_, _, _, _, _, _, data, _⟩ := assignInvestigator_ok decided
    rw [data]
    exact Or.inl ⟨rfl, rfl, optional_ne (by decide)⟩
  | unassignInvestigator =>
    obtain ⟨_, _, _, _, data, _⟩ := unassignInvestigator_ok decided
    rw [data]
    exact Or.inl ⟨rfl, rfl, optional_ne (by decide)⟩
  | acknowledge =>
    obtain ⟨_, _, data, _⟩ := acknowledge_ok decided
    rw [data]
    exact Or.inl ⟨rfl, rfl, by simp⟩
  | propose input =>
    obtain ⟨_, _, data, _⟩ := propose_ok decided
    rw [data]
    exact Or.inr ⟨input, rfl, rfl⟩
  | approve =>
    obtain ⟨_, _, data, _⟩ := approve_ok decided
    rw [data]
    exact Or.inl ⟨rfl, rfl, by simp⟩
  | reject reason =>
    obtain ⟨_, data, _⟩ := reject_ok decided
    rw [data]
    exact Or.inl ⟨rfl, rfl, by simp⟩

theorem ProposalEffect.keeps {data : UpdateIncidentStateInput} {row : Incident} (wall : Date)
    (effect : ProposalEffect data) (holds : HoldsProposal row) :
    HoldsProposal (data.write wall row) := by
  rcases effect with ⟨cause, correction, stays⟩ | ⟨input, cause, correction⟩
  · intro pending
    simp only [UpdateIncidentStateInput.write, cause, correction, Option.getD_none] at pending ⊢
    apply holds
    -- the row was under review before: the update does not move it there
    cases target : data.stage with
    | none => simpa [target] using pending
    | some stage =>
      simp only [target, Option.getD_some] at pending
      exact absurd (pending ▸ target) stays
  · intro _
    refine ⟨input, ?_, ?_⟩
    · simp [UpdateIncidentStateInput.write, cause]
    · simp [UpdateIncidentStateInput.write, correction]

theorem RowEvent.proposal {sys : System} {action : Action} {rows : List AuditEvent}
    {old new : Incident} (event : RowEvent sys action rows old new) (holds : HoldsProposal old) :
    HoldsProposal new := by
  cases event with
  | kept => exact holds
  | mutated k now wall ids request mutation isCommit found decided =>
    exact (decide_proposal decided).keeps wall holds
  | cascaded k now wall ids request affected incident =>
    have unwritten : ProposalEffect (cascade request.actor request.target.id incident now).data :=
      Or.inl ⟨rfl, rfl, optional_ne (by decide)⟩
    exact unwritten.keeps wall holds
  | bumped k reading run batch => exact holds.congr (bumpedBy_protected batch.writes old)

/-- A row as the database can hold it: its constraints pass, and under review it holds a
proposal. -/
structure ReviewInvariant (row : Incident) : Prop where
  checks : checksHold row = true
  proposal : HoldsProposal row

theorem step_review {config : JobConfig} {sys next : System} {action : Action}
    (distinct : DistinctImpacts sys) (each : ∀ row ∈ sys.store.incidents, ReviewInvariant row)
    (stepped : step config sys action = some next) :
    ∀ row ∈ next.store.incidents, ReviewInvariant row := by
  have checks := step_checks distinct (fun row stored => (each row stored).checks) stepped
  obtain ⟨rows, _, effect⟩ := (step_store distinct stepped).incidents
  intro row member
  refine ⟨checks row member, ?_⟩
  rcases effect.origin member with ⟨old, stored, event⟩ | ⟨_, _, _, _, _, _, _, rfl, _⟩
  · exact event.proposal (each old stored).proposal
  · intro pending
    simp [newIncident] at pending

/-! ### Approvals -/

/-- The write of `approve`. -/
def approval (actor : Actor) (now : Date) : UpdateIncidentStateInput where
  stage := some .closed
  closedById := some (some actor.id)
  closedAt := some (some now)

/-- A text of the row is long in units only. -/
def ProposalLongInUnitsOnly (row : Incident) : Prop :=
  (∃ text, row.rootCause = some text ∧ LongInUnitsOnly text) ∨
    ∃ text, row.correctiveAction = some text ∧ LongInUnitsOnly text

theorem approval_checks_iff {row : Incident} (actor : Actor) (now wall : Date)
    (inv : ReviewInvariant row) (pending : row.stage = .pendingClosure) :
    checksHold ((approval actor now).write wall row) = false ↔ ProposalLongInUnitsOnly row := by
  obtain ⟨input, cause, correction⟩ := inv.proposal pending
  -- the other constraint reads columns that an approval does not write
  have clock : highSeverityClock ((approval actor now).write wall row) = true := by
    have both := inv.checks
    simp only [checksHold, Bool.and_eq_true] at both
    exact both.2
  have documented : closedRequiresRca ((approval actor now).write wall row) =
      (charLengthAtLeast 20 row.rootCause && charLengthAtLeast 20 row.correctiveAction) := rfl
  simp only [checksHold, clock, Bool.and_true, documented, cause, correction,
    Bool.and_eq_false_iff, charLengthAtLeast_trimmed, ProposalLongInUnitsOnly, Option.some.injEq,
    exists_eq_left']

/-- A transaction is answered with `INTERNAL` exactly when a row it pins would break a
constraint. -/
theorem commitMutation_internal_iff (store : Store) (id : Id) (expectedVersion : Nat)
    (mutation : Mutation) (wall : Date) (ids : Nat → Id) :
    commitMutation store id expectedVersion mutation wall ids = .error InternalError ↔
      ∃ row ∈ store.incidents, pinned id expectedVersion row = true ∧
        checksHold (mutation.data.write wall row) = false := by
  have stale : StaleVersionError expectedVersion ≠ InternalError := by
    intro same
    have codes : "STALE_VERSION" = "INTERNAL" := congrArg AppError.code same
    simp at codes
  unfold commitMutation updateVersioned
  dsimp only
  split
  next passed =>
    have none_breaks : ¬ ∃ row ∈ store.incidents, pinned id expectedVersion row = true ∧
        checksHold (mutation.data.write wall row) = false := by
      rintro ⟨row, stored, pins, breaks⟩
      have holds := List.all_eq_true.mp passed row (List.mem_filter.mpr ⟨stored, pins⟩)
      simp [breaks] at holds
    simp only [none_breaks, iff_false]
    simp only [bind, Except.bind]
    split <;> simp [stale]
  next broken =>
    simp only [bind, Except.bind, true_iff]
    simpa [List.all_eq_true, and_assoc] using broken

theorem approve_error {actor : Actor} {id : Id} {row : TriageIncidentRow} {now : Date}
    {refusal : AppError} (answer : approve actor id row now = .error refusal) :
    ¬ (canTransition row.stage .closed = true ∧ hasClosureRequirements row.toIncident = true) ∧
      refusal.code ≠ InternalError.code := by
  by_cases edge : canTransition row.stage .closed = true
  · by_cases documented : hasClosureRequirements row.toIncident = true
    · simp [approve, assertTransition, edge, documented, bind, Except.bind, pure, Except.pure]
        at answer
    · simp only [approve, assertTransition, edge, documented, bind, Except.bind, if_true] at answer
      obtain rfl := Except.error.inj answer
      refine ⟨by simp [documented], ?_⟩
      decide
  · simp only [approve, assertTransition, edge, bind, Except.bind] at answer
    obtain rfl := Except.error.inj answer
    refine ⟨by simp [edge], ?_⟩
    change "INVALID_STAGE_TRANSITION" ≠ "INTERNAL"
    decide

theorem approve_internal_iff {store : Store} {request : Request} {now wall : Date}
    {ids : Nat → Id} (approves : request.operation = .approve) :
    commitRequest store request now wall ids = .error InternalError ↔
      (canTransition request.row.stage .closed = true ∧
        hasClosureRequirements request.row.toIncident = true) ∧
      ∃ row ∈ store.incidents, pinned request.id request.expectedVersion row = true ∧
        checksHold ((approval request.actor now).write wall row) = false := by
  have decision : request.decide now = approve request.actor request.id request.row now := by
    rw [Request.decide, approves]
    rfl
  cases answer : approve request.actor request.id request.row now with
  | ok mutation =>
    obtain ⟨edge, documented, data, _⟩ := approve_ok answer
    have committed : commitRequest store request now wall ids =
        commitMutation store request.id request.expectedVersion mutation wall ids := by
      simp only [commitRequest, decision, answer, bind, Except.bind]
    rw [committed, commitMutation_internal_iff, data]
    simp only [edge, documented, true_and]
    rfl
  | error refusal =>
    have committed : commitRequest store request now wall ids = .error refusal := by
      simp only [commitRequest, decision, answer, bind, Except.bind]
    obtain ⟨refused, code⟩ := approve_error answer
    rw [committed]
    constructor
    · intro same
      exact absurd (congrArg AppError.code (Except.error.inj same)) code
    · intro both
      exact absurd both.1 refused

/-! ### Every run -/

/-- The three gates agree on a text exactly when its trimmed form is not long in units only. And
in every state that any run reaches, an approval of an incident under review breaks a constraint
exactly when a text of the proposal is of that kind and the approval got past its own checks. -/
theorem closure_gates (config : JobConfig) (start : Store) (issued : List Id)
    (unique : start.UniqueIds) (review : ∀ row ∈ start.incidents, ReviewInvariant row)
    (sys : System)
    (reached : Machine.Reaches (step config) Machine.anyAction (System.boot start issued) sys) :
    (∀ raw, GatesAgree raw ↔ ¬ LongInUnitsOnly (jsTrim raw)) ∧
    ∀ request : Request, request.operation = .approve →
      ∀ row ∈ sys.store.incidents, row.id = request.id → row.stage = .pendingClosure →
      ∀ now wall ids,
        (commitRequest sys.store request now wall ids = .error InternalError ↔
          (canTransition request.row.stage .closed = true ∧
            hasClosureRequirements request.row.toIncident = true) ∧
          row.version = request.expectedVersion ∧ ProposalLongInUnitsOnly row) := by
  have invariant : (∀ row ∈ sys.store.incidents, ReviewInvariant row) := by
    refine reached.invariant (fun sys => ∀ row ∈ sys.store.incidents, ReviewInvariant row) review
      ?_ sys
    intro before action after earlier holds _ stepped
    exact step_review (reached_snapshots unique earlier).impacts holds stepped
  have ids := (reached_snapshots unique reached).unique.incidents
  refine ⟨gatesAgree_iff, ?_⟩
  intro request approves row stored named pending now wall auditIds
  rw [approve_internal_iff approves]
  apply and_congr_right
  intro _
  rw [← approval_checks_iff request.actor now wall (invariant row stored) pending]
  constructor
  · rintro ⟨other, among, pins, breaks⟩
    obtain ⟨same, version⟩ := (pinned_iff _ _ _).mp pins
    -- ids are unique, so the pinned row is the one under review
    obtain rfl := eq_of_id_eq ids among stored (same.trans named.symm)
    exact ⟨version, breaks⟩
  · rintro ⟨version, breaks⟩
    exact ⟨row, stored, (pinned_iff _ _ _).mpr ⟨named, version⟩, breaks⟩

/-! ### Ten characters of two units each -/

def tenFaces : String := String.ofList (List.replicate 10 (Char.ofNat 0x1F600))

def faceProposal : ProposeClosureRequest :=
  ⟨⟨tenFaces, by decide, by decide, by decide⟩, sampleProposal.correctiveAction⟩

/-- The sample incident, proposed with this root cause and loaded for its approval. -/
def facesUnderReview : List Action :=
  reported ++ performed .triage 0 1 ++ investigated 1 2 ++
    performed (.propose faceProposal) 2 3 ++ [.load "admin" .approve "i" 3]

def reviewSample : Option System :=
  Machine.exec (step sampleConfig) (fun _ _ => true) (System.boot staffedStore []) facesUnderReview

/-- The approval past its load, at its commit. -/
def approvalAnswer (sys : System) : Option (Except AppError Unit) :=
  (sys.requests.head?).map fun request =>
    (commitRequest sys.store request 4 4 fun n => "approved" ++ toString n).map fun _ => ()

theorem closure_gates_sample :
    ∃ sys, reviewSample = some sys ∧ (∀ row ∈ sys.store.incidents, row.stage = .pendingClosure) ∧
      (∀ raw, GatesAgree raw ↔ ¬ LongInUnitsOnly (jsTrim raw)) ∧
      ∀ request : Request, request.operation = .approve →
        ∀ row ∈ sys.store.incidents, row.id = request.id → row.stage = .pendingClosure →
        ∀ now wall ids,
          (commitRequest sys.store request now wall ids = .error InternalError ↔
            (canTransition request.row.stage .closed = true ∧
              hasClosureRequirements request.row.toIncident = true) ∧
            row.version = request.expectedVersion ∧ ProposalLongInUnitsOnly row) := by
  have ran : (reviewSample.map fun sys => sys.store.incidents.map Incident.stage) =
      some [.pendingClosure] := by decide
  obtain ⟨sys, executed, stages⟩ := Option.map_eq_some_iff.mp ran
  refine ⟨sys, executed, ?_, ?_⟩
  · intro row stored
    have among := List.mem_map_of_mem (f := Incident.stage) stored
    rw [stages] at among
    simpa using among
  · exact closure_gates sampleConfig staffedStore [] ⟨by decide, by decide⟩
      (by simp [staffedStore]) sys
      (Machine.reaches_of_exec _ (fun _ _ _ => trivial) _ _ _ executed)

/-- The schema and the service accept ten faces, the constraint does not, and the approval of the
proposal that holds them is answered with `INTERNAL`. -/
theorem ten_faces_pass_two_gates :
    schemaMinimum tenFaces = true ∧ meetsMinLength (some (jsTrim tenFaces)) = true ∧
      charLengthAtLeast 20 (some (jsTrim tenFaces)) = false ∧ ¬ GatesAgree tenFaces ∧
      (reviewSample.map fun sys => sys.store.incidents.map Incident.stage) =
        some [.pendingClosure] ∧
      reviewSample.bind approvalAnswer = some (.error InternalError) := by
  have schema : schemaMinimum tenFaces = true := by decide
  have constraint : charLengthAtLeast 20 (some (jsTrim tenFaces)) = false := by decide
  refine ⟨schema, by decide, constraint, ?_, by decide, by decide⟩
  rintro ⟨_, same⟩
  rw [schema, constraint] at same
  exact Bool.noConfusion same

end IncidentApi.Properties
