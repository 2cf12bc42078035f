import IncidentApi.Properties.Snapshots
import IncidentApi.Properties.ExactlyOnce

/-!
# What the optimistic lock protects

`updateVersioned` compares the stored version with the client's `If-Match` value, and every check
ran on a row that was read before. The write overwrites that very version exactly if the value is
not ahead of it.
-/
namespace IncidentApi.Properties

/-- The columns the checks of the eight operations read. -/
def decisionFields (row : Incident) :
    Stage × Severity × Option Id × Option Date × Option String × Option String :=
  (row.stage, row.severity, row.assignedInvestigatorId, row.acknowledgedAt, row.rootCause,
    row.correctiveAction)

theorem decisionFields_congr {row other : Incident}
    (same : protectedPart row = protectedPart other) : decisionFields row = decisionFields other :=
  protected_congr decisionFields (fun _ => rfl) same

/-- The row a committed request overwrites. -/
theorem overwritten_row {store after : Store} {request : Request} {now wall : Date}
    {ids : Nat → Id} (committed : commitRequest store request now wall ids = .ok after) :
    ∃ stored ∈ store.incidents, pinned request.id request.expectedVersion stored = true := by
  obtain ⟨mutation, _, written⟩ := commitRequest_ok committed
  obtain ⟨⟨row, stored, same, current, _⟩, _⟩ := commitMutation_ok _ _ _ _ _ _ _ written
  exact ⟨row, stored, (pinned_iff _ _ _).mpr ⟨same, current⟩⟩

/-- In every interleaving, a write that commits overwrites the version its operation decided on
exactly if its `If-Match` value is at most that version, and then every column its checks read
is as it was. -/
theorem current_ifMatch_protects_decision (config : JobConfig) (start : Store) (issued : List Id)
    (unique : start.UniqueIds) (sys : System)
    (reached : Machine.Reaches (step config) Machine.anyAction (System.boot start issued) sys)
    (request : Request) (pending : request ∈ sys.requests) (now wall : Date) (ids : Nat → Id)
    (after : Store) (committed : commitRequest sys.store request now wall ids = .ok after) :
    (∃ stored ∈ sys.store.incidents,
      pinned request.id request.expectedVersion stored = true) ∧
    ∀ stored ∈ sys.store.incidents, pinned request.id request.expectedVersion stored = true →
      (stored.version = request.row.version ↔
        request.expectedVersion ≤ request.row.version) ∧
      (request.expectedVersion ≤ request.row.version →
        decisionFields stored = decisionFields request.row.toIncident) := by
  have inv := reached_snapshots unique reached
  refine ⟨overwritten_row committed, fun stored member pins => ?_⟩
  have follows := inv.follows pending member pins
  have current := ((pinned_iff _ _ _).mp pins).2
  refine ⟨follows.pinned_iff current, fun fresh => ?_⟩
  exact (decisionFields_congr (follows.pinned fresh current)).symm

/-! ### Two requests for one incident -/

theorem eq_ok_of_toOption {T : Type} {result : Except AppError T} {value : T}
    (some_ : result.toOption = some value) : result = .ok value := by
  cases result with
  | error _ => simp [Except.toOption] at some_
  | ok found => exact congrArg Except.ok (Option.some.inj some_)

theorem current_ifMatch_protects_decision_sample :
    ∃ sys request after,
      Machine.exec (step sampleConfig) (fun _ _ => true) (System.boot sampleStore [])
        [.load "manager" .acknowledge "a" 0] = some sys ∧
      request ∈ sys.requests ∧
      commitRequest sys.store request 60000 60000 (fun _ => "ack") = .ok after ∧
      ∀ stored ∈ sys.store.incidents, pinned request.id request.expectedVersion stored = true →
        (request.expectedVersion ≤ request.row.version →
          decisionFields stored = decisionFields request.row.toIncident) := by
  have ran : ((Machine.exec (step sampleConfig) (fun _ _ => true) (System.boot sampleStore [])
      [.load "manager" .acknowledge "a" 0]).bind fun sys => sys.requests.head?.bind fun request =>
        (commitRequest sys.store request 60000 60000 (fun _ => "ack")).toOption.map
          fun _ => ()) = some () := by decide
  obtain ⟨sys, executed, ran⟩ := Option.bind_eq_some_iff.mp ran
  obtain ⟨request, found, ran⟩ := Option.bind_eq_some_iff.mp ran
  obtain ⟨after, committed, _⟩ := Option.map_eq_some_iff.mp ran
  refine ⟨sys, request, after, executed, List.mem_of_head? found, eq_ok_of_toOption committed,
    fun stored member pins => ?_⟩
  exact ((current_ifMatch_protects_decision sampleConfig sampleStore [] ⟨by decide, by decide⟩ sys
    (Machine.reaches_of_exec (fun _ _ => true) (fun _ _ _ => trivial) _ _ _ executed) request
    (List.mem_of_head? found) 60000 60000 (fun _ => "ack") after
    (eq_ok_of_toOption committed)).2 stored member pins).2

def loweringInput : ChangeSeverityRequest :=
  ⟨.high, ⟨"no longer critical", by decide, by decide, by decide⟩⟩

/-- A lowering is loaded with an `If-Match` value its client was never given; an acknowledgement
then moves the row to that version. -/
def aheadOfTheRow : List Action :=
  [.load "manager" (.changeSeverity loweringInput) "a" 1, .load "manager" .acknowledge "a" 0,
    .commit 1 60000 60000 (fun _ => "ack")]

/-- The lowering commits over the acknowledgement it never saw. -/
theorem guessed_ifMatch_overwrites_unread_row :
    ¬ ∀ (config : JobConfig) (start : Store) (issued : List Id), start.UniqueIds →
      ∀ sys, Machine.Reaches (step config) Machine.anyAction (System.boot start issued) sys →
      ∀ request ∈ sys.requests, ∀ (now wall : Date) (ids : Nat → Id) (after : Store),
        commitRequest sys.store request now wall ids = .ok after →
        ∀ stored ∈ sys.store.incidents, pinned request.id request.expectedVersion stored = true →
          decisionFields stored = decisionFields request.row.toIncident := by
  intro protects
  have ran : ((Machine.exec (step sampleConfig) (fun _ _ => true) (System.boot sampleStore [])
      aheadOfTheRow).bind fun sys => sys.requests.head?.bind fun request =>
        (commitRequest sys.store request 120000 120000 (fun _ => "low")).toOption.map fun _ =>
          (sys.store.incidents.filter (pinned request.id request.expectedVersion)).map
            (fun stored => (stored.acknowledgedAt, request.row.acknowledgedAt))) =
      some [(some 60000, none)] := by decide
  obtain ⟨sys, executed, ran⟩ := Option.bind_eq_some_iff.mp ran
  obtain ⟨request, found, ran⟩ := Option.bind_eq_some_iff.mp ran
  obtain ⟨after, committed, overwritten⟩ := Option.map_eq_some_iff.mp ran
  have member : (some 60000, none) ∈
      (sys.store.incidents.filter (pinned request.id request.expectedVersion)).map
        (fun stored => (stored.acknowledgedAt, request.row.acknowledgedAt)) := by
    rw [overwritten]
    exact List.mem_cons_self
  obtain ⟨stored, among, acknowledged⟩ := List.mem_map.mp member
  obtain ⟨inside, pins⟩ := List.mem_filter.mp among
  -- the claim would make the row as it was loaded acknowledged too
  have same := protects sampleConfig sampleStore [] ⟨by decide, by decide⟩ sys
    (Machine.reaches_of_exec (fun _ _ => true) (fun _ _ _ => trivial) _ _ _ executed) request
    (List.mem_of_head? found) 120000 120000 (fun _ => "low") after (eq_ok_of_toOption committed)
    stored inside pins
  have kept : stored.acknowledgedAt = request.row.acknowledgedAt :=
    congrArg (fun fields => fields.2.2.2.1) same
  obtain ⟨now, before⟩ := Prod.mk.inj acknowledged
  rw [now, before] at kept
  exact absurd kept (by decide)

end IncidentApi.Properties
