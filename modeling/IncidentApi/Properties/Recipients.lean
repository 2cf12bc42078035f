import IncidentApi.Properties.TierLaw

/-!
# Who is notified

The recipients of an event are those of the severity its batch read, and its own severity may be
lower by then. Within a cycle a severity in the band only goes down, so whoever the run loaded for
the higher one is cleared for the lower one.
-/
namespace IncidentApi.Properties

/-! ### Loaded recipients -/

/-- The statement that loads the recipients of a severity is the next one. -/
def loads (severity : Severity) : Phase → Bool
  | .loadingHigh => severity = .high
  | .loadingCritical => severity = .critical
  | _ => false

section Loaded
variable (config : JobConfig) (allowed : System → Action → Prop) (start final : System)

/-- On the way to `final`, run `k` loaded the recipients of the severity and found that user. -/
def LoadedUser (k : Nat) (severity : Severity) (user : User) : Prop :=
  ∃ state next reading run, Machine.Reaches (step config) allowed start state ∧
    step config state (.job k reading) = some next ∧
    Machine.Reaches (step config) allowed next final ∧
    state.runs[k]? = some run ∧ loads severity run.phase = true ∧ user ∈ state.store.users

/-- What the claim of a notification rests on: an active manager or administrator, cleared for the
severity, when the run loaded its recipients. -/
def EntitledAtLoad (k : Nat) (recipient : Id) (severity : Severity) : Prop :=
  ∃ loaded user, LoadedUser config allowed start final k loaded user ∧ user.id = recipient ∧
    user.isActive = true ∧ (user.role = .triageManager ∨ user.role = .admin) ∧
    severityRank severity ≤ user.clearanceLevel

end Loaded

section Run
variable {config : JobConfig} {allowed : System → Action → Prop} {start before after : System}

theorem LoadedUser.next {action : Action} {k : Nat} {severity : Severity} {user : User}
    (loaded : LoadedUser config allowed start before k severity user)
    (permitted : allowed before action) (stepped : step config before action = some after) :
    LoadedUser config allowed start after k severity user := by
  obtain ⟨state, next, reading, run, reached, moved, onward, rest⟩ := loaded
  exact ⟨state, next, reading, run, reached, moved, .next before after action onward permitted
    stepped, rest⟩

theorem mem_recipientsFor {store : Store} {severity : Severity} {id : Id}
    (member : id ∈ recipientsFor store severity) :
    ∃ user ∈ store.users, user.id = id ∧ user.isActive = true ∧
      (user.role = .triageManager ∨ user.role = .admin) ∧
      severityRank severity ≤ user.clearanceLevel := by
  obtain ⟨user, chosen, rfl⟩ := List.mem_map.mp member
  simp only [List.mem_filter, Bool.and_eq_true, decide_eq_true_eq, List.mem_cons,
    List.not_mem_nil, or_false] at chosen
  obtain ⟨stored, ⟨active, role⟩, cleared⟩ := chosen
  exact ⟨user, stored, rfl, active, role, cleared⟩

/-- A recipient of a list that a statement leaves is an old one, or the statement loads the
list. -/
theorem ListsEffect.recipients {store : Store} {run : Run} {tiers : List Tier}
    {recipients : Recipients} (lists : ListsEffect store run tiers recipients)
    {severity : Severity} {id : Id} (member : id ∈ recipients.get severity) :
    id ∈ run.recipients.get severity ∨
      loads severity run.phase = true ∧ id ∈ recipientsFor store severity := by
  cases lists with
  | kept => exact Or.inl member
  | tiers => exact Or.inl member
  | high phase =>
    cases severity with
    | high => exact Or.inr ⟨by simp [loads, phase], member⟩
    | _ => exact Or.inl member
  | critical phase =>
    cases severity with
    | critical => exact Or.inr ⟨by simp [loads, phase], member⟩
    | _ => exact Or.inl member

/-- Whoever is on a list of run `k` was entitled to it when it was loaded. -/
def ListsEntitled (config : JobConfig) (allowed : System → Action → Prop) (start final : System)
    (k : Nat) (run : Run) : Prop :=
  ∀ severity, ∀ id ∈ run.recipients.get severity,
    EntitledAtLoad config allowed start final k id severity

theorem EntitledAtLoad.next {action : Action} {k : Nat} {recipient : Id} {severity : Severity}
    (entitled : EntitledAtLoad config allowed start before k recipient severity)
    (permitted : allowed before action) (stepped : step config before action = some after) :
    EntitledAtLoad config allowed start after k recipient severity := by
  obtain ⟨loaded, user, found, rest⟩ := entitled
  exact ⟨loaded, user, found.next permitted stepped, rest⟩

theorem entitled_step (reached : Machine.Reaches (step config) allowed start before)
    {action : Action} (permitted : allowed before action)
    (stepped : step config before action = some after)
    (entitled : ∀ k run, before.runs[k]? = some run →
      ListsEntitled config allowed start before k run) :
    ∀ k run, after.runs[k]? = some run → ListsEntitled config allowed start after k run := by
  have old : ∀ k run, before.runs[k]? = some run →
      ListsEntitled config allowed start after k run :=
    fun k run found severity id member =>
      (entitled k run found severity id member).next permitted stepped
  intro j run found severity id member
  by_cases job : Action.ofJob action = true
  · rcases step_job job stepped with _ |
      ⟨k, previous, next, store, reading, isJob, was, fresh, effect⟩ |
      ⟨k, previous, next, was, dropped⟩
    · rcases Nat.lt_or_ge j before.runs.length with early | last
      · rw [List.getElem?_append_left early] at found
        exact old j run found severity id member
      -- a run that has just started has loaded nothing
      · rw [List.getElem?_append_right last] at found
        obtain rfl := List.mem_singleton.mp (List.mem_of_getElem? found)
        cases severity <;> simp [newRun, Recipients.get] at member
    · subst isJob
      by_cases own : j = k
      · subst own
        have lists := step_lists stepped was found
        rcases lists.recipients member with earlier | ⟨loading, listed⟩
        · exact old j previous was severity id earlier
        · obtain ⟨user, stored, rest⟩ := mem_recipientsFor listed
          exact ⟨severity, user, ⟨before, _, reading, previous, reached, stepped, .start, was,
            loading, stored⟩, rest⟩
      · rw [List.getElem?_set_ne (Ne.symm own)] at found
        exact old j run found severity id member
    · by_cases own : j = k
      · subst own
        obtain ⟨bound, _⟩ := List.getElem?_eq_some_iff.mp was
        rw [List.getElem?_set_self bound] at found
        obtain rfl := Option.some.inj found
        rw [dropped.recipients] at member
        exact old j previous was severity id member
      · rw [List.getElem?_set_ne (Ne.symm own)] at found
        exact old j run found severity id member
  · rw [(step_service (by simpa using job) stepped).runs] at found
    exact old j run found severity id member

theorem reached_entitled {store : Store} {issued : List Id} {sys : System}
    (reached : Machine.Reaches (step config) allowed (System.boot store issued) sys) :
    ∀ k run, sys.runs[k]? = some run →
      ListsEntitled config allowed (System.boot store issued) sys k run := by
  refine reached.invariant (fun sys => ∀ k run, sys.runs[k]? = some run →
    ListsEntitled config allowed (System.boot store issued) sys k run) (by simp [System.boot]) ?_
    sys
  intro before action after earlier entitled permitted stepped
  exact entitled_step earlier permitted stepped entitled

end Run

/-- Nobody is notified above their clearance: a notification that some run has created goes to
someone whom that run loaded as an active manager or administrator, cleared for the severity that
the event records. -/
theorem notified_within_clearance (config : JobConfig) (start : Store) (issued : List Id)
    (unique : start.UniqueIds) (keys : (start.escalationEvents.map (·.key)).Nodup)
    (known : ∀ id ∈ mentions start, id ∈ issued) (sys : System)
    (reached : Machine.Reaches (step config) (OnCommit IfMatchNotAhead)
      (System.boot start issued) sys) :
    ∀ row ∈ sys.store.notificationLog, row.key ∈ start.notificationLog.map (·.key) ∨
      ∃ k run, sys.runs[k]? = some run ∧ ∃ made ∈ run.committed,
        made.event ∈ sys.store.escalationEvents ∧ row.escalationEventId = made.event.id ∧
        EntitledAtLoad config (OnCommit IfMatchNotAhead) (System.boot start issued) sys k
          row.recipientId made.event.severityAtEscalation := by
  intro row stored
  have history := reached_history keys known (reached.imp fun _ _ _ => trivial)
  refine (history.origins.notifications row stored).imp_right ?_
  rintro ⟨entry, among, owner⟩
  obtain ⟨run, member, logged⟩ := List.mem_flatMap.mp among
  obtain ⟨made, committed, rfl⟩ := List.mem_map.mp logged
  obtain ⟨k, found⟩ := List.getElem?_of_mem member
  have complete := history.complete _ among
  refine ⟨k, run, found, made, committed, complete.event, owner, ?_⟩
  -- the row is counted, so its recipient is on the list of the severity that was read
  have listed : row.recipientId ∈ run.recipients.get made.due.candidate.severity := by
    by_contra absent
    have once := complete.notified row.recipientId
    rw [if_neg absent, List.count_eq_zero] at once
    exact once (List.mem_map.mpr ⟨row, stored, Prod.ext owner rfl⟩)
  obtain ⟨loaded, user, found, named, active, role, cleared⟩ :=
    reached_entitled reached k run found _ _ listed
  have read := (reached_reads unique (fun _ _ => id) reached run member).committed made committed
  exact ⟨loaded, user, found, named, active, role, Nat.le_trans read.below cleared⟩

/-! ### One escalation, next to a lowering -/

theorem notified_within_clearance_sample :
    ∃ sys, Machine.exec (step sampleConfig) servedIfMatch (System.boot sampleStore [])
        (batchRead ++ loweredToHigh 900000 ++ jobSteps 6 900000 "e0") = some sys ∧
      sys.store.notificationLog.map (·.recipientId) = ["manager"] ∧
      ∀ row ∈ sys.store.notificationLog, row.key ∈ sampleStore.notificationLog.map (·.key) ∨
        ∃ k run, sys.runs[k]? = some run ∧ ∃ made ∈ run.committed,
          made.event ∈ sys.store.escalationEvents ∧ row.escalationEventId = made.event.id ∧
          EntitledAtLoad sampleConfig (OnCommit IfMatchNotAhead) (System.boot sampleStore []) sys k
            row.recipientId made.event.severityAtEscalation := by
  have ran : (Machine.exec (step sampleConfig) servedIfMatch (System.boot sampleStore [])
      (batchRead ++ loweredToHigh 900000 ++ jobSteps 6 900000 "e0")).any (fun sys => decide (
        sys.store.notificationLog.map (·.recipientId) = ["manager"])) = true := by decide
  obtain ⟨sys, executed, facts⟩ := Option.any_eq_true _ _ |>.mp ran
  refine ⟨sys, executed, of_decide_eq_true facts, ?_⟩
  exact notified_within_clearance sampleConfig sampleStore [] ⟨by decide, by decide⟩ (by decide)
    (by decide) sys (Machine.reaches_of_exec _ servedIfMatch_sound _ _ _ executed)

end IncidentApi.Properties
