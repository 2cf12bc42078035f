import IncidentApi.Denials
import IncidentApi.Library.Machine
import IncidentApi.Library.Pool
import IncidentApi.Library.Spacing
import IncidentApi.Properties.Refinement
import Mathlib.Data.List.Flatten

/-!
# Denials kept apart

The check for a recent denial and the insert of the new one are two statements, and nothing holds
between them. Rows of one actor and incident are more than a window apart as long as no call passes
its check while another one close to it is past its own.
-/
namespace IncidentApi.Properties

open Spacing

/-! ### Rows and calls of one actor and incident -/

def isDenial (actorId incidentId : Id) (row : AuditEvent) : Bool :=
  row.type = .accessDenied && row.actorId = some actorId && row.incidentId = some incidentId

/-- When the denials of an actor on an incident were recorded. -/
def denialTimes (store : Store) (actorId incidentId : Id) : List Date :=
  (store.auditEvents.filter (isDenial actorId incidentId)).map (·.occurredAt)

/-- Any two denials of one actor on one incident are more than the window apart. -/
def Deduplicated (store : Store) : Prop :=
  ∀ actorId incidentId,
    (denialTimes store actorId incidentId).Pairwise (Apart denialDedupeWindowMs)

/-- The instant of a call that is past its check and before its insert. -/
def waiting (actorId incidentId : Id) (call : DenialCall) : List Date :=
  if call.cleared ∧ call.actorId = actorId ∧ call.incidentId = incidentId then [call.now] else []

/-- A call passes its check only when every other one of its actor and incident that is past its own
is more than the window away. -/
def ChecksApart (sys : DenialSystem) : DenialAction → Prop
  | .find k => ∀ call, sys.calls[k]? = some call →
    findRecentAccessDenied sys.store call.actorId call.incidentId
      (call.now - denialDedupeWindowMs) = false →
    ∀ other ∈ sys.calls, other.cleared = true → other.actorId = call.actorId →
      other.incidentId = call.incidentId → Apart denialDedupeWindowMs other.now call.now
  | _ => True

theorem mem_waiting {actorId incidentId : Id} {call : DenialCall} {instant : Date} :
    instant ∈ waiting actorId incidentId call ↔ call.cleared = true ∧ call.actorId = actorId ∧
      call.incidentId = incidentId ∧ instant = call.now := by
  unfold waiting
  split
  next holds => simp [holds]
  next fails =>
    simp only [List.not_mem_nil, false_iff]
    rintro ⟨cleared, actor, incident, _⟩
    exact fails ⟨cleared, actor, incident⟩

/-- A query that finds nothing leaves every earlier denial behind the window. -/
theorem apart_of_not_recent {store : Store} {actorId incidentId : Id} {now : Date}
    (none : findRecentAccessDenied store actorId incidentId (now - denialDedupeWindowMs) = false) :
    ∀ instant ∈ denialTimes store actorId incidentId, Apart denialDedupeWindowMs instant now := by
  intro instant member
  obtain ⟨row, among, rfl⟩ := List.mem_map.mp member
  obtain ⟨stored, denial⟩ := List.mem_filter.mp among
  have old := List.any_eq_false.mp none row stored
  simp only [isDenial, Bool.and_eq_true, decide_eq_true_eq] at denial
  simp only [Bool.and_eq_true, decide_eq_true_eq, denial.1.1, denial.1.2, denial.2, true_and] at old
  have before : row.occurredAt < now - denialDedupeWindowMs := Int.not_le.mp old
  exact .inr (Int.lt_sub_left_of_add_lt (Int.add_lt_of_lt_sub_right before))

/-- The row of a call is a denial of its own actor and incident. -/
theorem denialTimes_record (store : Store) (call : DenialCall) (auditId actorId incidentId : Id)
    (cleared : call.cleared = true) :
    denialTimes (store.record [call.record] fun _ => auditId) actorId incidentId =
      denialTimes store actorId incidentId ++ waiting actorId incidentId call := by
  have row : isDenial actorId incidentId (call.record.row auditId) =
      decide (call.actorId = actorId ∧ call.incidentId = incidentId) := by
    simp [isDenial, DenialCall.record, denialRecord, CreateAuditEventInput.row]
  simp only [denialTimes, Store.record, auditRows, List.zipIdx_cons, List.zipIdx_nil, List.map_cons,
    List.map_nil, List.filter_append, List.map_append, List.filter_cons, List.filter_nil, row,
    waiting, cleared, true_and]
  by_cases own : call.actorId = actorId ∧ call.incidentId = incidentId
  · simp only [own, decide_true, and_self, if_true]
    rfl
  · simp [own]

/-! ### One step -/

/-- The denials recorded and about to be, all of them apart. -/
def KeptApart (sys : DenialSystem) : Prop :=
  ∀ actorId incidentId, (denialTimes sys.store actorId incidentId ++
    sys.calls.flatMap (waiting actorId incidentId)).Pairwise (Apart denialDedupeWindowMs)

theorem KeptApart.perm {sys : DenialSystem} (kept : KeptApart sys) {actorId incidentId : Id}
    {instants : List Date}
    (perm : instants.Perm (denialTimes sys.store actorId incidentId ++
      sys.calls.flatMap (waiting actorId incidentId))) :
    instants.Pairwise (Apart denialDedupeWindowMs) :=
  (perm.pairwise_iff Apart.symm).mpr (kept actorId incidentId)

/-- Calls that end take nothing but their own instants away. -/
theorem KeptApart.ended {sys : DenialSystem} (kept : KeptApart sys) (k : Nat) :
    KeptApart { sys with calls := sys.calls.eraseIdx k } := by
  intro actorId incidentId
  refine (kept actorId incidentId).sublist (List.Sublist.append_left ?_ _)
  exact (List.eraseIdx_sublist ..).flatMap _

theorem KeptApart.step {sys next : DenialSystem} {action : DenialAction} (kept : KeptApart sys)
    (checks : ChecksApart sys action) (stepped : denialStep sys action = some next) :
    KeptApart next := by
  cases action with
  | recordDenial incidentId actorId clearanceLevel now =>
    simp only [denialStep] at stepped
    split at stepped
    · cases stepped
    · obtain rfl := Option.some.inj stepped
      intro actorId incidentId
      simpa [waiting] using kept actorId incidentId
  | find k =>
    obtain ⟨call, found, moved⟩ := Option.bind_eq_some_iff.mp stepped
    split at moved
    · cases moved
    next unchecked =>
      split at moved
      · exact Option.some.inj moved ▸ kept.ended k
      next none =>
        obtain rfl := Option.some.inj moved
        have none := Bool.eq_false_iff.mpr none
        intro actorId incidentId
        -- the call joins what is waiting; before, it had nothing there
        have before := Pool.perm_of_getElem? (waiting actorId incidentId) found
        have after := Pool.perm_set (waiting actorId incidentId) found
          { call with cleared := true }
        have idle : waiting actorId incidentId call = [] := by simp [waiting, unchecked]
        rw [idle, List.nil_append] at before
        have perm : (denialTimes sys.store actorId incidentId ++
            (sys.calls.set k { call with cleared := true }).flatMap
              (waiting actorId incidentId)).Perm
            (waiting actorId incidentId { call with cleared := true } ++
              (denialTimes sys.store actorId incidentId ++
                sys.calls.flatMap (waiting actorId incidentId))) :=
          (after.append_left _).trans
            (List.perm_append_comm_assoc _ _ _ |>.trans
              ((before.symm.append_left _).append_left _))
        refine (perm.pairwise_iff Apart.symm).mpr (List.pairwise_append.mpr ⟨?_, kept _ _, ?_⟩)
        · unfold waiting
          split
          · exact List.pairwise_singleton _ _
          · exact List.Pairwise.nil
        · intro instant own other among
          obtain ⟨_, rfl, rfl, rfl⟩ := mem_waiting.mp own
          rcases List.mem_append.mp among with recorded | pending
          · exact (apart_of_not_recent none other recorded).symm
          · obtain ⟨passed, member, inside⟩ := List.mem_flatMap.mp pending
            obtain ⟨cleared, actor, incident, rfl⟩ := mem_waiting.mp inside
            exact (checks call found none passed member cleared actor incident).symm
  | create k auditId =>
    obtain ⟨call, found, moved⟩ := Option.bind_eq_some_iff.mp stepped
    split at moved
    next cleared =>
      obtain rfl := Option.some.inj moved
      intro actorId incidentId
      rw [denialTimes_record _ _ _ _ _ cleared, List.append_assoc]
      exact kept.perm ((Pool.perm_of_getElem? _ found).symm.append_left _)
    · cases moved
  | fail k =>
    obtain ⟨call, _, rfl⟩ := Option.map_eq_some_iff.mp stepped
    exact kept.ended k
  | others rows =>
    simp only [denialStep] at stepped
    split at stepped
    next others =>
      obtain rfl := Option.some.inj stepped
      intro actorId incidentId
      have silent : rows.filter (isDenial actorId incidentId) = [] := by
        apply List.filter_eq_nil_iff.mpr
        intro row member
        have kind := List.all_eq_true.mp others row member
        simp only [ne_eq, decide_not, Bool.not_eq_true', decide_eq_false_iff_not] at kind
        simp [isDenial, kind]
      simpa [denialTimes, List.filter_append, silent] using kept actorId incidentId
    · cases stepped

/-! ### Two calls past their checks -/

/-- Two calls that are past their checks can both insert. -/
theorem both_inserted (sys : DenialSystem) {i j : Nat} {first second : DenialCall} (order : i < j)
    (foundFirst : sys.calls[i]? = some first) (foundSecond : sys.calls[j]? = some second)
    (clearedFirst : first.cleared = true) (clearedSecond : second.cleared = true) :
    ∃ later, Machine.Reaches denialStep Machine.anyAction sys later ∧
      later.store = (sys.store.record [second.record] fun _ => "").record [first.record]
        fun _ => "" := by
  let middle : DenialSystem :=
    { sys with
      store := sys.store.record [second.record] fun _ => ""
      calls := sys.calls.eraseIdx j }
  have one : denialStep sys (.create j "") = some middle := by
    simp [denialStep, foundSecond, clearedSecond, middle]
  -- the later call is gone, and the earlier one is still where it was
  have still : middle.calls[i]? = some first := by
    simp [middle, List.getElem?_eraseIdx, order, foundFirst]
  have two : denialStep middle (.create i "") =
      some { middle with
        store := middle.store.record [first.record] fun _ => ""
        calls := middle.calls.eraseIdx i } := by
    simp [denialStep, still, clearedFirst]
  exact ⟨_, .next _ _ _ (.next _ _ _ .start trivial one) trivial two, rfl⟩

/-- Two denials inserted one after the other, and not apart. -/
theorem not_deduplicated {store : Store} {first second : DenialCall}
    (clearedFirst : first.cleared = true) (clearedSecond : second.cleared = true)
    (actor : second.actorId = first.actorId) (incident : second.incidentId = first.incidentId)
    (near : ¬ Apart denialDedupeWindowMs second.now first.now) :
    ¬ Deduplicated ((store.record [second.record] fun _ => "").record [first.record]
      fun _ => "") := by
  intro apart
  have pair := apart first.actorId first.incidentId
  rw [denialTimes_record _ _ _ _ _ clearedFirst, denialTimes_record _ _ _ _ _ clearedSecond,
    List.append_assoc] at pair
  have last := (List.pairwise_append.mp pair).2.1
  simp only [waiting, clearedFirst, clearedSecond, actor, incident, and_self, if_true,
    List.singleton_append, List.pairwise_cons, List.mem_singleton, forall_eq] at last
  exact near last.1

/-- A check that passes too early can be followed by two inserts. -/
theorem early_check_duplicates {sys next : DenialSystem} {k : Nat}
    (stepped : denialStep sys (.find k) = some next) (early : ¬ ChecksApart sys (.find k)) :
    ∃ later, Machine.Reaches denialStep Machine.anyAction next later ∧
      ¬ Deduplicated later.store := by
  simp only [ChecksApart, not_forall] at early
  obtain ⟨call, found, none, other, member, cleared, actor, incident, near⟩ := early
  simp only [denialStep, found, Option.bind_some] at stepped
  split at stepped
  · cases stepped
  next unchecked =>
    -- The other call has been cleared and has not written: nothing stops either from inserting its
    -- row.
    simp only [none, Bool.false_eq_true, if_false, Option.some.injEq] at stepped
    subst stepped
    obtain ⟨j, bound, rfl⟩ := List.mem_iff_getElem.mp member
    have foundOther : sys.calls[j]? = some sys.calls[j] := List.getElem?_eq_getElem bound
    have differ : k ≠ j := by
      rintro rfl
      rw [foundOther, Option.some.injEq] at found
      exact unchecked (found ▸ cleared)
    have atOther : (sys.calls.set k { call with cleared := true })[j]? = some sys.calls[j] := by
      rw [List.getElem?_set_ne differ, foundOther]
    have atCall : (sys.calls.set k { call with cleared := true })[k]? =
        some { call with cleared := true } := by
      simp [(List.getElem?_eq_some_iff.mp found).1]
    -- `both_inserted` wants the calls in the order of the list.
    rcases Nat.lt_or_gt_of_ne differ with before | after
    · obtain ⟨later, reached, stored⟩ := both_inserted
        { sys with calls := sys.calls.set k { call with cleared := true } } before atCall atOther
        rfl cleared
      exact ⟨later, reached, stored ▸ not_deduplicated rfl cleared actor incident near⟩
    · obtain ⟨later, reached, stored⟩ := both_inserted
        { sys with calls := sys.calls.set k { call with cleared := true } } after atOther atCall
        cleared rfl
      exact ⟨later, reached, stored ▸ not_deduplicated cleared rfl actor.symm incident.symm
        fun apart => near apart.symm⟩

/-! ### Every run -/

/-- In a run whose checks pass apart, any two denials of one actor on one incident are more than the
window apart, and an interval holds no more of them than its length allows. A check that passes too
early can be followed by two inserts that are not. -/
theorem denials_kept_apart (start : Store) (clock : Date) (apart : Deduplicated start) :
    (∀ sys, Machine.Reaches denialStep ChecksApart (DenialSystem.boot start clock) sys →
      Deduplicated sys.store ∧ ∀ actorId incidentId lo hi, lo ≤ hi →
        (((denialTimes sys.store actorId incidentId).filter fun instant =>
          lo ≤ instant ∧ instant ≤ hi).length : Int) ≤
            (hi - lo) / (denialDedupeWindowMs + 1) + 1) ∧
    ∀ sys next k, denialStep sys (.find k) = some next → ¬ ChecksApart sys (.find k) →
      ∃ later, Machine.Reaches denialStep Machine.anyAction next later ∧
        ¬ Deduplicated later.store := by
  refine ⟨fun sys reached => ?_, fun sys next k stepped early =>
    early_check_duplicates stepped early⟩
  have kept : KeptApart sys := by
    refine reached.invariant KeptApart ?_ (fun _ _ _ _ kept checks stepped =>
      kept.step checks stepped) sys
    intro actorId incidentId
    simpa [DenialSystem.boot] using apart actorId incidentId
  have deduplicated : Deduplicated sys.store := fun actorId incidentId =>
    (List.pairwise_append.mp (kept actorId incidentId)).1
  refine ⟨deduplicated, fun actorId incidentId lo hi order => ?_⟩
  have apart := (deduplicated actorId incidentId).sublist
    (List.filter_sublist (p := fun t => decide (lo ≤ t ∧ t ≤ hi)))
  apply length_le (by decide) apart _ order
  intro instant member
  exact of_decide_eq_true (List.mem_filter.mp member).2

/-! ### Two probes at once -/

/-- Two refusals of one actor on one incident, each recorded with nothing in between. -/
def probesInTurn (second : Date) : List DenialAction :=
  [.recordDenial "i" "probe" 1 0, .find 0, .create 0 "d0", .recordDenial "i" "probe" 1 second,
    .find 0, .create 0 "d1"]

def checksApart (sys : DenialSystem) : DenialAction → Bool
  | .find _ => sys.calls.all fun call => !call.cleared
  | _ => true

theorem checksApart_sound (sys : DenialSystem) (action : DenialAction)
    (passed : checksApart sys action = true) : ChecksApart sys action := by
  cases action with
  | find k =>
    intro call _ _ other member cleared _ _
    have idle := List.all_eq_true.mp passed other member
    simp [cleared] at idle
  | _ => trivial

/-- The second probe comes a millisecond after the window, and gets a row of its own. -/
theorem denials_kept_apart_sample :
    ∃ sys, Machine.exec denialStep checksApart (DenialSystem.boot sampleStore 0)
        (probesInTurn 60001) = some sys ∧
      denialTimes sys.store "probe" "i" = [0, 60001] ∧ Deduplicated sys.store := by
  have ran : (Machine.exec denialStep checksApart (DenialSystem.boot sampleStore 0)
      (probesInTurn 60001)).any
        (fun sys => decide (denialTimes sys.store "probe" "i" = [0, 60001])) = true := by decide
  obtain ⟨sys, executed, times⟩ := Option.any_eq_true _ _ |>.mp ran
  refine ⟨sys, executed, of_decide_eq_true times, ?_⟩
  have settled := denials_kept_apart sampleStore 0 fun actorId incidentId => List.Pairwise.nil
  exact (settled.1 sys (Machine.reaches_of_exec _ checksApart_sound _ _ _ executed)).1

/-- Both probes check before either inserts, and both rows carry the same instant. -/
theorem concurrent_probes_duplicate :
    ¬ ∀ (start : Store) (clock : Date), Deduplicated start → ∀ sys : DenialSystem,
      Machine.Reaches denialStep Machine.anyAction (DenialSystem.boot start clock) sys →
      Deduplicated sys.store := by
  intro claim
  have ran : (Machine.exec denialStep (fun _ _ => true) (DenialSystem.boot sampleStore 0)
      [.recordDenial "i" "probe" 1 0, .recordDenial "i" "probe" 1 0, .find 0, .find 1,
        .create 0 "d0", .create 0 "d1"]).any
        (fun sys => decide (denialTimes sys.store "probe" "i" = [0, 0])) = true := by decide
  obtain ⟨sys, executed, times⟩ := Option.any_eq_true _ _ |>.mp ran
  have apart := claim sampleStore 0 (fun actorId incidentId => List.Pairwise.nil) sys
    (Machine.reaches_of_exec _ (fun _ _ _ => trivial) _ _ _ executed) "probe" "i"
  rw [of_decide_eq_true times] at apart
  exact absurd apart (by decide)

end IncidentApi.Properties
