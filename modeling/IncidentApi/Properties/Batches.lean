import IncidentApi.Jobs

/-!
# What a batch transaction does

A closed form of `escalateBatch` without interruption: every pair whose event is not there yet is
escalated, in order, and the pairs whose event exists are passed over.
-/
namespace IncidentApi.Properties

/-- The unique key of the event a pair asks for. -/
def dueKey (due : Due) : Id × Nat × Nat :=
  (due.candidate.id, due.candidate.escalationCycle, due.tier.level)

def newEvent (env : RunEnv) (due : Due) : EscalationEvent :=
  ⟨env.ids.event due.candidate.id due.tier.level, due.candidate.id,
    due.candidate.escalationCycle, due.tier.level, due.candidate.severity, dueAt due, env.now⟩

def newNotifications (recipients : Recipients) (env : RunEnv) (due : Due) :
    List NotificationLog :=
  notificationsFor (newEvent env due).id (recipients.get due.candidate.severity) env.now
    (env.ids.notification due.candidate.id due.tier.level)

def newAudit (env : RunEnv) (due : Due) : AuditEvent :=
  (escalatedRecord due (newEvent env due).id env.now).row
    (env.ids.audit due.candidate.id due.tier.level)

/-- The row after the bumps of a list of pairs. -/
def bumpAll (env : RunEnv) (dues : List Due) (row : Incident) : Incident :=
  dues.foldl
    (fun row due =>
      bumpRow due.candidate.id due.tier.level env.now
        (env.ids.wall due.candidate.id due.tier.level) row)
    row

/-- The store after a list of pairs, each of which was escalated. -/
def escalated (recipients : Recipients) (env : RunEnv) (store : Store) (dues : List Due) : Store :=
  { store with
    incidents := store.incidents.map (bumpAll env dues)
    escalationEvents := store.escalationEvents ++ dues.map (newEvent env)
    notificationLog := store.notificationLog ++ dues.flatMap (newNotifications recipients env)
    auditEvents := store.auditEvents ++ dues.map (newAudit env) }

/-- The pairs of a list whose event the store does not hold. -/
def unescalated (store : Store) (dues : List Due) : List Due :=
  dues.filter fun due => !store.escalationEvents.any (·.key = dueKey due)

/-! ### Bumps -/

section Bumps
variable (env : RunEnv)

/-- A bump leaves everything but its three columns alone. -/
structure SameButBump (old new : Incident) : Prop where
  id : new.id = old.id
  severity : new.severity = old.severity
  stage : new.stage = old.stage
  cycle : new.escalationCycle = old.escalationCycle
  acknowledged : new.acknowledgedAt = old.acknowledgedAt
  clock : new.highSeveritySince = old.highSeveritySince
  assignee : new.assignedInvestigatorId = old.assignedInvestigatorId
  level : old.currentEscalationLevel ≤ new.currentEscalationLevel

theorem bumpRow_same (id : Id) (level : Nat) (now wall : Date) (row : Incident) :
    SameButBump row (bumpRow id level now wall row) := by
  unfold bumpRow
  split
  next bumped => exact ⟨rfl, rfl, rfl, rfl, rfl, rfl, rfl, Nat.le_of_lt bumped.2⟩
  · exact ⟨rfl, rfl, rfl, rfl, rfl, rfl, rfl, Nat.le_refl _⟩

theorem SameButBump.trans {first second third : Incident} (left : SameButBump first second)
    (right : SameButBump second third) : SameButBump first third where
  id := right.id.trans left.id
  severity := right.severity.trans left.severity
  stage := right.stage.trans left.stage
  cycle := right.cycle.trans left.cycle
  acknowledged := right.acknowledged.trans left.acknowledged
  clock := right.clock.trans left.clock
  assignee := right.assignee.trans left.assignee
  level := Nat.le_trans left.level right.level

theorem bumpAll_same (dues : List Due) (row : Incident) :
    SameButBump row (bumpAll env dues row) := by
  induction dues generalizing row with
  | nil => exact ⟨rfl, rfl, rfl, rfl, rfl, rfl, rfl, Nat.le_refl _⟩
  | cons due rest ih => exact (bumpRow_same _ _ _ _ row).trans (ih _)

theorem bumpAll_append (first second : List Due) (row : Incident) :
    bumpAll env (first ++ second) row = bumpAll env second (bumpAll env first row) :=
  List.foldl_append

theorem bumpRow_other {id : Id} {row : Incident} (other : row.id ≠ id) (level : Nat)
    (now wall : Date) : bumpRow id level now wall row = row := by
  simp [bumpRow, other]

/-- Pairs of other incidents leave the row alone. -/
theorem bumpAll_other (dues : List Due) (row : Incident)
    (other : ∀ due ∈ dues, due.candidate.id ≠ row.id) : bumpAll env dues row = row := by
  induction dues with
  | nil => rfl
  | cons due rest ih =>
    have head : row.id ≠ due.candidate.id := Ne.symm (other due (by simp))
    simp only [bumpAll, List.foldl_cons, bumpRow_other head]
    exact ih fun due member => other due (List.mem_cons_of_mem _ member)

/-- The counter ends at the largest level of the bumps, if that is above where it stood. -/
theorem bumpAll_level (dues : List Due) (row : Incident)
    (own : ∀ due ∈ dues, due.candidate.id = row.id) :
    (bumpAll env dues row).currentEscalationLevel =
      (dues.map (·.tier.level)).foldl max row.currentEscalationLevel := by
  induction dues generalizing row with
  | nil => rfl
  | cons due rest ih =>
    -- the first bump moves the counter to the larger of the two levels, the rest follows from there
    have head : row.id = due.candidate.id := (own due (by simp)).symm
    have same := bumpRow_same due.candidate.id due.tier.level env.now
      (env.ids.wall due.candidate.id due.tier.level) row
    have level : (bumpRow due.candidate.id due.tier.level env.now
        (env.ids.wall due.candidate.id due.tier.level) row).currentEscalationLevel =
        max row.currentEscalationLevel due.tier.level := by
      unfold bumpRow
      split
      next bumped => exact (Nat.max_eq_right (Nat.le_of_lt bumped.2)).symm
      next kept =>
        rw [Nat.max_eq_left]
        by_contra above
        exact kept ⟨head, by omega⟩
    have tail := ih (bumpRow due.candidate.id due.tier.level env.now
        (env.ids.wall due.candidate.id due.tier.level) row)
      fun later member => (own later (List.mem_cons_of_mem _ member)).trans same.id.symm
    simp only [List.map_cons, List.foldl_cons]
    rw [← level]
    exact tail

end Bumps

/-! ### One pair -/

/-- The row as the scan read it, still a candidate below the pair's level. -/
structure Answers (due : Due) (row : Incident) : Prop where
  candidate : stillCandidate due row = true
  severity : row.severity = due.candidate.severity

theorem stillCandidate_iff (due : Due) (row : Incident) :
    stillCandidate due row = true ↔
      row.id = due.candidate.id ∧ row.escalationCycle = due.candidate.escalationCycle ∧
        row.currentEscalationLevel < due.tier.level ∧ row.acknowledgedAt = none ∧
        row.stage ≠ .closed ∧ row.severity.inHighBand = true := by
  simp [stillCandidate, and_assoc]

theorem eq_of_id_eq {incidents : List Incident} (ids : (incidents.map Incident.id).Nodup)
    {a b : Incident} (ha : a ∈ incidents) (hb : b ∈ incidents) (same : a.id = b.id) : a = b :=
  List.inj_on_of_nodup_map ids ha hb same

theorem insertEvent_eq (env : RunEnv) (store : Store) (due : Due) (row : Incident)
    (ids : (store.incidents.map Incident.id).Nodup) (member : row ∈ store.incidents)
    (answers : Answers due row) :
    insertEvent store due env.now (env.ids.event due.candidate.id due.tier.level) =
      if store.escalationEvents.any (·.key = dueKey due) then none
      else some (newEvent env due) := by
  have found : store.incidents.find? (stillCandidate due) = some row := by
    cases search : store.incidents.find? (stillCandidate due) with
    | none =>
      exact absurd answers.candidate (by simpa using List.find?_eq_none.mp search row member)
    | some other =>
      have selected := (stillCandidate_iff due other).mp (List.find?_some search)
      have own := (stillCandidate_iff due row).mp answers.candidate
      rw [eq_of_id_eq ids (List.mem_of_find?_eq_some search) member
        (selected.1.trans own.1.symm)]
  have own := (stillCandidate_iff due row).mp answers.candidate
  have event : eventFor due row env.now (env.ids.event due.candidate.id due.tier.level) =
      newEvent env due := by
    simp only [eventFor, newEvent, own.1, own.2.1, answers.severity]
  have key : (newEvent env due).key = dueKey due := rfl
  simp only [insertEvent, found, event, key]

/-- Rows of an event nobody was notified about yet are all inserted. -/
theorem skipDuplicates_all (existing rows : List NotificationLog)
    (fresh : ∀ row ∈ rows, ∀ old ∈ existing, old.key ≠ row.key)
    (distinct : (rows.map NotificationLog.key).Nodup) : skipDuplicates existing rows = rows := by
  induction rows generalizing existing with
  | nil => rfl
  | cons row rest ih =>
    obtain ⟨first, later⟩ := List.nodup_cons.mp distinct
    have absent : existing.any (·.key = row.key) = false := by
      simp only [List.any_eq_false, decide_eq_true_eq]
      exact fresh row (by simp)
    simp only [skipDuplicates, absent, Bool.false_eq_true, if_false, List.cons.injEq, true_and]
    -- the row just inserted counts as existing for the rest
    refine ih (row :: existing) (fun other member old present => ?_) later
    rcases List.mem_cons.mp present with rfl | present
    · exact fun equal => first (List.mem_map.mpr ⟨other, member, equal.symm⟩)
    · exact fresh other (List.mem_cons_of_mem _ member) old present

theorem newNotifications_keys (recipients : Recipients) (env : RunEnv) (due : Due)
    (distinct : (recipients.get due.candidate.severity).Nodup) :
    ((newNotifications recipients env due).map NotificationLog.key).Nodup := by
  simp only [newNotifications, notificationsFor, List.map_map]
  apply distinct.map
  intro a b equal
  simpa [NotificationLog.key] using equal

theorem newNotifications_event (recipients : Recipients) (env : RunEnv) (due : Due)
    (row : NotificationLog) (member : row ∈ newNotifications recipients env due) :
    row.escalationEventId = (newEvent env due).id := by
  simp only [newNotifications, notificationsFor, List.mem_map] at member
  obtain ⟨_, _, rfl⟩ := member
  rfl

theorem escalateOne_eq (recipients : Recipients) (env : RunEnv) (store : Store) (due : Due)
    (row : Incident) (ids : (store.incidents.map Incident.id).Nodup)
    (member : row ∈ store.incidents) (answers : Answers due row)
    (distinct : (recipients.get due.candidate.severity).Nodup)
    (unused : ∀ row ∈ store.notificationLog, row.escalationEventId ≠ (newEvent env due).id) :
    escalateOne recipients env store due =
      if store.escalationEvents.any (·.key = dueKey due) then (store, 0, 0)
      else (escalated recipients env store [due], 1,
        (newNotifications recipients env due).length) := by
  have all : skipDuplicates store.notificationLog (newNotifications recipients env due) =
      newNotifications recipients env due := by
    refine skipDuplicates_all _ _ (fun row new old present equal => ?_)
      (newNotifications_keys recipients env due distinct)
    have event := newNotifications_event recipients env due row new
    exact unused old present ((congrArg Prod.fst equal).trans event)
  simp only [escalateOne, insertEvent_eq env store due row ids member answers]
  by_cases present : store.escalationEvents.any (·.key = dueKey due) = true
  · rw [if_pos present, if_pos present]
  · rw [if_neg present, if_neg present]
    simp only [newNotifications] at all
    simp only [Write.apply, all, escalated, List.map_cons, List.map_nil, List.flatMap_cons,
      List.flatMap_nil, List.append_nil, newNotifications, newAudit]
    rfl

/-! ### A list of pairs -/

/-- What makes every pair of a list insertable in turn: its row answers the re-check, its levels
rise with its place among the pairs of the same incident, and its event id is new. -/
structure Pending (recipients : Recipients) (env : RunEnv) (store : Store) (dues : List Due) :
    Prop where
  ids : (store.incidents.map Incident.id).Nodup
  answers : ∀ due ∈ dues, ∃ row ∈ store.incidents, Answers due row
  ascending : dues.Pairwise fun a b =>
    a.candidate.id = b.candidate.id → a.tier.level < b.tier.level
  distinct : ∀ severity, (recipients.get severity).Nodup
  unused : ∀ due ∈ dues, ∀ row ∈ store.notificationLog,
    row.escalationEventId ≠ (newEvent env due).id
  injective : ∀ a ∈ dues, ∀ b ∈ dues, (newEvent env a).id = (newEvent env b).id →
    a.candidate.id = b.candidate.id ∧ a.tier.level = b.tier.level

section Batch
variable {recipients : Recipients} {env : RunEnv} {store : Store}

theorem map_bumpAll_ids (dues : List Due) (incidents : List Incident) :
    (incidents.map (bumpAll env dues)).map Incident.id = incidents.map Incident.id := by
  rw [List.map_map]
  exact List.map_congr_left fun row _ => (bumpAll_same env dues row).id

/-- Escalating a pair keeps the row of a later pair answering. -/
theorem Answers.bump {first later : Due} {row : Incident} (answers : Answers later row)
    (above : first.candidate.id = later.candidate.id → first.tier.level < later.tier.level)
    (env : RunEnv) : Answers later (bumpAll env [first] row) := by
  have same := bumpAll_same env [first] row
  have held := (stillCandidate_iff later row).mp answers.candidate
  refine ⟨(stillCandidate_iff later _).mpr ?_, same.severity.trans answers.severity⟩
  rw [same.id, same.cycle, same.acknowledged, same.stage, same.severity]
  refine ⟨held.1, held.2.1, ?_, held.2.2.2⟩
  by_cases own : first.candidate.id = row.id
  -- the earlier pair is of the same incident, and its level is lower
  · have level := bumpAll_level env [first] row (by simpa using own)
    have rises := above (own.trans held.1)
    simp only [level, List.map_cons, List.map_nil, List.foldl_cons, List.foldl_nil]
    omega
  · rw [bumpAll_other env [first] row (by simpa using own)]
    exact held.2.2.1

theorem dueKey_ne {a b : Due}
    (above : a.candidate.id = b.candidate.id → a.tier.level < b.tier.level) :
    dueKey a ≠ dueKey b := by
  intro equal
  have id := congrArg Prod.fst equal
  have level := congrArg (fun key : Id × Nat × Nat => key.2.2) equal
  have rises := above id
  simp only [dueKey] at level
  omega

theorem Pending.tail {due : Due} {rest : List Due}
    (pending : Pending recipients env store (due :: rest)) :
    Pending recipients env store rest where
  ids := pending.ids
  answers later member := pending.answers later (List.mem_cons_of_mem _ member)
  ascending := (List.pairwise_cons.mp pending.ascending).2
  distinct := pending.distinct
  unused later member := pending.unused later (List.mem_cons_of_mem _ member)
  injective a ha b hb :=
    pending.injective a (List.mem_cons_of_mem _ ha) b (List.mem_cons_of_mem _ hb)

theorem Pending.after {due : Due} {rest : List Due}
    (pending : Pending recipients env store (due :: rest)) :
    Pending recipients env (escalated recipients env store [due]) rest where
  ids := by
    simp only [escalated, map_bumpAll_ids]
    exact pending.ids
  answers later member := by
    obtain ⟨row, stored, answers⟩ := pending.answers later (List.mem_cons_of_mem _ member)
    refine ⟨bumpAll env [due] row, List.mem_map.mpr ⟨row, stored, rfl⟩, ?_⟩
    exact answers.bump ((List.pairwise_cons.mp pending.ascending).1 later member) env
  ascending := (List.pairwise_cons.mp pending.ascending).2
  distinct := pending.distinct
  unused later member row logged := by
    simp only [escalated, List.flatMap_cons, List.flatMap_nil, List.append_nil,
      List.mem_append] at logged
    have later' : later ∈ due :: rest := List.mem_cons_of_mem _ member
    rcases logged with old | new
    · exact pending.unused later later' row old
    -- its notifications carry its own event id, which no later pair shares
    · rw [newNotifications_event recipients env due row new]
      intro equal
      obtain ⟨id, level⟩ := pending.injective due (by simp) later later' equal
      have rises := (List.pairwise_cons.mp pending.ascending).1 later member id
      omega
  injective a ha b hb :=
    pending.injective a (List.mem_cons_of_mem _ ha) b (List.mem_cons_of_mem _ hb)

/-- Escalating one pair does not decide whether the event of a later pair exists. -/
theorem unescalated_after {due : Due} {rest : List Due}
    (ascending : (due :: rest).Pairwise fun a b =>
      a.candidate.id = b.candidate.id → a.tier.level < b.tier.level) :
    unescalated (escalated recipients env store [due]) rest = unescalated store rest := by
  apply List.filter_congr
  intro later member
  have differs := dueKey_ne ((List.pairwise_cons.mp ascending).1 later member)
  have key : (newEvent env due).key = dueKey due := rfl
  simp [escalated, key, differs]

@[simp] theorem escalated_nil : escalated recipients env store [] = store := by
  have unchanged : bumpAll env [] = id := rfl
  simp [escalated, unchanged]

theorem escalated_append (first second : List Due) :
    escalated recipients env (escalated recipients env store first) second =
      escalated recipients env store (first ++ second) := by
  simp only [escalated, List.map_map, List.map_append, List.flatMap_append, List.append_assoc]
  congr 2
  funext row
  exact (bumpAll_append env first second row).symm

def notificationCount (recipients : Recipients) (env : RunEnv) (dues : List Due) : Nat :=
  (dues.flatMap (newNotifications recipients env)).length

/-- The closed form of a batch. -/
theorem escalateBatch_eq (dues : List Due) (pending : Pending recipients env store dues) :
    escalateBatch recipients env store dues =
      (escalated recipients env store (unescalated store dues), (unescalated store dues).length,
        notificationCount recipients env (unescalated store dues)) := by
  induction dues generalizing store with
  | nil => simp [escalateBatch, unescalated, notificationCount]
  | cons due rest ih =>
    obtain ⟨row, member, answers⟩ := pending.answers due (by simp)
    have one := escalateOne_eq recipients env store due row pending.ids member answers
      (pending.distinct _) (pending.unused due (by simp))
    by_cases present : store.escalationEvents.any (·.key = dueKey due) = true
    · rw [if_pos present] at one
      have skipped : unescalated store (due :: rest) = unescalated store rest := by
        simp only [unescalated, List.filter_cons, present, Bool.not_true, Bool.false_eq_true,
          if_false]
      simp only [escalateBatch, one, ih pending.tail, skipped, Nat.zero_add]
    · rw [if_neg present] at one
      have taken : unescalated store (due :: rest) = due :: unescalated store rest := by
        simp only [unescalated, List.filter_cons, present, Bool.not_false, if_true]
      simp only [escalateBatch, one, ih pending.after,
        unescalated_after pending.ascending, escalated_append, List.singleton_append, taken]
      simp [notificationCount, Nat.add_comm]

theorem Pending.front {first second : List Due}
    (pending : Pending recipients env store (first ++ second)) :
    Pending recipients env store first where
  ids := pending.ids
  answers due member := pending.answers due (List.mem_append_left _ member)
  ascending := (List.pairwise_append.mp pending.ascending).1
  distinct := pending.distinct
  unused due member := pending.unused due (List.mem_append_left _ member)
  injective a ha b hb :=
    pending.injective a (List.mem_append_left _ ha) b (List.mem_append_left _ hb)

/-- After the first part of a list, the second part is still pending and the same events of it
are missing. -/
theorem Pending.drop {first second : List Due}
    (pending : Pending recipients env store (first ++ second)) :
    Pending recipients env (escalated recipients env store (unescalated store first)) second ∧
      unescalated (escalated recipients env store (unescalated store first)) second =
        unescalated store second := by
  induction first generalizing store with
  | nil => simpa [unescalated] using pending
  | cons due rest ih =>
    by_cases present : store.escalationEvents.any (·.key = dueKey due) = true
    · have skipped : unescalated store (due :: rest) = unescalated store rest := by
        simp only [unescalated, List.filter_cons, present, Bool.not_true, Bool.false_eq_true,
          if_false]
      rw [skipped]
      exact ih pending.tail
    · have taken : unescalated store (due :: rest) = due :: unescalated store rest := by
        simp only [unescalated, List.filter_cons, present, Bool.not_false, if_true]
      -- the rest is pending in the store with this pair escalated
      obtain ⟨left, right⟩ := ih pending.after
      have ascending := pending.ascending
      rw [List.cons_append] at ascending
      have firstPart : unescalated (escalated recipients env store [due]) rest =
          unescalated store rest := by
        refine unescalated_after (ascending.sublist ?_)
        exact (List.sublist_append_left rest second).cons_cons due
      have secondPart : unescalated (escalated recipients env store [due]) second =
          unescalated store second := by
        refine unescalated_after (ascending.sublist ?_)
        exact (List.sublist_append_right rest second).cons_cons due
      rw [firstPart, escalated_append, List.singleton_append] at left right
      rw [taken]
      exact ⟨left, right.trans secondPart⟩

end Batch

end IncidentApi.Properties
