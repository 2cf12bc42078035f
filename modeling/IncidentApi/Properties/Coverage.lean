import IncidentApi.Properties.Cycles

/-!
# Pairs in flight

What an open batch transaction guarantees about the levels below the pairs it has yet to treat:
each has its event, comes earlier in the batch, or belongs to a cycle in which the incident is no
candidate any more. Where every bump lands in the cycle of its event, no counter passes a level
without an event.
-/
namespace IncidentApi.Properties

/-! ### Lists of pairs -/

/-- The incident is no candidate in that cycle any more. -/
def Dead (store : Store) (id : Id) (cycle : Nat) : Prop :=
  ∀ row ∈ store.incidents, row.id = id → Ended cycle row

/-- A level that needs no insert. -/
def Settled (store : Store) (events : List EscalationEvent) (id : Id) (cycle level : Nat) : Prop :=
  HasEvent events id cycle level ∨ Dead store id cycle

/-- Below each pair, every level is settled or comes earlier in the list. -/
def Covered (settled : Id → Nat → Nat → Prop) : List Due → Prop
  | [] => True
  | due :: rest =>
    (∀ level, 1 ≤ level → level < due.tier.level →
      settled due.candidate.id due.candidate.escalationCycle level) ∧
    Covered (fun id cycle level => settled id cycle level ∨ (id, cycle, level) = dueKey due) rest

theorem Covered.mono {settled more : Id → Nat → Nat → Prop} {dues : List Due}
    (covered : Covered settled dues)
    (implies : ∀ id cycle level, settled id cycle level → more id cycle level) :
    Covered more dues := by
  induction dues generalizing settled more with
  | nil => trivial
  | cons due rest ih =>
    refine ⟨fun level one bound => implies _ _ _ (covered.1 level one bound),
      ih covered.2 fun id cycle level => ?_⟩
    exact Or.imp_left (implies id cycle level)

theorem Covered.append {settled : Id → Nat → Nat → Prop} {front rest : List Due}
    (first : Covered settled front) (second : Covered settled rest) :
    Covered settled (front ++ rest) := by
  induction front generalizing settled with
  | nil => exact second
  | cons due front ih => exact ⟨first.1, ih first.2 (second.mono fun _ _ _ => Or.inl)⟩

/-- Once the first pair is settled, the rest needs no mention of it. -/
theorem Covered.tail {settled : Id → Nat → Nat → Prop} {due : Due} {rest : List Due}
    (covered : Covered settled (due :: rest))
    (first : settled due.candidate.id due.candidate.escalationCycle due.tier.level) :
    Covered settled rest := by
  apply covered.2.mono
  intro id cycle level settled
  rcases settled with settled | same
  · exact settled
  · simp only [dueKey, Prod.mk.injEq] at same
    obtain ⟨rfl, rfl, rfl⟩ := same
    exact first

/-- Rising levels of one candidate that leave no gap above its counter. -/
private theorem covered_suffix {id : Id} {cycle counter : Nat} (front rest : List Due)
    {settled : Id → Nat → Nat → Prop}
    (own : ∀ due ∈ rest, due.candidate.id = id ∧ due.candidate.escalationCycle = cycle)
    (rising : (front ++ rest).Pairwise fun a b => a.tier.level < b.tier.level)
    (closed : ∀ due ∈ rest, ∀ level, counter < level → level < due.tier.level →
      ∃ other ∈ front ++ rest, other.tier.level = level)
    (base : ∀ level, 1 ≤ level → level ≤ counter → settled id cycle level)
    (before : ∀ due ∈ front, settled id cycle due.tier.level) : Covered settled rest := by
  -- on the pairs still to come; `front` holds those whose levels are settled by then
  induction rest generalizing front settled with
  | nil => trivial
  | cons due rest ih =>
    obtain ⟨sameId, sameCycle⟩ := own due List.mem_cons_self
    refine ⟨fun level one bound => ?_, ih (front ++ [due])
      (fun other member => own other (List.mem_cons_of_mem _ member)) (by simpa using rising)
      (fun other member => by simpa using closed other (List.mem_cons_of_mem _ member))
      (fun level one bound => Or.inl (base level one bound)) fun other member => ?_⟩
    · rw [sameId, sameCycle]
      rcases Nat.lt_or_ge counter level with above | below
      · obtain ⟨other, member, rfl⟩ := closed due List.mem_cons_self level above bound
        rcases List.mem_append.mp member with early | late
        · exact before other early
        · have ordered := (List.pairwise_append.mp rising).2.1
          rcases List.mem_cons.mp late with rfl | later
          · exact absurd bound (Nat.lt_irrefl _)
          · have := (List.pairwise_cons.mp ordered).1 other later
            omega
      · exact base level one below
    · rcases List.mem_append.mp member with early | last
      · exact Or.inl (before other early)
      · obtain rfl := List.mem_singleton.mp last
        exact Or.inr (by rw [dueKey, sameId, sameCycle])

/-- The due tiers of one row, from a set that leaves no gap. -/
theorem covered_dueOf {tiers : List Tier} (formed : WellFormed tiers) (now : Date) (row : BatchRow)
    {settled : Id → Nat → Nat → Prop}
    (base : ∀ level, 1 ≤ level → level ≤ row.currentEscalationLevel →
      settled row.id row.escalationCycle level) : Covered settled (dueOf tiers now row) := by
  refine covered_suffix [] (dueOf tiers now row) ?_ ?_ ?_ base (by simp)
  · intro due member
    obtain ⟨tier, _, rfl⟩ := List.mem_map.mp member
    exact ⟨rfl, rfl⟩
  · rw [List.nil_append, dueOf, List.pairwise_map]
    exact tiersDueFor_ascending _ _ _ formed.distinct
  · intro due member level above bound
    obtain ⟨tier, isDue, rfl⟩ := List.mem_map.mp member
    obtain ⟨upper, inTiers, severity, _, elapsed, rfl⟩ := (mem_tiersDueFor _ _ _ _).mp isDue
    obtain ⟨lower, present, same, rfl⟩ :=
      -- the set has a tier at every level in between, and a shorter threshold has elapsed as well
      formed.contiguous upper inTiers level (by omega) (Nat.le_of_lt bound)
    have sooner := formed.increasing lower present upper inTiers same bound
    have lowerElapsed := hasElapsed_mono (Int.le_refl now) (Nat.le_of_lt sooner) elapsed
    refine ⟨⟨row.candidate, ⟨lower.level, lower.thresholdMinutes⟩⟩, ?_, rfl⟩
    exact List.mem_map.mpr ⟨_, (mem_tiersDueFor _ _ _ _).mpr
      ⟨lower, present, same.trans severity, above, lowerElapsed, rfl⟩, rfl⟩

theorem covered_flatMap {settled : Id → Nat → Nat → Prop} {rows : List BatchRow}
    (dues : BatchRow → List Due) (each : ∀ row ∈ rows, Covered settled (dues row)) :
    Covered settled (rows.flatMap dues) := by
  induction rows with
  | nil => trivial
  | cons row rest ih =>
    rw [List.flatMap_cons]
    exact (each row List.mem_cons_self).append
      (ih fun other member => each other (List.mem_cons_of_mem _ member))

/-! ### Open batches -/

/-- The event the pair in progress inserts. -/
def Statement.event? : Statement → Option EscalationEvent
  | .select => none
  | .conflict event => some event
  | .notify event => some event
  | .audit event _ => some event
  | .bump event _ _ => some event

/-- What a statement of the transaction can see of the events. -/
def visibleEvents (store : Store) (batch : Batch) : List EscalationEvent :=
  store.escalationEvents ++ batchEvents batch

/-- A counter that the transaction raises is supported, in the cycle its row still has. -/
structure BumpReady (store : Store) (events : List EscalationEvent) (due : Due) : Prop where
  supported : Supported events due.candidate.id due.candidate.escalationCycle due.tier.level
  present : ∃ row ∈ store.incidents, row.id = due.candidate.id
  cycle : ∀ row ∈ store.incidents, row.id = due.candidate.id →
    row.escalationCycle = due.candidate.escalationCycle

structure BatchReady (store : Store) (batch : Batch) : Prop where
  bumps : ∀ done ∈ batch.escalations, done.bumped.isSome = true →
    BumpReady store (visibleEvents store batch) done.due
  positive : ∀ due ∈ batch.todo, 1 ≤ due.tier.level
  present : ∀ due ∈ batch.todo, ∃ row ∈ store.incidents, row.id = due.candidate.id
  forward : ∀ due ∈ batch.todo, ∀ row ∈ store.incidents, row.id = due.candidate.id →
    due.candidate.escalationCycle ≤ row.escalationCycle
  covered : Covered (Settled store (visibleEvents store batch)) batch.todo
  progress : ∀ due rest, batch.todo = due :: rest → ∀ event ∈ Statement.event? batch.statement,
    event.key = dueKey due ∧ ∀ level, 1 ≤ level → level < due.tier.level →
      HasEvent (visibleEvents store batch) due.candidate.id due.candidate.escalationCycle level

/-- What other transactions may do to the database while a batch is open that holds some rows
locked. -/
structure Advances (locked : Id → Prop) (old new : Store) : Prop where
  events : old.escalationEvents ⊆ new.escalationEvents
  kept : ∀ before ∈ old.incidents, ∃ row ∈ new.incidents, row.id = before.id
  rows : ∀ row ∈ new.incidents,
    (∃ before ∈ old.incidents, before.id = row.id ∧ CycleStep before row ∧
      (locked row.id → row.escalationCycle = before.escalationCycle)) ∨
    ∀ before ∈ old.incidents, before.id ≠ row.id

theorem Settled.advance {locked : Id → Prop} {old new : Store} {events more : List EscalationEvent}
    (advances : Advances locked old new) (subset : events ⊆ more) {id : Id} {cycle level : Nat}
    (present : ∃ row ∈ old.incidents, row.id = id) (settled : Settled old events id cycle level) :
    Settled new more id cycle level := by
  rcases settled with has | dead
  · exact Or.inl (has.mono subset)
  · apply Or.inr
    intro row member same
    rcases advances.rows row member with ⟨before, stored, named, cycleStep, _⟩ | fresh
    · exact cycleStep.ended (dead before stored (named.trans same))
    · obtain ⟨before, stored, named⟩ := present
      exact absurd (named.trans same.symm) (fresh before stored)

/-- `Covered` needs its levels settled only for the candidates of the list. -/
theorem Covered.imp {settled more : Id → Nat → Nat → Prop} {dues : List Due}
    (covered : Covered settled dues)
    (implies : ∀ due ∈ dues, ∀ level, settled due.candidate.id due.candidate.escalationCycle level →
      more due.candidate.id due.candidate.escalationCycle level) : Covered more dues := by
  induction dues generalizing settled more with
  | nil => trivial
  | cons due rest ih =>
    refine ⟨fun level one bound => implies due List.mem_cons_self level (covered.1 level one bound),
      ih covered.2 fun other member level => ?_⟩
    exact Or.imp_left (implies other (List.mem_cons_of_mem _ member) level)

theorem BatchReady.advance {locked : Id → Prop} {old new : Store} {batch : Batch}
    (ready : BatchReady old batch) (advances : Advances locked old new)
    (holds : ∀ done ∈ batch.escalations, done.bumped.isSome = true →
      locked done.due.candidate.id) : BatchReady new batch := by
  have more : visibleEvents old batch ⊆ visibleEvents new batch :=
    List.append_subset.mpr ⟨fun _ member => List.mem_append_left _ (advances.events member),
      List.subset_append_right _ _⟩
  have stays : ∀ id, (∃ row ∈ old.incidents, row.id = id) → ∃ row ∈ new.incidents, row.id = id := by
    rintro id ⟨before, stored, named⟩
    obtain ⟨row, later, same⟩ := advances.kept before stored
    exact ⟨row, later, same.trans named⟩
  refine ⟨fun done among bumped => ?_, ready.positive,
    fun due member => stays _ (ready.present due member),
    fun due member row later same => ?_, ready.covered.imp fun due member level => ?_,
    fun due rest todo event inProgress => ?_⟩
  · obtain ⟨supported, present, cycle⟩ := ready.bumps done among bumped
    refine ⟨supported.mono more, stays _ present, fun row later same => ?_⟩
    rcases advances.rows row later with ⟨before, stored, named, _, keeps⟩ | fresh
    · exact (keeps (same ▸ holds done among bumped)).trans
        (cycle before stored (named.trans same))
    · obtain ⟨before, stored, named⟩ := present
      exact absurd (named.trans same.symm) (fresh before stored)
  -- cycles only go forward
  · rcases advances.rows row later with ⟨before, stored, named, cycleStep, _⟩ | fresh
    · exact (ready.forward due member before stored (named.trans same)).trans cycleStep.forward
    · obtain ⟨before, stored, named⟩ := ready.present due member
      exact absurd (named.trans same.symm) (fresh before stored)
  · exact Settled.advance advances more (ready.present due member)
  · obtain ⟨key, below⟩ := ready.progress due rest todo event inProgress
    exact ⟨key, fun level one bound => (below level one bound).mono more⟩

/-! ### The rows a transaction sees -/

theorem bumpedBy_level (writes : List Write) (row : Incident) :
    (bumpedBy writes row).currentEscalationLevel = row.currentEscalationLevel ∨
      ∃ level now wall, Write.bump row.id level now wall ∈ writes ∧
        (bumpedBy writes row).currentEscalationLevel = level := by
  induction writes generalizing row with
  | nil => exact Or.inl rfl
  | cons write rest ih =>
    -- A write that is no bump leaves the row to the rest of the list.
    have later (reached : (bumpedBy rest row).currentEscalationLevel =
          row.currentEscalationLevel ∨
        ∃ level now wall, Write.bump row.id level now wall ∈ rest ∧
          (bumpedBy rest row).currentEscalationLevel = level) :
        (bumpedBy rest row).currentEscalationLevel = row.currentEscalationLevel ∨
          ∃ level now wall, Write.bump row.id level now wall ∈ write :: rest ∧
            (bumpedBy rest row).currentEscalationLevel = level := by
      rcases reached with same | ⟨level, now, wall, member, equal⟩
      · exact Or.inl same
      · exact Or.inr ⟨level, now, wall, List.mem_cons_of_mem _ member, equal⟩
    cases write with
    | bump id level now wall =>
      have peeled : bumpedBy (.bump id level now wall :: rest) row =
          bumpedBy rest (bumpRow id level now wall row) := rfl
      have named := (bumpRow_same id level now wall row).id
      rw [peeled]
      rcases ih (bumpRow id level now wall row) with same | ⟨top, later, wall', member, equal⟩
      · rw [same]
        by_cases hit : row.id = id ∧ row.currentEscalationLevel < level
        · exact Or.inr ⟨level, now, wall, by simp [hit.1], by simp [bumpRow, hit]⟩
        · exact Or.inl (by simp [bumpRow, hit])
      · rw [named] at member
        exact Or.inr ⟨top, later, wall', List.mem_cons_of_mem _ member, equal⟩
    | event _ => exact later (ih row)
    | notifications _ => exact later (ih row)
    | audit _ => exact later (ih row)

theorem mem_writes_bump {batch : Batch} {id : Id} {level : Nat} {now wall : Date} :
    Write.bump id level now wall ∈ batch.writes ↔
      now = batch.now ∧ ∃ done ∈ batch.escalations, done.bumped = some wall ∧
        done.due.candidate.id = id ∧ done.due.tier.level = level := by
  -- the pair in progress has not bumped yet
  have notInProgress : Write.bump id level now wall ∉ batch.statement.writes := by
    cases batch.statement <;> simp [Statement.writes]
  simp only [Batch.writes, List.mem_append, notInProgress, or_false, List.mem_flatMap,
    Escalation.writes, List.mem_cons, List.mem_map, Option.mem_toList, Write.bump.injEq,
    reduceCtorEq, List.not_mem_nil, false_or]
  constructor
  · rintro ⟨done, among, wall', bumped, rfl, rfl, rfl, rfl⟩
    exact ⟨rfl, done, among, bumped, rfl, rfl⟩
  · rintro ⟨rfl, done, among, bumped, rfl, rfl⟩
    exact ⟨done, among, wall, bumped, rfl, rfl, rfl, rfl⟩

/-- In the view of a ready transaction every counter is supported. -/
theorem BatchReady.supported {store : Store} {batch : Batch} (ready : BatchReady store batch)
    {row : Incident} (stored : row ∈ store.incidents)
    (supported : RowSupported store.escalationEvents row) :
    RowSupported (visibleEvents store batch) (bumpedBy batch.writes row) := by
  have same := bumpedBy_same batch.writes row
  rw [RowSupported, same.id, same.cycle]
  rcases bumpedBy_level batch.writes row with level | ⟨level, now, wall, member, equal⟩
  · rw [level]
    exact Supported.mono (List.subset_append_left _ _) supported
  · obtain ⟨_, done, among, bumped, named, rfl⟩ := mem_writes_bump.mp member
    obtain ⟨raised, _, cycle⟩ := ready.bumps done among (by simp [bumped])
    rw [equal, cycle row stored named.symm, ← named]
    exact raised

/-! ### The statements of a run -/

/-- The row that the bump would match is still in the cycle of the event. -/
def bumpLands (store : Store) (batch : Batch) : Bool :=
  match batch.todo, batch.statement with
  | due :: _, .bump event _ _ =>
    (batch.view store).incidents.all fun row =>
      !(row.id = due.candidate.id && row.currentEscalationLevel < due.tier.level) ||
        row.escalationCycle = event.cycle
  | _, _ => true

structure RunReady (store : Store) (run : Run) : Prop where
  tiers : WellFormed run.tiers
  batch : ∀ batch, run.open? = some batch → BatchReady store batch

theorem view_incidents (batch : Batch) (store : Store) :
    (batch.view store).incidents = store.incidents.map (bumpedBy batch.writes) := by
  rw [view_eq]

section Statements
variable {store : Store} {batch : Batch} {due : Due} {rest : List Due}

/-- The row that a bump matches. -/
theorem matched_row (matched : ((batch.view store).incidents.any fun row =>
      row.id = due.candidate.id && row.currentEscalationLevel < due.tier.level) = true) :
    ∃ row ∈ store.incidents, row.id = due.candidate.id ∧
      bumpedBy batch.writes row ∈ (batch.view store).incidents ∧
      (bumpedBy batch.writes row).currentEscalationLevel < due.tier.level := by
  obtain ⟨seen, member, hit⟩ := List.any_eq_true.mp matched
  obtain ⟨row, stored, rfl⟩ := List.mem_map.mp (view_incidents batch store ▸ member)
  simp only [Bool.and_eq_true, decide_eq_true_eq] at hit
  exact ⟨row, stored, (bumpedBy_same batch.writes row).id.symm.trans hit.1, member, hit.2⟩

/-- A pair that finds no candidate: its level is reached already, or its cycle is over. -/
theorem BatchReady.settled_of_vanished (ready : BatchReady store batch)
    (todo : batch.todo = due :: rest)
    (rows : ∀ row ∈ store.incidents, RowSupported store.escalationEvents row)
    (absent : (batch.view store).incidents.find? (stillCandidate due) = none) :
    Settled store (visibleEvents store batch) due.candidate.id due.candidate.escalationCycle
      due.tier.level := by
  -- Either the counter has passed the level within the cycle, or every row of the incident has left
  -- the cycle or stopped being a candidate in it.
  by_cases reached : ∃ row ∈ store.incidents, row.id = due.candidate.id ∧
      row.escalationCycle = due.candidate.escalationCycle ∧
      due.tier.level ≤ (bumpedBy batch.writes row).currentEscalationLevel
  · obtain ⟨row, stored, named, cycle, level⟩ := reached
    have supported := ready.supported stored (rows row stored)
    have same := bumpedBy_same batch.writes row
    rw [RowSupported, same.id, same.cycle, named, cycle] at supported
    exact Or.inl (supported _ (ready.positive due (by simp [todo])) level)
  · apply Or.inr
    intro row stored named
    rcases Nat.eq_or_lt_of_le (ready.forward due (by simp [todo]) row stored named) with
      cycle | past
    · refine Or.inr ⟨cycle.symm, fun alive => ?_⟩
      have low : (bumpedBy batch.writes row).currentEscalationLevel < due.tier.level :=
        Nat.lt_of_not_le fun level => reached ⟨row, stored, named, cycle.symm, level⟩
      have same := bumpedBy_same batch.writes row
      rw [view_incidents, List.find?_eq_none] at absent
      refine absent _ (List.mem_map.mpr ⟨row, stored, rfl⟩) ((stillCandidate_iff _ _).mpr ?_)
      rw [same.id, same.cycle, same.acknowledged, same.stage, same.severity]
      exact ⟨named, cycle.symm, low, alive⟩
    · exact Or.inl past

/-- A pair that finds its candidate: every lower level has its event. -/
theorem BatchReady.below_of_selected (ready : BatchReady store batch)
    (todo : batch.todo = due :: rest) {row : Incident}
    (found : (batch.view store).incidents.find? (stillCandidate due) = some row) :
    ∀ level, 1 ≤ level → level < due.tier.level → HasEvent (visibleEvents store batch)
      due.candidate.id due.candidate.escalationCycle level := by
  intro level one bound
  have covered := ready.covered
  rw [todo] at covered
  rcases covered.1 level one bound with has | dead
  · exact has
  · have member := List.mem_of_find?_eq_some found
    rw [view_incidents] at member
    obtain ⟨stored, among, rfl⟩ := List.mem_map.mp member
    have same := bumpedBy_same batch.writes stored
    have selected := (stillCandidate_iff _ _).mp (List.find?_some found)
    rw [same.id, same.cycle, same.acknowledged, same.stage, same.severity] at selected
    obtain ⟨named, cycle, _, alive⟩ := selected
    rcases dead stored among named with past | ⟨_, ended⟩
    · omega
    · exact absurd alive ended

/-- Leaving a settled pair behind. -/
theorem BatchReady.pop (ready : BatchReady store batch) (todo : batch.todo = due :: rest)
    (settled : Settled store (visibleEvents store batch) due.candidate.id
      due.candidate.escalationCycle due.tier.level) {next : Batch} (nextTodo : next.todo = rest)
    (statement : next.statement = .select) (events : batchEvents next = batchEvents batch)
    (bumps : ∀ done ∈ next.escalations, done.bumped.isSome = true →
      BumpReady store (visibleEvents store batch) done.due) : BatchReady store next := by
  have visible : visibleEvents store next = visibleEvents store batch := by
    rw [visibleEvents, events, visibleEvents]
  have covered := ready.covered
  rw [todo] at covered
  have later : ∀ other ∈ next.todo, other ∈ batch.todo := fun other member => by
    rw [todo]
    exact List.mem_cons_of_mem _ (nextTodo ▸ member)
  refine ⟨visible ▸ bumps, fun other member => ready.positive other (later other member),
    fun other member => ready.present other (later other member),
    fun other member => ready.forward other (later other member), ?_, ?_⟩
  · rw [visible, nextTodo]
    exact covered.tail settled
  · intro other others _ event inProgress
    rw [statement] at inProgress
    simp [Statement.event?] at inProgress

/-- Going on with the pair in progress. -/
theorem BatchReady.proceed (ready : BatchReady store batch) {next : Batch}
    (todo : next.todo = batch.todo) (escalations : next.escalations = batch.escalations)
    (events : batchEvents batch ⊆ batchEvents next)
    (progress : ∀ due rest, batch.todo = due :: rest →
      ∀ event ∈ Statement.event? next.statement,
        event.key = dueKey due ∧ ∀ level, 1 ≤ level → level < due.tier.level →
          HasEvent (visibleEvents store batch) due.candidate.id due.candidate.escalationCycle
            level) : BatchReady store next := by
  have more : visibleEvents store batch ⊆ visibleEvents store next :=
    List.append_subset.mpr ⟨List.subset_append_left _ _,
      fun _ member => List.mem_append_right _ (events member)⟩
  refine ⟨fun done among bumped => ?_, todo ▸ ready.positive, todo ▸ ready.present,
    todo ▸ ready.forward, ?_, ?_⟩
  · obtain ⟨supported, present, cycle⟩ := ready.bumps done (escalations ▸ among) bumped
    exact ⟨supported.mono more, present, cycle⟩
  · rw [todo]
    exact ready.covered.mono fun id cycle level => Or.imp_left (HasEvent.mono more)
  · intro due rest isTodo event inProgress
    obtain ⟨key, below⟩ := progress due rest (todo ▸ isTodo) event inProgress
    exact ⟨key, fun level one bound => (below level one bound).mono more⟩

/-- A statement that goes on with the same event. -/
theorem BatchReady.onward (ready : BatchReady store batch) {next : Batch}
    (todo : next.todo = batch.todo) (escalations : next.escalations = batch.escalations)
    (events : batchEvents batch ⊆ batchEvents next)
    (same : Statement.event? next.statement = Statement.event? batch.statement) :
    BatchReady store next :=
  ready.proceed todo escalations events fun due rest isTodo event inProgress =>
    ready.progress due rest isTodo event (same ▸ inProgress)

theorem mem_findBatch {config : JobConfig} {cursor : Cursor} {scanned : BatchRow}
    (member : scanned ∈ findBatch config store cursor) :
    ∃ row ∈ store.incidents, row.batchRow = scanned := by
  rw [findBatch_eq] at member
  obtain ⟨row, among, rfl⟩ := List.mem_map.mp member
  have remaining := (List.take_subset _ _) among
  simp only [Properties.remaining, Keyset.mem_sortOn, List.mem_filter] at remaining
  exact ⟨row, remaining.1, rfl⟩

/-- Every pair of a page comes from a stored row, and lies above its counter. -/
theorem due_of_scan {tiers : List Tier} {scanned : List BatchRow} {now : Date} {due : Due}
    (stored : ∀ read ∈ scanned, ∃ row ∈ store.incidents, row.batchRow = read)
    (member : due ∈ scanned.flatMap (dueOf tiers now)) :
    ∃ row ∈ store.incidents,
      due.candidate = row.batchRow.candidate ∧ row.currentEscalationLevel < due.tier.level := by
  obtain ⟨read, among, isDue⟩ := List.mem_flatMap.mp member
  obtain ⟨row, inside, rfl⟩ := stored read among
  obtain ⟨tier, crossed, rfl⟩ := List.mem_map.mp isDue
  obtain ⟨source, _, _, above, _, rfl⟩ := (mem_tiersDueFor _ _ _ _).mp crossed
  exact ⟨row, inside, rfl, above⟩

/-- The pairs of a page that was just read. -/
theorem batchReady_of_scan (unique : (store.incidents.map Incident.id).Nodup)
    (rows : ∀ row ∈ store.incidents, RowSupported store.escalationEvents row) {tiers : List Tier}
    (formed : WellFormed tiers) {scanned : List BatchRow} {now : Date}
    (stored : ∀ read ∈ scanned, ∃ row ∈ store.incidents, row.batchRow = read)
    (todo : batch.todo = scanned.flatMap (dueOf tiers now)) (statement : batch.statement = .select)
    (escalations : batch.escalations = []) : BatchReady store batch := by
  have origin : ∀ due ∈ batch.todo, ∃ row ∈ store.incidents,
      due.candidate = row.batchRow.candidate ∧ row.currentEscalationLevel < due.tier.level :=
    fun due member => due_of_scan stored (todo ▸ member)
  refine ⟨by simp [escalations], fun due member => ?_, fun due member => ?_,
    fun due member row inside same => ?_, ?_, ?_⟩
  · obtain ⟨row, _, _, above⟩ := origin due member
    omega
  · obtain ⟨row, inside, candidate, _⟩ := origin due member
    exact ⟨row, inside, by rw [candidate]; rfl⟩
  · obtain ⟨other, among, candidate, _⟩ := origin due member
    rw [candidate] at same ⊢
    exact Nat.le_of_eq (congrArg Incident.escalationCycle
      (eq_of_id_eq unique among inside same.symm))
  -- What is read in one statement covers its dues: each row is supported up to its level.
  · rw [todo]
    apply covered_flatMap _
    intro read among
    obtain ⟨row, inside, rfl⟩ := stored read among
    refine covered_dueOf formed now _ fun level one bound => Or.inl ?_
    exact (rows row inside level one bound).mono (List.subset_append_left _ _)
  · intro due rest _ event inProgress
    rw [statement] at inProgress
    simp [Statement.event?] at inProgress

end Statements

/-- A bump that lands and matches finds its incident in the cycle of the event. -/
theorem cycle_of_landed {store : Store} {batch : Batch} {due : Due} {rest : List Due}
    {event : EscalationEvent} {rows : List NotificationLog} {record : AuditEvent}
    (unique : (store.incidents.map Incident.id).Nodup) (lands : bumpLands store batch = true)
    (todo : batch.todo = due :: rest) (statement : batch.statement = .bump event rows record)
    (matched : ((batch.view store).incidents.any fun row =>
      row.id = due.candidate.id && row.currentEscalationLevel < due.tier.level) = true)
    {row : Incident} (stored : row ∈ store.incidents) (named : row.id = due.candidate.id) :
    row.escalationCycle = event.cycle := by
  obtain ⟨before, among, own, member, below⟩ := matched_row matched
  obtain rfl := eq_of_id_eq unique among stored (own.trans named.symm)
  have same := bumpedBy_same batch.writes before
  simp only [bumpLands, todo, statement, List.all_eq_true, Bool.or_eq_true,
    Bool.not_eq_true', decide_eq_true_eq] at lands
  have cycle := (lands _ member).resolve_left (by simp [same.id, own, below])
  rw [← cycle, same.cycle]

/-- The run of an open batch is as ready as the batch. -/
theorem RunReady.within {store : Store} {run : Run} {batch : Batch} (ready : RunReady store run)
    (keeps : BatchReady store batch) : RunReady store { run with phase := .batch batch } :=
  ⟨ready.tiers, forall_open keeps⟩

/-- A statement of a run keeps what its open transaction guarantees. -/
theorem RunEffect.ready {config : JobConfig} {others : List Write} {store after : Store}
    {run next : Run} {reading : Reading} (unique : (store.incidents.map Incident.id).Nodup)
    (formed : WellFormed (activeTiers store))
    (rows : ∀ row ∈ store.incidents, RowSupported store.escalationEvents row)
    (ready : RunReady store run)
    (lands : ∀ batch, run.open? = some batch → bumpLands store batch = true)
    (effect : RunEffect config others store run reading after next) : RunReady after next := by
  cases effect with
  -- No transaction is open after a statement outside one: only the tiers it may have loaded count.
  | outside _ _ closed still tables log failure recipients loading tiers =>
    refine ⟨?_, fun batch opened => ?_⟩
    · rcases tiers with same | loaded
      · exact same ▸ ready.tiers
      · exact loaded ▸ formed
    · rw [still] at opened
      simp at opened
  | committed batch _ phase done still log failure recipients loading tiers =>
    refine ⟨tiers ▸ ready.tiers, fun other opened => ?_⟩
    rw [still] at opened
    simp at opened
  | violated batch event phase statement clash =>
    exact ⟨ready.tiers, fun other opened => by simp [Run.open?] at opened⟩
  | opened batch scanning todo statement escalations =>
    exact ready.within (batchReady_of_scan unique rows ready.tiers (fun _ => mem_findBatch) todo
      statement escalations)
  | vanished batch due rest phase todo statement absent =>
    have old := ready.batch batch (open_of_phase phase)
    have settled := old.settled_of_vanished todo rows absent
    exact ready.within (old.pop todo settled rfl statement rfl old.bumps)
  | selected batch due rest row phase todo statement found =>
    have old := ready.batch batch (open_of_phase phase)
    refine ready.within (old.proceed rfl rfl (by simp [batchEvents, statement, insertedBy]) ?_)
    -- The event in progress is the one just made for the first due, with that incident's id and
    -- cycle.
    intro first others isTodo event inProgress
    rw [todo] at isTodo
    obtain ⟨rfl, rfl⟩ := List.cons.inj isTodo
    obtain rfl := Option.some.inj inProgress
    obtain ⟨named, cycle, _⟩ := (stillCandidate_iff _ _).mp (List.find?_some found)
    refine ⟨?_, old.below_of_selected todo found⟩
    simp [eventFor, EscalationEvent.key, dueKey, named, cycle]
  | conflicted batch due rest event phase todo statement present =>
    have old := ready.batch batch (open_of_phase phase)
    obtain ⟨key, _⟩ := old.progress due rest todo event (by simp [statement, Statement.event?])
    -- `ON CONFLICT DO NOTHING` found a row of this key, so the due is settled by an event of
    -- somebody else.
    have settled : Settled store (visibleEvents store batch) due.candidate.id
        due.candidate.escalationCycle due.tier.level := by
      obtain ⟨other, member, same⟩ := List.any_eq_true.mp present
      rw [view_events] at member
      exact Or.inl ⟨other, member, (of_decide_eq_true same).trans key⟩
    exact ready.within
      (old.pop todo settled rfl rfl (by simp [batchEvents, statement, insertedBy]) old.bumps)
  | inserted batch due rest event phase todo statement alone absent =>
    have old := ready.batch batch (open_of_phase phase)
    exact ready.within (old.onward rfl rfl (by simp [batchEvents, statement, insertedBy])
      (by simp [statement, Statement.event?]))
  | notified batch due rest event phase todo statement =>
    have old := ready.batch batch (open_of_phase phase)
    exact ready.within (old.onward rfl rfl (by simp [batchEvents, statement, insertedBy])
      (by simp [statement, Statement.event?]))
  | audited batch due rest event rows' phase todo statement =>
    have old := ready.batch batch (open_of_phase phase)
    exact ready.within (old.onward rfl rfl (by simp [batchEvents, statement, insertedBy])
      (by simp [statement, Statement.event?]))
  | bumped batch due rest event rows' record phase todo statement alone =>
    have old := ready.batch batch (open_of_phase phase)
    obtain ⟨key, below⟩ := old.progress due rest todo event (by simp [statement, Statement.event?])
    have own : event ∈ visibleEvents store batch :=
      List.mem_append_right _ (by simp [batchEvents, statement, insertedBy])
    -- The due's own event covers its level, and what was covered below it when it was selected
    -- still is.
    have supported : Supported (visibleEvents store batch) due.candidate.id
        due.candidate.escalationCycle due.tier.level := by
      intro level one bound
      rcases Nat.eq_or_lt_of_le bound with rfl | less
      · exact ⟨event, own, key⟩
      · exact below level one less
    refine ready.within (old.pop todo (Or.inl ⟨event, own, key⟩) rfl rfl
      (by simp [batchEvents, statement, insertedBy]) fun done among raised => ?_)
    -- Earlier bumps keep what they had. The new one, where it met a row, landed in the cycle of its
    -- event.
    rcases List.mem_append.mp among with early | last
    · exact old.bumps done early raised
    · obtain rfl := List.mem_singleton.mp last
      refine ⟨supported, old.present due (by simp [todo]), fun row stored named => ?_⟩
      simp only at raised
      split at raised
      next matched =>
        have cycle : event.cycle = due.candidate.escalationCycle := by
          simpa [EscalationEvent.key, dueKey] using congrArg (fun key => key.2.1) key
        rw [← cycle]
        exact cycle_of_landed unique (lands batch (open_of_phase phase)) todo statement matched
          stored named
      · simp at raised

end IncidentApi.Properties
