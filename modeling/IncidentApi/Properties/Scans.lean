import IncidentApi.Properties.Batches

/-!
# What the scan loop does

The loop pages through the candidates by `(highSeveritySince, id)` while its own batches write to
the table it reads. A batch leaves the keys, the candidacy and every row after its last one alone,
so the pages are consecutive parts of one sorted list, whatever the batch size.
-/
namespace IncidentApi.Properties

open Keyset

/-- The rows the scan has yet to read. -/
def remaining (store : Store) (cursor : Cursor) : List Incident :=
  sortOn scanKey (store.incidents.filter fun row => isCandidate row && afterCursor cursor row)

def candidates (store : Store) : List Incident := remaining store none

def duesOf (tiers : List Tier) (now : Date) (rows : List Incident) : List Due :=
  rows.flatMap fun row => dueOf tiers now row.batchRow

theorem isCandidate_iff (row : Incident) :
    isCandidate row = true ↔ row.acknowledgedAt = none ∧ row.stage ≠ .closed ∧
      row.severity.inHighBand = true ∧ row.highSeveritySince.isSome = true := by
  simp [isCandidate, and_assoc]

@[simp] theorem mem_candidates (store : Store) (row : Incident) :
    row ∈ candidates store ↔ row ∈ store.incidents ∧ isCandidate row = true := by
  simp [candidates, remaining, afterCursor]

theorem findBatch_eq (config : JobConfig) (store : Store) (cursor : Cursor) :
    findBatch config store cursor =
      ((remaining store cursor).take config.batchSize).map (·.batchRow) := rfl

theorem scanKeys_nodup {rows : List Incident} (ids : (rows.map Incident.id).Nodup) :
    (rows.map scanKey).Nodup := by
  refine List.Nodup.of_map (fun key => (ofLex key).2) ?_
  simpa [List.map_map, Function.comp_def, scanKey] using ids

theorem ids_filter {rows : List Incident} (ids : (rows.map Incident.id).Nodup)
    (p : Incident → Bool) : ((rows.filter p).map Incident.id).Nodup :=
  ids.sublist (List.filter_sublist.map _)

theorem remaining_strict {store : Store} (ids : (store.incidents.map Incident.id).Nodup)
    (cursor : Cursor) :
    (remaining store cursor).Pairwise fun a b => scanKey a < scanKey b :=
  sortOn_strict scanKey _ (scanKeys_nodup (ids_filter ids _))

private theorem afterCursor_some (since rowSince : Date) (id : Id) (row : Incident)
    (clock : row.highSeveritySince = some rowSince) :
    afterCursor (some (since, id)) row = decide (toLex (since, id) < scanKey row) := by
  rw [Bool.eq_iff_iff, decide_eq_true_eq, Prod.Lex.lt_iff]
  simp only [afterCursor, clock, scanKey, ofLex_toLex, Option.getD_some, Bool.or_eq_true,
    Bool.and_eq_true, decide_eq_true_eq, @eq_comm _ rowSince since]

/-- For candidates the cursor predicate is the comparison of scan keys. -/
theorem afterCursor_iff (last row : Incident) (candidate : isCandidate row = true) :
    afterCursor (cursorOf last.batchRow) row = decide (scanKey last < scanKey row) := by
  obtain ⟨since, clock⟩ := Option.isSome_iff_exists.mp ((isCandidate_iff row).mp candidate).2.2.2
  exact afterCursor_some _ since _ row clock

/-- Moving the cursor on to a row that was still to be read only narrows the scan. -/
theorem afterCursor_trans (cursor : Cursor) (last row : Incident)
    (candidate : isCandidate row = true) (lastCandidate : isCandidate last = true)
    (reached : afterCursor cursor last = true)
    (beyond : afterCursor (cursorOf last.batchRow) row = true) :
    afterCursor cursor row = true := by
  obtain ⟨since, clock⟩ := Option.isSome_iff_exists.mp ((isCandidate_iff row).mp candidate).2.2.2
  obtain ⟨lastSince, lastClock⟩ :=
    Option.isSome_iff_exists.mp ((isCandidate_iff last).mp lastCandidate).2.2.2
  -- without a cursor there is no condition to keep
  cases cursor with
  | none => rfl
  | some position =>
    rw [afterCursor_some position.1 lastSince position.2 last lastClock] at reached
    rw [afterCursor_iff last row candidate] at beyond
    rw [afterCursor_some position.1 since position.2 row clock]
    exact decide_eq_true ((of_decide_eq_true reached).trans (of_decide_eq_true beyond))

theorem SameButBump.isCandidate {old new : Incident} (same : SameButBump old new) :
    isCandidate new = IncidentApi.isCandidate old := by
  simp only [IncidentApi.isCandidate, same.acknowledged, same.stage, same.severity, same.clock]

theorem SameButBump.scanKey {old new : Incident} (same : SameButBump old new) :
    scanKey new = IncidentApi.scanKey old := by
  simp only [IncidentApi.scanKey, same.clock, same.id]

theorem SameButBump.afterCursor {old new : Incident} (same : SameButBump old new)
    (cursor : Cursor) : afterCursor cursor new = IncidentApi.afterCursor cursor old := by
  simp only [IncidentApi.afterCursor, same.clock, same.id]

/-- After a batch the scan goes on with the rows behind it, which the batch left as they were. -/
theorem remaining_after {store next : Store} (env : RunEnv) (dues : List Due) (cursor : Cursor)
    (front : List Incident) (last : Incident) (rest : List Incident)
    (ids : (store.incidents.map Incident.id).Nodup)
    (split : remaining store cursor = front ++ last :: rest)
    (own : ∀ due ∈ dues, ∃ row ∈ front ++ [last], due.candidate.id = row.id)
    (written : next.incidents = store.incidents.map (bumpAll env dues)) :
    remaining next (cursorOf last.batchRow) = rest := by
  have strict := remaining_strict ids cursor
  have lastMember : last ∈ remaining store cursor := by simp [split]
  simp only [remaining, mem_sortOn, List.mem_filter, Bool.and_eq_true] at lastMember
  -- the batch does not move any row into or out of the scan
  have page : next.incidents.filter (fun row =>
      isCandidate row && afterCursor (cursorOf last.batchRow) row) =
      (store.incidents.filter fun row =>
        isCandidate row && afterCursor (cursorOf last.batchRow) row).map (bumpAll env dues) := by
    rw [written, List.filter_map]
    congr 1
    apply List.filter_congr
    intro row _
    have same := bumpAll_same env dues row
    simp only [Function.comp_apply, same.isCandidate, same.afterCursor]
  have narrowed : store.incidents.filter (fun row =>
      isCandidate row && afterCursor (cursorOf last.batchRow) row) =
      (store.incidents.filter fun row => isCandidate row && afterCursor cursor row).filter
        (fun row => scanKey last < scanKey row) := by
    rw [List.filter_filter]
    apply List.filter_congr
    intro row _
    by_cases candidate : isCandidate row = true
    · rw [candidate, Bool.true_and, Bool.true_and, ← afterCursor_iff last row candidate]
      by_cases beyond : afterCursor (cursorOf last.batchRow) row = true
      · rw [beyond, afterCursor_trans cursor last row candidate lastMember.2.1 lastMember.2.2
          beyond]
        rfl
      · simp [beyond]
    · simp [candidate]
  have tail : sortOn scanKey (store.incidents.filter fun row =>
      isCandidate row && afterCursor (cursorOf last.batchRow) row) = rest := by
    rw [narrowed, ← filter_sortOn scanKey _ _ (scanKeys_nodup (ids_filter ids _))]
    change (remaining store cursor).filter _ = rest
    rw [split] at strict ⊢
    exact filter_after_last scanKey front last rest strict
  -- a row behind the page has another id than every pair of the page
  have untouched : rest.map (bumpAll env dues) = rest := by
    refine (List.map_congr_left fun row member => ?_).trans (List.map_id rest)
    apply bumpAll_other env dues row
    intro due chosen equal
    obtain ⟨processed, among, sameId⟩ := own due chosen
    rw [split, List.append_cons] at strict
    have keys := nodup_of_strict scanKey strict
    have less := (List.pairwise_append.mp strict).2.2 processed among row member
    have stored : ∀ r ∈ (front ++ [last]) ++ rest, r ∈ store.incidents := by
      intro r hr
      rw [← List.append_cons, ← split] at hr
      simp only [remaining, mem_sortOn, List.mem_filter] at hr
      exact hr.1
    have one := eq_of_id_eq ids (stored processed (List.mem_append_left _ among))
      (stored row (List.mem_append_right _ member)) (sameId.symm.trans equal)
    exact absurd less (one ▸ lt_irrefl _)
  rw [remaining, page, ← map_sortOn scanKey scanKey (bumpAll env dues)
    (fun row => (bumpAll_same env dues row).scanKey), tail, untouched]

/-! ### Due pairs -/

theorem mem_tiersDueFor (incident : EscalationCandidate) (tiers : List Tier) (now : Date)
    (due : DueTier) :
    due ∈ tiersDueFor incident tiers now ↔ ∃ tier ∈ tiers, tier.severity = incident.severity ∧
      incident.currentEscalationLevel < tier.level ∧
      hasElapsed incident.highSeveritySince now tier.thresholdMinutes = true ∧
      due = ⟨tier.level, tier.thresholdMinutes⟩ := by
  simp only [tiersDueFor, List.mem_map, List.mem_insertionSort, List.mem_filter,
    decide_eq_true_eq, and_assoc, @eq_comm _ _ due]

theorem hasElapsed_mono {since earlier later : Date} (order : earlier ≤ later) {short long : Nat}
    (shorter : short ≤ long) (elapsed : hasElapsed since earlier long = true) :
    hasElapsed since later short = true := by
  have minutes : (short : Int) * minuteMs ≤ long * minuteMs :=
    Int.mul_le_mul_of_nonneg_right (Int.ofNat_le.mpr shorter) (by decide)
  have passed : (long : Int) * minuteMs ≤ earlier - since := of_decide_eq_true elapsed
  exact decide_eq_true (minutes.trans (passed.trans (Int.sub_le_sub_right order since)))

/-- Tiers of distinct severity and level are due in strictly rising order. -/
theorem tiersDueFor_ascending (incident : EscalationCandidate) (tiers : List Tier) (now : Date)
    (keyed : (tiers.map fun tier => (tier.severity, tier.level)).Nodup) :
    (tiersDueFor incident tiers now).Pairwise fun a b => a.level < b.level := by
  rw [tiersDueFor, List.pairwise_map]
  refine List.Pairwise.imp (fun less => less)
    (sortOn_strict Tier.level _ (List.Nodup.of_map (fun level => (incident.severity, level)) ?_))
  rw [List.map_map]
  -- the tiers left by the filters share one severity, so their levels alone are distinct
  have own : ∀ tier ∈ ((tiers.filter fun t => t.severity = incident.severity).filter
      fun t => incident.currentEscalationLevel < t.level).filter
        fun t => hasElapsed incident.highSeveritySince now t.thresholdMinutes,
      ((fun level => (incident.severity, level)) ∘ Tier.level) tier =
        (tier.severity, tier.level) := by
    intro tier member
    simp only [List.mem_filter, decide_eq_true_eq] at member
    simp [member.1.1.2]
  rw [List.map_congr_left own]
  have below : (((tiers.filter fun t => t.severity = incident.severity).filter
      fun t => incident.currentEscalationLevel < t.level).filter
        fun t => hasElapsed incident.highSeveritySince now t.thresholdMinutes).Sublist tiers :=
    List.filter_sublist.trans (List.filter_sublist.trans List.filter_sublist)
  exact keyed.sublist (below.map _)

theorem mem_duesOf (tiers : List Tier) (now : Date) (rows : List Incident) (due : Due) :
    due ∈ duesOf tiers now rows ↔ ∃ row ∈ rows, due.candidate = row.batchRow.candidate ∧
      due.tier ∈ tiersDueFor row.batchRow.candidate tiers now := by
  simp only [duesOf, dueOf, List.mem_flatMap, List.mem_map]
  constructor
  · rintro ⟨row, member, tier, isDue, rfl⟩
    exact ⟨row, member, rfl, isDue⟩
  · rintro ⟨row, member, candidate, isDue⟩
    exact ⟨row, member, due.tier, isDue, by cases due; simp_all⟩

theorem duesOf_append (tiers : List Tier) (now : Date) (front rest : List Incident) :
    duesOf tiers now (front ++ rest) = duesOf tiers now front ++ duesOf tiers now rest :=
  List.flatMap_append

theorem duesOf_ascending (tiers : List Tier) (now : Date) (rows : List Incident)
    (ids : (rows.map Incident.id).Nodup)
    (keyed : (tiers.map fun tier => (tier.severity, tier.level)).Nodup) :
    (duesOf tiers now rows).Pairwise fun a b =>
      a.candidate.id = b.candidate.id → a.tier.level < b.tier.level := by
  rw [duesOf, List.pairwise_flatMap]
  constructor
  · intro row _
    rw [dueOf, List.pairwise_map]
    apply (tiersDueFor_ascending row.batchRow.candidate tiers now keyed).imp
    exact fun less _ => less
  -- pairs of different rows have different incident ids
  · refine (List.pairwise_map.mp ids).imp fun {first second} differ a ha b hb same => ?_
    simp only [dueOf, List.mem_map] at ha hb
    obtain ⟨_, _, rfl⟩ := ha
    obtain ⟨_, _, rfl⟩ := hb
    exact absurd same differ

/-- The row a pair was computed from still answers the pair's re-check. -/
theorem answers_of_due {tiers : List Tier} {now : Date} {row : Incident} {due : Due}
    (candidate : isCandidate row = true) (same : due.candidate = row.batchRow.candidate)
    (isDue : due.tier ∈ tiersDueFor row.batchRow.candidate tiers now) : Answers due row := by
  obtain ⟨tier, _, _, above, _, equal⟩ := (mem_tiersDueFor _ _ _ _).mp isDue
  obtain ⟨acknowledged, opened, band, _⟩ := (isCandidate_iff row).mp candidate
  refine ⟨(stillCandidate_iff due row).mpr ⟨by rw [same]; rfl, by rw [same]; rfl, ?_,
    acknowledged, opened, band⟩, by rw [same]; rfl⟩
  rw [equal]
  exact above

/-! ### The loop -/

section Loop
variable {config : JobConfig} {env : RunEnv} {tiers : List Tier} {recipients : Recipients}

theorem renewLease_eq (store : Store) (owned : store.jobLease.ownerRunId = some env.runId) :
    renewLease config env.runId env.now store =
      { store with jobLease := ⟨some env.runId, some (env.now + config.leaseMs)⟩ } := by
  simp [renewLease, owned]

theorem Pending.lease {store : Store} {dues : List Due}
    (pending : Pending recipients env store dues) (lease : JobLease) :
    Pending recipients env { store with jobLease := lease } dues :=
  ⟨pending.ids, pending.answers, pending.ascending, pending.distinct, pending.unused,
    pending.injective⟩

private theorem own_dues (rows : List Incident) (now : Date) (store : Store) :
    ∀ due ∈ unescalated store (duesOf tiers now rows), ∃ row ∈ rows, due.candidate.id = row.id := by
  intro due member
  obtain ⟨row, among, same, _⟩ := (mem_duesOf _ _ _ _).mp (List.mem_filter.mp member).1
  exact ⟨row, among, by rw [same]; rfl⟩

private theorem scanLoop_done (fuel : Nat) (cursor : Cursor) (counts : Counts) (store : Store)
    (done : remaining store cursor = []) :
    scanLoop config env tiers recipients (fuel + 1) cursor counts store = some (counts, store) := by
  simp [scanLoop, findBatch_eq, done]

private theorem scanLoop_page (fuel : Nat) (cursor : Cursor) (counts : Counts) (store : Store)
    (front : List Incident) (last : Incident)
    (page : (remaining store cursor).take config.batchSize = front ++ [last])
    (pending : Pending recipients env store (duesOf tiers env.now (front ++ [last]))) :
    let missing := unescalated store (duesOf tiers env.now (front ++ [last]))
    let counted := counts.plus (front ++ [last]).length missing.length
      (notificationCount recipients env missing)
    scanLoop config env tiers recipients (fuel + 1) cursor counts store =
      if (front ++ [last]).length < config.batchSize then
        some (counted, escalated recipients env store missing)
      else
        scanLoop config env tiers recipients fuel (cursorOf last.batchRow) counted
          (renewLease config env.runId env.now (escalated recipients env store missing)) := by
  intro missing counted
  have flat : ((front ++ [last]).map (·.batchRow)).flatMap (dueOf tiers env.now) =
      duesOf tiers env.now (front ++ [last]) := by
    rw [List.flatMap_map]
    rfl
  have final : ((front ++ [last]).map (·.batchRow)).getLast? = some last.batchRow := by simp
  simp only [scanLoop, findBatch_eq, page, final, flat, escalateBatch_eq _ pending,
    List.length_map]
  rfl

/-- Behind a page the scan goes on with the rest of its rows, whose pairs are still pending. -/
theorem page_onward {cursor : Cursor} {store : Store} {front rest : List Incident}
    {last : Incident} (split : remaining store cursor = (front ++ [last]) ++ rest)
    (pending : Pending recipients env store (duesOf tiers env.now (remaining store cursor)))
    (lease : JobLease) :
    let missing := unescalated store (duesOf tiers env.now (front ++ [last]))
    let next : Store := { escalated recipients env store missing with jobLease := lease }
    remaining next (cursorOf last.batchRow) = rest ∧
      Pending recipients env next (duesOf tiers env.now rest) ∧
      unescalated next (duesOf tiers env.now rest) =
        unescalated store (duesOf tiers env.now rest) := by
  intro missing next
  have parts := pending
  rw [split, duesOf_append] at parts
  obtain ⟨restPending, restMissing⟩ := parts.drop
  refine ⟨?_, restPending.lease lease, restMissing⟩
  refine remaining_after env missing cursor front last rest pending.ids ?_ ?_ rfl
  · rw [split, List.append_assoc, List.singleton_append]
  · exact own_dues (front ++ [last]) env.now store

variable (config) in
/-- The closed form of the scan: with enough fuel for one turn a row, the loop ends and has
escalated the missing pairs of every row it had yet to read. -/
theorem scanLoop_eq (fuel : Nat) (cursor : Cursor) (counts : Counts) (store : Store)
    (enough : (remaining store cursor).length < fuel)
    (pending : Pending recipients env store (duesOf tiers env.now (remaining store cursor)))
    (owned : store.jobLease.ownerRunId = some env.runId) :
    ∃ held, scanLoop config env tiers recipients fuel cursor counts store =
      some (counts.plus (remaining store cursor).length
          (unescalated store (duesOf tiers env.now (remaining store cursor))).length
          (notificationCount recipients env
            (unescalated store (duesOf tiers env.now (remaining store cursor)))),
        { escalated recipients env store
            (unescalated store (duesOf tiers env.now (remaining store cursor))) with
          jobLease := ⟨some env.runId, held⟩ }) := by
  -- on the turns of the loop; what carries it is that the unread rows are still pending
  induction fuel generalizing cursor counts store with
  | zero => omega
  | succ fuel ih =>
    have positive := config.batchPositive
    rcases List.eq_nil_or_concat ((remaining store cursor).take config.batchSize) with
      none | ⟨front, last, page⟩
    · have done : remaining store cursor = [] := by
        rcases List.take_eq_nil_iff.mp none with zero | empty
        · omega
        · exact empty
      refine ⟨store.jobLease.heldUntil, ?_⟩
      rw [scanLoop_done fuel cursor counts store done, done]
      simp [duesOf, unescalated, notificationCount, Counts.plus, ← owned]
    · rw [List.concat_eq_append] at page
      have split : remaining store cursor =
          (front ++ [last]) ++ (remaining store cursor).drop config.batchSize := by
        rw [← page, List.take_append_drop]
      generalize behind : (remaining store cursor).drop config.batchSize = rest at split
      have lengths : (remaining store cursor).length = (front ++ [last]).length + rest.length := by
        rw [split, List.length_append]
      have frontPending := pending
      rw [split, duesOf_append] at frontPending
      -- what the scan has to escalate is the page's part followed by the part behind it
      have whole : unescalated store (duesOf tiers env.now (remaining store cursor)) =
          unescalated store (duesOf tiers env.now (front ++ [last])) ++
            unescalated store (duesOf tiers env.now rest) := by
        rw [split, duesOf_append, unescalated, List.filter_append]
        rfl
      rw [scanLoop_page fuel cursor counts store front last page frontPending.front, whole]
      split
      next short =>
        -- a short page is the last one
        have bound := congrArg List.length page
        rw [List.length_take] at bound
        have done : rest = [] := List.eq_nil_of_length_eq_zero (by omega)
        subst done
        refine ⟨store.jobLease.heldUntil, ?_⟩
        simp [duesOf, unescalated, lengths, ← owned, escalated]
      next =>
        set missing := unescalated store (duesOf tiers env.now (front ++ [last])) with defined
        have kept : (escalated recipients env store missing).jobLease.ownerRunId =
            some env.runId := owned
        rw [renewLease_eq _ kept]
        set next : Store := { escalated recipients env store missing with
          jobLease := ⟨some env.runId, some (env.now + config.leaseMs)⟩ } with nextDefined
        obtain ⟨onward, restPending, missingRest⟩ := page_onward split pending
          ⟨some env.runId, some (env.now + config.leaseMs)⟩
        rw [← defined, ← nextDefined] at onward restPending missingRest
        obtain ⟨held, rest_eq⟩ := ih (cursorOf last.batchRow)
          (counts.plus (front ++ [last]).length missing.length
            (notificationCount recipients env missing)) next
          (by rw [onward]; simp only [List.length_append, List.length_singleton] at lengths; omega)
          (by rw [onward]; exact restPending) rfl
        refine ⟨held, ?_⟩
        rw [rest_eq, onward, missingRest]
        have counted : (counts.plus (front ++ [last]).length missing.length
              (notificationCount recipients env missing)).plus rest.length
              (unescalated store (duesOf tiers env.now rest)).length
              (notificationCount recipients env (unescalated store (duesOf tiers env.now rest))) =
            counts.plus (remaining store cursor).length
              (missing ++ unescalated store (duesOf tiers env.now rest)).length
              (notificationCount recipients env
                (missing ++ unescalated store (duesOf tiers env.now rest))) := by
          simp [Counts.plus, notificationCount, lengths, Nat.add_assoc]
        rw [counted, ← escalated_append missing]
        rfl

end Loop

end IncidentApi.Properties
