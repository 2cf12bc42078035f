import IncidentApi.Library.Percentile
import IncidentApi.Properties.AnalyticsTotals

/-!
# The times of the analytics

Two endpoints report how long acknowledgements take: one for all incidents of a period, one for
each severity. The percentiles of a severity are ordered and bounded by its incidents, and the
median of the overview lies between the medians of the severities.
-/
namespace IncidentApi.Properties

theorem percentileCont_eq (fraction : Rat) (values : List Rat) :
    percentileCont fraction values = Percentile.cont fraction values := by
  rw [Percentile.cont, Percentile.between, percentileCont]
  simp only [List.length_insertionSort, Rat.ceil_eq_neg_floor_neg]
  rfl

section Times
variable {store : Store} {actor : Actor} {filters : AnalyticsPeriodFilters}

/-- The incidents of a severity that the report of the escalations is about. -/
def escalatedRows (store : Store) (actor : Actor) (filters : AnalyticsPeriodFilters)
    (severity : Severity) : List Incident :=
  (periodRows store actor filters).filter fun row =>
    (firstEscalation store row.id).isSome && row.severity = severity

theorem ackSeconds_isSome (store : Store) (row : Incident) :
    (ackSeconds store row).isSome =
      (row.acknowledgedAt.isSome && (firstEscalation store row.id).isSome) := by
  cases acknowledged : row.acknowledgedAt <;> cases first : firstEscalation store row.id <;>
    simp [ackSeconds, secondsBetween, acknowledged, first]

/-- What a row of the report says of its severity. -/
structure PerformanceRow (store : Store) (actor : Actor) (filters : AnalyticsPeriodFilters)
    (row : EscalationPerformanceRow) : Prop where
  some : escalatedRows store actor filters row.severity ≠ []
  escalated : row.escalatedCount = (escalatedRows store actor filters row.severity).length
  acknowledged : row.acknowledgedCount =
    ((escalatedRows store actor filters row.severity).filterMap (ackSeconds store)).length
  median : row.medianAckSeconds = Percentile.cont (1 / 2)
    ((escalatedRows store actor filters row.severity).filterMap (ackSeconds store))
  p90 : row.p90AckSeconds = Percentile.cont (9 / 10)
    ((escalatedRows store actor filters row.severity).filterMap (ackSeconds store))

theorem joined_rows (store : Store) (actor : Actor) (filters : AnalyticsPeriodFilters)
    (severity : Severity) :
    (store.incidents.filter fun row =>
        periodSql actor filters row && (firstEscalation store row.id).isSome).filter
      (·.severity = severity) = escalatedRows store actor filters severity := by
  rw [escalatedRows, periodRows, List.filter_filter, List.filter_filter]
  refine List.filter_congr fun row _ => ?_
  rw [periodSql_eq]
  ac_rfl

theorem mem_performance {row : EscalationPerformanceRow} :
    row ∈ escalationPerformanceAggregate store actor filters ↔
      PerformanceRow store actor filters row := by
  have acknowledged (severity : Severity) :
      (escalatedRows store actor filters severity).countP (·.acknowledgedAt.isSome) =
        ((escalatedRows store actor filters severity).filterMap (ackSeconds store)).length := by
    rw [List.length_filterMap_eq_countP]
    refine List.countP_congr fun other member => ?_
    have escalated := (List.mem_filter.mp member).2
    simp only [Bool.and_eq_true, decide_eq_true_eq] at escalated
    rw [ackSeconds_isSome, escalated.1, Bool.and_true]
  simp only [escalationPerformanceAggregate_eq, joined_rows, acknowledged, percentileCont_eq,
    List.mem_filterMap]
  constructor
  · rintro ⟨severity, _, found⟩
    split at found
    · cases found
    next nonempty =>
      obtain rfl := Option.some.inj found
      exact ⟨by simpa using nonempty, rfl, rfl, rfl, rfl⟩
  · intro is
    refine ⟨row.severity, mem_severityValues _, ?_⟩
    rw [if_neg (by simpa using is.some), ← is.escalated, ← is.acknowledged, ← is.median, ← is.p90]

/-- Every severity with an escalated incident is reported. -/
theorem performance_reported {severity : Severity}
    (some : escalatedRows store actor filters severity ≠ []) :
    ∃ row ∈ escalationPerformanceAggregate store actor filters, row.severity = severity := by
  let rows := escalatedRows store actor filters severity
  let times := rows.filterMap (ackSeconds store)
  exact ⟨⟨severity, rows.length, times.length, Percentile.cont (1 / 2) times,
    Percentile.cont (9 / 10) times⟩, mem_performance.mpr ⟨some, rfl, rfl, rfl, rfl⟩, rfl⟩

/-- Without an event an incident has no time. -/
theorem escalatedRows_times (store : Store) (actor : Actor) (filters : AnalyticsPeriodFilters)
    (severity : Severity) :
    (escalatedRows store actor filters severity).filterMap (ackSeconds store) =
      ((periodRows store actor filters).filter (·.severity = severity)).filterMap
        (ackSeconds store) := by
  rw [escalatedRows, ← List.filter_filter, List.filterMap_filter]
  refine List.filterMap_congr fun row _ => ?_
  split
  · rfl
  next never =>
    have time := ackSeconds_isSome store row
    rw [Bool.eq_false_iff.mpr never, Bool.and_false] at time
    exact (Option.isNone_iff_eq_none.mp (Option.isSome_eq_false_iff.mp time)).symm

/-- The times of a period, severity by severity. -/
theorem ackSeconds_perm (store : Store) (actor : Actor) (filters : AnalyticsPeriodFilters) :
    ((periodRows store actor filters).filterMap (ackSeconds store)).Perm
      (severityValues.flatMap fun severity =>
        (escalatedRows store actor filters severity).filterMap (ackSeconds store)) := by
  simp only [escalatedRows_times, ← List.filterMap_flatMap]
  exact (Tally.flatMap_filter_perm Incident.severity (by decide : severityValues.Nodup) _
    fun row _ => mem_severityValues row.severity).symm.filterMap _

/-- A percentile is there exactly if something was acknowledged. -/
theorem PerformanceRow.isSome {row : EscalationPerformanceRow} {fraction : Rat}
    (is : PerformanceRow store actor filters row) (nonneg : 0 ≤ fraction) (atMost : fraction ≤ 1) :
    (Percentile.cont fraction ((escalatedRows store actor filters row.severity).filterMap
      (ackSeconds store))).isSome ↔ 0 < row.acknowledgedCount := by
  rw [is.acknowledged, List.length_pos_iff]
  constructor
  · intro present nothing
    rw [nothing] at present
    cases present
  · intro nonempty
    obtain ⟨value, found⟩ := Percentile.cont_isSome nonneg atMost nonempty
    rw [found]
    rfl

theorem performance_sorted (store : Store) (actor : Actor) (filters : AnalyticsPeriodFilters) :
    (escalationPerformanceAggregate store actor filters).Pairwise fun one other =>
      severityRank one.severity < severityRank other.severity := by
  rw [escalationPerformanceAggregate_eq, List.pairwise_filterMap]
  have ascending : severityValues.Pairwise fun one other =>
      severityRank one < severityRank other := by decide
  refine ascending.imp fun order one first other second => ?_
  dsimp only at first second
  split at first
  · cases first
  · split at second
    · cases second
    · obtain rfl := Option.some.inj first
      obtain rfl := Option.some.inj second
      exact order

theorem overview_median {js : JsRuntime} (store : Store) (actor : Actor)
    (query : AnalyticsQuery js) :
    (overview store actor query).medianAckSeconds = Percentile.cont (1 / 2)
      ((periodRows store actor (toFilters query)).filterMap (ackSeconds store)) := by
  rw [← percentileCont_eq, ← periodSql_rows, overview, overviewAggregate_eq]

end Times

/-- In a report of the escalations of a period, the severities are ones that the actor may see, each
once and in their order. Every severity has at least one escalated incident and no more
acknowledgements than escalations; it has a median and a 90th percentile exactly if something was
acknowledged, the median is no greater than the percentile, and both are within any bounds of the
times that its acknowledgements took. -/
theorem escalation_performance_is_ordered {js : JsRuntime} (store : Store) (actor : Actor)
    (query : AnalyticsQuery js) :
    let rows := (escalationPerformance store actor query).bySeverity
    rows.Pairwise (fun one other => severityRank one.severity < severityRank other.severity) ∧
    ∀ row ∈ rows, row.severity ∈ visibleSeverities actor.clearanceLevel ∧
      0 < row.escalatedCount ∧ row.acknowledgedCount ≤ row.escalatedCount ∧
      (row.medianAckSeconds.isSome ↔ 0 < row.acknowledgedCount) ∧
      (row.p90AckSeconds.isSome ↔ 0 < row.acknowledgedCount) ∧
      ∀ median ∈ row.medianAckSeconds, ∀ p90 ∈ row.p90AckSeconds, median ≤ p90 ∧
        ∀ low high, (∀ incident ∈ periodRows store actor (toFilters query),
          incident.severity = row.severity → ∀ seconds ∈ ackSeconds store incident,
            low ≤ seconds ∧ seconds ≤ high) → low ≤ median ∧ p90 ≤ high := by
  intro rows
  refine ⟨performance_sorted store actor _, fun row member => ?_⟩
  have is := mem_performance.mp member
  obtain ⟨incident, among⟩ := List.exists_mem_of_ne_nil _ is.some
  have chosen := List.mem_filter.mp among
  have severity : incident.severity = row.severity := by
    simpa using (Bool.and_eq_true_iff.mp chosen.2).2
  refine ⟨severity ▸ periodRows_visible chosen.1, ?_, ?_, ?_, ?_, ?_⟩
  · rw [is.escalated]
    exact List.length_pos_iff.mpr is.some
  · rw [is.acknowledged, is.escalated]
    exact List.length_filterMap_le _ _
  · rw [is.median]
    exact is.isSome (by norm_num) (by norm_num)
  · rw [is.p90]
    exact is.isSome (by norm_num) (by norm_num)
  · intro median half p90 most
    rw [is.median] at half
    rw [is.p90] at most
    refine ⟨Percentile.cont_mono (by norm_num) half most, fun low high bounds => ?_⟩
    -- A bound on the times of a severity's incidents bounds those of its row.
    have within : ∀ seconds ∈ (escalatedRows store actor (toFilters query) row.severity).filterMap
        (ackSeconds store), low ≤ seconds ∧ seconds ≤ high := by
      rw [escalatedRows_times]
      intro seconds listed
      obtain ⟨other, inside, time⟩ := List.mem_filterMap.mp listed
      obtain ⟨inPeriod, same⟩ := List.mem_filter.mp inside
      exact bounds other inPeriod (by simpa using same) seconds time
    exact ⟨(Percentile.cont_bounds within half).1, (Percentile.cont_bounds within most).2⟩

/-- The overview has a median exactly if a severity of the report about the same period has one, and
it lies between the medians of two severities: neither endpoint contradicts the other. -/
theorem overview_median_between_severities {js : JsRuntime} (store : Store) (actor : Actor)
    (query : AnalyticsQuery js) :
    let result := overview store actor query
    let rows := (escalationPerformance store actor query).bySeverity
    (result.medianAckSeconds.isSome ↔ ∃ row ∈ rows, row.medianAckSeconds.isSome) ∧
      ∀ median ∈ result.medianAckSeconds,
        (∃ row ∈ rows, ∃ least ∈ row.medianAckSeconds, least ≤ median) ∧
        ∃ row ∈ rows, ∃ greatest ∈ row.medianAckSeconds, median ≤ greatest := by
  intro result rows
  -- The endpoints group the same times: one pools what the other splits by severity.
  let times (severity : Severity) : List Rat :=
    (escalatedRows store actor (toFilters query) severity).filterMap (ackSeconds store)
  have pooled : result.medianAckSeconds =
      Percentile.cont (1 / 2) (severityValues.flatMap times) := by
    rw [← Percentile.cont_perm (ackSeconds_perm store actor (toFilters query)), ← overview_median]
  have reported (severity : Severity) {value : Rat}
      (half : Percentile.cont (1 / 2) (times severity) = some value) :
      ∃ row ∈ rows, value ∈ row.medianAckSeconds := by
    -- A severity with a time has an escalated incident, so the report has its row.
    have some : escalatedRows store actor (toFilters query) severity ≠ [] := by
      intro nothing
      rw [show times severity = [] by simp only [times, nothing, List.filterMap_nil]] at half
      cases half
    obtain ⟨row, member, rfl⟩ := performance_reported some
    exact ⟨row, member, (mem_performance.mp member).median.trans half⟩
  have between : ∀ median ∈ result.medianAckSeconds,
      (∃ row ∈ rows, ∃ least ∈ row.medianAckSeconds, least ≤ median) ∧
      ∃ row ∈ rows, ∃ greatest ∈ row.medianAckSeconds, median ≤ greatest := by
    intro median found
    rw [pooled] at found
    obtain ⟨⟨first, _, least, lowest, above⟩, last, _, greatest, highest, below⟩ :=
      Percentile.median_flatMap found
    obtain ⟨row, member, is⟩ := reported first lowest
    obtain ⟨other, among, is_too⟩ := reported last highest
    exact ⟨⟨row, member, least, is, above⟩, other, among, greatest, is_too, below⟩
  refine ⟨⟨fun present => ?_, fun ⟨row, member, present⟩ => ?_⟩, between⟩
  · obtain ⟨median, found⟩ := Option.isSome_iff_exists.mp present
    obtain ⟨row, member, least, is, _⟩ := (between median found).1
    exact ⟨row, member, Option.isSome_iff_exists.mpr ⟨least, is⟩⟩
  · have is := mem_performance.mp member
    rw [is.median, is.isSome (by norm_num) (by norm_num), is.acknowledged,
      List.length_pos_iff] at present
    have nonempty : severityValues.flatMap times ≠ [] := fun nothing =>
      present (List.flatMap_eq_nil_iff.mp nothing row.severity (mem_severityValues _))
    obtain ⟨median, found⟩ := Percentile.cont_isSome (by norm_num : (0 : Rat) ≤ 1 / 2)
      (by norm_num) nonempty
    rw [pooled, found]
    rfl

end IncidentApi.Properties
