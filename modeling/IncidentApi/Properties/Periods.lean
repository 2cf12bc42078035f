import IncidentApi.Properties.Percentiles
import IncidentApi.Properties.Refinement

/-!
# Periods, buckets and clearances

The analytics of one period agree with those of others: the days of a trend add up to its weeks and
months, two periods that meet add up to the period they make, and an actor with a lower clearance
gets the same numbers for the severities that are left.
-/
namespace IncidentApi.Properties

/-! ### Points of a trend -/

def TrendPoint.key (point : TrendPoint) : Date ×ₗ Nat :=
  toLex (point.bucketStart, severityRank point.severity)

section Points
variable {store : Store} {actor : Actor} {filters : AnalyticsPeriodFilters} {bucket : Bucket}

theorem trend_sorted (store : Store) (actor : Actor) (filters : AnalyticsPeriodFilters)
    (bucket : Bucket) : (trendAggregate store actor filters bucket).Pairwise
      fun one other => TrendPoint.key one < TrendPoint.key other := by
  rw [trendAggregate, List.pairwise_map]
  refine Keyset.sortOn_strict (fun group : (Date × Severity) × Nat =>
    toLex (group.1.1, severityRank group.1.2)) _ ?_
  have keys := Scope.groupBy_keys (fun row : Incident =>
    (dateTrunc bucket row.createdAt, row.severity))
    (store.incidents.filter (periodSql actor filters))
  have apart := keys.map_on (f := fun key : Date × Severity => toLex (key.1, severityRank key.2))
    fun one _ other _ same => by
      obtain ⟨start, rank⟩ := Prod.mk.inj (toLex_inj.mp same)
      exact Prod.ext start (severityRank_injective rank)
  rwa [List.map_map] at apart

theorem mem_trend {point : TrendPoint} :
    point ∈ trendAggregate store actor filters bucket ↔ 0 < point.count ∧
      point.count = (periodRows store actor filters).countP fun row =>
        (dateTrunc bucket row.createdAt, row.severity) = (point.bucketStart, point.severity) := by
  rw [trendAggregate, periodSql_rows, ← Scope.mem_groupBy]
  simp only [List.mem_map, Keyset.mem_sortOn]
  constructor
  · rintro ⟨⟨⟨start, severity⟩, count⟩, member, rfl⟩
    exact member
  · intro member
    exact ⟨_, member, rfl⟩

/-- The points that meet a condition count the incidents that do. -/
theorem trend_sum (store : Store) (actor : Actor) (filters : AnalyticsPeriodFilters)
    (bucket : Bucket) (p : Date → Severity → Bool) :
    (((trendAggregate store actor filters bucket).filter fun point =>
        p point.bucketStart point.severity).map (·.count)).sum =
      (periodRows store actor filters).countP fun row =>
        p (dateTrunc bucket row.createdAt) row.severity := by
  rw [trendAggregate, periodSql_rows, List.filter_map, List.map_map]
  have groups := Tally.sum_groupBy
    (fun row : Incident => (dateTrunc bucket row.createdAt, row.severity))
    (fun key => p key.1 key.2) (periodRows store actor filters)
  have ordered := ((Keyset.sortOn_perm (fun group : (Date × Severity) × Nat =>
    toLex (group.1.1, severityRank group.1.2)) (Scope.groupBy (fun row : Incident =>
      (dateTrunc bucket row.createdAt, row.severity)) (periodRows store actor filters))).filter
        fun group => p group.1.1 group.1.2).map (·.2)
  exact ordered.sum_eq.trans groups

/-- A day lies in one week and one month. -/
theorem dateTrunc_day (bucket : Bucket) (date : Date) :
    dateTrunc bucket (dateTrunc .day date) = dateTrunc bucket date := by
  have day : date / dayMs * dayMs / dayMs = date / dayMs :=
    Int.mul_ediv_cancel _ (by decide)
  cases bucket <;> simp only [dateTrunc, day]

end Points

/-- The points of a trend are in order, and they are the sums of the points of its days: a bucket
has a point for a severity exactly if one of its days has, and the point counts what they count. -/
theorem trend_rolls_up_days {js : JsRuntime} (store : Store) (actor : Actor)
    (query : AnalyticsQuery js) (bucket : Bucket) :
    let points := (trend store actor query bucket).points
    let days := (trend store actor query .day).points
    points.Pairwise (fun one other => one.bucketStart < other.bucketStart ∨
      one.bucketStart = other.bucketStart ∧
        severityRank one.severity < severityRank other.severity) ∧
    ∀ point, point ∈ points ↔ 0 < point.count ∧
      point.count = ((days.filter fun day => dateTrunc bucket day.bucketStart = point.bucketStart ∧
        day.severity = point.severity).map (·.count)).sum := by
  intro points days
  refine ⟨(trend_sorted store actor _ bucket).imp fun order => Prod.Lex.toLex_lt_toLex.mp order,
    fun point => ?_⟩
  have sums := trend_sum store actor (toFilters query) .day fun start severity =>
    dateTrunc bucket start = point.bucketStart ∧ severity = point.severity
  simp only [dateTrunc_day] at sums
  refine mem_trend.trans ?_
  simp only [Prod.mk.injEq]
  exact and_congr_right fun _ => Eq.congr_right sums.symm

/-! ### Clearances -/

section Clearances
variable {store : Store} {low high : Actor} {filters : AnalyticsPeriodFilters}

theorem visibleSeverities_restrict (below : low.clearanceLevel ≤ high.clearanceLevel) :
    visibleSeverities low.clearanceLevel =
      (visibleSeverities high.clearanceLevel).filter (canViewSeverity low) := by
  rw [visibleSeverities, visibleSeverities, List.filter_filter]
  refine List.filter_congr fun severity _ => ?_
  rw [canViewSeverity, ← Bool.decide_and]
  exact decide_eq_decide.mpr ⟨fun sees => ⟨sees, sees.trans below⟩, fun sees => sees.1⟩

theorem periodRows_restrict (store : Store) (filters : AnalyticsPeriodFilters)
    (below : low.clearanceLevel ≤ high.clearanceLevel) :
    periodRows store low filters =
      (periodRows store high filters).filter fun row => canViewSeverity low row.severity := by
  rw [periodRows, periodRows, List.filter_filter]
  refine List.filter_congr fun row _ => ?_
  have both : visibilityScope low row =
      (canViewSeverity low row.severity && visibilityScope high row) := by
    rw [Bool.eq_iff_iff, Bool.and_eq_true, visibilityScope_iff, visibilityScope_iff]
    simp only [canViewSeverity, decide_eq_true_eq]
    exact ⟨fun sees => ⟨sees, sees.trans below⟩, fun sees => sees.1⟩
  simp only [analyticsPeriodWhere, both, Bool.and_assoc]

/-- What is counted of a severity does not depend on who asks. -/
theorem countP_restrict (store : Store) (filters : AnalyticsPeriodFilters)
    (below : low.clearanceLevel ≤ high.clearanceLevel) {p : Incident → Bool}
    (visible : ∀ row, p row → canViewSeverity low row.severity) :
    (periodRows store low filters).countP p = (periodRows store high filters).countP p := by
  rw [periodRows_restrict store filters below, List.countP_filter]
  refine List.countP_congr fun row _ => ?_
  rw [Bool.and_eq_true, and_iff_left_iff_imp]
  exact visible row

theorem matrix_cells (store : Store) (actor : Actor) (filters : AnalyticsPeriodFilters)
    (period : AnalyticsPeriod) :
    (toMatrixResponse period (visibleSeverities actor.clearanceLevel)
      (groupIncidentsByTypeAndSeverity store actor filters)).cells =
      (cellKeys (visibleSeverities actor.clearanceLevel)).map fun key =>
        ⟨key.1, key.2, (periodRows store actor filters).countP fun row =>
          (row.type, row.severity) = key⟩ := by
  simp only [toMatrixResponse, groupIncidentsByTypeAndSeverity, Scope.countOf_groupBy, cellKeys,
    List.map_flatMap, List.map_map]
  rfl

theorem cells_restrict (store : Store) (filters : AnalyticsPeriodFilters) (period : AnalyticsPeriod)
    (below : low.clearanceLevel ≤ high.clearanceLevel) :
    (toMatrixResponse period (visibleSeverities low.clearanceLevel)
      (groupIncidentsByTypeAndSeverity store low filters)).cells =
    (toMatrixResponse period (visibleSeverities high.clearanceLevel)
      (groupIncidentsByTypeAndSeverity store high filters)).cells.filter
        fun cell => canViewSeverity low cell.severity := by
  have keys : cellKeys (visibleSeverities low.clearanceLevel) =
      (cellKeys (visibleSeverities high.clearanceLevel)).filter
        fun key => canViewSeverity low key.2 := by
    rw [visibleSeverities_restrict below, cellKeys, cellKeys, List.filter_flatMap]
    simp only [List.filter_map]
    rfl
  rw [matrix_cells, matrix_cells, List.filter_map, keys]
  refine List.map_congr_left fun key member => ?_
  rw [countP_restrict store filters below fun row is => ?_]
  rw [(Prod.mk.inj (of_decide_eq_true is)).2]
  exact (List.mem_filter.mp member).2

theorem points_restrict (store : Store) (filters : AnalyticsPeriodFilters) (bucket : Bucket)
    (below : low.clearanceLevel ≤ high.clearanceLevel) :
    trendAggregate store low filters bucket = (trendAggregate store high filters bucket).filter
      fun point => canViewSeverity low point.severity := by
  refine Keyset.strict_ext TrendPoint.key (trend_sorted _ _ _ _)
    ((trend_sorted _ _ _ _).filter _) fun point => ?_
  rw [List.mem_filter, mem_trend, mem_trend]
  by_cases sees : canViewSeverity low point.severity
  · rw [countP_restrict store filters below fun row is => ?_]
    · simp only [sees, and_true]
    · rw [(Prod.mk.inj (of_decide_eq_true is)).2]
      exact sees
  · refine iff_of_false ?_ fun both => sees both.2
    rintro ⟨positive, counted⟩
    obtain ⟨row, member, is⟩ := List.countP_pos_iff.mp (counted ▸ positive)
    have visible := periodRows_visible member
    rw [(Prod.mk.inj (of_decide_eq_true is)).2, mem_visibleSeverities] at visible
    exact sees (decide_eq_true visible)

theorem escalatedRows_restrict (store : Store) (filters : AnalyticsPeriodFilters)
    (below : low.clearanceLevel ≤ high.clearanceLevel) {severity : Severity}
    (sees : canViewSeverity low severity) :
    escalatedRows store low filters severity = escalatedRows store high filters severity := by
  rw [escalatedRows, escalatedRows, periodRows_restrict store filters below, List.filter_filter]
  refine List.filter_congr fun row _ => ?_
  by_cases same : row.severity = severity
  · rw [same, sees, Bool.and_true]
  · simp [same]

theorem performance_restrict (store : Store) (filters : AnalyticsPeriodFilters)
    (below : low.clearanceLevel ≤ high.clearanceLevel) :
    escalationPerformanceAggregate store low filters =
      (escalationPerformanceAggregate store high filters).filter
        fun row => canViewSeverity low row.severity := by
  refine Keyset.strict_ext (fun row => severityRank row.severity) (performance_sorted _ _ _)
    ((performance_sorted _ _ _).filter _) fun row => ?_
  rw [List.mem_filter, mem_performance, mem_performance]
  constructor
  · intro is
    obtain ⟨incident, among⟩ := List.exists_mem_of_ne_nil _ is.some
    obtain ⟨inPeriod, chosen⟩ := List.mem_filter.mp among
    have sees : canViewSeverity low row.severity := by
      have visible := periodRows_visible inPeriod
      rw [mem_visibleSeverities] at visible
      simp only [Bool.and_eq_true, decide_eq_true_eq] at chosen
      exact decide_eq_true (chosen.2 ▸ visible)
    have same := escalatedRows_restrict store filters below sees
    exact ⟨⟨same ▸ is.some, same ▸ is.escalated, same ▸ is.acknowledged, same ▸ is.median,
      same ▸ is.p90⟩, sees⟩
  · rintro ⟨is, sees⟩
    have same := escalatedRows_restrict store filters below sees
    exact ⟨same ▸ is.some, same ▸ is.escalated, same ▸ is.acknowledged, same ▸ is.median,
      same ▸ is.p90⟩

end Clearances

/-- What an actor with a lower clearance gets is what one with a higher clearance gets, less the
severities above the lower clearance: no number about a severity depends on who asks, whatever the
roles are, and the totals are those of the severities that are left. -/
theorem lower_clearance_sees_the_restriction {js : JsRuntime} (store : Store) (low high : Actor)
    (query : AnalyticsQuery js) (below : low.clearanceLevel ≤ high.clearanceLevel) :
    let restricted := (matrix store high query).columnTotals.filter (canViewSeverity low ·.1)
    (matrix store low query).cells =
      (matrix store high query).cells.filter (canViewSeverity low ·.severity) ∧
    (matrix store low query).columnTotals = restricted ∧
    (matrix store low query).grandTotal = (restricted.map (·.2)).sum ∧
    (overview store low query).totalIncidents = (restricted.map (·.2)).sum ∧
    (∀ bucket, (trend store low query bucket).points =
      (trend store high query bucket).points.filter (canViewSeverity low ·.severity)) ∧
    (escalationPerformance store low query).bySeverity =
      (escalationPerformance store high query).bySeverity.filter
        (canViewSeverity low ·.severity) := by
  intro restricted
  have lowCounts : MatrixCounts store low (toFilters query) (matrix store low query) :=
    matrix_counts store low (toFilters query) query.period
  have highCounts : MatrixCounts store high (toFilters query) (matrix store high query) :=
    matrix_counts store high (toFilters query) query.period
  have columns : (matrix store low query).columnTotals = restricted := by
    rw [lowCounts.columns, show restricted = _ from congrArg _ highCounts.columns, List.filter_map,
      visibleSeverities_restrict below]
    refine List.map_congr_left fun severity member => ?_
    rw [countP_restrict store (toFilters query) below fun row is => ?_]
    rw [of_decide_eq_true is]
    exact (List.mem_filter.mp member).2
  -- Both sums of `matrix` are the number of rows, once by severity and once by type.
  have total : ((matrix store low query).columnTotals.map (·.2)).sum =
      (periodRows store low (toFilters query)).length := by
    rw [lowCounts.columns, List.map_map]
    exact Tally.sum_countP_all Incident.severity (visibleSeverities_nodup _) _
      fun row member => periodRows_visible member
  have types : ((matrix store low query).rowTotals.map (·.2)).sum =
      (periodRows store low (toFilters query)).length := by
    rw [lowCounts.rows, List.map_map]
    exact Tally.sum_countP_all Incident.type (by decide) _
      fun row _ => mem_incidentTypeValues row.type
  refine ⟨cells_restrict store (toFilters query) query.period below, columns, ?_, ?_,
    fun bucket => points_restrict store (toFilters query) bucket below,
    performance_restrict store (toFilters query) below⟩
  · rw [lowCounts.grand, types, ← total, columns]
  · rw [← columns, total, overview, overviewAggregate_eq, periodSql_rows]

/-! ### Two weeks of January -/

def calendarRuntime : JsRuntime where
  encode _ := ""
  decode _ := none
  newDate
    | .str "2026-01-01" => some 1767225600000
    | .str "2026-01-07" => some 1767744000000
    | .str "2026-01-08" => some 1767830400000
    | .str "2026-01-14" => some 1768348800000
    | _ => none
  toISOString _ := ""
  number json := json

/-- The days from one to the other, without further filters. -/
def daysFrom (first last : DateParam calendarRuntime) (ordered : first.date ≤ last.date)
    (withinRange : last.date - first.date ≤ 366 * dayMs) : AnalyticsQuery calendarRuntime :=
  ⟨first, last, none, none, ordered, withinRange⟩

def firstWeek : AnalyticsQuery calendarRuntime :=
  daysFrom ⟨"2026-01-01", 1767225600000, rfl⟩ ⟨"2026-01-07", 1767744000000, rfl⟩ (by decide)
    (by decide)

def secondWeek : AnalyticsQuery calendarRuntime :=
  daysFrom ⟨"2026-01-08", 1767830400000, rfl⟩ ⟨"2026-01-14", 1768348800000, rfl⟩ (by decide)
    (by decide)

def bothWeeks : AnalyticsQuery calendarRuntime :=
  daysFrom ⟨"2026-01-01", 1767225600000, rfl⟩ ⟨"2026-01-14", 1768348800000, rfl⟩ (by decide)
    (by decide)

/-- An incident in the last second of the first week, and one in the second week. -/
def januaryStore : Store :=
  { sampleStore with
    incidents := [{ sampleIncident "b" .high with createdAt := 1767830399000 },
      { sampleIncident "a" .critical with createdAt := 1767830400000 }] }

theorem lower_clearance_sees_the_restriction_sample :
    (matrix januaryStore ⟨"b", .reporter, 3⟩ bothWeeks).grandTotal = 1 ∧
      (matrix januaryStore ⟨"a", .admin, 4⟩ bothWeeks).grandTotal = 2 := by
  have restriction := lower_clearance_sees_the_restriction januaryStore ⟨"b", .reporter, 3⟩
    ⟨"a", .admin, 4⟩ bothWeeks (by decide)
  refine ⟨restriction.2.2.1.trans ?_, by decide +kernel⟩
  decide +kernel

/-! ### Periods that meet -/

/-- Two periods with the same filters where one ends and the other begins, and the period that they
make. -/
structure Meets {js : JsRuntime} (first second whole : AnalyticsQuery js) : Prop where
  begins : whole.from_.date = first.from_.date
  meets : second.from_.date = exclusiveEndOfDay first.to_
  ends : exclusiveEndOfDay whole.to_ = exclusiveEndOfDay second.to_
  types : first.type = whole.type ∧ second.type = whole.type
  stages : first.stage = whole.stage ∧ second.stage = whole.stage

section Meeting
variable {js : JsRuntime} {store : Store} {actor : Actor} {first second whole : AnalyticsQuery js}

theorem from_le_exclusiveEnd (query : AnalyticsQuery js) :
    query.from_.date ≤ exclusiveEndOfDay query.to_ := by
  have order := query.ordered
  unfold exclusiveEndOfDay
  split
  · exact order.trans (Int.le_add_of_nonneg_right (by decide))
  · exact order

theorem analyticsPeriodWhere_iff (filters : AnalyticsPeriodFilters) (row : Incident) :
    analyticsPeriodWhere actor filters row ↔ visibilityScope actor row ∧
      filters.from_ ≤ row.createdAt ∧ row.createdAt < filters.to_ ∧
        oneOf filters.type row.type ∧ oneOf filters.stage row.stage := by
  simp only [analyticsPeriodWhere, Bool.and_eq_true, decide_eq_true_eq, and_assoc]

theorem periodRows_meets (store : Store) (actor : Actor) (meet : Meets first second whole) :
    (periodRows store actor (toFilters whole)).Perm
      (periodRows store actor (toFilters first) ++ periodRows store actor (toFilters second)) := by
  have firstSpan := from_le_exclusiveEnd first
  have secondSpan := from_le_exclusiveEnd second
  rw [meet.meets] at secondSpan
  have either : periodRows store actor (toFilters whole) = store.incidents.filter fun row =>
      analyticsPeriodWhere actor (toFilters first) row ||
        analyticsPeriodWhere actor (toFilters second) row := by
    refine List.filter_congr fun row _ => ?_
    rw [Bool.eq_iff_iff, Bool.or_eq_true]
    simp only [analyticsPeriodWhere_iff, toFilters, meet.begins, meet.meets, meet.ends,
      meet.types.1, meet.types.2, meet.stages.1, meet.stages.2]
    constructor
    -- An instant falls before the border or not; the two halves of the period meet there.
    · rintro ⟨sees, starts, stops, kinds⟩
      rcases Int.lt_or_le row.createdAt (exclusiveEndOfDay first.to_) with before | after
      · exact .inl ⟨sees, starts, before, kinds⟩
      · exact .inr ⟨sees, after, stops, kinds⟩
    · rintro (⟨sees, starts, stops, kinds⟩ | ⟨sees, starts, stops, kinds⟩)
      · exact ⟨sees, starts, Int.lt_of_lt_of_le stops secondSpan, kinds⟩
      · exact ⟨sees, Int.le_trans firstSpan starts, stops, kinds⟩
  rw [either]
  refine Tally.filter_or_perm fun row _ inFirst => ?_
  rw [Bool.not_eq_true', Bool.eq_false_iff]
  -- None falls on both sides of it.
  intro inSecond
  simp only [analyticsPeriodWhere_iff, toFilters, meet.meets] at inFirst inSecond
  exact Int.not_lt.mpr inSecond.2.1 inFirst.2.2.1

theorem countP_meets (store : Store) (actor : Actor) (meet : Meets first second whole)
    (p : Incident → Bool) : (periodRows store actor (toFilters whole)).countP p =
      (periodRows store actor (toFilters first)).countP p +
        (periodRows store actor (toFilters second)).countP p := by
  rw [(periodRows_meets store actor meet).countP_eq, List.countP_append]

/-- A severity has one row of the report, if any. -/
theorem performance_counts (store : Store) (actor : Actor) (filters : AnalyticsPeriodFilters)
    (severity : Severity) :
    let rows := (escalationPerformanceAggregate store actor filters).filter (·.severity = severity)
    (rows.map (·.escalatedCount)).sum = (escalatedRows store actor filters severity).length ∧
      (rows.map (·.acknowledgedCount)).sum =
        ((escalatedRows store actor filters severity).filterMap (ackSeconds store)).length := by
  intro rows
  have sorted : rows.Pairwise fun one other =>
      severityRank one.severity < severityRank other.severity :=
    (performance_sorted store actor filters).filter _
  have each : ∀ row ∈ rows, PerformanceRow store actor filters row ∧ row.severity = severity := by
    intro row member
    obtain ⟨reported, same⟩ := List.mem_filter.mp member
    exact ⟨mem_performance.mp reported, by simpa using same⟩
  -- A severity has at most one row in the report, the list being strictly sorted by it.
  match listed : rows with
  | [] =>
    have nothing : escalatedRows store actor filters severity = [] := by
      by_contra some
      obtain ⟨row, reported, same⟩ := performance_reported some
      have member : row ∈ rows := List.mem_filter.mpr ⟨reported, decide_eq_true same⟩
      rw [listed] at member
      cases member
    rw [nothing]
    exact ⟨rfl, rfl⟩
  | [row] =>
    obtain ⟨is, rfl⟩ := each row List.mem_cons_self
    simp [is.escalated, is.acknowledged]
  | one :: other :: rest =>
    have order := (List.pairwise_cons.mp sorted).1 other List.mem_cons_self
    rw [(each one (by simp)).2, (each other (by simp)).2] at order
    exact absurd order (Nat.lt_irrefl _)

end Meeting

/-- How many incidents the points of a trend count for a bucket and a severity. -/
def countAt (points : List TrendPoint) (start : Date) (severity : Severity) : Nat :=
  ((points.filter fun point => point.bucketStart = start ∧ point.severity = severity).map
    (·.count)).sum

/-- A row of the report about escalations has counts for a severity; without a row both are 0. -/
def performanceAt (rows : List EscalationPerformanceRow) (severity : Severity) : Nat × Nat :=
  let listed := rows.filter (·.severity = severity)
  ((listed.map (·.escalatedCount)).sum, (listed.map (·.acknowledgedCount)).sum)

/-- Where one period ends and the next begins no incident is counted twice or left out: every count
for the period that they make is the sum of the two counts, for a bucket that lies across the border
too, and its median lies between the medians of the parts. -/
theorem periods_that_meet_add_up {js : JsRuntime} (store : Store) (actor : Actor)
    (first second whole : AnalyticsQuery js) (meet : Meets first second whole) :
    let one := overview store actor first
    let other := overview store actor second
    let both := overview store actor whole
    both.totalIncidents = one.totalIncidents + other.totalIncidents ∧
    both.openIncidents = one.openIncidents + other.openIncidents ∧
    both.escalatedIncidents = one.escalatedIncidents + other.escalatedIncidents ∧
    (∀ median ∈ both.medianAckSeconds,
      (∃ part ∈ [first, second], ∃ least ∈ (overview store actor part).medianAckSeconds,
        least ≤ median) ∧
      ∃ part ∈ [first, second], ∃ greatest ∈ (overview store actor part).medianAckSeconds,
        median ≤ greatest) ∧
    (matrix store actor whole).cells = List.zipWith
      (fun cell next => { cell with count := cell.count + next.count })
      (matrix store actor first).cells (matrix store actor second).cells ∧
    (∀ bucket start severity, countAt (trend store actor whole bucket).points start severity =
      countAt (trend store actor first bucket).points start severity +
        countAt (trend store actor second bucket).points start severity) ∧
    ∀ severity, performanceAt (escalationPerformance store actor whole).bySeverity severity =
      performanceAt (escalationPerformance store actor first).bySeverity severity +
        performanceAt (escalationPerformance store actor second).bySeverity severity := by
  intro one other both
  -- The rows of the whole period are those of its parts, up to order; every count is a `countP`
  -- over them.
  have rows := periodRows_meets store actor meet
  have counts := countP_meets store actor meet
  refine ⟨?_, ?_, ?_, ?_, ?_, ?_, ?_⟩
  · simp only [both, one, other, overview, overviewAggregate_eq, periodSql_rows]
    rw [rows.length_eq, List.length_append]
  · simp only [both, one, other, overview, overviewAggregate_eq, periodSql_rows]
    exact counts _
  · simp only [both, one, other, overview, overviewAggregate_eq, periodSql_rows]
    exact counts _
  · intro median found
    -- A median has no sum: the acknowledgement times of the parts are pooled.
    have pooled : (periodRows store actor (toFilters whole)).filterMap (ackSeconds store) |>.Perm
        ([first, second].flatMap fun part =>
          (periodRows store actor (toFilters part)).filterMap (ackSeconds store)) := by
      simpa using rows.filterMap (ackSeconds store)
    rw [overview_median, Percentile.cont_perm pooled] at found
    simp only [overview_median]
    exact Percentile.median_flatMap found
  · simp only [matrix, matrix_cells, List.zipWith_map, List.zipWith_self]
    exact List.map_congr_left fun key _ => by rw [counts]
  · intro bucket start severity
    have sums (query : AnalyticsQuery js) := trend_sum store actor (toFilters query) bucket
      fun from_ kind => from_ = start ∧ kind = severity
    simp only [countAt, trend, sums]
    exact counts _
  · intro severity
    -- Whether an incident was escalated does not depend on the period that is asked for.
    have escalated : (escalatedRows store actor (toFilters whole) severity).Perm
        (escalatedRows store actor (toFilters first) severity ++
          escalatedRows store actor (toFilters second) severity) := by
      rw [escalatedRows, escalatedRows, escalatedRows, ← List.filter_append]
      exact rows.filter _
    have acknowledged := escalated.filterMap (ackSeconds store)
    rw [List.filterMap_append] at acknowledged
    simp only [performanceAt, escalationPerformance, performance_counts, escalated.length_eq,
      acknowledged.length_eq, List.length_append, Prod.mk_add_mk]

theorem periods_that_meet_add_up_sample :
    Meets firstWeek secondWeek bothWeeks ∧
      (overview januaryStore ⟨"a", .admin, 4⟩ bothWeeks).totalIncidents = 1 + 1 := by
  have meet : Meets firstWeek secondWeek bothWeeks :=
    ⟨rfl, by decide +kernel, by decide +kernel, ⟨rfl, rfl⟩, ⟨rfl, rfl⟩⟩
  have sums := periods_that_meet_add_up januaryStore ⟨"a", .admin, 4⟩ firstWeek secondWeek
    bothWeeks meet
  refine ⟨meet, sums.1.trans ?_⟩
  decide +kernel

end IncidentApi.Properties
