import IncidentApi.Analytics
import IncidentApi.Library.Tally

/-!
# The totals of the analytics

Every aggregate counts the incidents of one period: the groups of the matrix and of the trend add
up to it, whichever keys they group by, and the escalated ones are counted once for each incident,
not for each event.
-/
namespace IncidentApi.Properties

/-- The incidents of a period that the actor may see. -/
def periodRows (store : Store) (actor : Actor) (filters : AnalyticsPeriodFilters) :
    List Incident :=
  store.incidents.filter (analyticsPeriodWhere actor filters)

section Totals
variable (store : Store) (actor : Actor) (filters : AnalyticsPeriodFilters)

theorem periodSql_rows :
    store.incidents.filter (periodSql actor filters) = periodRows store actor filters := by
  rw [periodRows]
  exact List.filter_congr fun row _ => periodSql_eq actor filters row

variable {store actor filters}

theorem periodRows_visible {row : Incident} (member : row ∈ periodRows store actor filters) :
    row.severity ∈ visibleSeverities actor.clearanceLevel := by
  have chosen := (List.mem_filter.mp member).2
  simp only [analyticsPeriodWhere, visibilityScope, Bool.and_eq_true, decide_eq_true_eq] at chosen
  exact chosen.1.1.1

theorem visibleSeverities_nodup (clearance : Nat) : (visibleSeverities clearance).Nodup :=
  List.Nodup.filter _ (by decide)

theorem mem_incidentTypeValues (type : IncidentType) : type ∈ incidentTypeValues := by
  cases type <;> decide

/-! ### The matrix -/

/-- The combinations that the matrix has a cell for. -/
def cellKeys (severities : List Severity) : List (IncidentType × Severity) :=
  incidentTypeValues.flatMap fun type => severities.map fun severity => (type, severity)

theorem mem_cellKeys {severities : List Severity} {type : IncidentType} {severity : Severity} :
    (type, severity) ∈ cellKeys severities ↔ severity ∈ severities := by
  simp [cellKeys, mem_incidentTypeValues]

theorem cellKeys_nodup {severities : List Severity} (distinct : severities.Nodup) :
    (cellKeys severities).Nodup :=
  List.Nodup.product (by decide : incidentTypeValues.Nodup) distinct

/-- The cells that meet a condition count the incidents that do. -/
theorem cells_sum (store : Store) (actor : Actor) (filters : AnalyticsPeriodFilters)
    (period : AnalyticsPeriod) (p : IncidentType × Severity → Bool) :
    ((((toMatrixResponse period (visibleSeverities actor.clearanceLevel)
        (groupIncidentsByTypeAndSeverity store actor filters)).cells.filter fun cell =>
          p (cell.type, cell.severity)).map (·.count)).sum) =
      (periodRows store actor filters).countP fun row => p (row.type, row.severity) := by
  -- a cell counts the rows of its type and severity
  have cells : (toMatrixResponse period (visibleSeverities actor.clearanceLevel)
      (groupIncidentsByTypeAndSeverity store actor filters)).cells =
      (cellKeys (visibleSeverities actor.clearanceLevel)).map fun key =>
        ⟨key.1, key.2, (periodRows store actor filters).countP fun row =>
          (row.type, row.severity) = key⟩ := by
    simp only [toMatrixResponse, groupIncidentsByTypeAndSeverity, Scope.countOf_groupBy, cellKeys,
      List.map_flatMap, List.map_map]
    rfl
  rw [cells, List.filter_map, List.map_map]
  exact Tally.sum_countP_filter (fun row : Incident => (row.type, row.severity))
    (cellKeys_nodup (visibleSeverities_nodup _)) p _
    fun row member => mem_cellKeys.mpr (periodRows_visible member)

variable (store actor filters)

/-- Rows of cells, columns of cells and all cells: each incident is in one of each. -/
structure MatrixCounts (result : TypeSeverityMatrixResponse) : Prop where
  cells : (result.cells.map (·.count)).sum = (periodRows store actor filters).length
  rows : result.rowTotals = incidentTypeValues.map fun type =>
    (type, (periodRows store actor filters).countP (·.type = type))
  columns : result.columnTotals = (visibleSeverities actor.clearanceLevel).map fun severity =>
    (severity, (periodRows store actor filters).countP (·.severity = severity))
  grand : result.grandTotal = (result.rowTotals.map (·.2)).sum

theorem matrix_counts (period : AnalyticsPeriod) :
    MatrixCounts store actor filters
      (toMatrixResponse period (visibleSeverities actor.clearanceLevel)
        (groupIncidentsByTypeAndSeverity store actor filters)) where
  cells := by
    have all := cells_sum store actor filters period
      fun _ => true
    rw [List.filter_true, List.countP_true] at all
    exact all
  rows := by
    apply List.map_congr_left
    intro type _
    exact Prod.ext rfl (cells_sum _ _ _ period fun key => key.1 = type)
  columns := by
    apply List.map_congr_left
    intro severity _
    exact Prod.ext rfl (cells_sum _ _ _ period fun key => key.2 = severity)
  grand := rfl

/-! ### The trend -/

variable {store actor filters}

/-- The points that meet a condition on their severity count the incidents that do. -/
theorem points_sum (store : Store) (actor : Actor) (filters : AnalyticsPeriodFilters)
    (bucket : Bucket) (p : Severity → Bool) :
    (((trendAggregate store actor filters bucket).filter fun point => p point.severity).map
        (·.count)).sum =
      (periodRows store actor filters).countP fun row => p row.severity := by
  rw [trendAggregate, periodSql_rows, List.filter_map, List.map_map]
  have groups := Tally.sum_groupBy
    (fun row : Incident => (dateTrunc bucket row.createdAt, row.severity)) (fun key => p key.2)
    (periodRows store actor filters)
  -- the order of the groups does not matter
  have ordered := ((Keyset.sortOn_perm (fun group : (Date × Severity) × Nat =>
    toLex (group.1.1, severityRank group.1.2)) (Scope.groupBy (fun row : Incident =>
      (dateTrunc bucket row.createdAt, row.severity)) (periodRows store actor filters))).filter
        fun group => p group.1.2).map (·.2)
  exact ordered.sum_eq.trans groups

/-! ### Escalations -/

/-- The severities of the report count the escalated incidents. -/
theorem performance_sum :
    ((escalationPerformanceAggregate store actor filters).map (·.escalatedCount)).sum =
      (periodRows store actor filters).countP fun row => (firstEscalation store row.id).isSome := by
  -- what the inner join keeps is what the overview counts as escalated
  have joined : store.incidents.filter (fun row =>
      periodSql actor filters row && (firstEscalation store row.id).isSome) =
      (periodRows store actor filters).filter fun row =>
        (firstEscalation store row.id).isSome := by
    rw [← periodSql_rows, List.filter_filter]
    exact List.filter_congr fun row _ => Bool.and_comm _ _
  have counts := Tally.sum_countP_all Incident.severity (by decide : severityValues.Nodup)
    ((periodRows store actor filters).filter fun row => (firstEscalation store row.id).isSome)
    fun row _ => mem_severityValues row.severity
  rw [List.countP_eq_length_filter, ← counts, escalationPerformanceAggregate_eq, joined,
    Tally.sum_filterMap]
  apply congrArg List.sum
  apply List.map_congr_left
  intro severity _
  rw [List.countP_eq_length_filter]
  dsimp only
  -- a severity without an escalated incident has no row
  split
  next empty => simp [List.isEmpty_iff.mp empty]
  · rfl

/-! ### All of them -/

/-- Every analytics path counts the same incidents. -/
theorem analytics_count_alike {js : JsRuntime} (store : Store) (actor : Actor)
    (query : AnalyticsQuery js) :
    let result := matrix store actor query
    let points := fun bucket => (trend store actor query bucket).points
    (result.cells.map (·.count)).sum = result.grandTotal ∧
    (result.rowTotals.map (·.2)).sum = result.grandTotal ∧
    (result.columnTotals.map (·.2)).sum = result.grandTotal ∧
    (overview store actor query).totalIncidents = result.grandTotal ∧
    matrixGrandTotalCrossCheck store actor query = result.grandTotal ∧
    (∀ bucket, ((points bucket).map (·.count)).sum = result.grandTotal) ∧
    (∀ bucket, ∀ total ∈ result.columnTotals,
      (((points bucket).filter (·.severity = total.1)).map (·.count)).sum = total.2) ∧
    ((escalationPerformance store actor query).bySeverity.map (·.escalatedCount)).sum =
      (overview store actor query).escalatedIncidents := by
  intro result points
  have counts : MatrixCounts store actor (toFilters query) result :=
    matrix_counts store actor (toFilters query) query.period
  have types : (incidentTypeValues.map fun type => (periodRows store actor (toFilters query)).countP
      (·.type = type)).sum = (periodRows store actor (toFilters query)).length :=
    Tally.sum_countP_all Incident.type (by decide) _ fun row _ => mem_incidentTypeValues row.type
  have severities : ((visibleSeverities actor.clearanceLevel).map fun severity =>
      (periodRows store actor (toFilters query)).countP (·.severity = severity)).sum =
        (periodRows store actor (toFilters query)).length :=
    Tally.sum_countP_all Incident.severity (visibleSeverities_nodup _) _
      fun row member => periodRows_visible member
  -- Every total is compared with the number of rows of the period.
  have grand : result.grandTotal = (periodRows store actor (toFilters query)).length := by
    rw [counts.grand, counts.rows, List.map_map]
    exact types
  refine ⟨counts.cells.trans grand.symm, counts.grand.symm, ?_, ?_, grand.symm, ?_, ?_, ?_⟩
  · rw [counts.columns, List.map_map, grand]
    exact severities
  · rw [overview, overviewAggregate_eq, periodSql_rows, grand]
  · intro bucket
    have all := points_sum store actor (toFilters query) bucket
      fun _ => true
    rw [List.filter_true, List.countP_true] at all
    exact all.trans grand.symm
  · intro bucket total listed
    rw [counts.columns] at listed
    obtain ⟨severity, _, rfl⟩ := List.mem_map.mp listed
    exact points_sum _ _ _ bucket fun other => other = severity
  · rw [overview, overviewAggregate_eq, periodSql_rows]
    exact performance_sum

end Totals

end IncidentApi.Properties
