import IncidentApi.Library.Join
import IncidentApi.Listings
import Mathlib.Algebra.Order.Ring.Rat
import Mathlib.Data.Rat.Floor

/-!
# Analytics

`analytics.repository.ts`, its mappers and `analytics.service.ts`. Two spellings of one condition
count the incidents of a period: the Prisma `where` of the matrix and the raw SQL of the other
queries. Times to acknowledge are exact fractions of a second here; Postgres rounds the
percentiles to a double.
-/
namespace IncidentApi

/-! ### Queries -/

/-- A period that `periodRefinement` accepts. -/
structure AnalyticsQuery (js : JsRuntime) where
  from_ : DateParam js
  to_ : DateParam js
  type : Option (List IncidentType)
  stage : Option (List Stage)
  ordered : from_.date ≤ to_.date
  withinRange : to_.date - from_.date ≤ 366 * dayMs

structure AnalyticsPeriodFilters where
  from_ : Date
  to_ : Date
  type : Option (List IncidentType)
  stage : Option (List Stage)

/-- `from` and `to` as the query spelt them. -/
structure AnalyticsPeriod where
  from_ : String
  to_ : String
  deriving DecidableEq, Repr

inductive Bucket where
  | day | week | month
  deriving DecidableEq, Repr

def toFilters {js : JsRuntime} (query : AnalyticsQuery js) : AnalyticsPeriodFilters where
  from_ := query.from_.date
  to_ := exclusiveEndOfDay query.to_
  type := query.type
  stage := query.stage

def AnalyticsQuery.period {js : JsRuntime} (query : AnalyticsQuery js) : AnalyticsPeriod :=
  ⟨query.from_.text, query.to_.text⟩

/-! ### Conditions -/

def analyticsPeriodWhere (actor : Actor) (filters : AnalyticsPeriodFilters) (row : Incident) :
    Bool :=
  visibilityScope actor row && (filters.from_ ≤ row.createdAt && row.createdAt < filters.to_) &&
    oneOf filters.type row.type && oneOf filters.stage row.stage

/-- The `WHERE` clause the raw queries share. -/
def periodSql (actor : Actor) (filters : AnalyticsPeriodFilters) (row : Incident) : Bool :=
  filters.from_ ≤ row.createdAt && row.createdAt < filters.to_ &&
    decide (row.severity ∈ visibleSeverities actor.clearanceLevel) &&
    oneOf filters.type row.type && oneOf filters.stage row.stage

/-- Both spellings select the same incidents. -/
theorem periodSql_eq (actor : Actor) (filters : AnalyticsPeriodFilters) (row : Incident) :
    periodSql actor filters row = analyticsPeriodWhere actor filters row := by
  simp only [periodSql, analyticsPeriodWhere, visibilityScope]
  ac_rfl

/-! ### Aggregates -/

/-- `percentile_cont(fraction) WITHIN GROUP (ORDER BY value)`. -/
def percentileCont (fraction : Rat) (values : List Rat) : Option Rat := do
  let sorted := values.insertionSort (· ≤ ·)
  -- linear interpolation between the two rows around the position
  let position := fraction * ((sorted.length : Rat) - 1)
  let below ← sorted[position.floor.toNat]?
  let above ← sorted[position.ceil.toNat]?
  return below + (above - below) * (position - position.floor)

/-- The row of an incident in `first_escalation`, if it has one. -/
def firstEscalation (store : Store) (id : Id) : Option Date :=
  ((store.escalationEvents.filter (·.incidentId = id)).map (·.triggeredAt)).min?

/-- The `WITH` clause: one row for each incident with events. -/
def firstEscalations (store : Store) : List (Id × Date) :=
  (store.escalationEvents.map (·.incidentId)).dedup.filterMap fun id =>
    (firstEscalation store id).map (id, ·)

/-- `EXTRACT(EPOCH FROM acknowledgedAt - first_triggered_at)`, where neither is `NULL`. -/
def secondsBetween (first acknowledged : Option Date) : Option Rat := do
  let triggered ← first
  let acknowledged ← acknowledged
  return ((acknowledged - triggered : Int) : Rat) / 1000

/-- `date_trunc` in UTC; weeks start on Monday, and the epoch was a Thursday. -/
def dateTrunc (bucket : Bucket) (date : Date) : Date :=
  let day := date / dayMs
  match bucket with
  | .day => day * dayMs
  | .week => (day - (day + 3) % 7) * dayMs
  | .month => (day - ((civilDate day).day - 1)) * dayMs

example : dateTrunc .week 1768435200000 = 1768176000000 := by decide

example : dateTrunc .month 1768435200000 = 1767225600000 := by decide

structure OverviewAggregateRow where
  total : Nat
  open_ : Nat
  escalated : Nat
  medianAckSeconds : Option Rat
  deriving DecidableEq

def overviewAggregate (store : Store) (actor : Actor) (filters : AnalyticsPeriodFilters) :
    OverviewAggregateRow :=
  let joined := (Join.left Incident.id Prod.fst store.incidents (firstEscalations store)).filter
    (periodSql actor filters ·.1)
  { total := joined.length
    open_ := joined.countP (·.1.stage ≠ .closed)
    escalated := joined.countP (·.2.isSome)
    medianAckSeconds := percentileCont (1 / 2) (joined.filterMap fun (row, first) =>
      secondsBetween (first.map Prod.snd) row.acknowledgedAt) }

/-- The groups of `groupBy(['type', 'severity'])`, in the order the database likes. -/
def groupIncidentsByTypeAndSeverity (store : Store) (actor : Actor)
    (filters : AnalyticsPeriodFilters) : List ((IncidentType × Severity) × Nat) :=
  Scope.groupBy (fun row => (row.type, row.severity))
    (store.incidents.filter (analyticsPeriodWhere actor filters))

def countIncidentsInPeriod (store : Store) (actor : Actor) (filters : AnalyticsPeriodFilters) :
    Nat :=
  (store.incidents.filter (analyticsPeriodWhere actor filters)).length

structure TrendPoint where
  bucketStart : Date
  severity : Severity
  count : Nat
  deriving DecidableEq, Repr

/-- `GROUP BY 1, 2 ORDER BY 1, 2`. -/
def trendAggregate (store : Store) (actor : Actor) (filters : AnalyticsPeriodFilters)
    (bucket : Bucket) : List TrendPoint :=
  let groups := Scope.groupBy (fun row => (dateTrunc bucket row.createdAt, row.severity))
    (store.incidents.filter (periodSql actor filters))
  (Keyset.sortOn (fun group => toLex (group.1.1, severityRank group.1.2)) groups).map
    fun ((bucketStart, severity), count) => ⟨bucketStart, severity, count⟩

structure EscalationPerformanceRow where
  severity : Severity
  escalatedCount : Nat
  acknowledgedCount : Nat
  medianAckSeconds : Option Rat
  p90AckSeconds : Option Rat
  deriving DecidableEq

/-- `GROUP BY severity ORDER BY severity`; the inner join drops what never escalated. -/
def escalationPerformanceAggregate (store : Store) (actor : Actor)
    (filters : AnalyticsPeriodFilters) : List EscalationPerformanceRow :=
  let joined := (Join.inner Incident.id Prod.fst store.incidents (firstEscalations store)).filter
    (periodSql actor filters ·.1)
  severityValues.filterMap fun severity =>
    let rows := joined.filter (·.1.severity = severity)
    let seconds := rows.filterMap fun (row, first) =>
      secondsBetween (some first.2) row.acknowledgedAt
    if rows.isEmpty then none
    else
      some
        { severity := severity
          escalatedCount := rows.length
          acknowledgedCount := rows.countP (·.1.acknowledgedAt.isSome)
          medianAckSeconds := percentileCont (1 / 2) seconds
          p90AckSeconds := percentileCont (9 / 10) seconds }

/-! ### What the joins find -/

theorem firstEscalations_finds (store : Store) :
    Join.Finds Prod.fst (firstEscalations store) fun id =>
      (firstEscalation store id).map (id, ·) := by
  refine Join.finds_entries _ (List.nodup_dedup _) fun id unknown => ?_
  have none_left : store.escalationEvents.filter (·.incidentId = id) = [] := by
    simp only [List.filter_eq_nil_iff, decide_eq_true_eq]
    exact fun event stored same => unknown (List.mem_dedup.mpr (List.mem_map.mpr
      ⟨event, stored, same⟩))
  rw [firstEscalation, none_left]
  rfl

/-- The seconds from the first event of an incident to its acknowledgement. -/
def ackSeconds (store : Store) (row : Incident) : Option Rat :=
  secondsBetween (firstEscalation store row.id) row.acknowledgedAt

/-- The overview over the incidents themselves: however many events one has, the left join has one
row for it. -/
theorem overviewAggregate_eq (store : Store) (actor : Actor) (filters : AnalyticsPeriodFilters) :
    overviewAggregate store actor filters =
      let rows := store.incidents.filter (periodSql actor filters)
      { total := rows.length
        open_ := rows.countP (·.stage ≠ .closed)
        escalated := rows.countP fun row => (firstEscalation store row.id).isSome
        medianAckSeconds := percentileCont (1 / 2) (rows.filterMap (ackSeconds store)) } := by
  have seconds (row : Incident) : secondsBetween
      (((firstEscalation store row.id).map fun first => (row.id, first)).map Prod.snd)
        row.acknowledgedAt = ackSeconds store row := by
    rw [Option.map_map]
    exact congrArg (secondsBetween · row.acknowledgedAt) Option.map_id'
  simp only [overviewAggregate, Join.left_filter (firstEscalations_finds store), List.length_map,
    List.countP_map, List.filterMap_map, Function.comp_def, Option.isSome_map, seconds]

/-- The rows that the inner join has for some incidents. -/
theorem joined_incidents (store : Store) (rows : List Incident) :
    let joined := rows.filterMap fun row =>
      ((firstEscalation store row.id).map fun first => (row.id, first)).map (row, ·)
    joined.map Prod.fst = rows.filter (fun row => (firstEscalation store row.id).isSome) ∧
      ∀ pair ∈ joined, secondsBetween (some pair.2.2) pair.1.acknowledgedAt =
        ackSeconds store pair.1 := by
  intro joined
  constructor
  · rw [List.map_filterMap, ← List.filterMap_eq_filter]
    refine List.filterMap_congr fun row _ => ?_
    cases found : firstEscalation store row.id <;> simp [Option.guard, found]
  · intro pair member
    obtain ⟨row, _, paired⟩ := List.mem_filterMap.mp member
    obtain ⟨_, ⟨first, found, rfl⟩, rfl⟩ : ∃ other, (∃ first,
        firstEscalation store row.id = some first ∧ (row.id, first) = other) ∧
          (row, other) = pair := by
      simpa only [Option.map_eq_some_iff] using paired
    rw [ackSeconds, found]

/-- The report over the incidents themselves: the inner join has one row for each that escalated. -/
theorem escalationPerformanceAggregate_eq (store : Store) (actor : Actor)
    (filters : AnalyticsPeriodFilters) :
    escalationPerformanceAggregate store actor filters = severityValues.filterMap fun severity =>
      let rows := (store.incidents.filter fun row =>
        periodSql actor filters row && (firstEscalation store row.id).isSome).filter
          (·.severity = severity)
      if rows.isEmpty then none
      else
        some
          { severity := severity
            escalatedCount := rows.length
            acknowledgedCount := rows.countP (·.acknowledgedAt.isSome)
            medianAckSeconds := percentileCont (1 / 2) (rows.filterMap (ackSeconds store))
            p90AckSeconds := percentileCont (9 / 10) (rows.filterMap (ackSeconds store)) } := by
  have found := joined_incidents store (store.incidents.filter (periodSql actor filters))
  rw [List.filter_filter] at found
  simp only [escalationPerformanceAggregate, Join.inner_filter (firstEscalations_finds store)]
  refine List.filterMap_congr fun severity _ => ?_
  dsimp only at found ⊢
  simp only [Bool.and_comm (periodSql _ _ _)]
  generalize (store.incidents.filter (periodSql actor filters)).filterMap _ = joined at found ⊢
  rw [← found.1, List.filter_map, List.isEmpty_map, List.length_map, List.countP_map,
    List.filterMap_map]
  have seconds : (joined.filter (·.1.severity = severity)).filterMap (fun pair =>
      secondsBetween (some pair.2.2) pair.1.acknowledgedAt) =
        (joined.filter (·.1.severity = severity)).filterMap fun pair => ackSeconds store pair.1 :=
    List.filterMap_congr fun pair member => found.2 pair (List.mem_of_mem_filter member)
  simp only [seconds, Function.comp_def]

/-! ### Responses -/

structure AnalyticsOverviewResponse where
  period : AnalyticsPeriod
  totalIncidents : Nat
  openIncidents : Nat
  escalatedIncidents : Nat
  medianAckSeconds : Option Rat
  deriving DecidableEq

structure TypeSeverityCell where
  type : IncidentType
  severity : Severity
  count : Nat
  deriving DecidableEq, Repr

structure TypeSeverityMatrixResponse where
  period : AnalyticsPeriod
  severities : List Severity
  cells : List TypeSeverityCell
  rowTotals : List (IncidentType × Nat)
  columnTotals : List (Severity × Nat)
  grandTotal : Nat
  deriving DecidableEq, Repr

structure TrendResponse where
  period : AnalyticsPeriod
  bucket : Bucket
  severities : List Severity
  points : List TrendPoint
  deriving DecidableEq, Repr

structure EscalationPerformanceResponse where
  period : AnalyticsPeriod
  bySeverity : List EscalationPerformanceRow
  deriving DecidableEq

def toMatrixResponse (period : AnalyticsPeriod) (severities : List Severity)
    (rows : List ((IncidentType × Severity) × Nat)) : TypeSeverityMatrixResponse :=
  let cells := incidentTypeValues.flatMap fun type =>
    severities.map fun severity => ⟨type, severity, Scope.countOf rows (type, severity)⟩
  let rowTotals := incidentTypeValues.map fun type =>
    (type, ((cells.filter (·.type = type)).map (·.count)).sum)
  let columnTotals := severities.map fun severity =>
    (severity, ((cells.filter (·.severity = severity)).map (·.count)).sum)
  ⟨period, severities, cells, rowTotals, columnTotals, (rowTotals.map (·.2)).sum⟩

def toMatrixCsv (result : TypeSeverityMatrixResponse) : String :=
  let lines := "Type,Severity,Count" ::
    result.cells.map (fun cell =>
      cell.type.text ++ "," ++ cell.severity.text ++ "," ++ toString cell.count) ++
    ["TOTAL,," ++ toString result.grandTotal]
  "\r\n".intercalate lines ++ "\r\n"

section Services
variable {js : JsRuntime} (store : Store) (actor : Actor) (query : AnalyticsQuery js)

def overview : AnalyticsOverviewResponse :=
  let row := overviewAggregate store actor (toFilters query)
  ⟨query.period, row.total, row.open_, row.escalated, row.medianAckSeconds⟩

def matrix : TypeSeverityMatrixResponse :=
  toMatrixResponse query.period (visibleSeverities actor.clearanceLevel)
    (groupIncidentsByTypeAndSeverity store actor (toFilters query))

def matrixGrandTotalCrossCheck : Nat := countIncidentsInPeriod store actor (toFilters query)

def exportCsv : String := toMatrixCsv (matrix store actor query)

def trend (bucket : Bucket) : TrendResponse :=
  ⟨query.period, bucket, visibleSeverities actor.clearanceLevel,
    trendAggregate store actor (toFilters query) bucket⟩

def escalationPerformance : EscalationPerformanceResponse :=
  ⟨query.period, escalationPerformanceAggregate store actor (toFilters query)⟩

end Services

end IncidentApi
