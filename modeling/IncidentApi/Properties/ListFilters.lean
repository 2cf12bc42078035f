import IncidentApi.ListQuery
import IncidentApi.Properties.Noninterference

/-!
# The filters of the incident list

What a query string asks of an incident, read from the query string itself, against the rows that
`list` counts and pages. The filters for severity, stage, type, flags and dates reach the database;
the text does not.
-/
namespace IncidentApi.Properties

/-! ### What is asked -/

/-- A list parameter asks for the values it names, or for nothing when it names none. -/
def listed (raw : QueryString) (key text : String) : Bool :=
  (raw.value key).all fun value => csvTexts value = [] || text ∈ csvTexts value

def flagged (raw : QueryString) (key : String) : Bool := raw.value key = some (.one "true")

def dated (js : JsRuntime) (raw : QueryString) (key : String) : Option (DateParam js) :=
  match raw.value key with
  | some (.one text) => isoDateString js text
  | _ => none

/-- The text asked for; empty when there is none. -/
def textAsked (raw : QueryString) : String :=
  match raw.value "q" with
  | some (.one text) => jsTrim text
  | _ => ""

/-- All that is asked of an incident but the text. -/
def askedButText (js : JsRuntime) (raw : QueryString) (actor : Actor) (row : Incident) : Bool :=
  canViewSeverity actor row.severity &&
  listed raw "severity" row.severity.text &&
  listed raw "stage" row.stage.text &&
  listed raw "type" row.type.text &&
  (!flagged raw "assignedToMe" || row.assignedInvestigatorId = some actor.id) &&
  (!flagged raw "reportedByMe" || row.reporterId = actor.id) &&
  (!flagged raw "unacknowledged" || row.acknowledgedAt = none) &&
  (!flagged raw "escalatedOnly" || 0 < row.currentEscalationLevel) &&
  (dated js raw "from").all (fun bound => bound.date ≤ row.createdAt) &&
  (dated js raw "to").all fun bound => row.createdAt < exclusiveEndOfDay bound

def asked (js : JsRuntime) (search : TextSearch) (raw : QueryString) (actor : Actor)
    (row : Incident) : Bool :=
  askedButText js raw actor row &&
    (textAsked raw = "" || matchesText search (textAsked raw) row)

/-- The response counts the incidents asked for and shows the page of them, in the order asked
for. -/
def ListsWhatIsAsked {js : JsRuntime} (search : TextSearch) (ties : TieOrder) (store : Store)
    (actor : Actor) (raw : QueryString) (query : ListIncidentsQuery js) : Prop :=
  ∃ rows : List Incident, rows.Perm (store.incidents.filter (asked js search raw actor)) ∧
    rows.Pairwise (fun row next =>
      orderValue ⟨query.sort, query.order⟩ row ≤ orderValue ⟨query.sort, query.order⟩ next) ∧
    (list search ties store actor query).totalItems = rows.length ∧
    (list search ties store actor query).items =
      ((rows.drop ((query.page - 1) * query.pageSize)).take query.pageSize).map
        fun row => toIncidentListItem (joinListRow store row)

/-! ### What reaches the database -/

theorem oneOf_eq_listed {T : Type} [DecidableEq T] {values : List T} {text : T → String}
    (injective : Function.Injective text) {raw : QueryString} {key : String}
    {filter : Option (List T)}
    (read : csvArrayQueryParam (enumValue values text) (raw.value key) = some filter) (value : T) :
    oneOf filter value = listed raw key (text value) := by
  unfold listed
  generalize raw.value key = given at read
  cases given with
  | none =>
    obtain rfl : none = filter := Option.some.inj read
    rfl
  | some given =>
    obtain ⟨named, accepted, rfl⟩ := Option.map_eq_some_iff.mp read
    have spelt := map_mapM_enumValue accepted
    -- a parameter that names nothing filters nothing
    cases named with
    | nil => simp [oneOf, ← spelt]
    | cons first rest =>
      rw [Option.all_some, ← spelt, Bool.eq_iff_iff]
      simp [oneOf, injective.eq_iff]

theorem whenSet_eq_flagged {raw : QueryString} {key : String} {flag : Option Bool}
    (read : booleanQueryParam (raw.value key) = some flag) (condition : Bool) :
    whenSet flag condition = (!flagged raw key || condition) := by
  unfold whenSet flagged
  unfold booleanQueryParam at read
  cases given : raw.value key with
  | none =>
    rw [given] at read
    obtain rfl : none = flag := Option.some.inj read
    rfl
  | some value =>
    rw [given] at read
    dsimp only at read
    split at read
    next on =>
      obtain rfl := Option.some.inj read
      simp [on]
    next notOn =>
      split at read
      · obtain rfl := Option.some.inj read
        simp [notOn]
      · simp at read

theorem optionalText_eq_dated {js : JsRuntime} {raw : QueryString} {key : String}
    {param : Option (DateParam js)}
    (read : optionalText (isoDateString js) (raw.value key) = some param) :
    dated js raw key = param := by
  unfold dated
  generalize raw.value key = given at read
  cases given with
  | none => exact Option.some.inj read
  | some value =>
    cases value with
    | one text =>
      obtain ⟨param, accepted, rfl⟩ := Option.map_eq_some_iff.mp read
      exact accepted
    | many texts => simp [optionalText] at read

theorem effectiveSeverities_iff (actor : Actor) (requested : Option (List Severity))
    (s : Severity) : s ∈ effectiveSeverities actor requested ↔
      canViewSeverity actor s = true ∧ oneOf requested s = true := by
  unfold effectiveSeverities oneOf canViewSeverity
  split
  · simp [mem_visibleSeverities]
  · simp [mem_visibleSeverities]
  · simp [mem_visibleSeverities, and_comm]

/-- The rows that `list` counts meet everything that is asked but the text. -/
theorem buildWhere_eq {js : JsRuntime} {raw : QueryString} {query : ListIncidentsQuery js}
    (read : ReadFrom js raw query) (search : TextSearch) (actor : Actor) (row : Incident) :
    buildWhere search actor (toRepositoryFilters query) row = askedButText js raw actor row := by
  have severities : (visibilityScope actor row && decide (row.severity ∈
      effectiveSeverities actor query.severity)) =
        (canViewSeverity actor row.severity && listed raw "severity" row.severity.text) := by
    rw [← oneOf_eq_listed severityText_injective read.severity, Bool.eq_iff_iff]
    simp [effectiveSeverities_iff, ← canViewSeverity_eq_visibilityScope]
  unfold buildWhere askedButText toRepositoryFilters
  dsimp only
  rw [severities, oneOf_eq_listed stageText_injective read.stage,
    oneOf_eq_listed incidentTypeText_injective read.type,
    whenSet_eq_flagged read.assignedToMe, whenSet_eq_flagged read.reportedByMe,
    whenSet_eq_flagged read.unacknowledged, whenSet_eq_flagged read.escalatedOnly,
    optionalText_eq_dated read.from_, optionalText_eq_dated read.to_]
  simp [Option.all_map]

/-! ### What the list shows -/

theorem filter_eq_of_length {α : Type} {rows : List α} {narrow wide : α → Bool}
    (within : ∀ row ∈ rows, narrow row = true → wide row = true)
    (length : (rows.filter wide).length = (rows.filter narrow).length) :
    ∀ row ∈ rows, wide row = true → narrow row = true := by
  have sub : (rows.filter narrow).Sublist (rows.filter wide) := by
    have both : rows.filter narrow = (rows.filter wide).filter narrow := by
      rw [List.filter_filter]
      apply List.filter_congr
      intro row among
      cases narrowed : narrow row with
      | false => rfl
      | true => simp [within row among narrowed]
    rw [both]
    exact List.filter_sublist
  have same := sub.eq_of_length length.symm
  intro row among wider
  have member : row ∈ rows.filter wide := List.mem_filter.mpr ⟨among, wider⟩
  rw [← same] at member
  exact (List.mem_filter.mp member).2

theorem list_totalItems {js : JsRuntime} {raw : QueryString} {query : ListIncidentsQuery js}
    (read : ReadFrom js raw query) (search : TextSearch) (ties : TieOrder) (store : Store)
    (actor : Actor) : (list search ties store actor query).totalItems =
      (store.incidents.filter (askedButText js raw actor)).length := by
  rw [← funext fun row => buildWhere_eq read search actor row]
  rfl

/-- What the list shows: the incidents that meet everything but the text, in the order asked for. -/
theorem list_shows_askedButText {js : JsRuntime} {raw : QueryString}
    {query : ListIncidentsQuery js} (read : ReadFrom js raw query) (search : TextSearch)
    (ties : TieOrder) (store : Store) (actor : Actor) :
    ∃ rows : List Incident, rows.Perm (store.incidents.filter (askedButText js raw actor)) ∧
      rows.Pairwise (fun row next =>
        orderValue ⟨query.sort, query.order⟩ row ≤ orderValue ⟨query.sort, query.order⟩ next) ∧
      (list search ties store actor query).totalItems = rows.length ∧
      (list search ties store actor query).items =
        ((rows.drop ((query.page - 1) * query.pageSize)).take query.pageSize).map
          fun row => toIncidentListItem (joinListRow store row) := by
  have selected : buildWhere search actor (toRepositoryFilters query) =
      askedButText js raw actor := funext fun row => buildWhere_eq read search actor row
  -- the rows in the order of the query, ties as the database breaks them
  let order := orderValue ⟨query.sort, query.order⟩
  refine ⟨Keyset.sortOn (tied ties order) (store.incidents.filter (askedButText js raw actor)),
    Keyset.sortOn_perm _ _, ?_, ?_, ?_⟩
  · apply (Keyset.sortOn_sorted _ _).imp
    intro row next before
    exact Prod.Lex.monotone_fst_ofLex before
  · rw [Keyset.length_sortOn, list_totalItems read]
  · rw [← selected]
    simp only [list, listResponse, countAndFindPage, findPage, buildOffsetPage, List.map_map]
    rfl

/-- A text that holds of every incident left by the other filters takes none away. -/
theorem filter_asked {js : JsRuntime} {search : TextSearch} {raw : QueryString} {actor : Actor}
    {store : Store} (void : textAsked raw = "" ∨ ∀ row ∈ store.incidents,
      askedButText js raw actor row = true → matchesText search (textAsked raw) row = true) :
    store.incidents.filter (asked js search raw actor) =
      store.incidents.filter (askedButText js raw actor) := by
  apply List.filter_congr
  intro row among
  unfold asked
  rcases void with noText | matched
  · simp [noText]
  · cases but : askedButText js raw actor row with
    | false => rfl
    | true => simp [matched row among but]

/-- The list is what was asked for exactly when no text was, or the text holds of every incident
that meets the other filters. -/
theorem list_is_what_was_asked_iff (js : JsRuntime) (raw : QueryString)
    (query : ListIncidentsQuery js) (accepted : listIncidentsQuerySchema js raw = some query)
    (search : TextSearch) (ties : TieOrder) (store : Store) (actor : Actor) :
    ListsWhatIsAsked search ties store actor raw query ↔
      textAsked raw = "" ∨ ∀ row ∈ store.incidents, askedButText js raw actor row = true →
        matchesText search (textAsked raw) row = true := by
  have read := listIncidentsQuerySchema_ok accepted
  constructor
  · rintro ⟨rows, perm, _, total, _⟩
    by_cases noText : textAsked raw = ""
    · exact Or.inl noText
    · right
      -- the count is taken without the text
      have length : (store.incidents.filter (askedButText js raw actor)).length =
          (store.incidents.filter (asked js search raw actor)).length := by
        rw [← list_totalItems read search ties, total, perm.length_eq]
      intro row among but
      have all := filter_eq_of_length (fun row _ met => (Bool.and_eq_true _ _ |>.mp met).1) length
        row among but
      have text := (Bool.and_eq_true _ _ |>.mp all).2
      simpa [noText] using text
  · intro void
    unfold ListsWhatIsAsked
    rw [filter_asked void]
    exact list_shows_askedButText read search ties store actor

/-! ### Two queries -/

/-- Containment character by character, upper and lower case of the basic letters. -/
def plainSearch : TextSearch where
  contains text part := text.toList.tails.any part.toList.isPrefixOf
  containsInsensitive text part :=
    (text.toList.map Char.toLower).tails.any (part.toList.map Char.toLower).isPrefixOf
  toUpperCase text := String.ofList (text.toList.map Char.toUpper)

/-- Two severities in one parameter, a flag that is off and a text of blanks. -/
def highBandQuery : QueryString :=
  [("severity", .one "HIGH,CRITICAL"), ("escalatedOnly", .one "false"), ("q", .one "  ")]

theorem list_is_what_was_asked_iff_sample :
    ∃ query, listIncidentsQuerySchema samplePlatform.js highBandQuery = some query ∧
      ListsWhatIsAsked plainSearch samplePlatform.ties sampleStore ⟨"manager", .triageManager, 4⟩
        highBandQuery query := by
  have valid : (listIncidentsQuerySchema samplePlatform.js highBandQuery).isSome = true := by
    decide +kernel
  obtain ⟨query, accepted⟩ := Option.isSome_iff_exists.mp valid
  exact ⟨query, accepted, (list_is_what_was_asked_iff samplePlatform.js highBandQuery query accepted
    plainSearch samplePlatform.ties sampleStore ⟨"manager", .triageManager, 4⟩).mpr
      (Or.inl (by decide +kernel))⟩

/-- A text that no incident contains lists them all. -/
theorem list_ignores_text :
    ¬ ∀ (js : JsRuntime) (raw : QueryString) (query : ListIncidentsQuery js),
      listIncidentsQuerySchema js raw = some query →
      ∀ (search : TextSearch) (ties : TieOrder) (store : Store) (actor : Actor),
        ListsWhatIsAsked search ties store actor raw query := by
  intro exact_
  have valid : (listIncidentsQuerySchema samplePlatform.js [("q", .one "forklift")]).isSome =
      true := by decide +kernel
  obtain ⟨query, accepted⟩ := Option.isSome_iff_exists.mp valid
  obtain ⟨rows, perm, _, total, _⟩ := exact_ samplePlatform.js _ query accepted plainSearch
    samplePlatform.ties sampleStore ⟨"manager", .triageManager, 4⟩
  have none_ : sampleStore.incidents.filter
      (asked samplePlatform.js plainSearch [("q", .one "forklift")]
        ⟨"manager", .triageManager, 4⟩) = [] := by decide +kernel
  have both : (sampleStore.incidents.filter (askedButText samplePlatform.js
      [("q", .one "forklift")] ⟨"manager", .triageManager, 4⟩)).length = 2 := by decide +kernel
  rw [none_] at perm
  rw [list_totalItems (listIncidentsQuerySchema_ok accepted), both, perm.length_eq] at total
  simp at total

end IncidentApi.Properties
