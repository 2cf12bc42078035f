import IncidentApi.Listings

/-!
# Query strings

The parameters of `pagination.contract.ts` and `ListIncidentsQuerySchema`: what the query string of
`GET /incidents` spells, or a refusal of the request.
-/
namespace IncidentApi

/-- A parameter of `req.query`: a repeated key is an array. -/
inductive QueryValue where
  | one (text : String)
  | many (texts : List String)
  deriving DecidableEq, Repr

abbrev QueryString := List (String × QueryValue)

def QueryString.value (raw : QueryString) (key : String) : Option QueryValue :=
  (raw.find? fun field => field.1 = key).map (·.2)

def QueryValue.texts : QueryValue → List String
  | .one text => [text]
  | .many texts => texts

def QueryValue.json : QueryValue → Json
  | .one text => .str text
  | .many texts => .arr (texts.map .str)

/-! ### Parameters -/

/-- The pieces between the commas of all spellings, without the empty ones. -/
def csvTexts (value : QueryValue) : List String :=
  (value.texts.flatMap fun text => (text.toList.splitOn ',').map String.ofList).filter (· ≠ "")

/-- `z.enum`. -/
def enumValue {T : Type} (values : List T) (text : T → String) (given : String) : Option T :=
  values.find? fun value => text value = given

def csvArrayQueryParam {T : Type} (schema : String → Option T) :
    Option QueryValue → Option (Option (List T))
  | none => some none
  | some value => ((csvTexts value).mapM schema).map some

def booleanQueryParam : Option QueryValue → Option (Option Bool)
  | none => some none
  | some value =>
    if value = .one "true" then some (some true)
    else if value = .one "false" then some (some false) else none

/-- An optional `z.string()` with a further check. -/
def optionalText {T : Type} (schema : String → Option T) :
    Option QueryValue → Option (Option T)
  | none => some none
  | some (.one text) => (schema text).map some
  | some (.many _) => none

/-- A `z.enum` with a default. -/
def enumParam {T : Type} (values : List T) (text : T → String) (fallback : T) :
    Option QueryValue → Option T
  | none => some fallback
  | some (.one given) => enumValue values text given
  | some (.many _) => none

/-- `z.coerce.number().int().min(1)` with a default. -/
def countParam (js : JsRuntime) (fallback : Nat) : Option QueryValue → Option Nat
  | none => some fallback
  | some value =>
    -- `int()` lets whole numbers through, and `min(1)` the positive ones
    match js.number value.json with
    | .num (.ofNat n) => if 1 ≤ n then some n else none
    | _ => none

def defaultPageSize : Nat := 25

def offsetQuerySchema (js : JsRuntime) (raw : QueryString) : Option OffsetQuery := do
  let page ← countParam js 1 (raw.value "page")
  let pageSize ← countParam js defaultPageSize (raw.value "pageSize")
  if bounds : 1 ≤ page ∧ 1 ≤ pageSize ∧ pageSize ≤ 100 then
    some ⟨page, pageSize, bounds.1, bounds.2.1, bounds.2.2⟩
  else none

/-- `IsoDateStringSchema`. -/
def isoDateString (js : JsRuntime) (text : String) : Option (DateParam js) :=
  match valid : js.newDate (.str text) with
  | some date => some ⟨text, date, valid⟩
  | none => none

/-! ### The query of the incident list -/

def SortField.text : SortField → String
  | .createdAt => "createdAt"
  | .severity => "severity"
  | .updatedAt => "updatedAt"

def SortOrder.text : SortOrder → String
  | .asc => "asc"
  | .desc => "desc"

def listIncidentsQueryKeys : List String :=
  ["page", "pageSize", "severity", "stage", "type", "assignedToMe", "reportedByMe",
    "unacknowledged", "escalatedOnly", "from", "to", "q", "sort", "order"]

/-- `ListIncidentsQuerySchema`, which is strict: an unknown key is refused. -/
def listIncidentsQuerySchema (js : JsRuntime) (raw : QueryString) :
    Option (ListIncidentsQuery js) :=
  if raw.all fun field => field.1 ∈ listIncidentsQueryKeys then do
    let offset ← offsetQuerySchema js raw
    let severity ← csvArrayQueryParam (enumValue severityValues Severity.text)
      (raw.value "severity")
    let stage ← csvArrayQueryParam (enumValue stageValues Stage.text) (raw.value "stage")
    let type ← csvArrayQueryParam (enumValue incidentTypeValues IncidentType.text)
      (raw.value "type")
    let assignedToMe ← booleanQueryParam (raw.value "assignedToMe")
    let reportedByMe ← booleanQueryParam (raw.value "reportedByMe")
    let unacknowledged ← booleanQueryParam (raw.value "unacknowledged")
    let escalatedOnly ← booleanQueryParam (raw.value "escalatedOnly")
    let from_ ← optionalText (isoDateString js) (raw.value "from")
    let to_ ← optionalText (isoDateString js) (raw.value "to")
    let q ← optionalText (TrimmedText.parse 0 120) (raw.value "q")
    let sort ← enumParam [.createdAt, .severity, .updatedAt] SortField.text .createdAt
      (raw.value "sort")
    let order ← enumParam [.asc, .desc] SortOrder.text .desc (raw.value "order")
    some ⟨offset, severity, stage, type, assignedToMe, reportedByMe, unacknowledged, escalatedOnly,
      from_, to_, q, sort, order⟩
  else none

/-- Each filter of the query is read from the key of its name. -/
structure ReadFrom (js : JsRuntime) (raw : QueryString) (query : ListIncidentsQuery js) :
    Prop where
  severity : csvArrayQueryParam (enumValue severityValues Severity.text)
    (raw.value "severity") = some query.severity
  stage : csvArrayQueryParam (enumValue stageValues Stage.text) (raw.value "stage") =
    some query.stage
  type : csvArrayQueryParam (enumValue incidentTypeValues IncidentType.text) (raw.value "type") =
    some query.type
  assignedToMe : booleanQueryParam (raw.value "assignedToMe") = some query.assignedToMe
  reportedByMe : booleanQueryParam (raw.value "reportedByMe") = some query.reportedByMe
  unacknowledged : booleanQueryParam (raw.value "unacknowledged") = some query.unacknowledged
  escalatedOnly : booleanQueryParam (raw.value "escalatedOnly") = some query.escalatedOnly
  from_ : optionalText (isoDateString js) (raw.value "from") = some query.from_
  to_ : optionalText (isoDateString js) (raw.value "to") = some query.to_
  q : optionalText (TrimmedText.parse 0 120) (raw.value "q") = some query.q

theorem listIncidentsQuerySchema_ok {js : JsRuntime} {raw : QueryString}
    {query : ListIncidentsQuery js} (accepted : listIncidentsQuerySchema js raw = some query) :
    ReadFrom js raw query := by
  unfold listIncidentsQuerySchema at accepted
  split at accepted
  · obtain ⟨offset, _, accepted⟩ := Option.bind_eq_some_iff.mp accepted
    obtain ⟨severity, readSeverity, accepted⟩ := Option.bind_eq_some_iff.mp accepted
    obtain ⟨stage, readStage, accepted⟩ := Option.bind_eq_some_iff.mp accepted
    obtain ⟨type, readType, accepted⟩ := Option.bind_eq_some_iff.mp accepted
    obtain ⟨assigned, readAssigned, accepted⟩ := Option.bind_eq_some_iff.mp accepted
    obtain ⟨reported, readReported, accepted⟩ := Option.bind_eq_some_iff.mp accepted
    obtain ⟨unacknowledged, readUnacknowledged, accepted⟩ := Option.bind_eq_some_iff.mp accepted
    obtain ⟨escalated, readEscalated, accepted⟩ := Option.bind_eq_some_iff.mp accepted
    obtain ⟨from_, readFrom, accepted⟩ := Option.bind_eq_some_iff.mp accepted
    obtain ⟨to_, readTo, accepted⟩ := Option.bind_eq_some_iff.mp accepted
    obtain ⟨q, readQ, accepted⟩ := Option.bind_eq_some_iff.mp accepted
    obtain ⟨sort, _, accepted⟩ := Option.bind_eq_some_iff.mp accepted
    obtain ⟨order, _, accepted⟩ := Option.bind_eq_some_iff.mp accepted
    obtain rfl := Option.some.inj accepted
    exact ⟨readSeverity, readStage, readType, readAssigned, readReported, readUnacknowledged,
      readEscalated, readFrom, readTo, readQ⟩
  · simp at accepted

/-! ### What a list parameter supplies -/

theorem severityText_injective : Function.Injective Severity.text := by
  intro first second same
  revert same
  cases first <;> cases second <;> decide

theorem stageText_injective : Function.Injective Stage.text := by
  intro first second same
  revert same
  cases first <;> cases second <;> decide

theorem incidentTypeText_injective : Function.Injective IncidentType.text := by
  intro first second same
  revert same
  cases first <;> cases second <;> decide

theorem enumValue_eq_some {T : Type} {values : List T} {text : T → String} {given : String}
    {value : T} (read : enumValue values text given = some value) : text value = given := by
  have found := List.find?_some read
  simpa using found

/-- An accepted list of values spells what it was read from. -/
theorem map_mapM_enumValue {T : Type} {values : List T} {text : T → String} :
    ∀ {texts : List String} {read : List T}, texts.mapM (enumValue values text) = some read →
      read.map text = texts := by
  intro texts
  induction texts with
  | nil =>
    intro read accepted
    obtain rfl : [] = read := Option.some.inj accepted
    rfl
  | cons given rest ih =>
    intro read accepted
    rw [List.mapM_cons] at accepted
    obtain ⟨first, readFirst, accepted⟩ := Option.bind_eq_some_iff.mp accepted
    obtain ⟨others, readOthers, accepted⟩ := Option.bind_eq_some_iff.mp accepted
    obtain rfl : first :: others = read := Option.some.inj accepted
    rw [List.map_cons, ih readOthers, enumValue_eq_some readFirst]

end IncidentApi
