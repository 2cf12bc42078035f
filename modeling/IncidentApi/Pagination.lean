import IncidentApi.Errors
import Mathlib.Data.String.Basic

/-!
# Pagination

The offset envelope and the tagged keyset cursors of `core/pagination.ts`. What the platform does
with text (`Buffer`, `JSON`, `Date`) is a parameter: `JsRuntime`.
-/
namespace IncidentApi

structure OffsetPage (T : Type) where
  items : List T
  page : Nat
  pageSize : Nat
  totalItems : Nat
  totalPages : Nat

/-- `Math.ceil(totalItems / pageSize)`, and at least one page. -/
def buildOffsetPage {T : Type} (items : List T) (totalItems page pageSize : Nat) : OffsetPage T :=
  ⟨items, page, pageSize, totalItems, max 1 ((totalItems + pageSize - 1) / pageSize)⟩

structure CursorPage (T : Type) where
  items : List T
  nextCursor : Option String
  hasMore : Bool

/-- The parts of the JavaScript platform the cursors, date filters and mappers go through: base64url
and JSON both ways, `new Date(value)` where it is valid, `toISOString`, and `Number(value)` as JSON
prints it. -/
structure JsRuntime where
  encode : Json → String
  decode : String → Option Json
  newDate : Json → Option Date
  toISOString : Date → String
  number : Json → Json

def createdAtIdKey : String := "createdAt.id"

def escalationFeedKey : String := "level.highSeveritySince.id"

def occurredAtIdKey : String := "occurredAt.id"

def Json.field (fields : Payload) (name : String) : Option Json :=
  (fields.find? fun field => field.1 = name).map (·.2)

/-- `decodeCursor`: the `v` of an object whose `k` is the expected tag. -/
def decodeCursor (js : JsRuntime) (raw expectedKey : String) : Except AppError (List Json) :=
  match js.decode raw with
  | some (.obj fields) =>
    match Json.field fields "k", Json.field fields "v" with
    | some (.str k), some (.arr v) =>
      if k = expectedKey then .ok v else .error CursorSortMismatchError
    | _, _ => .error CursorSortMismatchError
  | _ => .error CursorSortMismatchError

def encodeCursor (js : JsRuntime) (k : String) (v : List Json) : String :=
  js.encode (.obj [("k", .str k), ("v", .arr v)])

/-- A position in a list sorted by an instant and an id. An id that the cursor leaves out is an
`undefined` in the `where` clause, which Prisma drops. -/
structure TimeIdCursor where
  at_ : Date
  id : Option Id

/-- The second element of a time-and-id cursor as Prisma takes it: text, or left out. -/
def cursorId : Option Json → Except AppError (Option Id)
  | some (.str id) => .ok (some id)
  | none => .ok none
  | some _ => .error InternalError

/-- `decodeCreatedAtIdCursor` and `decodeOccurredAtIdCursor`. Values that are no valid date or
text reach Prisma, which refuses the query. -/
def decodeTimeIdCursor (js : JsRuntime) (key raw : String) : Except AppError TimeIdCursor := do
  let v ← decodeCursor js raw key
  match v[0]?.bind js.newDate with
  | none => .error InternalError
  | some instant => return ⟨instant, ← cursorId v[1]?⟩

def decodeCreatedAtIdCursor (js : JsRuntime) (raw : String) : Except AppError TimeIdCursor :=
  decodeTimeIdCursor js createdAtIdKey raw

def decodeOccurredAtIdCursor (js : JsRuntime) (raw : String) : Except AppError TimeIdCursor :=
  decodeTimeIdCursor js occurredAtIdKey raw

/-- The object both time-and-id decoders return, cast and unchecked: `none` is an invalid
date in the one place and `undefined` in the other. -/
structure TimeIdValues where
  at_ : Option Date
  id : Option Json

def timeIdValues (js : JsRuntime) (key raw : String) : Except AppError TimeIdValues := do
  let v ← decodeCursor js raw key
  return ⟨v[0]?.bind js.newDate, v[1]?⟩

/-- What a query makes of the returned object. -/
def TimeIdValues.queried (values : TimeIdValues) : Except AppError TimeIdCursor :=
  match values.at_ with
  | none => .error InternalError
  | some instant => return ⟨instant, ← cursorId values.id⟩

theorem decodeTimeIdCursor_eq (js : JsRuntime) (key raw : String) :
    decodeTimeIdCursor js key raw = timeIdValues js key raw >>= TimeIdValues.queried := by
  unfold decodeTimeIdCursor timeIdValues
  cases decodeCursor js raw key with
  | error refused => rfl
  | ok v => rfl

def encodeCreatedAtIdCursor (js : JsRuntime) (createdAt : Date) (id : Id) : String :=
  encodeCursor js createdAtIdKey [.str (js.toISOString createdAt), .str id]

def encodeOccurredAtIdCursor (js : JsRuntime) (occurredAt : Date) (id : Id) : String :=
  encodeCursor js occurredAtIdKey [.str (js.toISOString occurredAt), .str id]

/-- `createdAtIdCursorWhere` and `occurredAtIdCursorWhere`. -/
def beforeTimeId (cursor : TimeIdCursor) (instant : Date) (id : Id) : Bool :=
  instant < cursor.at_ ||
    (instant = cursor.at_ && match cursor.id with
      | some bound => id < bound
      | none => true)

/-- A position in the escalation feed. -/
structure FeedCursor where
  level : Option Int
  since : Date
  id : Option Id

def cursorLevel : Option Json → Except AppError (Option Int)
  | some (.num level) => .ok (some level)
  | none => .ok none
  | some _ => .error InternalError

def decodeEscalationFeedCursor (js : JsRuntime) (raw : String) : Except AppError FeedCursor := do
  let v ← decodeCursor js raw escalationFeedKey
  let level ← cursorLevel v[0]?
  match v[1]?.bind js.newDate with
  | none => .error InternalError
  | some since => return ⟨level, since, ← cursorId v[2]?⟩

/-- The object `decodeEscalationFeedCursor` returns, cast and unchecked. -/
structure FeedValues where
  level : Option Json
  since : Option Date
  id : Option Json

def escalationFeedValues (js : JsRuntime) (raw : String) : Except AppError FeedValues := do
  let v ← decodeCursor js raw escalationFeedKey
  return ⟨v[0]?, v[1]?.bind js.newDate, v[2]?⟩

def FeedValues.queried (values : FeedValues) : Except AppError FeedCursor := do
  let level ← cursorLevel values.level
  match values.since with
  | none => .error InternalError
  | some since => return ⟨level, since, ← cursorId values.id⟩

theorem decodeEscalationFeedCursor_eq (js : JsRuntime) (raw : String) :
    decodeEscalationFeedCursor js raw = escalationFeedValues js raw >>= FeedValues.queried := by
  unfold decodeEscalationFeedCursor escalationFeedValues
  cases decodeCursor js raw escalationFeedKey with
  | error refused => rfl
  | ok v => rfl

def encodeEscalationFeedCursor (js : JsRuntime) (level : Nat) (since : Date) (id : Id) : String :=
  encodeCursor js escalationFeedKey [.num level, .str (js.toISOString since), .str id]

/-- `escalationFeedCursorWhere`; a bound that is left out drops its condition. -/
def afterFeedCursor (cursor : FeedCursor) (level : Nat) (since : Option Date) (id : Id) : Bool :=
  let below := match cursor.level with
    | some bound => (level : Int) < bound
    | none => true
  let same := match cursor.level with
    | some bound => (level : Int) = bound
    | none => true
  let later := match since with
    | some since => cursor.since < since
    | none => false
  let beyond := match cursor.id with
    | some bound => bound < id
    | none => true
  -- At the level of the cursor, a row without a clock is on no later page.
  below || (same && later) || (same && since = some cursor.since && beyond)

/-- The tail of a cursor list: one row more than the page was fetched to learn `hasMore`. -/
def cursorPage {R T : Type} (rows : List R) (pageSize : Nat) (item : R → T) (cursor : R → String) :
    CursorPage T :=
  let hasMore := pageSize < rows.length
  -- drop the extra row again
  let page := if hasMore then rows.take pageSize else rows
  { items := page.map item
    hasMore := hasMore
    nextCursor := if hasMore then page.getLast?.map cursor else none }

/-- A cursor page holds items of its rows. -/
theorem mem_cursorPage {R T : Type} {rows : List R} {pageSize : Nat} {item : R → T}
    {cursor : R → String} {found : T}
    (member : found ∈ (cursorPage rows pageSize item cursor).items) :
    ∃ row ∈ rows, item row = found := by
  obtain ⟨row, among, equal⟩ := List.mem_map.mp member
  refine ⟨row, ?_, equal⟩
  split at among
  -- the extra row that says whether there is a next page is dropped
  · exact List.mem_of_mem_take among
  · exact among

theorem cursorPage_map {R S T : Type} (f : R → S) (rows : List R) (pageSize : Nat) (item : S → T)
    (cursor : S → String) :
    cursorPage (rows.map f) pageSize item cursor =
      cursorPage rows pageSize (fun row => item (f row)) fun row => cursor (f row) := by
  unfold cursorPage
  rw [List.length_map]
  by_cases more : pageSize < rows.length
  · simp only [more, if_true, decide_true, ← List.map_take, List.getLast?_map, Option.map_map,
      List.map_map, Function.comp_def]
  · simp only [more, if_false, decide_false, List.map_map, Function.comp_def]

theorem cursorPage_items {R T : Type} (f : R → T) (rows : List R) (pageSize : Nat)
    (cursor : R → String) :
    cursorPage rows pageSize f cursor =
      { items := (cursorPage rows pageSize (fun row => row) cursor).items.map f
        nextCursor := (cursorPage rows pageSize (fun row => row) cursor).nextCursor
        hasMore := (cursorPage rows pageSize (fun row => row) cursor).hasMore } := by
  simp [cursorPage]

end IncidentApi
