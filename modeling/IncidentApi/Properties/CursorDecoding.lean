import IncidentApi.Pagination

/-!
# What the cursor decoders accept

The three decoders check the tag and that `v` is an array, and cast what the array holds. So they
keep their result types on the texts whose `v` is laid out as the encoder of the surface lays it
out, and on no other text they accept.
-/
namespace IncidentApi

inductive CursorSurface where
  | createdAtId | occurredAtId | escalationFeed
  deriving DecidableEq

namespace CursorSurface

def key : CursorSurface → String
  | createdAtId => createdAtIdKey
  | occurredAtId => occurredAtIdKey
  | escalationFeed => escalationFeedKey

/-- The array a surface prints for a position; only the feed has a level. -/
def printed (surface : CursorSurface) (js : JsRuntime) (level : Int) (instant : Date) (id : Id) :
    List Json :=
  match surface with
  | createdAtId | occurredAtId => [.str (js.toISOString instant), .str id]
  | escalationFeed => [.num level, .str (js.toISOString instant), .str id]

def encoded (surface : CursorSurface) (js : JsRuntime) (level : Int) (instant : Date) (id : Id) :
    String :=
  encodeCursor js surface.key (surface.printed js level instant id)

/-- The decoder of the surface throws the error of a foreign cursor. -/
def Refuses (surface : CursorSurface) (js : JsRuntime) (raw : String) : Prop :=
  match surface with
  | createdAtId => timeIdValues js createdAtIdKey raw = .error CursorSortMismatchError
  | occurredAtId => timeIdValues js occurredAtIdKey raw = .error CursorSortMismatchError
  | escalationFeed => escalationFeedValues js raw = .error CursorSortMismatchError

/-- The decoder of the surface returns a valid date, a text for an id and, for the feed, an integer
level. -/
def Returns (surface : CursorSurface) (js : JsRuntime) (raw : String) (level : Int)
    (instant : Date) (id : Id) : Prop :=
  match surface with
  | createdAtId => timeIdValues js createdAtIdKey raw = .ok ⟨some instant, some (.str id)⟩
  | occurredAtId => timeIdValues js occurredAtIdKey raw = .ok ⟨some instant, some (.str id)⟩
  | escalationFeed =>
    escalationFeedValues js raw = .ok ⟨some (.num level), some instant, some (.str id)⟩

end CursorSurface

theorem encoded_eq (js : JsRuntime) (level : Nat) (instant : Date) (id : Id) :
    CursorSurface.createdAtId.encoded js level instant id = encodeCreatedAtIdCursor js instant id ∧
    CursorSurface.occurredAtId.encoded js level instant id =
      encodeOccurredAtIdCursor js instant id ∧
    CursorSurface.escalationFeed.encoded js level instant id =
      encodeEscalationFeedCursor js level instant id :=
  ⟨rfl, rfl, rfl⟩

/-- The `k` and the `v` of the object in a cursor text. -/
def cursorParts (js : JsRuntime) (raw : String) : Option (Option Json × Option Json) :=
  match js.decode raw with
  | some (.obj fields) => some (Json.field fields "k", Json.field fields "v")
  | _ => none

/-- The text is a tagged cursor of the surface with this array. -/
def CarriesArray (js : JsRuntime) (surface : CursorSurface) (raw : String) (v : List Json) : Prop :=
  cursorParts js raw = some (some (.str surface.key), some (.arr v))

/-- The decoder refuses the text, or returns a position whose cursor has the same `k` and `v`. -/
def DecodesCursor (js : JsRuntime) (surface : CursorSurface) (raw : String) : Prop :=
  surface.Refuses js raw ∨ ∃ level instant id, surface.Returns js raw level instant id ∧
    cursorParts js (surface.encoded js level instant id) = cursorParts js raw

/-- `JSON.parse` gives back what `JSON.stringify` printed. -/
def ReadsBack (js : JsRuntime) (key : String) (v : List Json) : Prop :=
  js.decode (encodeCursor js key v) = some (.obj [("k", .str key), ("v", .arr v)])

/-- The array holds what the surface prints: the text of an instant as `toISOString` spells it, an
id that is text and, for the feed, an integer first. -/
def LaidOut (js : JsRuntime) (surface : CursorSurface) (v : List Json) : Prop :=
  ∃ level instant id, v = surface.printed js level instant id ∧
    js.newDate (.str (js.toISOString instant)) = some instant

/-! ### The tag and the array -/

theorem decodeCursor_ok_iff {js : JsRuntime} {raw key : String} {v : List Json} :
    decodeCursor js raw key = .ok v ↔
      cursorParts js raw = some (some (.str key), some (.arr v)) := by
  unfold decodeCursor cursorParts
  rcases js.decode raw with _ | json
  · simp
  cases json with
  | obj fields =>
    simp only [Option.some.injEq, Prod.mk.injEq]
    constructor
    · intro accepted
      split at accepted
      · rename_i tag items k held
        split at accepted
        next same => exact ⟨same ▸ k, held.trans (congrArg _ (congrArg _ (Except.ok.inj accepted)))⟩
        · cases accepted
      · cases accepted
    · rintro ⟨k, held⟩
      simp only [k, held, if_true]
  | _ => simp

theorem decodeCursor_error {js : JsRuntime} {raw key : String} {refused : AppError}
    (failed : decodeCursor js raw key = .error refused) : refused = CursorSortMismatchError := by
  unfold decodeCursor at failed
  split at failed
  · split at failed
    · split at failed
      · cases failed
      · exact (Except.error.inj failed).symm
    · exact (Except.error.inj failed).symm
  · exact (Except.error.inj failed).symm

theorem cursorParts_of_readsBack {js : JsRuntime} {key : String} {v : List Json}
    (back : ReadsBack js key v) :
    cursorParts js (encodeCursor js key v) = some (some (.str key), some (.arr v)) := by
  unfold cursorParts
  rw [back]
  rfl

/-! ### One decoder -/

/-- A decoder refuses exactly the texts that are no tagged cursor of its surface. -/
theorem refuses_iff (js : JsRuntime) (surface : CursorSurface) (raw : String) :
    surface.Refuses js raw ↔ ∀ v, ¬ CarriesArray js surface raw v := by
  have tagged : (decodeCursor js raw surface.key = .error CursorSortMismatchError) ↔
      ∀ v, ¬ CarriesArray js surface raw v := by
    constructor
    · intro refused v carries
      rw [decodeCursor_ok_iff.mpr carries] at refused
      cases refused
    · intro foreign
      cases decoded : decodeCursor js raw surface.key with
      | error refused => rw [decodeCursor_error decoded]
      | ok v => exact absurd (decodeCursor_ok_iff.mp decoded) (foreign v)
  rw [← tagged]
  cases surface with
  | createdAtId | occurredAtId =>
    simp only [CursorSurface.Refuses, CursorSurface.key, timeIdValues]
    cases decodeCursor js raw _ <;> simp [bind, Except.bind, pure, Except.pure]
  | escalationFeed =>
    simp only [CursorSurface.Refuses, CursorSurface.key, escalationFeedValues]
    cases decodeCursor js raw _ <;> simp [bind, Except.bind, pure, Except.pure]

/-- On a text it accepts, a decoder casts what stands in the array. -/
theorem returns_iff {js : JsRuntime} {surface : CursorSurface} {raw : String} {v : List Json}
    (carries : CarriesArray js surface raw v) (level : Int) (instant : Date) (id : Id) :
    surface.Returns js raw level instant id ↔
      match surface with
      | .createdAtId | .occurredAtId =>
        v[0]?.bind js.newDate = some instant ∧ v[1]? = some (.str id)
      | .escalationFeed =>
        v[0]? = some (.num level) ∧ v[1]?.bind js.newDate = some instant ∧
          v[2]? = some (.str id) := by
  have decoded := decodeCursor_ok_iff.mpr carries
  cases surface with
  | createdAtId | occurredAtId =>
    simp only [CursorSurface.key] at decoded
    simp [CursorSurface.Returns, timeIdValues, decoded, bind, Except.bind, pure, Except.pure]
  | escalationFeed =>
    simp only [CursorSurface.key] at decoded
    simp [CursorSurface.Returns, escalationFeedValues, decoded, bind, Except.bind, pure,
      Except.pure]

theorem returns_printed {js : JsRuntime} {surface : CursorSurface} {raw : String} {level : Int}
    {instant : Date} {id : Id}
    (carries : CarriesArray js surface raw (surface.printed js level instant id))
    (canonical : js.newDate (.str (js.toISOString instant)) = some instant) :
    surface.Returns js raw level instant id := by
  rw [returns_iff carries]
  cases surface <;> simp [CursorSurface.printed, canonical]

/-- A returned date is the date its own `toISOString` names, once the array spells it that way. -/
theorem newDate_of_returns {js : JsRuntime} {surface : CursorSurface} {raw : String} {level : Int}
    {instant : Date} {id : Id}
    (carries : CarriesArray js surface raw (surface.printed js level instant id))
    (returned : surface.Returns js raw level instant id) :
    js.newDate (.str (js.toISOString instant)) = some instant := by
  rw [returns_iff carries] at returned
  cases surface <;> simpa [CursorSurface.printed] using returned

theorem printed_tag_ne {surface other : CursorSurface} (different : surface ≠ other) :
    surface.key ≠ other.key := by
  cases surface <;> cases other <;> first | exact absurd rfl different | decide

/-- A decoder hands back a position that prints the same cursor exactly when the text is no tagged
cursor of the surface or its array is laid out as the surface prints one; and what one surface
printed, the other two refuse. -/
theorem cursor_decoded_iff (js : JsRuntime) (surface : CursorSurface) :
    (∀ raw, (∀ level instant id, surface.Returns js raw level instant id →
        ReadsBack js surface.key (surface.printed js level instant id)) →
      (DecodesCursor js surface raw ↔ ∀ v, CarriesArray js surface raw v → LaidOut js surface v)) ∧
    ∀ level instant id, ReadsBack js surface.key (surface.printed js level instant id) →
      ∀ other, other ≠ surface → other.Refuses js (surface.encoded js level instant id) := by
  refine ⟨fun raw back => ⟨?_, ?_⟩, ?_⟩
  · rintro (refused | ⟨level, instant, id, returned, same⟩) v carries
    · exact absurd carries ((refuses_iff js surface raw).mp refused v)
    · -- the cursor printed again has the array of `raw`, and its own array is known
      have printed : v = surface.printed js level instant id := by
        have parts := (cursorParts_of_readsBack (back level instant id returned)).symm.trans
          (same.trans carries)
        simpa using parts.symm
      subst printed
      exact ⟨level, instant, id, rfl, newDate_of_returns carries returned⟩
  · intro laidOut
    by_cases tagged : ∃ v, CarriesArray js surface raw v
    · obtain ⟨v, carries⟩ := tagged
      obtain ⟨level, instant, id, rfl, canonical⟩ := laidOut v carries
      have returned := returns_printed carries canonical
      exact .inr ⟨level, instant, id, returned,
        (cursorParts_of_readsBack (back level instant id returned)).trans carries.symm⟩
    · exact .inl ((refuses_iff js surface raw).mpr (not_exists.mp tagged))
  · intro level instant id back other different
    rw [refuses_iff]
    intro v carries
    -- the text carries the tag of the surface that printed it
    have tags := (cursorParts_of_readsBack back).symm.trans carries
    simp only [Option.some.injEq, Prod.mk.injEq, Json.str.injEq] at tags
    exact printed_tag_ne different tags.1.symm

/-! ### A text with an empty array, and one a surface printed -/

/-- The base64url text of `{"k":"createdAt.id","v":[]}`. -/
def emptyArrayCursor : String := "eyJrIjoiY3JlYXRlZEF0LmlkIiwidiI6W119"

def printedCursor : String :=
  "eyJrIjoib2NjdXJyZWRBdC5pZCIsInYiOlsiMTk3MC0wMS0wMVQwMDowMDowMC4wMDBaIiwiYSJdfQ"

def decodingRuntime : JsRuntime where
  encode json := match json with
    | .obj [_, (_, .arr [])] => emptyArrayCursor
    | _ => printedCursor
  decode raw :=
    if raw = emptyArrayCursor then some (.obj [("k", .str createdAtIdKey), ("v", .arr [])])
    else if raw = printedCursor then
      some (.obj [("k", .str occurredAtIdKey),
        ("v", .arr [.str "1970-01-01T00:00:00.000Z", .str "a"])])
    else none
  newDate json := match json with
    | .str "1970-01-01T00:00:00.000Z" => some 0
    | _ => none
  toISOString _ := "1970-01-01T00:00:00.000Z"
  number := id

theorem cursor_decoded_iff_sample :
    (∀ instant id, CursorSurface.occurredAtId.Returns decodingRuntime printedCursor 0 instant id →
      instant = 0 ∧ id = "a") ∧
    DecodesCursor decodingRuntime .occurredAtId printedCursor ∧
    CursorSurface.createdAtId.Refuses decodingRuntime printedCursor := by
  have carries : CarriesArray decodingRuntime .occurredAtId printedCursor
      [.str "1970-01-01T00:00:00.000Z", .str "a"] := rfl
  have position : ∀ level instant id,
      CursorSurface.occurredAtId.Returns decodingRuntime printedCursor level instant id →
        instant = 0 ∧ id = "a" := by
    intro level instant id returned
    obtain ⟨date, text⟩ := (returns_iff carries level instant id).mp returned
    exact ⟨(Option.some.inj date).symm, (Json.str.inj (Option.some.inj text)).symm⟩
  have back : ∀ level instant id,
      CursorSurface.occurredAtId.Returns decodingRuntime printedCursor level instant id →
        ReadsBack decodingRuntime CursorSurface.occurredAtId.key
          (CursorSurface.occurredAtId.printed decodingRuntime level instant id) := by
    intro level instant id returned
    obtain ⟨rfl, rfl⟩ := position level instant id returned
    rfl
  have settled := cursor_decoded_iff decodingRuntime .occurredAtId
  refine ⟨position 0, (settled.1 printedCursor back).mpr ?_, ?_⟩
  · intro v found
    obtain rfl : [Json.str "1970-01-01T00:00:00.000Z", .str "a"] = v := by
      simpa using carries.symm.trans found
    exact ⟨0, 0, "a", rfl, rfl⟩
  · exact settled.2 0 0 "a" rfl .createdAtId (by decide)

/-- The decoder of notes and notifications accepts an empty array, returns an invalid date and no
id, and the query behind it fails with an internal error. -/
theorem empty_array_decoded :
    timeIdValues decodingRuntime createdAtIdKey emptyArrayCursor = .ok ⟨none, none⟩ ∧
    ¬ DecodesCursor decodingRuntime .createdAtId emptyArrayCursor ∧
    decodeCreatedAtIdCursor decodingRuntime emptyArrayCursor = .error InternalError := by
  have accepted : timeIdValues decodingRuntime createdAtIdKey emptyArrayCursor = .ok ⟨none, none⟩ :=
    rfl
  refine ⟨accepted, ?_, rfl⟩
  rintro (refused | ⟨level, instant, id, returned, -⟩)
  · exact nomatch accepted.symm.trans refused
  · exact nomatch accepted.symm.trans returned

end IncidentApi
