import IncidentApi.Properties.Counters
import Mathlib.Data.Int.ConditionallyCompleteOrder

/-!
# Walks through the feed

A client that follows `nextCursor` sees every row of the feed once, in the order of the feed. With
counters that are the highest levels of their cycles, it sees every escalated incident there is to
acknowledge.
-/
namespace IncidentApi.Properties

/-! ### Pages -/

/-- A client that follows `nextCursor` from page to page. -/
def walkFeed (js : JsRuntime) (store : Store) (actor : Actor) (pageSize : Nat) :
    Nat → Option String → Except AppError (List EscalationFeedItem)
  | 0, _ => .ok []
  | turns + 1, cursor => do
    let page ← listFeed js store actor cursor pageSize
    match page.nextCursor with
    | none => return page.items
    | some next => return page.items ++ (← walkFeed js store actor pageSize turns (some next))

/-- What a cursor relies on: base64url and JSON read back what was printed for a row, and so does
`new Date` the text of a clock. -/
structure ReadsCursors (js : JsRuntime) (store : Store) : Prop where
  empty : js.decode "" = none
  decode : ∀ row ∈ store.incidents, ∀ since, row.highSeveritySince = some since →
    js.decode (encodeEscalationFeedCursor js row.currentEscalationLevel since row.id) =
      some (.obj [("k", .str escalationFeedKey), ("v", .arr [.num row.currentEscalationLevel,
        .str (js.toISOString since), .str row.id])])
  newDate : ∀ row ∈ store.incidents, ∀ since, row.highSeveritySince = some since →
    js.newDate (.str (js.toISOString since)) = some since

/-- The level, clock and id a feed cursor names. -/
def feedCursorAt (position : Nat × Date × Id) : FeedCursor :=
  ⟨some position.1, position.2.1, some position.2.2⟩

def feedPosition (row : Incident) : Option (Nat × Date × Id) :=
  row.highSeveritySince.map fun since => (row.currentEscalationLevel, since, row.id)

def positionKey (position : Nat × Date × Id) : Natᵒᵈ ×ₗ WithTop Date ×ₗ Id :=
  toLex (OrderDual.toDual position.1, toLex ((position.2.1 : WithTop Date), position.2.2))

theorem positionKey_lt (first second : Nat × Date × Id) :
    positionKey first < positionKey second ↔ second.1 < first.1 ∨ second.1 = first.1 ∧
      (first.2.1 < second.2.1 ∨ first.2.1 = second.2.1 ∧ first.2.2 < second.2.2) := by
  simp only [positionKey, Prod.Lex.toLex_lt_toLex, OrderDual.toDual_lt_toDual, WithTop.coe_lt_coe,
    WithTop.coe_inj, OrderDual.toDual_inj, eq_comm]

theorem feedKey_eq {row : Incident} {since : Date} (clock : row.highSeveritySince = some since) :
    feedKey row = positionKey (row.currentEscalationLevel, since, row.id) := by
  rw [feedKey, clock]
  rfl

theorem decode_encode_feedCursor {js : JsRuntime} {store : Store} (reads : ReadsCursors js store)
    {row : Incident} (stored : row ∈ store.incidents) {since : Date}
    (clock : row.highSeveritySince = some since) :
    decodeEscalationFeedCursor js
        (encodeEscalationFeedCursor js row.currentEscalationLevel since row.id) =
      .ok (feedCursorAt (row.currentEscalationLevel, since, row.id)) := by
  have back := reads.decode row stored since clock
  have date := reads.newDate row stored since clock
  simp [decodeEscalationFeedCursor, decodeCursor, back, Json.field, cursorLevel, cursorId, date,
    bind, Except.bind, pure, Except.pure, feedCursorAt]

theorem afterFeedCursor_iff (position : Nat × Date × Id) {row : Incident} {since : Date}
    (clock : row.highSeveritySince = some since) :
    afterFeedCursor (feedCursorAt position) row.currentEscalationLevel row.highSeveritySince
        row.id = true ↔ positionKey position < feedKey row := by
  rw [feedKey_eq clock, positionKey_lt]
  simp only [afterFeedCursor, feedCursorAt, clock, Bool.or_eq_true, Bool.and_eq_true,
    decide_eq_true_eq, Nat.cast_lt, Nat.cast_inj, Option.some.injEq]
  constructor
  · rintro ((below | ⟨same, later⟩) | ⟨⟨same, equal⟩, beyond⟩)
    · exact Or.inl below
    · exact Or.inr ⟨same, Or.inl (of_decide_eq_true later)⟩
    · exact Or.inr ⟨same, Or.inr ⟨equal.symm, beyond⟩⟩
  · rintro (below | ⟨same, later | ⟨equal, beyond⟩⟩)
    · exact Or.inl (Or.inl below)
    · exact Or.inl (Or.inr ⟨same, decide_eq_true later⟩)
    · exact Or.inr ⟨⟨same, equal.symm⟩, beyond⟩

/-- A cursor that `listFeed` has printed is read back. -/
theorem decodeOptional_encode {js : JsRuntime} {store : Store} (reads : ReadsCursors js store)
    {row : Incident} (stored : row ∈ store.incidents) {since : Date}
    (clock : row.highSeveritySince = some since) :
    decodeOptional (decodeEscalationFeedCursor js)
        (some (encodeEscalationFeedCursor js row.currentEscalationLevel since row.id)) =
      .ok ((feedPosition row).map feedCursorAt) := by
  have back := decode_encode_feedCursor reads stored clock
  have printed := reads.decode row stored since clock
  have given : encodeEscalationFeedCursor js row.currentEscalationLevel since row.id ≠ "" := by
    intro empty
    rw [empty, reads.empty] at printed
    simp at printed
  rw [decodeOptional_given _ given, back, feedPosition, clock]
  rfl

def activeRows (store : Store) (actor : Actor) : List Incident :=
  store.incidents.filter (activeEscalationWhere actor)

/-- The rows of one query of the feed, from a position or from the start. -/
def activePage (store : Store) (actor : Actor) (pageSize : Nat)
    (position : Option (Nat × Date × Id)) : List Incident :=
  Keyset.page feedKey (activeRows store actor) pageSize (position.map positionKey)

section Walk
variable {store : Store} (actor : Actor) (pageSize : Nat)
  (fed : ∀ row ∈ store.incidents, FeedRow store.escalationEvents row)

include fed

theorem active_clock {actor : Actor} {row : Incident} (member : row ∈ activeRows store actor) :
    ∃ since, row.highSeveritySince = some since := by
  obtain ⟨stored, active⟩ := List.mem_filter.mp member
  have raised := ((activeEscalationWhere_iff actor row).mp active).2.1
  exact Option.isSome_iff_exists.mp (fed row stored raised).1

theorem findActiveEscalationsPage_rows (position : Option (Nat × Date × Id)) :
    findActiveEscalationsPage store actor (position.map feedCursorAt) pageSize =
      (activePage store actor pageSize position).map (joinListRow store) := by
  have chosen : (store.incidents.filter fun row => activeEscalationWhere actor row &&
      (position.map feedCursorAt).all fun cursor =>
        afterFeedCursor cursor row.currentEscalationLevel row.highSeveritySince row.id) =
      (activeRows store actor).filter fun row =>
        (position.map positionKey).all (· < feedKey row) := by
    rw [activeRows, List.filter_filter]
    refine List.filter_congr fun row stored => ?_
    cases active : activeEscalationWhere actor row with
    | false => simp
    | true =>
      obtain ⟨since, clock⟩ := active_clock fed (List.mem_filter.mpr ⟨stored, active⟩)
      cases position with
      | none => rfl
      | some at_ =>
        have same := afterFeedCursor_iff at_ clock
        simp only [Option.map_some, Option.all_some, Bool.true_and, Bool.and_true]
        exact Bool.eq_iff_iff.mpr (same.trans decide_eq_true_iff.symm)
  unfold findActiveEscalationsPage activePage Keyset.page
  simp only [chosen]

theorem walkFeed_eq {js : JsRuntime} (unique : (store.incidents.map Incident.id).Nodup)
    (reads : ReadsCursors js store) (turns : Nat) {cursorRaw : Option String}
    {position : Option (Nat × Date × Id)}
    (decoded : decodeOptional (decodeEscalationFeedCursor js) cursorRaw =
      .ok (position.map feedCursorAt)) :
    ∃ items, walkFeed js store actor pageSize turns cursorRaw = .ok items ∧
      items.map itemKey = ((Keyset.walk feedPosition pageSize
        (List.replicate turns (activePage store actor pageSize)) position).flatten).map
          currentEventKey := by
  -- on the turns: the cursor of a page is read back as the position of its last row
  induction turns generalizing cursorRaw position with
  | zero => exact ⟨[], rfl, rfl⟩
  | succ turns ih =>
    obtain ⟨items, answered, served⟩ := listFeed_ok actor pageSize unique fed decoded
    simp only [feedPage, findActiveEscalationsPage_rows actor pageSize fed, List.length_map,
      ← List.map_take, List.map_map] at answered served
    rw [List.replicate_succ, Keyset.walk, walkFeed]
    simp only [answered, bind, Except.bind]
    by_cases more : pageSize < (activePage store actor pageSize position).length
    · simp only [more, if_true, nextFeedCursor, List.getLast?_map]
      cases final : ((activePage store actor pageSize position).take pageSize).getLast? with
      | none =>
        have empty := List.getLast?_eq_none_iff.mp final
        refine ⟨items, rfl, ?_⟩
        rw [served, empty]
        rfl
      | some last =>
        have member : last ∈ activeRows store actor := by
          have taken := List.mem_of_mem_take (List.mem_of_mem_take (List.mem_of_getLast? final))
          exact (List.mem_filter.mp ((Keyset.mem_sortOn _ _ _).mp taken)).1
        obtain ⟨since, clock⟩ := active_clock fed member
        have stored := (List.mem_filter.mp member).1
        obtain ⟨rest, walked, keys⟩ := ih (decodeOptional_encode reads stored clock)
        have cursor : (joinListRow store last).highSeveritySince = some since := clock
        refine ⟨items ++ rest, ?_, ?_⟩
        · simp only [Option.map_some, Option.bind_some, cursor]
          rw [show (joinListRow store last).currentEscalationLevel = last.currentEscalationLevel
            from rfl, show (joinListRow store last).id = last.id from rfl, walked]
          rfl
        · rw [List.map_append, served, keys, List.flatten_cons, List.map_append]
          rfl
    · simp only [more, if_false]
      refine ⟨items, rfl, ?_⟩
      rw [served, List.take_of_length_le (by omega), List.flatten_singleton]
      rfl

/-- A walk of enough turns shows every row of the feed, in order. -/
theorem walkFeed_complete {js : JsRuntime} (unique : (store.incidents.map Incident.id).Nodup)
    (reads : ReadsCursors js store) (positive : 0 < pageSize) {turns : Nat}
    (enough : store.incidents.length < turns) :
    ∃ items, walkFeed js store actor pageSize turns none = .ok items ∧
      items.map itemKey =
        (Keyset.sortOn feedKey (activeRows store actor)).map currentEventKey := by
  have start : decodeOptional (decodeEscalationFeedCursor js) none =
      .ok ((none : Option (Nat × Date × Id)).map feedCursorAt) := rfl
  obtain ⟨items, walked, keys⟩ := walkFeed_eq actor pageSize fed unique reads turns start
  refine ⟨items, walked, keys.trans ?_⟩
  have keyed : ((activeRows store actor).map feedKey).Nodup := by
    -- the id is part of the key
    apply List.Nodup.of_map (fun key => (ofLex (ofLex key).2).2)
    rw [List.map_map]
    exact unique.sublist (List.filter_sublist.map Incident.id)
  have follows : ∀ row ∈ activeRows store actor,
      (feedPosition row).map positionKey = some (feedKey row) := by
    intro row member
    obtain ⟨since, clock⟩ := active_clock fed member
    rw [feedPosition, clock, feedKey_eq clock]
    rfl
  have shorter : (activeRows store actor).length < turns :=
    Nat.lt_of_le_of_lt (List.length_filter_le _ _) enough
  exact congrArg (List.map currentEventKey) (Keyset.walk_complete (Option.map positionKey) keyed
    positive follows (fun _ => rfl) turns none rfl shorter)

end Walk

/-- The levels an incident has reached in the cycle of its row. -/
def levelsReached (events : List EscalationEvent) (row : Incident) : Set Nat :=
  {level | HasEvent events row.id row.escalationCycle level}

/-- The counter of a row in the band is the highest level of its cycle. -/
theorem CounterInvariant.greatest {sys : System} (counters : CounterInvariant sys) {row : Incident}
    (stored : row ∈ sys.store.incidents) (high : row.severity.inHighBand = true)
    (escalated : (levelsReached sys.store.escalationEvents row).Nonempty) :
    0 < row.currentEscalationLevel ∧
      IsGreatest (levelsReached sys.store.escalationEvents row) row.currentEscalationLevel := by
  have bound : ∀ level ∈ levelsReached sys.store.escalationEvents row,
      1 ≤ level ∧ level ≤ row.currentEscalationLevel := by
    rintro level ⟨event, member, key⟩
    simp only [EscalationEvent.key, Prod.mk.injEq] at key
    obtain ⟨named, cycle, rfl⟩ := key
    exact ⟨(counters.events event member).1,
      counters.rows row stored high event member named cycle⟩
  obtain ⟨level, reached⟩ := escalated
  have raised : 0 < row.currentEscalationLevel := by
    have both := bound level reached
    omega
  have own := (counters.feed.rows row stored raised).2
  exact ⟨raised, own, fun other member => (bound other member).2⟩

/-- In every run whose severity changes within the band overwrite the counter they loaded, no
counter falls while its incident stays in the band and in its cycle; and where moreover every bump
finds its row as its event left it, a walk through the feed shows every unacknowledged open
incident in the band that has an event in its cycle, at the highest level of that cycle. -/
theorem counter_never_rolled_back (config : JobConfig) (start : Store) (issued : List Id)
    (initial : WellCounted start) :
    (∀ sys later, Machine.Reaches (step config) KeepsCounters (System.boot start issued) sys →
      Machine.Reaches (step config) KeepsCounters sys later →
      ∀ old ∈ sys.store.incidents, ∀ new ∈ later.store.incidents, new.id = old.id →
        new.escalationCycle = old.escalationCycle → new.severity.inHighBand = true →
          old.currentEscalationLevel ≤ new.currentEscalationLevel) ∧
    ∀ sys, Machine.Reaches (step config) CountsInOrder (System.boot start issued) sys →
      ∀ (js : JsRuntime) (actor : Actor) (pageSize turns : Nat), ReadsCursors js sys.store →
        0 < pageSize → sys.store.incidents.length < turns →
        ∃ items, walkFeed js sys.store actor pageSize turns none = .ok items ∧
          ∀ row ∈ sys.store.incidents, visibilityScope actor row = true →
            row.acknowledgedAt = none → row.stage ≠ .closed → row.severity.inHighBand = true →
            (levelsReached sys.store.escalationEvents row).Nonempty →
            ∃ item ∈ items, item.incidentId = row.id ∧ item.cycle = row.escalationCycle ∧
              IsGreatest (levelsReached sys.store.escalationEvents row) item.level := by
  constructor
  · intro sys later reached onward old stored new member named cycle high
    have moved := counterMoves.reached (reached_snapshots initial.unique reached) onward stored
      member named
    exact (moved.counted cycle high).2
  · intro sys reached js actor pageSize turns reads positive enough
    have counters := reached_counted initial reached
    have inv := reached_snapshots initial.unique reached
    obtain ⟨items, walked, keys⟩ := walkFeed_complete actor pageSize counters.feed.rows
      inv.unique.incidents reads positive enough
    refine ⟨items, walked, ?_⟩
    intro row stored visible unacknowledged opened high escalated
    -- The counter has reached the highest level that an event of the cycle has.
    obtain ⟨raised, greatest⟩ := counters.greatest stored high escalated
    have active : row ∈ activeRows sys.store actor := List.mem_filter.mpr
      ⟨stored, (activeEscalationWhere_iff actor row).mpr ⟨visible, raised, unacknowledged, opened⟩⟩
    -- The walk visits every active row once, and a row is on the feed with its own counter.
    have shown : currentEventKey row ∈ items.map itemKey := by
      rw [keys]
      exact List.mem_map.mpr ⟨row, (Keyset.mem_sortOn _ _ _).mpr active, rfl⟩
    obtain ⟨item, among, key⟩ := List.mem_map.mp shown
    simp only [itemKey, currentEventKey, Prod.mk.injEq] at key
    obtain ⟨named, cycle, level⟩ := key
    exact ⟨item, among, named, cycle, level ▸ greatest⟩

/-! ### One lowering, alone and next to an escalation -/

def keepsCounters (sys : System) (action : Action) : Bool :=
  onCommit (fun sys request => decide (IfMatchNotAhead sys request ∧ LowersCurrent sys request)) sys
    action

theorem keepsCounters_sound (sys : System) (action : Action)
    (passed : keepsCounters sys action = true) : KeepsCounters sys action := by
  have both := onCommit_sound (fun _ _ => of_decide_eq_true) sys action passed
  exact ⟨both.imp fun _ _ holds => holds.1, both.imp fun _ _ holds => holds.2⟩

/-- The sample incidents, escalated once each. -/
def twiceEscalated : Store :=
  { sampleStore with
    incidents := [{ sampleIncident "b" .high with currentEscalationLevel := 1 },
      { sampleIncident "a" .critical with currentEscalationLevel := 1 }]
    escalationEvents := [⟨"e", "b", 1, 1, .high, 1800000, 1800000⟩,
      ⟨"f", "a", 1, 1, .critical, 900000, 900000⟩] }

theorem twiceEscalated_counted : WellCounted twiceEscalated := by
  refine ⟨⟨by decide, by decide⟩, by decide, ?_, ?_, ?_⟩
  · simp [twiceEscalated, FeedRow, HasEvent, sampleIncident, EscalationEvent.key]
  · intro event member
    simp only [twiceEscalated, List.mem_cons, List.not_mem_nil, or_false] at member
    rcases member with rfl | rfl
    · exact ⟨by decide, by decide, by decide⟩
    · exact ⟨by decide, by decide, by decide⟩
  · simp [twiceEscalated, Topped, sampleIncident]

def loweredToHigh (now : Date) : List Action :=
  [.load "manager" (.changeSeverity loweringInput) "a" 0, .commit 0 now now fun _ => "low"]

/-- The cursor of each of the two incidents: its JSON text in base64url. -/
def sampleCursor (id : Id) : String :=
  "eyJrIjoibGV2ZWwuaGlnaFNldmVyaXR5U2luY2UuaWQiLCJ2IjpbMSwiMTk3MC0wMS0wMVQwMDowMDowMC4w" ++
    (if id = "a" then "MDBaIiwiYSJdfQ" else "MDBaIiwiYiJdfQ")

def sampleCursorJson (id : Id) : Json :=
  .obj [("k", .str escalationFeedKey),
    ("v", .arr [.num 1, .str "1970-01-01T00:00:00.000Z", .str id])]

def sampleRuntime : JsRuntime where
  encode json := match json with
    | .obj [_, (_, .arr [_, _, .str id])] => sampleCursor id
    | _ => ""
  decode raw :=
    if raw = sampleCursor "a" then some (sampleCursorJson "a")
    else if raw = sampleCursor "b" then some (sampleCursorJson "b") else none
  newDate _ := some 0
  toISOString _ := "1970-01-01T00:00:00.000Z"
  number := id

/-- The two incidents of the sample are read back from their cursors. -/
theorem sampleRuntime_reads {store : Store} (rows : ∀ row ∈ store.incidents,
    row.highSeveritySince = none ∨ row.highSeveritySince = some 0 ∧
      row.currentEscalationLevel = 1 ∧ (row.id = "b" ∨ row.id = "a")) :
    ReadsCursors sampleRuntime store := by
  have shape : ∀ row ∈ store.incidents, ∀ since, row.highSeveritySince = some since →
      since = 0 ∧ row.currentEscalationLevel = 1 ∧ (row.id = "b" ∨ row.id = "a") := by
    intro row stored since clock
    rcases rows row stored with clockless | ⟨start, level, id⟩
    · rw [clockless] at clock
      simp at clock
    · exact ⟨Option.some.inj (clock.symm.trans start), level, id⟩
  refine ⟨by decide, fun row stored since clock => ?_, fun row stored since clock => ?_⟩
  · obtain ⟨rfl, level, id | id⟩ := shape row stored since clock
    · rw [level, id]
      rfl
    · rw [level, id]
      rfl
  · obtain ⟨rfl, _, _⟩ := shape row stored since clock
    rfl

theorem counter_never_rolled_back_sample :
    ∃ later, Machine.exec (step sampleConfig)
        (fun sys action => keepsCounters sys action && bumpsFindOwn sys action)
        (System.boot twiceEscalated []) (loweredToHigh 1800001) = some later ∧
      later.store.incidents.map (·.severity) = [.high, .high] ∧
      (∀ old ∈ twiceEscalated.incidents, ∀ new ∈ later.store.incidents, new.id = old.id →
        new.escalationCycle = old.escalationCycle → new.severity.inHighBand = true →
          old.currentEscalationLevel ≤ new.currentEscalationLevel) ∧
      ∃ items, walkFeed sampleRuntime later.store ⟨"admin", .admin, 4⟩ 1 3 none = .ok items ∧
        ∀ row ∈ later.store.incidents, visibilityScope ⟨"admin", .admin, 4⟩ row = true →
          row.acknowledgedAt = none → row.stage ≠ .closed → row.severity.inHighBand = true →
          (levelsReached later.store.escalationEvents row).Nonempty →
          ∃ item ∈ items, item.incidentId = row.id ∧ item.cycle = row.escalationCycle ∧
            IsGreatest (levelsReached later.store.escalationEvents row) item.level := by
  have ran : (Machine.exec (step sampleConfig)
      (fun sys action => keepsCounters sys action && bumpsFindOwn sys action)
      (System.boot twiceEscalated []) (loweredToHigh 1800001)).any (fun later => decide (
        later.store.incidents.map (·.severity) = [.high, .high] ∧
        (∀ row ∈ later.store.incidents, row.highSeveritySince = none ∨
          row.highSeveritySince = some 0 ∧ row.currentEscalationLevel = 1 ∧
            (row.id = "b" ∨ row.id = "a")) ∧
        later.store.incidents.length < 3)) = true := by decide
  obtain ⟨later, executed, facts⟩ := Option.any_eq_true _ _ |>.mp ran
  obtain ⟨severities, rows, enough⟩ := of_decide_eq_true facts
  have settled := counter_never_rolled_back sampleConfig twiceEscalated [] twiceEscalated_counted
  have counts : Machine.Reaches (step sampleConfig) CountsInOrder (System.boot twiceEscalated [])
      later := by
    refine Machine.reaches_of_exec _ (fun sys action passed => ?_) _ _ _ executed
    rw [Bool.and_eq_true] at passed
    exact ⟨keepsCounters_sound sys action passed.1, passed.2⟩
  have keeps : Machine.Reaches (step sampleConfig) KeepsCounters (System.boot twiceEscalated [])
      later := by
    refine Machine.reaches_of_exec _ (fun sys action passed => ?_) _ _ _ executed
    exact keepsCounters_sound sys action (Bool.and_eq_true _ _ |>.mp passed).1
  exact ⟨later, executed, severities, settled.1 (System.boot twiceEscalated []) later .start keeps,
    settled.2 later counts sampleRuntime ⟨"admin", .admin, 4⟩ 1 3 (sampleRuntime_reads rows)
      (by decide) enough⟩

def servedIfMatch (sys : System) (action : Action) : Bool :=
  onCommit (fun sys request => decide (IfMatchNotAhead sys request)) sys action

theorem servedIfMatch_sound (sys : System) (action : Action)
    (passed : servedIfMatch sys action = true) : OnCommit IfMatchNotAhead sys action :=
  onCommit_sound (fun _ _ => of_decide_eq_true) sys action passed

/-- A lowering that is loaded before a run of the job and has not committed after its batch. -/
def escalatedMeanwhile : List Action :=
  [.load "manager" (.changeSeverity loweringInput) "a" 0, .startRun "j0" 900000] ++
    jobSteps 11 900000 "r0"

/-- A lowering is loaded before a batch raises the counter and commits after it: the counter falls
back to the level that was loaded. -/
theorem stale_lowering_rolls_back_counter :
    ¬ ∀ (config : JobConfig) (start : Store) (issued : List Id), WellCounted start →
      ∀ sys later, Machine.Reaches (step config) (OnCommit IfMatchNotAhead)
        (System.boot start issued) sys →
      Machine.Reaches (step config) (OnCommit IfMatchNotAhead) sys later →
      ∀ old ∈ sys.store.incidents, ∀ new ∈ later.store.incidents, new.id = old.id →
        new.escalationCycle = old.escalationCycle → new.severity.inHighBand = true →
          old.currentEscalationLevel ≤ new.currentEscalationLevel := by
  intro neverFalls
  have ran : (Machine.exec (step sampleConfig) servedIfMatch (System.boot sampleStore [])
      escalatedMeanwhile).any (fun sys =>
      (Machine.exec (step sampleConfig) servedIfMatch sys
        [.commit 0 900001 900001 fun _ => "low"]).any fun later => decide (
          ∃ old ∈ sys.store.incidents, ∃ new ∈ later.store.incidents, new.id = old.id ∧
            new.escalationCycle = old.escalationCycle ∧ new.severity.inHighBand = true ∧
              new.currentEscalationLevel < old.currentEscalationLevel)) = true := by decide
  obtain ⟨sys, executed, onward⟩ := Option.any_eq_true _ _ |>.mp ran
  obtain ⟨later, committed, facts⟩ := Option.any_eq_true _ _ |>.mp onward
  obtain ⟨old, stored, new, member, named, cycle, high, fell⟩ := of_decide_eq_true facts
  have counted : WellCounted sampleStore :=
    ⟨⟨by decide, by decide⟩, by decide, by simp [sampleStore, FeedRow, sampleIncident],
      by simp [sampleStore], by simp [sampleStore, Topped]⟩
  have bound := neverFalls sampleConfig sampleStore [] counted sys later
    (Machine.reaches_of_exec _ servedIfMatch_sound _ _ _ executed)
    (Machine.reaches_of_exec _ servedIfMatch_sound _ _ _ committed) old stored new member named
    cycle high
  omega

end IncidentApi.Properties
