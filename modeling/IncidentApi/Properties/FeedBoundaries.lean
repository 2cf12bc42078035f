import IncidentApi.Properties.FeedWalk
import IncidentApi.Properties.CursorPages

/-!
# Page boundaries of the escalation feed

A cursor of the feed names a level, a clock and an id. An escalated incident without a clock comes
last at its level but after no cursor there, so a walk through an unchanging feed is exact where no
page ends at the level of such a row, and only there.
-/
namespace IncidentApi.Properties

/-- An answer of the feed, with the incident rows its page is made of. -/
def feedAnswer (js : JsRuntime) (actor : Actor) (size : Nat) (store : Store)
    (cursorRaw : Option String) :
    Except AppError (CursorPage EscalationFeedItem × List Incident) := do
  let answer ← listFeed js store actor cursorRaw size
  let cursor ← decodeOptional (decodeEscalationFeedCursor js) cursorRaw
  return (answer, (feedPage store actor cursor size).map IncidentListRow.toIncident)

/-- The feed, by the rows of its incidents. -/
def feedSurface (js : JsRuntime) (actor : Actor) (size : Nat) :
    CursorWalk.Surface Store AppError (CursorPage EscalationFeedItem × List Incident) Incident
      String (Natᵒᵈ ×ₗ WithTop Date ×ₗ Id) where
  request := feedAnswer js actor size
  shown answer := answer.2
  next answer := answer.1.nextCursor
  more answer := answer.1.hasMore
  rows store := activeRows store actor
  key := feedKey
  print row := encodeEscalationFeedCursor js row.currentEscalationLevel
    (row.highSeveritySince.getD 0) row.id
  size := size

@[simp] theorem feedSurface_size (js : JsRuntime) (actor : Actor) (size : Nat) :
    (feedSurface js actor size).size = size := rfl

/-- The rows of the feed in its order. -/
def feedOrder (store : Store) (actor : Actor) : List Incident :=
  Keyset.sortOn feedKey (activeRows store actor)

/-- Where a page ends with rows still to come, every row at the level of its last row has a
clock. -/
def BoundariesClocked (store : Store) (actor : Actor) (size : Nat) : Prop :=
  ∀ turn, (turn + 1) * size < (activeRows store actor).length →
    ∀ last ∈ (feedOrder store actor)[(turn + 1) * size - 1]?,
    ∀ row ∈ activeRows store actor, row.currentEscalationLevel = last.currentEscalationLevel →
      row.highSeveritySince.isSome = true

section Answer
variable {js : JsRuntime} {actor : Actor} {size : Nat} {store : Store}

/-- The rows that a query of the feed fetches. -/
def fetchedRows (store : Store) (actor : Actor) (cursor : Option FeedCursor) (size : Nat) :
    List Incident :=
  (findActiveEscalationsPage store actor cursor size).map IncidentListRow.toIncident

theorem fetchedRows_eq (cursor : Option FeedCursor) :
    fetchedRows store actor cursor size =
      (Keyset.sortOn feedKey ((activeRows store actor).filter fun row => cursor.all fun position =>
        afterFeedCursor position row.currentEscalationLevel row.highSeveritySince row.id)).take
          (size + 1) := by
  rw [fetchedRows, findActiveEscalationsPage, activeRows, List.filter_filter, List.map_map]
  simp only [Bool.and_comm (activeEscalationWhere actor _)]
  exact List.map_id _

/-- What a request of the feed comes to, once its cursor is read. -/
theorem feedAnswer_eq (size : Nat) {cursorRaw : Option String} {cursor : Option FeedCursor}
    (decoded : decodeOptional (decodeEscalationFeedCursor js) cursorRaw = .ok cursor) :
    ∃ items, feedAnswer js actor size store cursorRaw =
      (match ((fetchedRows store actor cursor size).take size).getLast? with
        | some last => if size < (fetchedRows store actor cursor size).length then
            (feedCursorOf js last).map some else .ok none
        | none => .ok none).map fun next =>
          (⟨items, next, size < (fetchedRows store actor cursor size).length⟩,
            (fetchedRows store actor cursor size).take size) := by
  have decodes : ∀ {T : Type} (f : Option FeedCursor → Except AppError T),
      (decodeOptional (decodeEscalationFeedCursor js) cursorRaw >>= f) = f cursor := by
    intro T f
    rw [decoded]
    rfl
  simp only [feedAnswer, listFeed, decodes, fetchedRows, feedPage, ← List.map_take,
    List.length_map, List.getLast?_map]
  generalize findActiveEscalationsPage store actor cursor size = rows
  -- Taking `size` rows of a page that has no more changes nothing.
  have kept : (if size < rows.length then rows.take size else rows) = rows.take size := by
    split
    · rfl
    · rw [List.take_of_length_le (by omega)]
  refine ⟨feedItems (findCurrentEvents store ((rows.take size).map fun row =>
    currentEventKey row.toIncident)) (rows.take size), ?_⟩
  rw [kept]
  cases (rows.take size).getLast? with
  | none => rfl
  | some last =>
    simp only [Option.map_some]
    by_cases more : size < rows.length
    · simp only [more, if_true]
      cases feedCursorOf js last.toIncident <;> rfl
    · simp only [more, if_false]
      rfl

theorem feedAnswer_cut {cursorRaw : Option String} {cursor : Option FeedCursor}
    (decoded : decodeOptional (decodeEscalationFeedCursor js) cursorRaw = .ok cursor)
    {answer : CursorPage EscalationFeedItem × List Incident}
    (answered : feedAnswer js actor size store cursorRaw = .ok answer) :
    (feedSurface js actor size).Answers answer (fetchedRows store actor cursor size) ∧
      (size < (fetchedRows store actor cursor size).length →
        ∀ last ∈ ((fetchedRows store actor cursor size).take size).getLast?,
          last.highSeveritySince.isSome = true) := by
  obtain ⟨items, equal⟩ := feedAnswer_eq size decoded
  rw [equal] at answered
  obtain ⟨next, printed, rfl⟩ := map_ok answered
  have told : next = (if size < (fetchedRows store actor cursor size).length then
      ((fetchedRows store actor cursor size).take size).getLast?.map
        (feedSurface js actor size).print
      else none) ∧ (size < (fetchedRows store actor cursor size).length →
        ∀ last ∈ ((fetchedRows store actor cursor size).take size).getLast?,
          last.highSeveritySince.isSome = true) := by
    cases final : ((fetchedRows store actor cursor size).take size).getLast? with
    | none =>
      rw [final] at printed
      simp [← Except.ok.inj printed]
    | some last =>
      simp only [final] at printed
      by_cases more : size < (fetchedRows store actor cursor size).length
      · rw [if_pos more] at printed
        obtain ⟨text, encoded, rfl⟩ := map_ok printed
        -- the cursor of a row without a clock is not printed
        cases clock : last.highSeveritySince with
        | none => simp [feedCursorOf, clock] at encoded
        | some since =>
          simp only [feedCursorOf, clock, Except.ok.injEq] at encoded
          simp [more, ← encoded, feedSurface, clock]
      · rw [if_neg more] at printed
        simp [more, ← Except.ok.inj printed]
  exact ⟨⟨rfl, told.1, rfl⟩, told.2⟩

/-- No request fails whose last row has a clock. -/
theorem feedAnswer_ok {cursorRaw : Option String} {cursor : Option FeedCursor}
    (decoded : decodeOptional (decodeEscalationFeedCursor js) cursorRaw = .ok cursor)
    (clocked : size < (fetchedRows store actor cursor size).length →
      ∀ last ∈ ((fetchedRows store actor cursor size).take size).getLast?,
        last.highSeveritySince.isSome = true) :
    ∃ answer, feedAnswer js actor size store cursorRaw = .ok answer := by
  obtain ⟨items, equal⟩ := feedAnswer_eq size decoded
  rw [equal]
  cases final : ((fetchedRows store actor cursor size).take size).getLast? with
  | none => exact ⟨_, rfl⟩
  | some last =>
    by_cases more : size < (fetchedRows store actor cursor size).length
    · obtain ⟨since, clock⟩ := Option.isSome_iff_exists.mp (clocked more last final)
      simp only [more, if_true, feedCursorOf, clock]
      exact ⟨_, rfl⟩
    · simp only [more, if_false]
      exact ⟨_, rfl⟩

/-- The cursor of a row with a clock is read back, and the first page has none. -/
theorem feed_decoded (size : Nat) (reads : ReadsCursors js store) (start : Option Incident)
    (known : ∀ row ∈ start, row ∈ activeRows store actor ∧ row.highSeveritySince.isSome = true) :
    decodeOptional (decodeEscalationFeedCursor js)
        (start.map (feedSurface js actor size).print) =
      .ok ((start.bind feedPosition).map feedCursorAt) := by
  cases start with
  | none => rfl
  | some row =>
    obtain ⟨member, clocked⟩ := known row rfl
    obtain ⟨since, clock⟩ := Option.isSome_iff_exists.mp clocked
    have back := decodeOptional_encode reads (List.mem_of_mem_filter member) clock
    simpa [feedSurface, clock] using back

/-! ### What follows a cursor -/

/-- A row that may follow another across pages: at a lower level, or at its level with a clock. -/
def MayFollow (row next : Incident) : Prop :=
  next.currentEscalationLevel ≤ row.currentEscalationLevel ∧
    (next.currentEscalationLevel = row.currentEscalationLevel →
      next.highSeveritySince.isSome = true)

theorem MayFollow.trans (row next last : Incident) (first : MayFollow row next)
    (second : MayFollow next last) : MayFollow row last := by
  constructor
  · exact le_trans second.1 first.1
  · intro same
    have level : last.currentEscalationLevel = next.currentEscalationLevel :=
      le_antisymm second.1 (same ▸ first.1)
    exact second.2 level

theorem mayFollow_of_after {row next : Incident} {since : Date}
    (after : afterFeedCursor (feedCursorAt (row.currentEscalationLevel, since, row.id))
      next.currentEscalationLevel next.highSeveritySince next.id = true) :
    MayFollow row next := by
  simp only [afterFeedCursor, feedCursorAt, Bool.or_eq_true, Bool.and_eq_true, decide_eq_true_eq,
    Nat.cast_lt, Nat.cast_inj] at after
  rcases after with (below | ⟨same, later⟩) | ⟨⟨same, equal⟩, _⟩
  · exact ⟨le_of_lt below, fun same => absurd same (Nat.ne_of_lt below)⟩
  · refine ⟨le_of_eq same, fun _ => ?_⟩
    cases clocked : next.highSeveritySince with
    | none =>
      rw [clocked] at later
      simp at later
    | some _ => rfl
  · exact ⟨le_of_eq same, fun _ => Option.isSome_iff_exists.mpr ⟨since, of_decide_eq_true equal⟩⟩

theorem feed_cuts (reads : ReadsCursors js store) :
    (feedSurface js actor size).Cuts
      (fun row => row ∈ activeRows store actor ∧ row.highSeveritySince.isSome = true) MayFollow
      store := by
  intro start known answer answered
  have decoded := feed_decoded size reads start known
  obtain ⟨cut, clocked⟩ := feedAnswer_cut decoded answered
  have rows : ∀ row ∈ fetchedRows store actor ((start.bind feedPosition).map feedCursorAt) size,
      row ∈ activeRows store actor ∧ ((start.bind feedPosition).map feedCursorAt).all
        (fun position => afterFeedCursor position row.currentEscalationLevel row.highSeveritySince
          row.id) = true := by
    intro row member
    rw [fetchedRows_eq] at member
    exact List.mem_filter.mp ((Keyset.mem_sortOn _ _ _).mp (List.mem_of_mem_take member))
  refine ⟨_, cut, ?_, fun more last isLast => ⟨?_, clocked more last isLast⟩⟩
  · rintro row isStart next member
    obtain rfl := Option.mem_def.mp isStart
    obtain ⟨since, clock⟩ := Option.isSome_iff_exists.mp (known row rfl).2
    have after := (rows next member).2
    simp only [Option.bind_some, feedPosition, clock, Option.map_some, Option.all_some] at after
    exact mayFollow_of_after after
  · exact (rows last (List.mem_of_mem_take (List.mem_of_getLast? isLast))).1

/-- A row without a clock comes after every clocked row of its level. -/
theorem feedKey_clockless {row last : Incident} {since : Date}
    (clock : last.highSeveritySince = some since) (clockless : row.highSeveritySince = none)
    (level : row.currentEscalationLevel = last.currentEscalationLevel) :
    feedKey last < feedKey row := by
  rw [feedKey, feedKey, clock, clockless, level]
  apply Prod.Lex.toLex_lt_toLex.mpr
  exact Or.inr ⟨rfl, Prod.Lex.toLex_lt_toLex.mpr (Or.inl (WithTop.coe_lt_top since))⟩

theorem feed_keyed (actor : Actor) (unique : (store.incidents.map Incident.id).Nodup) :
    ((activeRows store actor).map feedKey).Nodup := by
  -- the id is part of the key
  apply List.Nodup.of_map (fun key => (ofLex (ofLex key).2).2)
  rw [List.map_map]
  exact unique.sublist (List.filter_sublist.map Incident.id)

/-- A walk that loses and repeats nothing returns the feed in its order. -/
theorem exact_returned (unique : (store.incidents.map Incident.id).Nodup)
    (exact_ : (feedSurface js actor size).LosesNothing (fun _ => store) fun _ => True) :
    ∃ stores : List Store, (∀ other ∈ stores, other = store) ∧
      (feedSurface js actor size).returned stores none = feedOrder store actor := by
  obtain ⟨turns, ended⟩ := exact_.ends (fun _ => trivial) 0 fun _ _ _ => id
  refine ⟨(List.range turns).map fun _ => store, ?_, ?_⟩
  · intro other member
    obtain ⟨_, _, rfl⟩ := List.mem_map.mp member
    rfl
  · have sorted := exact_.ordered turns
    apply Keyset.eq_sortOn feedKey ?_ sorted
    have distinct := List.Nodup.of_map _ (Keyset.nodup_of_strict feedKey sorted)
    have active := List.Nodup.of_map _ (feed_keyed actor unique)
    -- what is returned is stored, and what is stored is returned once
    refine (List.perm_ext_iff_of_nodup distinct active).mpr fun row => ⟨?_, fun member => ?_⟩
    · apply CursorWalk.Surface.returned_forall
      intro other among cursor answer answered shown member
      obtain ⟨_, _, rfl⟩ := List.mem_map.mp among
      obtain ⟨page, _, answered⟩ := bind_ok answered
      obtain ⟨position, _, answered⟩ := bind_ok answered
      obtain rfl := Except.ok.inj answered
      obtain ⟨joined, taken, rfl⟩ := List.mem_map.mp member
      exact List.mem_filter.mpr (mem_activePage (List.mem_of_mem_take taken))
    · have once := exact_.once turns ended row fun _ _ => member
      exact List.count_pos_iff.mp (by rw [once]; exact Nat.one_pos)

/-- Where a page ends at the level of a row without a clock, the walk misses that row. -/
theorem boundaries_of_exact (reads : ReadsCursors js store)
    (unique : (store.incidents.map Incident.id).Nodup) (positive : 0 < size)
    (exact_ : (feedSurface js actor size).LosesNothing (fun _ => store) fun _ => True) :
    BoundariesClocked store actor size := by
  intro turn beyond last isLast row member level
  obtain ⟨stores, same, returned⟩ := exact_returned unique exact_
  have cuts : ∀ other ∈ stores, (feedSurface js actor size).Cuts
      (fun row => row ∈ activeRows store actor ∧ row.highSeveritySince.isSome = true) MayFollow
      other := fun other among => (same other among).symm ▸ feed_cuts reads
  have length : (feedOrder store actor).length = (activeRows store actor).length :=
    Keyset.length_sortOn feedKey _
  obtain ⟨boundary, rest, known, among, at_, onward⟩ :=
    CursorWalk.Surface.returned_boundary positive cuts none
      (by simp) turn (by simpa [returned, length] using beyond)
  simp only [Option.map_none, returned, feedSurface_size] at at_ onward
  have equal : boundary = last := Option.some.inj (at_.symm.trans isLast)
  subst equal
  by_contra clockless
  rw [Option.not_isSome_iff_eq_none] at clockless
  obtain ⟨since, clock⟩ := Option.isSome_iff_exists.mp known.2
  have later := feedKey_clockless clock clockless level
  have listed : row ∈ feedOrder store actor := (Keyset.mem_sortOn feedKey _ row).mpr member
  have strict := Keyset.sortOn_strict feedKey _ (feed_keyed actor unique)
  rw [← List.take_append_drop ((turn + 1) * size) (feedOrder store actor)] at listed
  -- before the boundary its key is too small, behind it the walk returns no clockless row
  rcases List.mem_append.mp listed with early | late
  · have final : ((feedOrder store actor).take ((turn + 1) * size)).getLast? = some boundary := by
      have inside : (turn + 1) * size ≠ 0 := Nat.mul_ne_zero (Nat.succ_ne_zero turn) (by omega)
      rw [List.getLast?_take, if_neg inside, at_]
      rfl
    have before := CursorWalk.Surface.le_last (strict.sublist (List.take_sublist _ _)) final early
    exact absurd later (not_lt_of_ge before)
  · rw [← onward] at late
    have follows := CursorWalk.Surface.returned_after MayFollow.trans
      (fun other member => cuts other (among member)) (some boundary)
      (fun p isStart => Option.some.inj isStart ▸ known) boundary rfl row late
    have clocked := follows.2 level
    rw [clockless] at clocked
    simp at clocked

/-- The last rows of the pages of a walk that loses nothing. -/
def IsBoundary (store : Store) (actor : Actor) (size : Nat) (last : Incident) : Prop :=
  ∃ turn, (turn + 1) * size < (activeRows store actor).length ∧
    (feedOrder store actor)[(turn + 1) * size - 1]? = some last

theorem IsBoundary.active {last : Incident} (boundary : IsBoundary store actor size last) :
    last ∈ activeRows store actor := by
  obtain ⟨turn, _, at_⟩ := boundary
  exact (Keyset.mem_sortOn feedKey _ last).mp (List.mem_of_getElem? at_)

/-- What is fetched from a boundary is what the feed holds behind it. -/
theorem fetched_boundary (js : JsRuntime) (unique : (store.incidents.map Incident.id).Nodup)
    (positive : 0 < size)
    (start : Option Incident) (known : ∀ row ∈ start, IsBoundary store actor size row) :
    ∃ turn, (feedSurface js actor size).fetched store start =
      ((feedOrder store actor).drop (turn * size)).take (size + 1) := by
  cases start with
  | none => exact ⟨0, by rw [Nat.zero_mul]; exact Keyset.page_start feedKey _ size⟩
  | some last =>
    obtain ⟨turn, beyond, at_⟩ := known last rfl
    refine ⟨turn + 1, ?_⟩
    obtain ⟨inside, isLast⟩ := List.getElem?_eq_some_iff.mp at_
    have split := List.take_append_drop ((turn + 1) * size - 1) (feedOrder store actor)
    rw [List.drop_eq_getElem_cons inside, isLast] at split
    have pages := Keyset.page_after feedKey (feed_keyed actor unique) size split.symm
    have next : (turn + 1) * size - 1 + 1 = (turn + 1) * size :=
      Nat.sub_add_cancel (Nat.mul_pos (Nat.succ_pos turn) positive)
    rw [next] at pages
    exact pages

theorem boundary_onward (unique : (store.incidents.map Incident.id).Nodup) (positive : 0 < size)
    (start : Option Incident) (known : ∀ row ∈ start, IsBoundary store actor size row)
    (more : size < ((feedSurface js actor size).fetched store start).length) :
    ∀ last ∈ (((feedSurface js actor size).fetched store start).take size).getLast?,
      IsBoundary store actor size last := by
  intro last isLast
  obtain ⟨turn, fetched⟩ := fetched_boundary js unique positive start known
  have grows : (turn + 1) * size = turn * size + size := Nat.succ_mul turn size
  have length : (feedOrder store actor).length = (activeRows store actor).length :=
    Keyset.length_sortOn feedKey _
  rw [fetched, List.length_take, List.length_drop] at more
  rw [fetched, List.take_take, Nat.min_eq_left (Nat.le_succ size), List.getLast?_take,
    if_neg (Nat.ne_of_gt positive), List.getElem?_drop] at isLast
  refine ⟨turn, by omega, ?_⟩
  have inside : turn * size + (size - 1) < (feedOrder store actor).length := by omega
  rw [List.getElem?_eq_getElem inside] at isLast
  rw [show (turn + 1) * size - 1 = turn * size + (size - 1) by omega,
    List.getElem?_eq_getElem inside]
  exact isLast

/-- At a boundary whose level is clocked, the condition of the cursor is the order of the feed. -/
theorem after_boundary {last row : Incident} {since : Date}
    (clock : last.highSeveritySince = some since)
    (clocked : row.currentEscalationLevel = last.currentEscalationLevel →
      row.highSeveritySince.isSome = true) :
    afterFeedCursor (feedCursorAt (last.currentEscalationLevel, since, last.id))
      row.currentEscalationLevel row.highSeveritySince row.id =
        decide (feedKey last < feedKey row) := by
  apply Bool.eq_iff_iff.mpr
  rw [decide_eq_true_iff]
  by_cases level : row.currentEscalationLevel = last.currentEscalationLevel
  · obtain ⟨own, ownClock⟩ := Option.isSome_iff_exists.mp (clocked level)
    rw [feedKey_eq clock]
    exact afterFeedCursor_iff _ ownClock
  · have differ : last.currentEscalationLevel ≠ row.currentEscalationLevel := fun same =>
      level same.symm
    simp [afterFeedCursor, feedCursorAt, feedKey, Prod.Lex.toLex_lt_toLex, level, differ]

theorem fetchedRows_boundary (js : JsRuntime) (clocked : BoundariesClocked store actor size)
    (start : Option Incident) (known : ∀ row ∈ start, IsBoundary store actor size row) :
    fetchedRows store actor ((start.bind feedPosition).map feedCursorAt) size =
      (feedSurface js actor size).fetched store start := by
  rw [fetchedRows_eq]
  -- the level of a boundary is clocked, so there the cursor leaves nothing out
  have condition : (activeRows store actor).filter (fun row =>
      ((start.bind feedPosition).map feedCursorAt).all fun position =>
        afterFeedCursor position row.currentEscalationLevel row.highSeveritySince row.id) =
      (activeRows store actor).filter fun row => (start.map feedKey).all (· < feedKey row) := by
    apply List.filter_congr
    intro row member
    cases start with
    | none => rfl
    | some last =>
      have boundary := known last rfl
      have active := boundary.active
      obtain ⟨turn, beyond, at_⟩ := boundary
      have level := clocked turn beyond last at_
      obtain ⟨since, clock⟩ := Option.isSome_iff_exists.mp (level last active rfl)
      simp only [Option.bind_some, feedPosition, clock, Option.map_some, Option.all_some]
      exact after_boundary clock (level row member)
  rw [condition]
  rfl

/-- With clocked boundaries a walk through an unchanging feed is exact. -/
theorem exact_of_boundaries (reads : ReadsCursors js store)
    (unique : (store.incidents.map Incident.id).Nodup) (positive : 0 < size)
    (clocked : BoundariesClocked store actor size) :
    (feedSurface js actor size).LosesNothing (fun _ => store) fun _ => True := by
  have named : ∀ start : Option Incident, (∀ row ∈ start, IsBoundary store actor size row) →
      ∀ row ∈ start, row ∈ activeRows store actor ∧ row.highSeveritySince.isSome = true := by
    intro start known row isStart
    have boundary := known row isStart
    have active := boundary.active
    obtain ⟨turn, beyond, at_⟩ := boundary
    exact ⟨active, clocked turn beyond row at_ row active rfl⟩
  have fetched := fun start known =>
    fetchedRows_boundary js clocked start known
  apply CursorWalk.Surface.losesNothing positive
  · intro _
    refine ⟨feed_keyed actor unique, fun start known answer answered => ?_,
      boundary_onward unique positive⟩
    have decoded := feed_decoded size reads start (named start known)
    rw [← fetched start known]
    exact (feedAnswer_cut decoded answered).1
  · intro _ _ start known
    have decoded := feed_decoded size reads start (named start known)
    apply feedAnswer_ok decoded
    rw [fetched start known]
    intro more last isLast
    have boundary := boundary_onward unique positive start known more last isLast
    exact (named (some last) (fun row isSome => Option.some.inj isSome ▸ boundary) last rfl).2

end Answer

/-! ### The four walks -/

/-- The ids that time-and-id cursors end with are primary keys. -/
structure CursorIds (store : Store) : Prop where
  notes : (store.notes.map InvestigationNote.id).Nodup
  events : (store.auditEvents.map AuditEvent.id).Nodup
  notifications : (store.notificationLog.map NotificationLog.id).Nodup

/-- The positions of every note and notification of a schedule. -/
def createdPositions (schedule : Nat → Store) : Set (Date × Id) :=
  {p | ∃ turn, (∃ note ∈ (schedule turn).notes, (note.createdAt, note.id) = p) ∨
    ∃ row ∈ (schedule turn).notificationLog, (row.createdAt, row.id) = p}

def occurredPositions (schedule : Nat → Store) : Set (Date × Id) :=
  {p | ∃ turn, ∃ event ∈ (schedule turn).auditEvents, (event.occurredAt, event.id) = p}

/-- Cursor walks lose and repeat nothing: through notes, timeline and notifications under any
schedule of stores, one for each request, and through the feed of an unchanging one. -/
structure WalksLoseNothing (js : JsRuntime) (actor : Actor) (incidentId : Id)
    (schedule : Nat → Store) (store : Store) (size : Nat) : Prop where
  notes : (notesSurface js actor incidentId size).LosesNothing schedule fun store =>
    ∃ row, assertReadAccess store actor incidentId = .ok row
  timeline : (timelineSurface js actor incidentId size).LosesNothing schedule
    (ShowsTimeline actor incidentId)
  notifications : (notificationsSurface js actor size).LosesNothing schedule fun _ => True
  feed : (feedSurface js actor size).LosesNothing (fun _ => store) fun _ => True

/-- Walks lose and repeat nothing exactly if every row has a clock at each level where a page of
the feed ends with rows still to come. -/
theorem cursor_walks_lose_nothing (js : JsRuntime) (actor : Actor) (incidentId : Id)
    (schedule : Nat → Store) (store : Store) (size : Nat) (positive : 0 < size)
    (ids : ∀ turn, CursorIds (schedule turn))
    (created : ReadsTimeCursors js createdAtIdKey (createdPositions schedule))
    (occurred : ReadsTimeCursors js occurredAtIdKey (occurredPositions schedule))
    (unique : (store.incidents.map Incident.id).Nodup) (reads : ReadsCursors js store) :
    WalksLoseNothing js actor incidentId schedule store size ↔
      BoundariesClocked store actor size := by
  constructor
  · exact fun walks => boundaries_of_exact reads unique positive walks.feed
  · intro clocked
    refine ⟨?_, ?_, ?_, exact_of_boundaries reads unique positive clocked⟩
    · apply CursorWalk.Surface.losesNothing positive
      · exact fun turn => notes_serves created (ids turn).notes
          fun note stored => ⟨turn, Or.inl ⟨note, stored, rfl⟩⟩
      · exact fun turn granted => notes_grants created granted
    · apply CursorWalk.Surface.losesNothing positive
      · exact fun turn => timeline_serves occurred (ids turn).events
          fun event stored => ⟨turn, event, stored, rfl⟩
      · exact fun turn granted => timeline_grants occurred granted
    · apply CursorWalk.Surface.losesNothing positive
      · exact fun turn => notifications_serves created (ids turn).notifications
          fun row stored => ⟨turn, Or.inr ⟨row, stored, rfl⟩⟩
      · exact fun turn _ => notifications_grants created

/-! ### A note that goes between two requests -/

/-- The cursors of the note and the notification of the sample: their JSON texts in base64url. -/
def createdCursor (id : Id) : String :=
  "eyJrIjoiY3JlYXRlZEF0LmlkIiwidiI6WyIxOTcwLTAxLTAxVDAwOjE1OjAwLjAwMFoi" ++
    (if id = "n" then "LCJuIl19" else "LCJsIl19")

/-- The cursor of its audit row. -/
def addedCursor : String :=
  "eyJrIjoib2NjdXJyZWRBdC5pZCIsInYiOlsiMTk3MC0wMS0wMVQwMDoxNTowMC4wMDBaIiwiYWRkZWQiXX0"

def timeCursorJson (tag id : String) : Json :=
  .obj [("k", .str tag), ("v", .arr [.str "1970-01-01T00:15:00.000Z", .str id])]

def pagingRuntime : JsRuntime where
  encode json := match json with
    | .obj [_, (_, .arr [_, .str id])] => if id = "added" then addedCursor else createdCursor id
    | json => sampleRuntime.encode json
  decode raw :=
    if raw = createdCursor "n" then some (timeCursorJson createdAtIdKey "n")
    else if raw = createdCursor "l" then some (timeCursorJson createdAtIdKey "l")
    else if raw = addedCursor then some (timeCursorJson occurredAtIdKey "added")
    else sampleRuntime.decode raw
  newDate json := match json with
    | .str text => if text = "1970-01-01T00:15:00.000Z" then some 900000
      else sampleRuntime.newDate json
    | json => sampleRuntime.newDate json
  toISOString date :=
    if date = 900000 then "1970-01-01T00:15:00.000Z" else sampleRuntime.toISOString date
  number := id

/-- One note and its audit row at the first request, and the note gone later. -/
def noteRemoved (turn : Nat) : Store :=
  if turn = 0 then notedStore "x" "n" "The valve is stuck"
  else { notedStore "x" "n" "The valve is stuck" with notes := [] }

theorem cursor_walks_lose_nothing_sample :
    WalksLoseNothing pagingRuntime ⟨"manager", .admin, 4⟩ "a" noteRemoved twiceEscalated 1 := by
  -- There are two stores: with the note, before the first page is fetched, and without it.
  have shape : ∀ turn, noteRemoved turn = notedStore "x" "n" "The valve is stuck" ∨
      noteRemoved turn = { notedStore "x" "n" "The valve is stuck" with notes := [] } := by
    intro turn
    by_cases first : turn = 0
    · exact Or.inl (if_pos first)
    · exact Or.inr (if_neg first)
  -- So the two walks by `createdAt` meet two positions, and the timeline one.
  have created : ∀ p ∈ createdPositions noteRemoved, p = (900000, "n") ∨ p = (900000, "l") := by
    rintro p ⟨turn, ⟨note, stored, rfl⟩ | ⟨row, stored, rfl⟩⟩
    · rcases shape turn with same | same <;> rw [same] at stored
      · simp only [notedStore, List.mem_singleton] at stored
        exact Or.inl (by rw [stored])
      · simp at stored
    · rcases shape turn with same | same <;> rw [same] at stored <;>
        simp only [notedStore, escalatedStore, List.mem_singleton] at stored <;>
        exact Or.inr (by rw [stored])
  have occurred : ∀ p ∈ occurredPositions noteRemoved, p = (900000, "added") := by
    rintro p ⟨turn, event, stored, rfl⟩
    rcases shape turn with same | same <;> rw [same] at stored <;>
      simp only [notedStore, List.mem_singleton] at stored <;> rw [stored]
  apply (cursor_walks_lose_nothing pagingRuntime ⟨"manager", .admin, 4⟩ "a" noteRemoved
    twiceEscalated 1 (by decide) ?_ ⟨by decide, ?_, ?_⟩ ⟨by decide, ?_, ?_⟩ (by decide)
    ⟨by decide, ?_, ?_⟩).mpr
  · intro turn _ last _ row member _
    have clocked : ∀ row ∈ activeRows twiceEscalated ⟨"manager", .admin, 4⟩,
        row.highSeveritySince.isSome = true := by decide
    exact clocked row member
  · intro turn
    rcases shape turn with same | same
    · rw [same]
      exact ⟨by decide, by decide, by decide⟩
    · rw [same]
      exact ⟨by decide, by decide, by decide⟩
  · intro p member
    rcases created p member with rfl | rfl <;> rfl
  · intro p member
    rcases created p member with rfl | rfl <;> rfl
  · intro p member
    rw [occurred p member]
    rfl
  · intro p member
    rw [occurred p member]
    rfl
  · intro row stored since clock
    simp only [twiceEscalated, List.mem_cons, List.not_mem_nil, or_false] at stored
    rcases stored with rfl | rfl
    · obtain rfl := Option.some.inj clock
      rfl
    · obtain rfl := Option.some.inj clock
      rfl
  · intro row stored since clock
    simp only [twiceEscalated, List.mem_cons, List.not_mem_nil, or_false] at stored
    rcases stored with rfl | rfl
    · obtain rfl := Option.some.inj clock
      rfl
    · obtain rfl := Option.some.inj clock
      rfl

/-! ### A row without a clock -/

/-- One incident that is escalated already, next to the one to be reported. -/
def escalatedNeighbour : Store :=
  { staffedStore with
    incidents := [{ sampleIncident "b" .high with currentEscalationLevel := 1 }]
    escalationEvents := [⟨"e", "b", 1, 1, .high, 1800000, 1800000⟩] }

/-- The severity drops between the insert and the bump, so an escalated row is without a clock; a
page that ends at its level is the last that a walk gets to see of that level. -/
theorem walk_misses_clockless_row :
    ∃ sys, Machine.exec (step sampleConfig) (fun _ _ => true) (System.boot escalatedNeighbour [])
        (beforeBump ++ performed (.changeSeverity droppingInput) 0 1800001 ++ afterBump) =
          some sys ∧
      (sys.store.incidents.map Incident.id).Nodup ∧ ReadsCursors sampleRuntime sys.store ∧
      ¬ WalksLoseNothing sampleRuntime ⟨"admin", .admin, 4⟩ "b" (fun _ => escalatedNeighbour)
        sys.store 1 := by
  have ran : (Machine.exec (step sampleConfig) (fun _ _ => true)
      (System.boot escalatedNeighbour []) (beforeBump ++
        performed (.changeSeverity droppingInput) 0 1800001 ++ afterBump)).any (fun sys => decide (
        (sys.store.incidents.map Incident.id).Nodup ∧
        (∀ row ∈ sys.store.incidents, row.highSeveritySince = none ∨
          row.highSeveritySince = some 0 ∧ row.currentEscalationLevel = 1 ∧
            (row.id = "b" ∨ row.id = "a")) ∧
        1 < (activeRows sys.store ⟨"admin", .admin, 4⟩).length ∧
        ∃ last ∈ (feedOrder sys.store ⟨"admin", .admin, 4⟩)[0]?,
          ∃ row ∈ activeRows sys.store ⟨"admin", .admin, 4⟩,
            row.currentEscalationLevel = last.currentEscalationLevel ∧
              row.highSeveritySince = none)) = true := by decide
  obtain ⟨sys, executed, facts⟩ := Option.any_eq_true _ _ |>.mp ran
  obtain ⟨unique, rows, longer, last, first, row, member, level, clockless⟩ :=
    of_decide_eq_true facts
  have reads := sampleRuntime_reads rows
  refine ⟨sys, executed, unique, reads, fun walks => ?_⟩
  -- The first page ends at its level: a walk that misses nothing needs its clock.
  have clocked := boundaries_of_exact reads unique Nat.one_pos walks.feed 0 longer last first row
    member level
  rw [clockless] at clocked
  simp at clocked

end IncidentApi.Properties
