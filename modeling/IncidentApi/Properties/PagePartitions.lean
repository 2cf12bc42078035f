import IncidentApi.AdminListings
import IncidentApi.Library.OffsetPages
import IncidentApi.Properties.Noninterference

/-!
# Offset pages and the whole result

The seven lists that are paged by number, each page a query of its own that may break the ties of
its `ORDER BY` in its own way. The lists of the administrators end their order with the id, so
their pages are a partition of the result; the lists of incidents do not, and partition it exactly
when no page ends inside a tie.
-/
namespace IncidentApi.Properties

open OffsetPages (Arranges Unsplit)

/-- Pages 1 to `totalPages`, here counted from 0, show each row once, and every page but the last
is full. -/
structure Partitions {α T : Type} (rows : List α) (shows : α → T) (pageSize : Nat)
    (pages : Nat → OffsetPage T) (totalPages : Nat) : Prop where
  total : ∀ k, (pages k).totalPages = totalPages
  once : ((List.range totalPages).flatMap fun k => (pages k).items).Perm (rows.map shows)
  full : ∀ k, k + 1 < totalPages → (pages k).items.length = pageSize

section Pages
variable {α T κ : Type} [LinearOrder κ] {order : α → κ} {rows : List α} {shows : α → T}
  {pageSize : Nat} {arrangements : Nat → List α} {pages : Nat → OffsetPage T}

/-- The responses are pages of arrangements of the rows. -/
def Cuts (rows : List α) (shows : α → T) (pageSize : Nat) (arrangements : Nat → List α)
    (pages : Nat → OffsetPage T) : Prop :=
  ∀ k, pages k = buildOffsetPage ((OffsetPages.page pageSize k (arrangements k)).map shows)
    rows.length (k + 1) pageSize

theorem Cuts.items (cuts : Cuts rows shows pageSize arrangements pages) (count : Nat) :
    ((List.range count).flatMap fun k => (pages k).items) =
      (OffsetPages.pages pageSize count arrangements).map shows := by
  rw [OffsetPages.pages, List.map_flatMap]
  congr 1
  funext k
  rw [cuts k]
  rfl

theorem Cuts.partitions (cuts : Cuts rows shows pageSize arrangements pages)
    (arranges : ∀ k, Arranges order rows (arrangements k))
    (unsplit : Unsplit order rows pageSize) (positive : 0 < pageSize) :
    Partitions rows shows pageSize pages (OffsetPages.pageCount pageSize rows.length) where
  total k := by
    rw [cuts k]
    rfl
  once := by
    rw [cuts.items]
    exact (OffsetPages.pages_partition arranges unsplit positive).map shows
  full k early := by
    rw [cuts k]
    exact (List.length_map _).trans (OffsetPages.page_full (arranges k) positive early)

end Pages

/-- The pages of a list partition its rows, whatever order each query gives to its ties. -/
def AlwaysPartitions {α T : Type} (rows : List α) (shows : α → T) (pageSize : Nat)
    (pages : TieOrder → Nat → OffsetPage T) : Prop :=
  ∀ ties : Nat → TieOrder, ∃ totalPages,
    Partitions rows shows pageSize (fun k => pages (ties k) k) totalPages

/-! ### The lists of incidents -/

def incidentItem (store : Store) (row : Incident) : IncidentListItem :=
  toIncidentListItem (joinListRow store row)

theorem arranges_tied {κ : Type} [LinearOrder κ] (ties : TieOrder) (order : Incident → κ)
    (rows : List Incident) : Arranges order rows (Keyset.sortOn (tied ties order) rows) where
  perm := Keyset.sortOn_perm _ rows
  sorted := by
    apply (Keyset.sortOn_sorted (tied ties order) rows).imp
    intro row next before
    exact Prod.Lex.monotone_fst_ofLex before

theorem tied_nodup {κ : Type} [LinearOrder κ] (ties : TieOrder) (order : Incident → κ)
    {rows : List Incident} (keyed : (rows.map Incident.id).Nodup) :
    (rows.map (tied ties order)).Nodup := by
  apply List.Nodup.map_on ?_ (List.Nodup.of_map _ keyed)
  intro row inside other insideToo same
  have ids : row.id = other.id := ties.injective (congrArg (fun key => (ofLex key).2) same)
  exact List.inj_on_of_nodup_map keyed inside insideToo ids

theorem findPage_cuts {κ : Type} [LinearOrder κ] (ties : Nat → TieOrder) (store : Store)
    (selects : Incident → Bool) (order : Incident → κ) (pageSize : Nat) :
    Cuts (store.incidents.filter selects) (incidentItem store) pageSize
      (fun k => Keyset.sortOn (tied (ties k) order) (store.incidents.filter selects))
      fun k => listResponse (findPage (ties k) store selects order (k + 1) pageSize) (k + 1)
        pageSize := by
  intro k
  simp only [listResponse, findPage, List.map_map, Nat.add_sub_cancel]
  rfl

/-- The ids in their own order, two of them exchanged. -/
def exchanged (first second : Id) : TieOrder where
  rank := Equiv.swap first second
  injective := (Equiv.swap first second).injective

def inOrderOfIds : TieOrder := ⟨id, Function.injective_id⟩

/-- Exchanging the ids of two tied neighbours exchanges them in the result. -/
theorem sortOn_exchanged {κ : Type} [LinearOrder κ] {order : Incident → κ}
    {rows front back : List Incident} {last next : Incident}
    (keyed : (rows.map Incident.id).Nodup)
    (sorted : Keyset.sortOn (tied inOrderOfIds order) rows = front ++ last :: next :: back)
    (tie : order last = order next) :
    Keyset.sortOn (tied (exchanged last.id next.id) order) rows =
      front ++ next :: last :: back := by
  have perm : (front ++ last :: next :: back).Perm rows := sorted ▸ Keyset.sortOn_perm _ rows
  have ids : ((front ++ last :: next :: back).map Incident.id).Nodup :=
    (perm.map Incident.id).nodup_iff.mpr keyed
  have swapped : (front ++ next :: last :: back).Perm (front ++ last :: next :: back) :=
    (List.Perm.swap last next back).append_left front
  -- a row that is neither of the two keeps its place among its ties
  have kept : ∀ row ∈ front ++ back, tied (exchanged last.id next.id) order row =
      tied inOrderOfIds order row := by
    intro row member
    have apart : row.id ≠ last.id ∧ row.id ≠ next.id := by
      have atEnd : (front ++ back ++ [last, next]).Perm (front ++ last :: next :: back) := by
        rw [List.append_assoc]
        exact List.perm_append_comm.append_left front
      have distinct := (atEnd.map Incident.id).nodup_iff.mpr ids
      rw [List.map_append] at distinct
      have differ := (List.nodup_append.mp distinct).2.2 row.id (List.mem_map_of_mem member)
      exact ⟨differ last.id (by simp), differ next.id (by simp)⟩
    simp only [tied, exchanged, inOrderOfIds, Equiv.swap_apply_of_ne_of_ne apart.1 apart.2, id]
  have keys : (front ++ next :: last :: back).map (tied (exchanged last.id next.id) order) =
      (front ++ last :: next :: back).map (tied inOrderOfIds order) := by
    have atNext : tied (exchanged last.id next.id) order next = tied inOrderOfIds order last := by
      simp only [tied, exchanged, inOrderOfIds, Equiv.swap_apply_right, tie, id]
    have atLast : tied (exchanged last.id next.id) order last = tied inOrderOfIds order next := by
      simp only [tied, exchanged, inOrderOfIds, Equiv.swap_apply_left, tie, id]
    rw [List.map_append, List.map_append, List.map_cons, List.map_cons, List.map_cons,
      List.map_cons, atNext, atLast]
    congr 1
    · exact List.map_congr_left fun row member => kept row (List.mem_append_left _ member)
    · congr 2
      exact List.map_congr_left fun row member => kept row (List.mem_append_right _ member)
  symm
  apply Keyset.eq_sortOn _ (swapped.trans perm)
  rw [← List.pairwise_map (f := tied (exchanged last.id next.id) order) (R := (· < ·)), keys,
    List.pairwise_map, ← sorted]
  exact Keyset.sortOn_strict _ _ (tied_nodup inOrderOfIds order keyed)

/-- The pages of a list of incidents partition it, however each query breaks its ties, exactly when
no page ends inside a tie. -/
theorem findPage_partitions_iff {κ : Type} [LinearOrder κ] {store : Store}
    (keyed : (store.incidents.map Incident.id).Nodup) (selects : Incident → Bool)
    (order : Incident → κ) {pageSize : Nat} (positive : 1 ≤ pageSize) :
    AlwaysPartitions (store.incidents.filter selects) (incidentItem store) pageSize
        (fun ties k => listResponse (findPage ties store selects order (k + 1) pageSize) (k + 1)
          pageSize) ↔
      Unsplit order (store.incidents.filter selects) pageSize := by
  constructor
  · intro always
    by_contra split
    obtain ⟨m, front, last, next, back, sorted, length, tie⟩ :=
      OffsetPages.exists_tie (arranges_tied inOrderOfIds order _) positive split
    have rowsKeyed : ((store.incidents.filter selects).map Incident.id).Nodup :=
      (List.filter_sublist.map Incident.id).nodup keyed
    -- the queries after the end of the page exchange the two rows around it
    obtain ⟨totalPages, partitions⟩ := always fun k =>
      if k < m then inOrderOfIds else exchanged last.id next.id
    have once := partitions.once
    rw [(findPage_cuts _ store selects order pageSize).items] at once
    have whole : (front ++ last :: next :: back).Perm (store.incidents.filter selects) :=
      sorted ▸ Keyset.sortOn_perm _ _
    -- the row that begins the next page is on no page, although it is among the rows
    have among : next ∈ store.incidents.filter selects := whole.mem_iff.mp (by simp)
    obtain ⟨row, onPage, shown⟩ := List.mem_map.mp
      (once.mem_iff.mpr (List.mem_map_of_mem among))
    have inside : row ∈ store.incidents.filter selects := by
      obtain ⟨k, _, member⟩ := List.mem_flatMap.mp onPage
      exact (Keyset.mem_sortOn _ _ _).mp (List.mem_of_mem_drop (List.mem_of_mem_take member))
    obtain rfl : row = next := by
      have ids : row.id = next.id := congrArg IncidentListItem.id shown
      exact List.inj_on_of_nodup_map rowsKeyed inside among ids
    have nodup : (front ++ last :: row :: back).Nodup :=
      whole.nodup_iff.mpr (List.Nodup.of_map _ rowsKeyed)
    apply OffsetPages.not_mem_pages nodup length totalPages
    convert onPage using 3 with k
    split
    · rw [sorted]
    · rw [sortOn_exchanged rowsKeyed sorted tie]
  · intro unsplit ties
    exact ⟨_, (findPage_cuts ties store selects order pageSize).partitions
      (fun k => arranges_tied (ties k) order _) unsplit positive⟩

/-! ### The lists of the administrators -/

/-- No two rows tie on an order that ends with their id. -/
theorem newest_partitions {α T : Type} {rows : List α} (instant : α → Date) (id : α → Id)
    (keyed : (rows.map id).Nodup) {shows : α → T} {pageSize : Nat} (positive : 1 ≤ pageSize)
    {pages : Nat → OffsetPage T}
    (cuts : Cuts rows shows pageSize
      (fun _ => Keyset.sortOn (fun row => newestKey (instant row) (id row)) rows) pages) :
    Partitions rows shows pageSize pages (OffsetPages.pageCount pageSize rows.length) := by
  let order := fun row => newestKey (instant row) (id row)
  have separate : (rows.map order).Nodup := by
    apply List.Nodup.map_on ?_ (List.Nodup.of_map _ keyed)
    intro row inside other insideToo same
    have ids : id row = id other :=
      congrArg (fun key => (ofLex (OrderDual.ofDual key)).2) same
    exact List.inj_on_of_nodup_map keyed inside insideToo ids
  have arranges : ∀ k : Nat, Arranges order rows (Keyset.sortOn order rows) := fun _ =>
    ⟨Keyset.sortOn_perm order rows, Keyset.sortOn_sorted order rows⟩
  exact cuts.partitions arranges (OffsetPages.unsplit_of_nodup separate positive) positive

def atPage (query : OffsetQuery) (k : Nat) : OffsetQuery :=
  { query with page := k + 1, pagePositive := by omega }

theorem listUsers_partitions (search : TextSearch) {store : Store}
    (keyed : (store.users.map User.id).Nodup) (query : AdminUsersQuery) :
    AlwaysPartitions (store.users.filter (buildUsersWhere search query)) toAdminUserRow
      query.pageSize fun _ k =>
        listUsers search store { query with toOffsetQuery := atPage query.toOffsetQuery k } := by
  intro ties
  refine ⟨_, newest_partitions User.createdAt User.id
    ((List.filter_sublist.map User.id).nodup keyed) query.pageSizePositive ?_⟩
  intro k
  simp only [listUsers, listUsersRepo, atPage, Nat.add_sub_cancel]
  rfl

theorem auditSearch_partitions {js : JsRuntime} {store : Store}
    (keyed : (store.auditEvents.map AuditEvent.id).Nodup) (query : AuditSearchQuery js) :
    AlwaysPartitions (store.auditEvents.filter (buildSearchWhere (toSearchFilters query)))
      (fun event => toAuditRow (joinSearchRow store event)) query.pageSize fun _ k =>
        auditSearch store { query with toOffsetQuery := atPage query.toOffsetQuery k } := by
  intro ties
  refine ⟨_, newest_partitions AuditEvent.occurredAt AuditEvent.id
    ((List.filter_sublist.map AuditEvent.id).nodup keyed) query.pageSizePositive ?_⟩
  intro k
  simp only [auditSearch, searchAudit, atPage, Nat.add_sub_cancel, List.map_map]
  rfl

/-! ### The seven lists -/

/-- The rows that `mine`, `myInvestigations` and `getClosuresPending` select. -/
def scopedWhere (actor : Actor) (condition : Incident → Bool) (row : Incident) : Bool :=
  visibilityScope actor row && condition row

/-- Users and audit rows are always partitioned; a list of incidents is exactly when no page ends
inside a tie. -/
theorem offset_pages_partition_iff (store : Store) (keyed : store.UniqueIds)
    (events : (store.auditEvents.map AuditEvent.id).Nodup) (actor : Actor) :
    (∀ (js : JsRuntime) (search : TextSearch) (query : ListIncidentsQuery js),
      let rows := store.incidents.filter (buildWhere search actor (toRepositoryFilters query))
      AlwaysPartitions rows (incidentItem store) query.pageSize (fun ties k =>
          list search ties store actor
            { query with toOffsetQuery := atPage query.toOffsetQuery k }) ↔
        Unsplit (orderValue ⟨query.sort, query.order⟩) rows query.pageSize) ∧
    (∀ pageSize, 1 ≤ pageSize →
      let rows := store.incidents.filter (scopedWhere actor (·.reporterId = actor.id))
      AlwaysPartitions rows (incidentItem store) pageSize
          (fun ties k => mine ties store actor (k + 1) pageSize) ↔
        Unsplit newestFirst rows pageSize) ∧
    (∀ pageSize, 1 ≤ pageSize →
      let rows := store.incidents.filter (triageQueueWhere actor)
      AlwaysPartitions rows (incidentItem store) pageSize
          (fun ties k => getTriageQueue ties store actor (k + 1) pageSize) ↔
        Unsplit mostEscalatedFirst rows pageSize) ∧
    (∀ pageSize, 1 ≤ pageSize →
      let rows := store.incidents.filter
        (scopedWhere actor (·.assignedInvestigatorId = some actor.id))
      AlwaysPartitions rows (incidentItem store) pageSize
          (fun ties k => myInvestigations ties store actor (k + 1) pageSize) ↔
        Unsplit newestFirst rows pageSize) ∧
    (∀ pageSize, 1 ≤ pageSize →
      let rows := store.incidents.filter (scopedWhere actor (·.stage = .pendingClosure))
      AlwaysPartitions rows (incidentItem store) pageSize
          (fun ties k => getClosuresPending ties store actor (k + 1) pageSize) ↔
        Unsplit Incident.updatedAt rows pageSize) ∧
    (∀ (search : TextSearch) (query : AdminUsersQuery),
      AlwaysPartitions (store.users.filter (buildUsersWhere search query)) toAdminUserRow
        query.pageSize fun _ k =>
          listUsers search store { query with toOffsetQuery := atPage query.toOffsetQuery k }) ∧
    (∀ (js : JsRuntime) (query : AuditSearchQuery js),
      AlwaysPartitions (store.auditEvents.filter (buildSearchWhere (toSearchFilters query)))
        (fun event => toAuditRow (joinSearchRow store event)) query.pageSize fun _ k =>
          auditSearch store { query with toOffsetQuery := atPage query.toOffsetQuery k }) := by
  -- Five lists of incidents go through one `findPage`; the other two order by the primary key last.
  refine ⟨?_, ?_, ?_, ?_, ?_, ?_, ?_⟩
  · intro js search query
    exact findPage_partitions_iff keyed.incidents _ (orderValue ⟨query.sort, query.order⟩)
      query.pageSizePositive
  · intro pageSize positive
    exact findPage_partitions_iff keyed.incidents _ _ positive
  · intro pageSize positive
    exact findPage_partitions_iff keyed.incidents _ _ positive
  · intro pageSize positive
    exact findPage_partitions_iff keyed.incidents _ _ positive
  · intro pageSize positive
    exact findPage_partitions_iff keyed.incidents _ _ positive
  · intro search query
    exact listUsers_partitions search keyed.users query
  · intro js query
    exact auditSearch_partitions events query

/-- An older incident beside two that were reported at one instant. -/
def threeReported : Store :=
  { sampleStore with
    incidents := sampleStore.incidents.map (fun row => { row with createdAt := 60000 }) ++
      [sampleIncident "c" .high] }

/-- The newer two share a page, which ends ahead of the older one; both open incidents of the
sample fit on one page of the triage queue. -/
theorem offset_pages_partition_iff_sample :
    AlwaysPartitions (threeReported.incidents.filter
        (scopedWhere ⟨"manager", .triageManager, 4⟩ (·.reporterId = "manager")))
      (incidentItem threeReported) 2
      (fun ties k => mine ties threeReported ⟨"manager", .triageManager, 4⟩ (k + 1) 2) ∧
    (mine inOrderOfIds threeReported ⟨"manager", .triageManager, 4⟩ 1 2).totalPages = 2 ∧
    AlwaysPartitions
      (sampleStore.incidents.filter (triageQueueWhere ⟨"manager", .triageManager, 4⟩))
      (incidentItem sampleStore) 2
      fun ties k => getTriageQueue ties sampleStore ⟨"manager", .triageManager, 4⟩ (k + 1) 2 := by
  refine ⟨?_, by decide, ?_⟩
  · have own := (offset_pages_partition_iff threeReported ⟨by decide, by decide⟩ (by decide)
      ⟨"manager", .triageManager, 4⟩).2.1 2 (by decide)
    refine own.mpr fun m first later atNext => ?_
    have keys : OffsetPages.keys newestFirst (threeReported.incidents.filter
        (scopedWhere ⟨"manager", .triageManager, 4⟩ (·.reporterId = "manager"))) =
          [OrderDual.toDual 60000, OrderDual.toDual 60000, OrderDual.toDual 0] := by decide
    rw [keys] at atNext ⊢
    match m with
    | 1 =>
      obtain rfl := Option.some.inj atNext
      decide
    | m + 2 =>
      obtain ⟨inside, _⟩ := List.getElem?_eq_some_iff.mp atNext
      have short : (m + 2) * 2 < 3 := inside
      omega
  · have queue := (offset_pages_partition_iff sampleStore ⟨by decide, by decide⟩ (by decide)
      ⟨"manager", .triageManager, 4⟩).2.2.1 2 (by decide)
    exact queue.mpr (OffsetPages.unsplit_of_length_le (by decide))

/-- Every query after the first breaks the tie of the sample incidents the other way. -/
def changingTies (k : Nat) : TieOrder := if k = 0 then inOrderOfIds else exchanged "a" "b"

/-- Two incidents reported at one instant, on pages of one row: both pages show the same one. -/
theorem mine_repeats_tied_row :
    ¬ ∀ (store : Store), store.UniqueIds → ∀ (actor : Actor) (pageSize : Nat), 1 ≤ pageSize →
      AlwaysPartitions (store.incidents.filter (scopedWhere actor (·.reporterId = actor.id)))
        (incidentItem store) pageSize fun ties k => mine ties store actor (k + 1) pageSize := by
  intro always
  obtain ⟨totalPages, partitions⟩ := always sampleStore ⟨by decide, by decide⟩
    ⟨"manager", .triageManager, 4⟩ 1 (by decide) changingTies
  have two : (mine (changingTies 0) sampleStore ⟨"manager", .triageManager, 4⟩ 1 1).totalPages =
      2 := by decide
  obtain rfl : 2 = totalPages := two.symm.trans (partitions.total 0)
  have shown : ((List.range 2).flatMap fun k =>
      (mine (changingTies k) sampleStore ⟨"manager", .triageManager, 4⟩ (k + 1) 1).items).map
        IncidentListItem.id = ["a", "a"] := by decide
  have once := partitions.once.map IncidentListItem.id
  rw [shown] at once
  revert once
  decide

end IncidentApi.Properties
