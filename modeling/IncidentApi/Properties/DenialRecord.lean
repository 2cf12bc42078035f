import IncidentApi.Properties.DenialDedupe

/-!
# Denials on record

A denial is written down beside the request that was refused, and not at all where a recent one
stands for it. Every call of `recordDenial` is accounted for once: it is under way, it has failed, a
recent row silenced it, or it has a row of its own.
-/
namespace IncidentApi.Properties

/-! ### The ledger -/

def DenialCall.asked (call : DenialCall) : DenialCall := { call with cleared := false }

/-- What has become of the calls; no step reads it. -/
structure DenialLedger where
  sys : DenialSystem
  asked : List DenialCall
  recorded : List DenialCall
  silenced : List DenialCall
  failed : List DenialCall

/-- The call that an action may end. -/
def DenialSystem.callOf (sys : DenialSystem) (k : Nat) : List DenialCall :=
  (sys.calls[k]?).toList.map DenialCall.asked

def ledgerStep (ledger : DenialLedger) (action : DenialAction) : Option DenialLedger :=
  (denialStep ledger.sys action).map fun next =>
    match action with
    | .recordDenial incidentId actorId clearanceLevel now =>
      { ledger with
        sys := next
        asked := ledger.asked ++ [⟨incidentId, actorId, clearanceLevel, now, false⟩] }
    | .find k =>
      if next.calls.length < ledger.sys.calls.length then
        { ledger with
          sys := next
          silenced := ledger.silenced ++ DenialSystem.callOf ledger.sys k }
      else { ledger with sys := next }
    | .create k _ =>
      { ledger with
        sys := next
        recorded := ledger.recorded ++ DenialSystem.callOf ledger.sys k }
    | .fail k =>
      { ledger with
        sys := next
        failed := ledger.failed ++ DenialSystem.callOf ledger.sys k }
    | .others _ => { ledger with sys := next }

def DenialLedger.boot (store : Store) (clock : Date) : DenialLedger :=
  ⟨.boot store clock, [], [], [], []⟩

/-- The denials in a table, less their ids. -/
def denialRows (rows : List AuditEvent) : List AuditEvent :=
  (rows.filter (·.type = .accessDenied)).map fun row => { row with id := "" }

/-- A row that makes another one for the call superfluous. -/
def DenialOnFile (store : Store) (call : DenialCall) : Prop :=
  ∃ row ∈ store.auditEvents, isDenial call.actorId call.incidentId row = true ∧
    call.now - denialDedupeWindowMs ≤ row.occurredAt

structure DenialsAccounted (start : Store) (ledger : DenialLedger) : Prop where
  /-- Each call is in one place. -/
  calls : ledger.asked.Perm (ledger.sys.calls.map DenialCall.asked ++ ledger.failed ++
    ledger.silenced ++ ledger.recorded)
  /-- Nothing but the recorded calls adds a denial, and each of them adds one. -/
  rows : denialRows ledger.sys.store.auditEvents =
    denialRows start.auditEvents ++ ledger.recorded.map fun call => call.record.row ""
  onFile : ∀ call ∈ ledger.silenced ++ ledger.recorded, DenialOnFile ledger.sys.store call

/-! ### One step -/

section Steps

variable {start : Store} {sys : DenialSystem} {k : Nat} {call : DenialCall}

theorem callOf_eq (found : sys.calls[k]? = some call) :
    DenialSystem.callOf sys k = [DenialCall.asked call] := by
  rw [DenialSystem.callOf, found]
  rfl

theorem asked_perm (found : sys.calls[k]? = some call) :
    (sys.calls.map DenialCall.asked).Perm
      ((sys.calls.eraseIdx k).map DenialCall.asked ++ [DenialCall.asked call]) := by
  obtain ⟨inside, rfl⟩ := List.getElem?_eq_some_iff.mp found
  exact ((List.getElem_cons_eraseIdx_perm inside).symm.map _).trans
    (List.perm_append_singleton _ _).symm

/-- A check that finds nothing changes no call's place. -/
theorem asked_set (found : sys.calls[k]? = some call) :
    ((sys.calls.set k { call with cleared := true }).map DenialCall.asked).Perm
      (sys.calls.map DenialCall.asked) := by
  obtain ⟨inside, rfl⟩ := List.getElem?_eq_some_iff.mp found
  have after := (List.set_perm_cons_eraseIdx inside
    { sys.calls[k] with cleared := true }).map DenialCall.asked
  exact (after.trans (List.perm_append_singleton _ _).symm).trans (asked_perm found).symm

theorem eraseIdx_shorter (found : sys.calls[k]? = some call) :
    (sys.calls.eraseIdx k).length < sys.calls.length := by
  have inside := (List.getElem?_eq_some_iff.mp found).1
  rw [List.length_eraseIdx_of_lt inside]
  omega

theorem onFile_mono {rows : List AuditEvent} (onFile : DenialOnFile sys.store call) :
    DenialOnFile { sys.store with auditEvents := sys.store.auditEvents ++ rows } call := by
  obtain ⟨row, stored, denial, recent⟩ := onFile
  exact ⟨row, List.mem_append_left _ stored, denial, recent⟩

theorem onFile_of_recent (recent : findRecentAccessDenied sys.store call.actorId call.incidentId
    (call.now - denialDedupeWindowMs) = true) : DenialOnFile sys.store (DenialCall.asked call) := by
  obtain ⟨row, stored, is⟩ := List.any_eq_true.mp recent
  simp only [Bool.and_eq_true, decide_eq_true_eq] at is
  exact ⟨row, stored, by simp [isDenial, is, DenialCall.asked], is.2⟩

theorem onFile_by_record (auditId : Id) :
    DenialOnFile (sys.store.record [call.record] fun _ => auditId) (DenialCall.asked call) := by
  refine ⟨call.record.row auditId, ?_, ?_, ?_⟩
  · exact List.mem_append_right _ (by simp [auditRows])
  · simp [isDenial, CreateAuditEventInput.row, DenialCall.record, denialRecord, DenialCall.asked]
  · exact Int.sub_le_self _ (by decide)

theorem denialRows_append (left right : List AuditEvent) :
    denialRows (left ++ right) = denialRows left ++ denialRows right := by
  simp [denialRows]

theorem denialRows_record (auditId : Id) :
    denialRows (auditRows [call.record] fun _ => auditId) =
      [(DenialCall.asked call).record.row ""] := by
  simp [denialRows, auditRows, CreateAuditEventInput.row, DenialCall.record, denialRecord,
    DenialCall.asked]

theorem denialRows_others {rows : List AuditEvent}
    (others : rows.all (·.type ≠ .accessDenied) = true) : denialRows rows = [] := by
  have none : rows.filter (·.type = .accessDenied) = [] := by
    refine List.filter_eq_nil_iff.mpr fun row member => ?_
    simpa using List.all_eq_true.mp others row member
  rw [denialRows, none, List.map_nil]

/-- Calls that leave what is under way turn up in one of the other places. -/
theorem DenialsAccounted.moved {ledger : DenialLedger} (inv : DenialsAccounted start ledger)
    (left failed silenced recorded : List DenialCall)
    (from_ : (ledger.sys.calls.map DenialCall.asked).Perm
      (left ++ failed ++ silenced ++ recorded)) :
    ledger.asked.Perm (left ++ (ledger.failed ++ failed) ++ (ledger.silenced ++ silenced) ++
      (ledger.recorded ++ recorded)) := by
  classical
  refine List.perm_iff_count.mpr fun one => ?_
  have before := inv.calls.count_eq one
  have moved := from_.count_eq one
  simp only [List.count_append] at before moved ⊢
  omega

theorem DenialsAccounted.step {ledger next : DenialLedger} {action : DenialAction}
    (inv : DenialsAccounted start ledger) (stepped : ledgerStep ledger action = some next) :
    DenialsAccounted start next := by
  obtain ⟨after, moved, rfl⟩ := Option.map_eq_some_iff.mp stepped
  cases action with
  | recordDenial incidentId actorId clearanceLevel now =>
    simp only [denialStep] at moved
    split at moved
    · cases moved
    · obtain rfl := Option.some.inj moved
      refine ⟨?_, inv.rows, inv.onFile⟩
      -- The call joins those in flight and those asked alike.
      have asked := inv.calls.append_right [⟨incidentId, actorId, clearanceLevel, now, false⟩]
      classical
      refine asked.trans (List.perm_iff_count.mpr fun one => ?_)
      simp only [List.count_append, List.map_append, List.map_cons, List.map_nil, DenialCall.asked]
      omega
  | find k =>
    obtain ⟨call, found, checked⟩ := Option.bind_eq_some_iff.mp moved
    split at checked
    · cases checked
    · split at checked
      next recent =>
        -- A recent row silences the call: it leaves the calls in flight, with that row as its
        -- record.
        obtain rfl := Option.some.inj checked
        simp only [if_pos (eraseIdx_shorter found), callOf_eq found]
        refine ⟨?_, inv.rows, ?_⟩
        · simpa using inv.moved ((ledger.sys.calls.eraseIdx k).map DenialCall.asked) []
            [DenialCall.asked call] [] (by simpa using asked_perm found)
        · intro other among
          rcases List.mem_append.mp among with silenced | recorded
          · rcases List.mem_append.mp silenced with earlier | last
            · exact inv.onFile other (List.mem_append_left _ earlier)
            · obtain rfl := List.mem_singleton.mp last
              exact onFile_of_recent recent
          · exact inv.onFile other (List.mem_append_right _ recorded)
      -- Nothing recent: the call stays in flight, marked as cleared to write.
      · obtain rfl := Option.some.inj checked
        simp only [List.length_set, lt_irrefl, if_false]
        refine ⟨inv.calls.trans ?_, inv.rows, inv.onFile⟩
        exact (((asked_set found).symm.append_right _).append_right _).append_right _
  | create k auditId =>
    obtain ⟨call, found, checked⟩ := Option.bind_eq_some_iff.mp moved
    split at checked
    next cleared =>
      obtain rfl := Option.some.inj checked
      simp only [callOf_eq found]
      refine ⟨?_, ?_, ?_⟩
      · simpa using inv.moved ((ledger.sys.calls.eraseIdx k).map DenialCall.asked) [] []
          [DenialCall.asked call] (by simpa using asked_perm found)
      · rw [Store.record, denialRows_append, inv.rows, denialRows_record, List.map_append,
          List.append_assoc]
        rfl
      -- The call that is done now is on file by the very row it wrote, the others as before.
      · intro other among
        rw [← List.append_assoc] at among
        rcases List.mem_append.mp among with earlier | last
        · exact onFile_mono (inv.onFile other earlier)
        · obtain rfl := List.mem_singleton.mp last
          exact onFile_by_record auditId
    · cases checked
  | fail k =>
    obtain ⟨call, found, rfl⟩ := Option.map_eq_some_iff.mp moved
    simp only [callOf_eq found]
    refine ⟨?_, inv.rows, inv.onFile⟩
    simpa using inv.moved ((ledger.sys.calls.eraseIdx k).map DenialCall.asked)
      [DenialCall.asked call] [] [] (by simpa using asked_perm found)
  | others rows =>
    simp only [denialStep] at moved
    split at moved
    next others =>
      obtain rfl := Option.some.inj moved
      refine ⟨inv.calls, ?_, fun call among => onFile_mono (inv.onFile call among)⟩
      rw [denialRows_append, denialRows_others others, List.append_nil]
      exact inv.rows
    · cases moved

end Steps

end IncidentApi.Properties
