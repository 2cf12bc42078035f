import IncidentApi.Concurrency

/-!
# Denials in flight

`recordDenial` starts `recordDenialAsync` and does not wait for it, so any number of calls can be
between their `findRecentAccessDenied` and their `createAccessDeniedEvent`.
-/
namespace IncidentApi

/-- A `recordDenialAsync` that has not ended; `cleared` once its query has found no recent row. -/
structure DenialCall where
  incidentId : Id
  actorId : Id
  clearanceLevel : Nat
  now : Date
  cleared : Bool

def DenialCall.record (call : DenialCall) : CreateAuditEventInput :=
  denialRecord call.incidentId call.actorId call.clearanceLevel call.now

/-- `clock` is what the last call read from its clock. -/
structure DenialSystem where
  store : Store
  calls : List DenialCall
  clock : Date

inductive DenialAction where
  | recordDenial (incidentId actorId : Id) (clearanceLevel : Nat) (now : Date)
  | find (k : Nat)
  | create (k : Nat) (auditId : Id)
  /-- A statement of the call fails, which is caught and logged. -/
  | fail (k : Nat)
  /-- Any other writer of audit rows. -/
  | others (rows : List AuditEvent)

def denialStep (sys : DenialSystem) : DenialAction → Option DenialSystem
  | .recordDenial incidentId actorId clearanceLevel now =>
    if now < sys.clock then none
    else
      some { sys with
        calls := sys.calls ++ [⟨incidentId, actorId, clearanceLevel, now, false⟩]
        clock := now }
  | .find k =>
    (sys.calls[k]?).bind fun call =>
      if call.cleared then none
      else if findRecentAccessDenied sys.store call.actorId call.incidentId
          (call.now - denialDedupeWindowMs) then
        some { sys with calls := sys.calls.eraseIdx k }
      else some { sys with calls := sys.calls.set k { call with cleared := true } }
  | .create k auditId =>
    (sys.calls[k]?).bind fun call =>
      if call.cleared then
        some { sys with
          store := sys.store.record [call.record] fun _ => auditId
          calls := sys.calls.eraseIdx k }
      else none
  | .fail k => (sys.calls[k]?).map fun _ => { sys with calls := sys.calls.eraseIdx k }
  | .others rows =>
    if rows.all (·.type ≠ .accessDenied) then
      some { sys with store := { sys.store with auditEvents := sys.store.auditEvents ++ rows } }
    else none

def DenialSystem.boot (store : Store) (clock : Date) : DenialSystem := ⟨store, [], clock⟩

/-- The first action that is enabled of the two a call can take. -/
def denialTurn (sys : DenialSystem) (auditId : Id) : Option DenialSystem :=
  match denialStep sys (.find 0) with
  | none => none
  | some found =>
    -- a call that has found a recent row is over
    if found.calls.isEmpty then some found else denialStep found (.create 0 auditId)

/-- With nothing in between, the two steps of a call are the one action of `step`. -/
theorem recordDenial_eq (config : JobConfig) (sys : System) (incidentId actorId auditId : Id)
    (clearanceLevel : Nat) (now : Date) :
    (step config sys (.recordDenial incidentId actorId auditId clearanceLevel now)).map (·.store) =
      (denialTurn ⟨sys.store, [⟨incidentId, actorId, clearanceLevel, now, false⟩], now⟩ auditId).map
        (·.store) := by
  by_cases recent : findRecentAccessDenied sys.store actorId incidentId
      (now - denialDedupeWindowMs) = true
  · simp [step, denialTurn, denialStep, recent]
  · simp [step, denialTurn, denialStep, recent, DenialCall.record]

end IncidentApi
