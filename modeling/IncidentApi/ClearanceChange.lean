import IncidentApi.Admin
import IncidentApi.AdminListings

/-!
# Preview and change of a clearance

`previewClearanceImpact` and `changeClearance` of `admin.service.ts` as whole calls. A change reads
its target, then the impact, then runs its transaction, and each of the three may find another
store.
-/
namespace IncidentApi

structure AffectedIncident where
  id : Id
  reference : String
  severity : Severity
  deriving DecidableEq, Repr

structure ClearanceImpactResponse where
  affectedIncidents : List AffectedIncident
  count : Nat
  deriving DecidableEq, Repr

def previewClearanceImpact (store : Store) (targetId : Id) (newClearance : ClearanceLevel) :
    Except AppError ClearanceImpactResponse := do
  let _ ← loadTargetOrThrow store targetId
  let affected := computeClearanceImpact store targetId newClearance.level
  return ⟨affected.map fun incident => ⟨incident.id, incident.reference, incident.severity⟩,
    affected.length⟩

structure AdminUserMutationResponse where
  user : AdminUserRow
  affectedIncidentCount : Nat
  deriving DecidableEq, Repr

/-- What the three steps of a `changeClearance` find. -/
structure ClearanceStores where
  load : Store
  impact : Store
  transaction : Store

/-- No other write during the call. -/
def ClearanceStores.undisturbed (store : Store) : ClearanceStores := ⟨store, store, store⟩

/-- The answer and the store afterwards; a transaction that fails is undone. -/
def changeClearance (stores : ClearanceStores) (actor : Actor) (targetId : Id)
    (clearance : ClearanceLevel) (now wall : Date) (ids : Nat → Nat → Id) :
    Except AppError AdminUserMutationResponse × Store :=
  match assertNotSelf actor targetId >>= fun _ => loadTargetOrThrow stores.load targetId with
  | .error refused => (.error refused, stores.transaction)
  | .ok target =>
    if target.clearanceLevel = clearance.level then
      (.ok ⟨toAdminUserRow target, 0⟩, stores.transaction)
    else
      let affected := clearanceImpact stores.impact target clearance
      match commitClearance stores.transaction actor target clearance affected now wall ids with
      | .error failed => (.error failed, stores.transaction)
      | .ok after =>
        -- the row that `user.update` returned
        let updated := (after.userById target.id).getD target
        (.ok ⟨toAdminUserRow updated, affected.length⟩, after)

end IncidentApi
