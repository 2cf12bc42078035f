import IncidentApi.Admin
import IncidentApi.Listings

/-!
# Assignable investigators

`GET /users/assignable-investigators`: the query of `users.repository.ts` with the handler that
serves it.
-/
namespace IncidentApi

structure AssignableInvestigator where
  id : Id
  displayName : String
  clearanceLevel : Nat
  deriving DecidableEq, Repr

def isAssignable (minClearance : Nat) (user : User) : Bool :=
  user.role = .investigator && user.isActive && minClearance ≤ user.clearanceLevel

section Order
variable {κ : Type} [LinearOrder κ]

/-- `ORDER BY clearanceLevel DESC, displayName ASC` under a collation, with its ties broken. -/
def assignableOrder (collate : String → κ) (ties : TieOrder) (user : User) : ℕᵒᵈ ×ₗ κ ×ₗ Id :=
  toLex (OrderDual.toDual user.clearanceLevel, toLex (collate user.displayName, ties.rank user.id))

def findAssignableInvestigators (collate : String → κ) (ties : TieOrder) (store : Store)
    (minClearance : Nat) : List AssignableInvestigator :=
  let rows := store.users.filter (isAssignable minClearance)
  (Keyset.sortOn (assignableOrder collate ties) rows).map fun user =>
    ⟨user.id, user.displayName, user.clearanceLevel⟩

/-- `AssignableInvestigatorQuerySchema`. -/
structure AssignableInvestigatorQuery where
  minClearance : Option ClearanceLevel

def assignableInvestigatorsHandler (collate : String → κ) (ties : TieOrder) (store : Store)
    (query : AssignableInvestigatorQuery) : List AssignableInvestigator :=
  findAssignableInvestigators collate ties store ((query.minClearance.map (·.level)).getD 1)

end Order

end IncidentApi
