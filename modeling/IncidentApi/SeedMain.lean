import IncidentApi.Seeding
import IncidentApi.SignIn
import IncidentApi.Tiers

/-!
# The seed

`prisma/seed/index.ts`: the demo accounts, the escalation tiers of the environment and five demo
incidents, in this order and in no transaction. `docker-compose.yml` runs it whenever the containers
are brought up, and starts the service only once it has come through.
-/
namespace IncidentApi

structure SeedUser where
  email : String
  displayName : String
  role : Role
  clearanceLevel : Nat
  deriving DecidableEq, Repr

/-- `SEED_USERS`. -/
def seedUserList : List SeedUser :=
  [⟨"reporter@yopmail.com", "Reporter", .reporter, 1⟩,
    ⟨"triage_manager@yopmail.com", "Triage Manager", .triageManager, 4⟩,
    ⟨"investigator@yopmail.com", "Investigator", .investigator, 4⟩,
    ⟨"admin@yopmail.com", "Admin", .admin, 4⟩]

/-- A database with the column `passwordHash` by the primary key of its row. -/
structure SeedState where
  store : Store
  passwordHashes : List (Id × String)

/-- The columns of the `update`. -/
def SeedUser.update (u : SeedUser) (user : User) : User :=
  { user with displayName := u.displayName, role := u.role, clearanceLevel := u.clearanceLevel }

/-- The row of the `create`, with the column defaults of the model. -/
def SeedUser.create (u : SeedUser) (id : Id) (now : Date) : User :=
  ⟨id, u.email, u.displayName, u.role, u.clearanceLevel, true, now⟩

/-- The loop of `seedUsers`; `ids` is what `cuid()` answers for the row of an address. -/
def seedUsers (passwordHash : String) (ids : String → Id) (now : Date) :
    List SeedUser → SeedState → Except SeedError Unit × SeedState
  | [], state => (.ok (), state)
  | u :: rest, state =>
    if state.store.users.any (·.email = u.email) then
      seedUsers passwordHash ids now rest { state with
        store := { state.store with
          users := state.store.users.map fun user =>
            if user.email = u.email then u.update user else user } }
    else if state.store.users.any (·.id = ids u.email) then
      (.error (.uniqueConstraint "id"), state)
    else
      seedUsers passwordHash ids now rest
        { store := { state.store with
            users := state.store.users ++ [u.create (ids u.email) now] }
          passwordHashes := state.passwordHashes ++ [(ids u.email, passwordHash)] }

/-- `main`, with the target of five incidents; what threw has left the statements before it. -/
def seedMain (env : TierEnv) (passwordHash seed : String) (now : Date) (userIds : String → Id)
    (incidentIds : Nat → Id) (state : SeedState) : Except SeedError Unit × SeedState :=
  match seedUsers passwordHash userIds now seedUserList state with
  | (.error error, seeded) => (.error error, seeded)
  | (.ok _, seeded) =>
    let (result, store) : Except SeedError Unit × Store :=
      match seedEscalationTiers env seeded.store with
      | (.error error, store) => (.error error, store)
      | (.ok _, store) => seedIncidents store 5 seed now incidentIds
    (result, { seeded with store := store })

/-! ### Lives of the service -/

/-- The environment of one run of the seed, and what its calls out of the program answer. -/
structure SeedRun where
  env : TierEnv
  /-- `bcrypt.hash` of the demo password. -/
  passwordHash : String
  /-- `SEED_RANDOM_SEED`. -/
  seed : String
  now : Date
  userIds : String → Id
  incidentIds : Nat → Id

def SeedRun.main (run : SeedRun) : SeedState → Except SeedError Unit × SeedState :=
  seedMain run.env run.passwordHash run.seed run.now run.userIds run.incidentIds

end IncidentApi
