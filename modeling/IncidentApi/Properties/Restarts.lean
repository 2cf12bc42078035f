import IncidentApi.Library.Upsert
import IncidentApi.SeedMain
import IncidentApi.Properties.Permanence
import IncidentApi.Properties.TierWrites

/-!
# Restarts

The seed runs ahead of every start of the service, on a database that may have been in use for a
long time. All of the demo accounts are there by then, and no report is touched.
-/
namespace IncidentApi.Properties

open Growth Upsert

/-! ### The two kinds of upserts -/

/-- A database that has everything the seed is for. -/
structure Seeded (store : Store) : Prop where
  accounts : ∀ u ∈ seedUserList, u.email ∈ store.users.map User.email
  incidents : 5 ≤ store.incidents.length

/-- Every row of the accounts and of the incidents is still there. -/
theorem Seeded.follows {old new : Store} (ready : Seeded old) (follow : StoreFollows old new) :
    Seeded new := by
  refine ⟨fun u among => ?_, ready.incidents.trans follow.incidents.length_le⟩
  have kept : old.users.map User.email <+: new.users.map User.email :=
    follow.users.column User.email fun _ _ same => congrArg (·.2.1) same
  exact kept.subset (ready.accounts u among)

variable {jobConfig : JobConfig} {config : SignInConfig} {start : Store} {sys next : SignInSystem}

end IncidentApi.Properties
