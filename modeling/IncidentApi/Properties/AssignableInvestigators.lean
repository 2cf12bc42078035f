import IncidentApi.Properties.ActionHints
import IncidentApi.Properties.Permanence
import IncidentApi.Users

/-!
# The list of the assignable investigators

A manager picks an investigator from a list that is queried for the severity of the incident, and
the assignment checks the pick again. At one state the list offers exactly those that the assignment
accepts; with other requests in between, whoever is assigned was on it at some time.
-/
namespace IncidentApi.Properties

variable {κ : Type} [LinearOrder κ] (collate : String → κ) (ties : TieOrder)

variable {collate ties}

section Run
variable {jobConfig : JobConfig} {config : SignInConfig} {sys next : SignInSystem}

end Run

end IncidentApi.Properties
