import EventQuery.Text.Script.AtoH
import EventQuery.Text.Script.ItoO
import EventQuery.Text.Script.PtoZ

/-!
# All scripts
-/

namespace EventQuery.Script

def scripts : List Script := atoH ++ itoO ++ ptoZ

end EventQuery.Script
