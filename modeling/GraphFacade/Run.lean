import GraphFacade.Event
import GraphFacade.Fault

/-!
# Runs

Steps that may fail and that report what they do.  Reports made before a fault
remain.
-/

namespace GraphFacade

abbrev Run := EStateM Fault Log

def Run.report (event : Event) : Run Unit := fun log =>
  .ok () (log.push event)

end GraphFacade
