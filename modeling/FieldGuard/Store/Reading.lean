import FieldGuard.Outcome
import FieldGuard.Store

/-!
# Reading records

The records that a query selects, reduced to what the actor may see. A collection is given by its
configuration, which need not be the one registered at the time.
-/

namespace FieldGuard.Store

/-- What an actor may see of the records that a query selects, for an operation. -/
def reduceSelected (config : Config) (actor : Actor) (query : Query) (operation : Operation) :
    Action Reduction := do
  let selection ← onBackend (Backend.select config.name query)
  return reduce actor selection operation

/-- Reads the records that a query selects. -/
def read (config : Config) (actorId : String) (query : Query) : Action Outcome := do
  let actor ← resolve actorId
  return .ofReduction (← reduceSelected config actor query .read)

end FieldGuard.Store
