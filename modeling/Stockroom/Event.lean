/-!
# Events

An event tells a reader of the log what a computation noticed on its way. The events of a
computation are a value beside its result, so that results never depend on them.
-/

namespace Stockroom

/-- How much an event matters. -/
inductive Level
  | debug
  | warn
  deriving DecidableEq

/-- The name of a level. -/
def Level.name : Level → String
  | debug => "DEBUG"
  | warn => "WARN"

/-- A message with named details. -/
structure Event where
  level : Level
  message : String
  details : List (String × String)
  deriving DecidableEq

end Stockroom
