/-!
# What is logged

Directives say from which level on messages are logged: those of the broker itself, and all others.
They are handed to the log when the program starts. No message comes back from there, so that no
session depends on them.
-/

namespace ChainBroker.Command

/-- The directives that hold unless the environment has others. -/
def logDirectives (verbose : Bool) : String :=
  if verbose then "node_broker=debug,info" else "node_broker=info,warn"

end ChainBroker.Command
