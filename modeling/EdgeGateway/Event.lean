import EdgeGateway.Text

/-!
# Log events

Whatever the gateway reports is an event: how severe it is, which part of the gateway reports it,
a message, and named fields.
-/

namespace EdgeGateway

/-- How severe an event is. -/
inductive Level where
  | trace
  | debug
  | info
  | warn
  | error
  deriving DecidableEq, Repr

/-- The name of a level. -/
def Level.name : Level → Text
  | .trace => "TRACE".toList
  | .debug => "DEBUG".toList
  | .info => "INFO".toList
  | .warn => "WARN".toList
  | .error => "ERROR".toList

/-- The parts of the gateway that report events. -/
inductive Component where
  | program
  | settings
  | requests
  | forwarding
  | forwardedHeaders
  | client
  | server
  deriving DecidableEq, Repr

/-- The name of a part in the log. -/
def Component.target : Component → Text
  | .program => "oke_edge_router".toList
  | .settings => "oke_edge_router::config".toList
  | .requests => "oke_edge_router::handlers".toList
  | .forwarding => "oke_edge_router::proxy".toList
  | .forwardedHeaders => "oke_edge_router::proxy::headers".toList
  | .client => "oke_edge_router::proxy::upstream".toList
  | .server => "axum::serve".toList

/-- An event of the log. -/
structure Event where
  level : Level
  component : Component
  message : Text
  fields : List (Text × Text) := []
  deriving DecidableEq, Repr

end EdgeGateway
