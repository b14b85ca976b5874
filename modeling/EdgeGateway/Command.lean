import EdgeGateway.Event
import EdgeGateway.Gateway
import EdgeGateway.Settings.Read

/-!
# The command

The command reads its settings, announces itself, serves until it is asked to stop, and says how it
was stopped.  Settings that cannot be used end it at once.

Main results:

- Theorem `start_of_fault`: settings with a fault end the command.
-/

namespace EdgeGateway

namespace Command

/-- How the command is asked to stop. -/
inductive Signal where
  | terminate
  | interrupt
  deriving DecidableEq, Repr

/-- An event of the command itself. -/
def event (level : Level) (message : Text) (fields : List (Text × Text)) : Event :=
  ⟨level, .program, message, fields⟩

/-- A value that may be missing, as it is shown. -/
def optionText (value : Option Text) : Text :=
  match value with
  | none => "None".toList
  | some t => "Some(".toList ++ Quoted.encode t ++ [')']

/-- Where the gateway listens. -/
def addressText (settings : Settings) : Text :=
  settings.host ++ ':' :: Text.decimal settings.port

/-- The summary of the settings. -/
def settingsText (settings : Settings) : Text :=
  "Configuration loaded: port=".toList ++ Text.decimal settings.port
    ++ ", host=".toList ++ settings.host
    ++ ", billing=".toList ++ optionText settings.origins.billing
    ++ ", orchestration_ui=".toList ++ optionText settings.origins.orchestrationUi

/-- The gateway that settings describe. -/
def gateway (settings : Settings) : Gateway where
  origins := settings.origins
  routes := ⟨settings.uiPrefix⟩

/-- The event that the command begins with. -/
def beginning : Event :=
  event .info "Loading application configuration".toList []

/-- The events of settings that can be used. -/
def ready (settings : Settings) : List Event :=
  [event .debug (settingsText settings) [],
    event .debug "Route table ready".toList
      [("ui_prefix".toList, (gateway settings).routes.uiPrefix)],
    event .info ("Edge router listening on ".toList ++ addressText settings) []]

/-- The event of settings that cannot be used. -/
def refused (fault : Settings.Fault) : Event :=
  event .error ("Invalid configuration: ".toList ++ fault.message) []

/-- The settings of the command, and its events until it listens or ends. -/
def start (env : Environment) (files : List (Option Bytes)) :
    Except Settings.Fault Settings × List Event :=
  match Settings.load env files with
  | (.ok settings, events) => (.ok settings, beginning :: events ++ ready settings)
  | (.error fault, events) => (.error fault, beginning :: events ++ [refused fault])

/-- An event of the server when it stops. -/
def serverEvent (message : String) : Event :=
  ⟨.trace, .server, message.toList, []⟩

/-- The events of a server that stops while no connection is open. -/
def stopServer : List Event :=
  [serverEvent "received graceful shutdown signal. Telling tasks to shutdown",
    serverEvent "signal received, not accepting new connections",
    serverEvent "waiting for 0 task(s) to finish"]

/-- The events when the command is asked to stop. -/
def stop (signal : Signal) : List Event :=
  let heard :=
    match signal with
    | .terminate => "Terminate signal received".toList
    | .interrupt => "CTRL+C signal received".toList
  event .debug heard []
    :: event .info "Shutdown signal received, starting graceful shutdown".toList []
    :: stopServer

/-- The exit code of a command with some settings. -/
def exitCode (settings : Except Settings.Fault Settings) : UInt32 :=
  match settings with
  | .ok _ => 0
  | .error _ => 1

/-- All events of a command that is asked to stop at some time. -/
def events (env : Environment) (files : List (Option Bytes)) (signal : Signal) : List Event :=
  match start env files with
  | (.ok _, before) => before ++ stop signal
  | (.error _, before) => before

theorem start_of_fault {env : Environment} {files : List (Option Bytes)} {fault : Settings.Fault}
    {events : List Event} (h : Settings.load env files = (.error fault, events)) :
    start env files = (.error fault, beginning :: events ++ [refused fault]) := by
  simp [start, h]

end Command

end EdgeGateway
