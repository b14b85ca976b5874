import EdgeGateway.Backend
import EdgeGateway.Event
import EdgeGateway.Route
import EdgeGateway.Settings.File
import EdgeGateway.Text.Numeral
import EdgeGateway.Text.Quoted

/-!
# Settings

The gateway is configured by environment variables.  Every setting may be left out; the first
setting with a value that cannot be used stops the gateway.  Its fault names the setting and quotes
the value, so that the message is one line whatever the value is.

Main results:

- Theorem `readPort_of_unset`, `readTimeout_of_blank`: what a setting is when it is left out.
-/

namespace EdgeGateway

/-- How a gateway is set up. -/
structure Settings where
  port : Nat
  host : Text
  origins : Origins
  uiPrefix : Text
  timeout : Option Nat
  deriving DecidableEq, Repr

namespace Settings

/-! ## Faults -/

/-- The variables that hold the URLs of backends. -/
inductive UrlVariable where
  | billing
  | formerBilling
  | orchestrationUi
  deriving DecidableEq, Repr

/-- The name of a variable for a URL. -/
def UrlVariable.name : UrlVariable → Text
  | .billing => "OKE_BILLING_URL".toList
  | .formerBilling => "OKE_BACKEND_URL".toList
  | .orchestrationUi => "OKE_TEMPORAL_URL".toList

/-- Why settings are refused, with the value that was found. -/
inductive Fault where
  | port (value : Text)
  | url (name value : Text)
  | uiPrefix (value : Text)
  | timeout (value : Text)
  deriving DecidableEq, Repr

/-- The wording of a fault. -/
def Fault.message : Fault → Text
  | .port value => "PORT must be a number, got ".toList ++ Quoted.encode value
  | .url name value =>
    name ++ " is not a valid http(s) URL: ".toList ++ Quoted.encode value
  | .uiPrefix value =>
    "UI_PROXY_PREFIX ".toList ++ Quoted.encode value
      ++ " must be a non-empty path that does not collide with /api".toList
  | .timeout value =>
    "UPSTREAM_TIMEOUT_SECS must be a positive number of seconds, got ".toList
      ++ Quoted.encode value

/-! ## Variables -/

/-- The variable for the port. -/
def portVariable : Text := "PORT".toList

/-- The variable for the host. -/
def hostVariable : Text := "HOST".toList

/-- The variable for the prefix of the user interface. -/
def uiPrefixVariable : Text := "UI_PROXY_PREFIX".toList

/-- The variable for the timeout. -/
def timeoutVariable : Text := "UPSTREAM_TIMEOUT_SECS".toList

/-- A variable without the white space around it; a blank one counts as unset. -/
def nonBlank? (env : Environment) (name : Text) : Option Text :=
  ((env.get? name).map Text.trimBlank).filter (· ≠ [])

/-- The largest port. -/
def maxPort : Nat := 65535

/-- The longest timeout, in seconds. -/
def maxTimeout : Nat := 18446744073709551615

/-- The port when none is configured. -/
def defaultPort : Nat := 3000

/-- The host when none is configured. -/
def defaultHost : Text := "127.0.0.1".toList

/-- The port to listen on; white space is not allowed around it. -/
def readPort (env : Environment) : Except Fault Nat :=
  match env.get? portVariable with
  | none => .ok defaultPort
  | some value =>
    match Numeral.read? maxPort value with
    | some port => .ok port
    | none => .error (.port value)

/-- The origin in the value of a variable. -/
def readOrigin (name value : Text) : Except Fault Text :=
  match Origin.ofText? value with
  | some origin => .ok origin
  | none => .error (.url name value)

/-- The origin in a variable, if the variable is used. -/
def readUrl (env : Environment) (source : UrlVariable) : Except Fault (Option Text) :=
  match nonBlank? env source.name with
  | none => .ok none
  | some value => (readOrigin source.name value).map some

/-- The origin of the billing backend, whose variable has an older name too. -/
def readBilling (env : Environment) : Except Fault (Option Text) :=
  match nonBlank? env UrlVariable.billing.name with
  | some _ => readUrl env .billing
  | none => readUrl env .formerBilling

/-- The prefix of the user interface. -/
def readUiPrefix (env : Environment) : Except Fault Text :=
  let value := (env.get? uiPrefixVariable).getD Route.usualUiPrefix
  match Route.normalizePrefix? value with
  | some pre => .ok pre
  | none => .error (.uiPrefix value)

/-- How many seconds a backend may take; zero is not allowed. -/
def readTimeout (env : Environment) : Except Fault (Option Nat) :=
  match nonBlank? env timeoutVariable with
  | none => .ok none
  | some value =>
    match Numeral.read? maxTimeout value with
    | some (n + 1) => .ok (some (n + 1))
    | _ => .error (.timeout value)

theorem readPort_of_unset {env : Environment} (h : env.get? portVariable = none) :
    readPort env = .ok defaultPort := by
  simp [readPort, h]

theorem readTimeout_of_blank {env : Environment}
    (h : nonBlank? env timeoutVariable = none) : readTimeout env = .ok none := by
  simp [readTimeout, h]

/-! ## All settings -/

/-- The warnings about backends that are not configured. -/
def warnings (origins : Origins) : List Event :=
  (if origins.billing.isNone then
    [⟨.warn, .settings, "No billing backend configured; /api routes will answer 500".toList, []⟩]
  else [])
  ++ (if origins.orchestrationUi.isNone then
    [⟨.warn, .settings,
      "No orchestration UI backend configured; UI routes will answer 500".toList, []⟩]
  else [])

/-- The settings that are read before the warnings. -/
def readAddresses (env : Environment) : Except Fault (Nat × Origins) := do
  let port ← readPort env
  let billing ← readBilling env
  let orchestrationUi ← readUrl env .orchestrationUi
  return (port, ⟨billing, orchestrationUi⟩)

/-- The settings that are read after the warnings. -/
def readLimits (env : Environment) : Except Fault (Text × Option Nat) := do
  let uiPrefix ← readUiPrefix env
  let timeout ← readTimeout env
  return (uiPrefix, timeout)

/-- The settings in an environment, and the events on the way. -/
def ofEnvironment (env : Environment) : Except Fault Settings × List Event :=
  match readAddresses env with
  | .error fault => (.error fault, [])
  | .ok (port, origins) =>
    let settings := (readLimits env).map fun (uiPrefix, timeout) =>
      { port, host := (env.get? hostVariable).getD defaultHost, origins, uiPrefix, timeout }
    (settings, warnings origins)

/-- The settings of a process that finds some files of settings. -/
def load (env : Environment) (files : List (Option Bytes)) : Except Fault Settings × List Event :=
  ofEnvironment (loadFiles env files)

end Settings

end EdgeGateway
