import EdgeGateway.Log.Filter
import EdgeGateway.Settings.Environment
import EdgeGateway.Text.Quoted

/-!
# Log lines

An event is written as one line: as text, as text with colours for terminals, or as a JSON object.
The point in time in front of it is written as the date and the time of day in the Gregorian
calendar, with six places for the seconds.
-/

namespace EdgeGateway

namespace Log

/-! ## Points in time -/

/-- A number with leading zeros up to a width. -/
def padded (width n : Nat) : Text :=
  let digits := Text.decimal n
  List.replicate (width - digits.length) '0' ++ digits

/-- A date of the Gregorian calendar. -/
structure Date where
  year : Nat
  month : Nat
  day : Nat
  deriving DecidableEq, Repr

/-- The days from the first of March of the year 0 to the first of January 1970. -/
def epochDay : Nat := 719468

/-- The days of four hundred years. -/
def daysOfEra : Nat := 146097

/-- The date of a day, counted from the first of January 1970.  The years begin in March, so that
the leap day is the last one. -/
def Date.ofDay (n : Nat) : Date :=
  let day := n + epochDay
  let era := day / daysOfEra
  let rest := day % daysOfEra
  let year := (rest - rest / 1460 + rest / 36524 - rest / 146096) / 365
  let ordinal := rest - (365 * year + year / 4 - year / 100)
  let index := (5 * ordinal + 2) / 153
  let month := if index < 10 then index + 3 else index - 9
  { year := 400 * era + year + (if month ≤ 2 then 1 else 0)
    month
    day := ordinal - (153 * index + 2) / 5 + 1 }

/-- The written form of a date. -/
def Date.text (d : Date) : Text :=
  padded 4 d.year ++ '-' :: padded 2 d.month ++ '-' :: padded 2 d.day

/-- The written form of a time of day in seconds. -/
def timeOfDay (seconds : Nat) : Text :=
  padded 2 (seconds / 3600) ++ ':' :: padded 2 (seconds / 60 % 60) ++ ':' :: padded 2 (seconds % 60)

/-- The written form of a point in time, given in billionths of a second since the first of January
1970. -/
def timestamp (nanos : Nat) : Text :=
  let seconds := nanos / 1000000000
  (Date.ofDay (seconds / 86400)).text ++ 'T' :: timeOfDay (seconds % 86400)
    ++ '.' :: padded 6 (nanos % 1000000000 / 1000) ++ ['Z']

/-! ## Styles -/

/-- How events are written. -/
inductive Style where
  | plain
  | coloured
  | json
  deriving DecidableEq, Repr

/-! ## Text -/

/-- A terminal's code for a way to write, and for the end of it. -/
def escapeCode (code : String) : Text :=
  '\x1b' :: '[' :: code.toList ++ ['m']

/-- A text written in some way. -/
def painted (code : String) (t : Text) : Text :=
  escapeCode code ++ t ++ escapeCode "0"

/-- The name of a level in a column of five. -/
def levelColumn (level : Level) : Text :=
  List.replicate (5 - level.name.length) ' ' ++ level.name

/-- A field in a line of text. -/
def plainField (name value : Text) : Text :=
  ' ' :: name ++ '=' :: Quoted.encode value

/-- A line of text. -/
def plainLine (time : Text) (e : Event) : Text :=
  time ++ ' ' :: levelColumn e.level ++ ' ' :: e.component.target ++ ':' :: ' ' :: e.message
    ++ e.fields.flatMap fun (name, value) => plainField name value

/-- The colour of a level. -/
def colour : Level → String
  | .debug => "34"
  | .trace => "35"
  | .info => "32"
  | .warn => "33"
  | .error => "31"

/-- The code for faint text. -/
def faint : String := "2"

/-- The code for slanted text. -/
def slanted : String := "3"

/-- A field in a coloured line. -/
def colouredField (name value : Text) : Text :=
  ' ' :: painted slanted name ++ painted faint ['='] ++ Quoted.encode value

/-- A coloured line. -/
def colouredLine (time : Text) (e : Event) : Text :=
  painted faint time ++ ' ' :: painted (colour e.level) (levelColumn e.level)
    ++ ' ' :: painted faint e.component.target ++ painted faint [':'] ++ ' ' :: e.message
    ++ e.fields.flatMap fun (name, value) => colouredField name value

/-! ## JSON -/

/-- The fields of an event as an object, the message first. -/
def jsonFields (e : Event) : Text :=
  Json.object
    (("message".toList, Json.string e.message)
      :: e.fields.map fun (name, value) => (name, Json.string value))

/-- A line of JSON. -/
def jsonLine (time : Text) (e : Event) : Text :=
  Json.object
    [("timestamp".toList, Json.string time), ("level".toList, Json.string e.level.name),
      ("fields".toList, jsonFields e), ("target".toList, Json.string e.component.target)]

/-! ## Logs -/

/-- A line in a style. -/
def line (style : Style) (time : Text) (e : Event) : Text :=
  match style with
  | .plain => plainLine time e
  | .coloured => colouredLine time e
  | .json => jsonLine time e

/-- How a log is set up. -/
structure Setup where
  filter : Filter
  style : Style
  deriving DecidableEq, Repr

/-- The style that an environment asks for. -/
def styleOf (env : Environment) : Style :=
  if (env.get? "LOG_FORMAT".toList).any (Text.sameLetters "json".toList) then .json
  else if (env.get? "NO_COLOR".toList).any (· ≠ []) then .plain
  else .coloured

/-- The variable that holds the filter. -/
def filterVariable : Text :=
  "RUST_LOG".toList

/-- The log that an environment asks for. -/
def Setup.ofEnvironment (env : Environment) : Setup where
  filter := ((env.get? filterVariable).map Filter.ofText).getD Filter.standard
  style := styleOf env

/-- The complaints about the filter that an environment asks for. -/
def complaints (env : Environment) : List Text :=
  ((env.get? filterVariable).map Filter.complaints).getD []

/-- The line of an event, if the event is shown. -/
def Setup.line? (setup : Setup) (time : Text) (e : Event) : Option Text :=
  if setup.filter.allows e then some (line setup.style time e) else none

/-- The lines of events. -/
def Setup.lines (setup : Setup) (time : Text) (events : List Event) : List Text :=
  events.filterMap (setup.line? time)

end Log

end EdgeGateway
