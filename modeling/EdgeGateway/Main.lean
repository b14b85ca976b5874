import EdgeGateway.Command
import EdgeGateway.Log.Line
import Std.Time.DateTime.Timestamp

/-!
# The program

The program carries out the command: it reads its environment and its file of settings, writes its
log to standard output, and takes the end of standard input as the sign to stop.
-/

namespace EdgeGateway

/-- The environment of this process. -/
def readEnvironment : IO Environment := do
  return Environment.ofBlock (← IO.FS.readBinFile "/proc/self/environ").toList

/-- The bytes of a file, if there is one. -/
def readFile? (path : String) : IO (Option Bytes) := do
  try
    return some (← IO.FS.readBinFile path).toList
  catch _ =>
    return none

/-- The files of settings in this directory and the directories around it. -/
def readFiles : IO (List (Option Bytes)) := do
  let directory ← IO.currentDir
  (List.range directory.components.length).mapM fun n =>
    readFile? ("".intercalate (List.replicate n "../") ++ ".env")

/-- Writes the lines of events. -/
def writeLog (setup : Log.Setup) (events : List Event) : IO Unit := do
  let stdout ← IO.getStdout
  for e in events do
    let now ← Std.Time.Timestamp.now
    let time := Log.timestamp now.toNanosecondsSinceUnixEpoch.toInt.toNat
    for line in setup.lines time [e] do
      stdout.putStrLn (String.ofList line)
  stdout.flush

/-- Writes complaints to standard error. -/
def writeComplaints (complaints : List Text) : IO Unit := do
  for complaint in complaints do
    IO.eprintln (String.ofList complaint)

/-- Waits until standard input ends. -/
partial def awaitEnd (input : IO.FS.Stream) : IO Unit := do
  unless (← input.read 4096).isEmpty do
    awaitEnd input

end EdgeGateway

open EdgeGateway in
/-- Runs the command. -/
def main : IO UInt32 := do
  let env ← readEnvironment
  writeComplaints (Log.complaints env)
  let setup := Log.Setup.ofEnvironment env
  let (settings, events) := Command.start env (← readFiles)
  writeLog setup events
  if settings.isOk then
    awaitEnd (← IO.getStdin)
    writeLog setup (Command.stop .terminate)
  return Command.exitCode settings
