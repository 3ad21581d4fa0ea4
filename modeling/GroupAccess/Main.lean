import GroupAccess.Startup.Run
import GroupAccess.Text.Basic

namespace GroupAccess.Main

/-- The variables of the process; those that are no text are left out. -/
def processVars : IO Variables := do
  let bytes ← IO.FS.readBinFile "/proc/self/environ"
  return (bytes.toList.splitOn 0).filterMap fun entry => do
    let (name, value) ← Text.cut? '=' (← ofUtf8? entry).toList
    return (String.ofList name, String.ofList value)

/-- The bytes of a file that can be read. -/
def bytes? (name : String) : IO (Option (List UInt8)) := do
  try
    return some (← IO.FS.readBinFile name).toList
  catch _ =>
    return none

def file? (name : String) : IO (Option String) := do
  return (← bytes? name).bind ofUtf8?

/-- No path has more bytes. -/
def maxPath : Nat := 4096

/-- The bytes of a file here or in the nearest directory above, of `depth` directories. -/
def above? (depth : Nat) (name : String) : IO (Option (List UInt8)) := do
  match depth with
  | 0 => return none
  | depth + 1 =>
    match ← bytes? name with
    | some bytes => return some bytes
    | none => above? depth ("../" ++ name)

def processors : IO Nat := do
  let text := (← file? "/proc/cpuinfo").getD ""
  return max 1 ((text.splitOn "\n").filter (·.startsWith "processor")).length

def configuration : IO (Option (Format × String)) := do
  for format in Format.all do
    if let some text ← file? format.fileName then return some (format, text)
  return none

def surroundings : IO Surroundings := do
  return {
    vars := ← processVars
    variableFile := (← above? (maxPath / 3) ".env").bind ofUtf8?
    configuration := ← configuration
    processors := ← processors }

/-- Starts the service, prints its log and says why it cannot go on; sockets are beyond this
program. -/
def run : IO UInt32 := do
  let start := (← surroundings).start
  for line in start.lines do IO.println line.toJson.text
  match start.state with
  | .failed e => IO.eprintln s!"Error: {e.shown}"
  | .connects _ => IO.eprintln "Error: no connection to a database can be opened"
  | .listens s => IO.eprintln s!"Error: cannot listen on {s.listener.address}"
  return 1

end GroupAccess.Main

def main : IO UInt32 := GroupAccess.Main.run
