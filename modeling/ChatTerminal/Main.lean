import ChatTerminal.CommandLine
import ChatTerminal.Station.Run
import ChatTerminal.View
/-!
# The program

Reads the files and the environment, follows the command line, and writes back what changed. The
client is then driven line by line: each line of the input names keys, and the screen is printed
after each of them. No network is opened here, so every request ends without an answer.
-/

namespace ChatTerminal.Program

/-- A directory that the environment names, or one below the home directory. -/
def directory (name below : String) : IO String := do
  match ← IO.getEnv name with
  | some path => if path.startsWith "/" then return path else pure ()
  | none => pure ()
  return (← IO.getEnv "HOME").getD "." ++ below

def readIfPresent (path : String) : IO (Option String) := do
  try
    return some (← IO.FS.readFile path)
  catch _ => return none

/-- Makes a file hold what it should, unless it does. -/
def settle (path : String) (before after : Option String) : IO Unit := do
  if before ≠ after then
    match after with
    | some text => IO.FS.writeFile path text
    | none => IO.FS.removeFile path

/-- The server as it is seen without a network. -/
def silentServer : Server := fun _ _ => .dropped

def screenWidth : Nat := 80

def screenHeight : Nat := 24

def screenText (c : Client) : String :=
  let rows := (View.draw c screenWidth screenHeight).1.rows.toList
  Text.ofLines (rows.map fun row => String.ofList (row.toList.flatMap (·.symbol)))

def keysOf (line : String) : List Key :=
  (Text.words line.toList).filterMap fun name => Key.ofName? (String.ofList name)

/-- Takes a turn for each line until a key ends the run or the input ends. -/
partial def converse (input output : IO.FS.Stream) (s : Station) : IO Station := do
  output.putStr (screenText s.client)
  output.flush
  let line ← input.getLine
  if line.isEmpty then return s
  let (s, verdict) := (keysOf line).foldl (fun (s, verdict) k =>
    match verdict with
    | .quit => (s, .quit)
    | .stay => s.turn silentServer (.key k)) (s, Verdict.stay)
  match verdict with
  | .quit => return s
  | .stay => converse input output s

/-- Runs the client until it ends; the result is the session kept for the next run. -/
def drive (launch : CommandLine.Launch) (kept : Option String) : IO (Option String) := do
  let input ← IO.getStdin
  let output ← IO.getStdout
  let station : Station := { agent := launch.agent, kept }
  let (_, s) := station.start silentServer launch.settings.bypassSignIn
  let s ← converse input output s
  return (s.leave silentServer).kept

def run (words : List String) : IO Unit := do
  let settings := (← directory "XDG_CONFIG_HOME" "/.config") ++ "/neonchat"
  let data ← directory "XDG_DATA_HOME" "/.local/share"
  IO.FS.createDirAll settings
  let settingsFile := settings ++ "/config.toml"
  let sessionFile := settings ++ "/.session"
  let files : CommandLine.Files :=
    ⟨← readIfPresent settingsFile, ← readIfPresent sessionFile⟩
  let names := [Settings.apiBaseVariable, Settings.originVariable, Settings.bypassVariable]
  let values ← names.mapM fun name => do return (name, ← IO.getEnv name)
  let lookup (name : String) : Option String := (values.lookup name).join
  let outcome := CommandLine.run words ⟨settings, data ++ "/neonchat/logs"⟩ lookup files 0
  settle settingsFile files.settings outcome.files.settings
  settle sessionFile files.session outcome.files.session
  (← IO.getStdout).putStr outcome.output
  (← IO.getStderr).putStr outcome.errors
  match outcome.launch with
  | some launch =>
    let kept := outcome.files.session
    settle sessionFile kept (← drive launch kept)
  | none => pure ()

end ChatTerminal.Program

def main (words : List String) : IO Unit :=
  ChatTerminal.Program.run words
