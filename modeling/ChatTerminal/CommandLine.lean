import ChatTerminal.Agent
import ChatTerminal.Settings
/-!
# The command line

What the program does before its terminal opens: help, forgetting the kept session, reading the
settings and finding the server. A run either ends with something to print or launches the
client.
-/

namespace ChatTerminal

namespace CommandLine

def valueOf? (words : List String) (flag : String) : Option String :=
  ((words.dropWhile (· != flag)).drop 1).head?

structure Places where
  settings : String
  logs : String
deriving Repr, DecidableEq

/-- The contents of the two files that the program keeps; a missing file is `none`. -/
structure Files where
  settings : Option String := none
  session : Option String := none
deriving Repr, DecidableEq

structure Launch where
  settings : Settings
  agent : Agent
deriving Repr, DecidableEq

/-- How a run goes before the terminal opens. A run without a launch ends there. -/
structure Outcome where
  output : String := ""
  errors : String := ""
  files : Files
  launch : Option Launch := none
deriving Repr, DecidableEq

def helpText (places : Places) : String :=
  Text.ofLines [
    "neonchat - Terminal client for the Neon chat server",
    "",
    "USAGE: neonchat [OPTIONS]",
    "",
    "OPTIONS:",
    "  --api <url>  Use this server base URL for this run",
    "  --logout     Clear the stored session",
    "  --help, -h   Show this help",
    "",
    "CONFIGURATION:",
    "  " ++ places.settings ++ "/config.toml",
    "  Environment: " ++ Settings.apiBaseVariable ++ ", " ++ Settings.originVariable ++ ", "
      ++ Settings.bypassVariable,
    "  Logs: " ++ places.logs ++ " (filter with NEONCHAT_LOG)",
    "",
    "KEYBOARD SHORTCUTS:",
    "  Tab / Shift+Tab  Switch panels (Channels → Messages → Input)",
    "  Up/Down or j/k   Navigate channels / scroll messages",
    "  Enter            Open channel / send message / submit form",
    "  c                Create a channel",
    "  /                Join a channel with owner@channel",
    "  d                Delete the owned channel under the cursor",
    "  h                Go to Home",
    "  e                Enter the most recent channel (from Home)",
    "  p                Profile (Ctrl+L log out, Ctrl+D delete account)",
    "  r                Reload channels",
    "  Ctrl+R           Switch between sign-in and create account",
    "  Esc              Back / close / cancel",
    "  q                Quit",
    "  Ctrl+C           Force quit"]

def setupGuide : String :=
  Text.ofLines [
    "Setup Guide:",
    "  1. Start the chat server (it listens on :8080 by default)",
    "  2. Set api_base_url in the config file, or export " ++ Settings.apiBaseVariable,
    "  3. Add the client origin to the server's CORS_ORIGINS,",
    "     or set origin to one of the values it already allows",
    "     (e.g. http://localhost:5173)"]

def sessionCleared : String := "Stored session cleared from OS credential store.\n"

def complaint (reason : String) : String := "Error: " ++ reason ++ "\n\n" ++ setupGuide

/-- Reads the settings, finds the server and puts the kept session into the agent's jar. A session
is not looked for where signing in is bypassed. -/
def start (words : List String) (lookup : String → Option String) (files : Files) (now : Int) :
    Outcome :=
  let (settings, text) := Settings.load files.settings lookup
  let files := { files with settings := some text }
  match settings with
  | none => { files, errors := complaint Settings.invalidFile }
  | some settings =>
    let settings := { settings with
      apiBaseUrl := (valueOf? words "--api").getD settings.apiBaseUrl }
    match Agent.ofBase settings.apiBase with
    | .error e => { files, errors := complaint e.message }
    | .ok agent =>
      let token := if settings.bypassSignIn then none else keptToken? files.session
      let agent := token.elim agent (agent.seed now)
      { files, launch := some ⟨settings, agent⟩ }

/-- Follows the words of the command line. Asking for help comes before everything else. -/
def run (words : List String) (places : Places) (lookup : String → Option String) (files : Files)
    (now : Int) : Outcome :=
  if words.any fun w => w == "--help" || w == "-h" then { files, output := helpText places }
  else if words.contains "--logout" then
    { files := { files with session := none }, output := sessionCleared }
  else start words lookup files now

end CommandLine

end ChatTerminal
