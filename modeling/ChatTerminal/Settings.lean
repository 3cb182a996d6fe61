import ChatTerminal.Toml.Document
import ChatTerminal.Web.Url
/-!
# Settings

The settings of the client: where the server is, which origin the client claims, and whether
signing in is bypassed. They come from a TOML file; the environment overrides the file.
-/

namespace ChatTerminal

structure Settings where
  apiBaseUrl : String := ""
  origin : String := ""
  bypassSignIn : Bool := false
deriving Repr, DecidableEq

namespace Settings

def defaultApiBase : String := "http://localhost:8080"

def apiBaseVariable : String := "NEONCHAT_API_BASE_URL"

def originVariable : String := "NEONCHAT_ORIGIN"

def bypassVariable : String := "NEONCHAT_DEV_BYPASS_AUTH"

def invalidFile : String := "Invalid config file format"

open Toml in
/-- A string under a key at the top of the file; empty if the key is missing. -/
def stringAt? (es : Entries) (key : String) : Option String :=
  match es.get? key with
  | none => some ""
  | some (.scalar (.string s)) => some s
  | _ => none

open Toml in
/-- A boolean under a key at the top of the file; false if the key is missing. -/
def flagAt? (es : Entries) (key : String) : Option Bool :=
  match es.get? key with
  | none => some false
  | some (.scalar (.boolean b)) => some b
  | _ => none

/-- Reads the text of a settings file. Keys that mean nothing here are passed over. -/
def parse (text : String) : Option Settings := do
  let es ← Toml.parse text
  some {
    apiBaseUrl := ← stringAt? es "api_base_url"
    origin := ← stringAt? es "origin"
    bypassSignIn := ← flagAt? es "dev_bypass_auth" }

def override (s : Settings) (lookup : String → Option String) : Settings :=
  { apiBaseUrl := ((lookup apiBaseVariable).map Text.trim).getD s.apiBaseUrl
    origin := ((lookup originVariable).map Text.trim).getD s.origin
    bypassSignIn := ((lookup bypassVariable).map (Text.trim · == "true")).getD s.bypassSignIn }

def apiBase (s : Settings) : String :=
  let base := Text.trim s.apiBaseUrl
  if base.isEmpty then defaultApiBase else base

/-- The origin that links claim: the one set, without slashes at its end, or that of the server.
-/
def linkOrigin? (s : Settings) : Option String :=
  let origin := Text.trim s.origin
  if origin.isEmpty then
    match Web.Url.parse s.apiBase with
    | .ok u => u.origin?
    | .error _ => none
  else some (String.ofList (Text.stripEnd (· == '/') origin.toList))

/-- The file that is written where there is none. -/
def template : String :=
  Text.ofLines [
    "# neonchat configuration",
    "# The session cookie is stored in your OS credential manager.",
    "# This file contains non-sensitive settings only.",
    "",
    "# Chat server base URL. Leave empty to use " ++ defaultApiBase,
    "api_base_url = \"\"",
    "",
    "# Origin header sent on WebSocket upgrades. Leave empty to derive it from api_base_url.",
    "# The server only accepts origins listed in its CORS_ORIGINS.",
    "origin = \"\"",
    "",
    "# Skip sign-in with a fixed development identity (debug builds only)",
    "dev_bypass_auth = false"]

def load (file : Option String) (lookup : String → Option String) : Option Settings × String :=
  let text := file.getD template
  ((parse text).map (·.override lookup), text)

end Settings

/-- The token kept in a file between two runs. A file of blanks keeps none. -/
def keptToken? (file : Option String) : Option String :=
  (file.map Text.trim).filter (! ·.isEmpty)

end ChatTerminal
