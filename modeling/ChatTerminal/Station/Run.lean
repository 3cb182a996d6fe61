import ChatTerminal.Station.Keys
/-!
# A run of the client

A run starts by finding out who is signed in, then takes one turn after another until a key ends
it, and leaves the channel on display at the end. The client is drawn before each turn.
-/

namespace ChatTerminal

inductive Turn where
  | key (k : Key)
  | link (e : Link.Event)
deriving Repr, DecidableEq

namespace Station

def showLoading (s : Station) (message : String) : Station :=
  s.onClient fun c => { c with page := .loading message }

def checking : String := "Checking your session..."

def loadingChannels : String := "Loading your channels..."

/-- Opens the first page. The clients are those drawn on the way. -/
def start (server : Server) (bypass : Bool) (s : Station) : List Client × Station :=
  let s := s.showLoading checking
  let (t, who) := s.resolveIdentity server bypass
  match who with
  | some who =>
    let t := t.showLoading loadingChannels
    ([s.client, t.client], t.enterChat server who)
  | none => ([s.client], t.onClient Client.showSignIn)

def turn (server : Server) (s : Station) : Turn → Station × Verdict
  | .key k => if k = Key.interrupt then (s, .quit) else s.press server k
  | .link e => (s.onLink server e, .stay)

/-- Takes turns until a key ends the run. The clients are those drawn, one before each turn. -/
def takeTurns (server : Server) (s : Station) : List Turn → List Client × Station
  | [] => ([], s)
  | t :: more =>
    match s.turn server t with
    | (next, .quit) => ([s.client], next)
    | (next, .stay) =>
      let (drawn, last) := next.takeTurns server more
      (s.client :: drawn, last)

def leave (server : Server) (s : Station) : Station :=
  s.perform server fun c =>
    let (session, effects) := c.session.reset
    ({ c with session := session }, effects)

def run (server : Server) (bypass : Bool) (s : Station) (turns : List Turn) :
    List Client × Station :=
  let (first, s) := s.start server bypass
  let (drawn, s) := s.takeTurns server turns
  (first ++ drawn, s.leave server)

end Station

end ChatTerminal
