import ChatTerminal.Agent
import ChatTerminal.Link.Address
import ChatTerminal.Session
import ChatTerminal.Text.Utf8
/-!
# One connection of a link

A connection is opened by a handshake, passes texts both ways while it is open, and ends once. It
ends without a report when its owner lets it go, and with a report in every other case.
-/

namespace ChatTerminal.Link

inductive Phase where
  | connecting
  | open
  | ended
deriving Repr, DecidableEq

/-- What a connection sends to its peer. -/
inductive Outgoing where
  | text (content : String)
  | pong
  | close
deriving Repr, DecidableEq

/-- What happens to a connection. -/
inductive Happening where
  | accepted
  /-- The peer refused the handshake, or there was none. -/
  | refused
  /-- The owner has a text to send. -/
  | queued (content : String)
  | released
  | text (content : String)
  | binary (bytes : List Nat)
  | ping
  | closed
  | lost
deriving Repr, DecidableEq

structure Response where
  phase : Phase
  reports : List Report := []
  sent : List Outgoing := []
deriving Repr, DecidableEq

namespace Connection

def badAddress : String := "invalid url"

def notConnected : String := "connect"

def readFailed : String := "read failed"

def begin (r : LinkRequest) : Response :=
  if (Address.parse? r.address).isSome then { phase := .connecting }
  else { phase := .ended, reports := [.failed badAddress] }

/-- A connection is let go while it connects as soon as its owner turns to it. -/
def whileConnecting : Happening → Response
  | .accepted => { phase := .open, reports := [.opened] }
  | .refused => { phase := .ended, reports := [.failed notConnected] }
  | .queued _ | .released => { phase := .ended }
  | _ => { phase := .connecting }

/-- An open connection, at the second `now`. -/
def whileOpen (now : Int) : Happening → Response
  | .queued content => { phase := .open, sent := [.text content] }
  | .released => { phase := .ended, sent := [.close] }
  | .text content => { phase := .open, reports := [.frame content now] }
  | .binary bytes =>
    { phase := .open, reports := [.frame (String.ofList (Text.ofBytes bytes)) now] }
  | .ping => { phase := .open, sent := [.pong] }
  | .closed => { phase := .ended, reports := [.closed] }
  | .lost => { phase := .ended, reports := [.failed readFailed] }
  | _ => { phase := .open }

def respond (now : Int) (p : Phase) (h : Happening) : Response :=
  match p with
  | .connecting => whileConnecting h
  | .open => whileOpen now h
  | .ended => { phase := .ended }

end Connection

/-- The cookie and the origin as a handshake carries them. A value that no header can hold is left
out. -/
def headerValue? (value : Option String) : Option String :=
  value.filter (·.toList.all fun c => (0x20 ≤ c.toNat && c.toNat < 0x7F) || c == '\t')

end ChatTerminal.Link
