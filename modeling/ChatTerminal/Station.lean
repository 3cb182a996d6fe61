import ChatTerminal.Agent
import ChatTerminal.Client
/-!
# The station

A station is a client at work: the client itself, the agent that talks to the server, the session
kept for the next run, and the record of what was asked of the server and of the links. The
server is a function, so each flow is a function from stations to stations.
-/

namespace ChatTerminal

inductive LinkCall where
  | connect (generation channel : Nat)
  | disconnect (generation : Nat)
  | send (generation : Nat) (content : String)
deriving Repr, DecidableEq

structure Station where
  client : Client := {}
  agent : Agent
  /-- The text of the file that keeps the session. -/
  kept : Option String := none
  /-- The second on the clock. -/
  now : Int := 0
  /-- The requests made so far, in order. -/
  requests : List Request := []
  /-- The calls made of the links so far, in order. -/
  linkCalls : List LinkCall := []
deriving Repr, DecidableEq

namespace Station

def exchange (server : Server) (s : Station) (u : Web.Url) (r : Request) : Station × Reply :=
  let reply := server s.requests r
  ({ s with
      agent := s.agent.receive s.now u reply
      requests := s.requests ++ [r] }, reply)

/-- Makes a call. A call whose address cannot be asked anything gets no reply. -/
def ask (server : Server) (s : Station) (c : Call) : Station × Reply :=
  match s.agent.urlOf? c with
  | some u => s.exchange server u (s.agent.requestTo s.now c u)
  | none => (s, .dropped)

/-- Makes two calls at once: the cookies of both requests are those held before either reply. -/
def askBoth (server : Server) (s : Station) (a b : Call) : Station × Reply × Reply :=
  let held := s.agent
  let (s, first) := s.ask server a
  match held.urlOf? b with
  | some u =>
    let (s, second) := s.exchange server u (held.requestTo s.now b u)
    (s, first, second)
  | none => (s, first, .dropped)

def onClient (s : Station) (change : Client → Client) : Station :=
  { s with client := change s.client }

def call (s : Station) (c : LinkCall) : Station :=
  { s with linkCalls := s.linkCalls ++ [c] }

def feed (s : Station) (i : Session.Input) : Station × List Effect :=
  let (client, effects) := s.client.feed i
  ({ s with client := client }, effects)

/-- Asks for the members of a channel. A failed request leaves the channel without members. -/
def fetchMembers (server : Server) (s : Station) (channel : Nat) : Station :=
  let (s, reply) := s.ask server (.members channel)
  let members := (reply.value? (Json.Tree.list Member.ofTree?)).toOption
  (s.feed (.roster channel members)).1

def carryOut (server : Server) (s : Station) : Effect → Station
  | .connect g channel => s.call (.connect g channel)
  | .disconnect g => s.call (.disconnect g)
  | .send g content => s.call (.send g content)
  | .fetchMembers channel => s.fetchMembers server channel
  | .notify text => s.onClient (·.showError text)

def carryOutAll (server : Server) (s : Station) (effects : List Effect) : Station :=
  effects.foldl (carryOut server) s

def perform (server : Server) (s : Station) (change : Client → Client × List Effect) : Station :=
  let (client, effects) := change s.client
  carryOutAll server { s with client := client } effects

def select (server : Server) (s : Station) (channel : Option Nat) : Station :=
  s.perform server (·.select channel)

def onLink (server : Server) (s : Station) (e : Link.Event) : Station :=
  s.perform server (·.feed (.link e))

def sendDraft (server : Server) (s : Station) : Station :=
  s.perform server Client.sendDraft

end Station

end ChatTerminal
