import ChatTerminal.Channel
import ChatTerminal.Message
import ChatTerminal.Text.Blank
/-!
# The live session

A session keeps one link in step with the selected channel. Links are numbered; an event of any
link but the one the session owns changes nothing. The session does no input or output: each
input gives the next state and the effects that the caller carries out.
-/

namespace ChatTerminal

namespace Link

/-- Where the link of the selected channel stands. -/
inductive State where
  | idle
  | connecting
  | open
  | closed
deriving Repr, DecidableEq

/-- What a link reports. A frame comes with the second of its arrival. -/
inductive Report where
  | opened
  | frame (text : String) (arrived : Int)
  | failed (reason : String)
  | closed
deriving Repr, DecidableEq

structure Event where
  generation : Nat
  report : Report
deriving Repr, DecidableEq

end Link

/-- What a session asks of its caller. -/
inductive Effect where
  | connect (generation channel : Nat)
  | disconnect (generation : Nat)
  | fetchMembers (channel : Nat)
  | send (generation : Nat) (content : String)
  | notify (text : String)
deriving Repr, DecidableEq

structure Session where
  active : Option Nat := none
  state : Link.State := .idle
  generation : Option Nat := none
  /-- The number of the last link asked for. -/
  lastGeneration : Nat := 0
  messages : List Message := []
  members : List Member := []
deriving Repr, DecidableEq

namespace Session

inductive Input where
  | select (channel : Option Nat)
  | link (event : Link.Event)
  | send (typed : String)
  /-- A roster arrived, or its request failed. -/
  | roster (channel : Nat) (members : Option (List Member))
  /-- A roster shown until one arrives. -/
  | seed (members : List Member)
deriving Repr, DecidableEq

def connectionFailed : String := "WebSocket connection failed."

def connectionClosed : String := "Connection closed."

def home : Session := { active := some homeId }

/-- A session on the landing page that numbers its links after those of `previous`. -/
def continuing (previous : Session) : Session :=
  { home with lastGeneration := previous.lastGeneration }

def isOpen (s : Session) : Bool := s.state == .open

/-- Moves to another channel: releases the link, forgets messages and members, and asks for a
link if the channel is live. -/
def select (s : Session) (channel : Option Nat) : Session × List Effect :=
  if channel = s.active then (s, [])
  else
    let released := s.generation.toList.map Effect.disconnect
    match channel with
    | some id =>
      if isLive (some id) then
        let g := s.lastGeneration + 1
        ({ active := channel, state := .connecting, generation := some g, lastGeneration := g },
          released ++ [.connect g id])
      else
        ({ active := channel, lastGeneration := s.lastGeneration }, released)
    | none => ({ active := none, lastGeneration := s.lastGeneration }, released)

/-- The first failure or close of a link closes the session and shows a text. -/
def closeWith (s : Session) (text : String) : Session × List Effect :=
  if s.state = .closed then (s, []) else ({ s with state := .closed }, [.notify text])

def onEvent (s : Session) (e : Link.Event) : Session × List Effect :=
  if s.generation ≠ some e.generation then (s, [])
  else
    match e.report with
    | .opened =>
      if s.state = .connecting then
        ({ s with state := .open }, s.active.toList.map Effect.fetchMembers)
      else (s, [])
    | .frame text arrived =>
      if s.isOpen then ({ s with messages := s.messages ++ [Message.ofFrame text arrived] }, [])
      else (s, [])
    | .failed _ => s.closeWith connectionFailed
    | .closed => s.closeWith connectionClosed

/-- Sends what was typed, without surrounding blanks, if anything is left and the link is open. -/
def send (s : Session) (typed : String) : List Effect :=
  let content := Text.trim typed
  if content.isEmpty || !s.isOpen then [] else s.generation.toList.map (Effect.send · content)

def apply (s : Session) : Input → Session × List Effect
  | .select channel => s.select channel
  | .link event => s.onEvent event
  | .send typed => (s, s.send typed)
  | .roster channel members =>
    if s.active = some channel then ({ s with members := members.getD [] }, []) else (s, [])
  | .seed members => ({ s with members := members }, [])

/-- Leaves the channel on display and forgets everything about it. -/
def reset (s : Session) : Session × List Effect :=
  let (s, effects) := s.select none
  ({ s with messages := [], members := [] }, effects)

end Session

end ChatTerminal
