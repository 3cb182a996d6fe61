import ChatTerminal.Link.Connection
import ChatTerminal.Station
/-!
# The links of the client

At most one connection is current. A connection that stops being current is released; texts for
any other connection are dropped.
-/

namespace ChatTerminal

structure Links where
  current : Option Nat := none
  /-- Where each connection stands, the latest first. -/
  phases : List (Nat × Link.Phase) := []
deriving Repr, DecidableEq

namespace Links

open Link

/-- The reports and the sent frames of one connection. -/
structure Traffic where
  generation : Nat
  reports : List Report
  sent : List Outgoing
deriving Repr, DecidableEq

def phase (l : Links) (g : Nat) : Phase :=
  ((l.phases.find? (·.1 == g)).map (·.2)).getD .ended

def setPhase (l : Links) (g : Nat) (p : Phase) : Links :=
  { l with phases := (g, p) :: l.phases.filter (·.1 != g) }

def happen (l : Links) (now : Int) (g : Nat) (h : Happening) : Links × Traffic :=
  let r := Connection.respond now (l.phase g) h
  (l.setPhase g r.phase, ⟨g, r.reports, r.sent⟩)

def releaseCurrent (l : Links) (now : Int) : Links × List Traffic :=
  match l.current with
  | some g =>
    let (l, t) := l.happen now g .released
    ({ l with current := none }, [t])
  | none => (l, [])

def connect (l : Links) (now : Int) (g : Nat) (r : LinkRequest) : Links × List Traffic :=
  let (l, released) := l.releaseCurrent now
  let response := Connection.begin r
  ({ l.setPhase g response.phase with current := some g },
    released ++ [⟨g, response.reports, response.sent⟩])

def disconnect (l : Links) (now : Int) (g : Nat) : Links × List Traffic :=
  if l.current = some g then l.releaseCurrent now else (l, [])

def send (l : Links) (now : Int) (g : Nat) (content : String) : Links × List Traffic :=
  if l.current = some g then
    let (l, t) := l.happen now g (.queued content)
    (l, [t])
  else (l, [])

def call (l : Links) (now : Int) (requestFor : Nat → LinkRequest) :
    LinkCall → Links × List Traffic
  | .connect g channel => l.connect now g (requestFor channel)
  | .disconnect g => l.disconnect now g
  | .send g content => l.send now g content

end Links

end ChatTerminal
