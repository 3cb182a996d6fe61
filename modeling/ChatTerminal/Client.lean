import ChatTerminal.Profile
import ChatTerminal.Session
/-!
# The client

All that the client shows and remembers, and the changes a user makes to it without the server.
Changes of the selected channel give the session's effects to the caller.
-/

namespace ChatTerminal

inductive Page where
  | loading (message : String)
  | signIn
  | chat
deriving Repr, DecidableEq

/-- The part of the chat page that has the keyboard. -/
inductive Panel where
  | sidebar
  | messages
  | input
deriving Repr, DecidableEq

def Panel.next : Panel → Panel
  | .sidebar => .messages
  | .messages => .input
  | .input => .sidebar

def Panel.previous : Panel → Panel
  | .sidebar => .input
  | .messages => .sidebar
  | .input => .messages

/-- A question over the chat page. -/
inductive Prompt where
  | newChannel
  | search
deriving Repr, DecidableEq

structure Client where
  page : Page := .loading "Starting..."
  identity : Option Identity := none
  signIn : SignIn := {}
  panel : Panel := .sidebar
  directory : Directory := {}
  session : Session := .home
  /-- The row of the sidebar cursor; row 0 is the landing page. -/
  cursor : Nat := 0
  prompt : Option Prompt := none
  newChannelName : TextField := {}
  searchQuery : TextField := {}
  draft : TextField := {}
  sidebarError : String := ""
  sidebarMessage : String := ""
  profile : Option Profile := none
  /-- How many lines the messages are scrolled back. -/
  scroll : Nat := 0
deriving Repr, DecidableEq

namespace Client

def userName (c : Client) : String :=
  (c.identity.map Identity.displayName).getD Identity.anonymous

def showSignIn (c : Client) : Client :=
  { c with identity := none, signIn := {}, page := .signIn }

def clearBanners (c : Client) : Client :=
  { c with sidebarError := "", sidebarMessage := "" }

def showError (c : Client) (text : String) : Client :=
  { c with sidebarError := text, sidebarMessage := "" }

def showMessage (c : Client) (text : String) : Client :=
  { c with sidebarError := "", sidebarMessage := text }

def enterChat (c : Client) (who : Identity) : Client :=
  { c.clearBanners with
    identity := some who
    directory := .empty
    session := .continuing c.session
    panel := .sidebar
    cursor := 0
    prompt := none
    profile := none
    draft := c.draft.clear
    page := .chat }

/-- Takes over the name and the email the server saved. Channels owned under the old name are
owned under the new one. -/
def adopt (c : Client) (who : Identity) : Client :=
  { c with
    directory := c.directory.renameOwner c.userName who.displayName
    identity := some who }

def signOut (c : Client) : Client × List Effect :=
  let (session, effects) := c.session.reset
  ({ c with session := session, profile := none, directory := .empty }.showSignIn, effects)

def activeId (c : Client) : Option Nat := c.session.active

def activeChannel? (c : Client) : Option Channel :=
  c.activeId.bind c.directory.get?

def isHome (c : Client) : Bool := c.activeChannel?.isNone

def title (c : Client) : String :=
  match c.activeChannel? with
  | some channel => "#" ++ channel.name
  | none => "Home"

def rowOf (d : Directory) (channel : Option Nat) : Nat :=
  match channel with
  | some id => if id = homeId then 0 else ((d.position? id).map (· + 1)).getD 0
  | none => 0

def feed (c : Client) (i : Session.Input) : Client × List Effect :=
  let (session, effects) := c.session.apply i
  ({ c with session := session }, effects)

/-- Moves to a channel and puts the sidebar cursor on its row. -/
def select (c : Client) (channel : Option Nat) : Client × List Effect :=
  let (session, effects) := c.session.apply (.select channel)
  ({ c with
      session := session
      scroll := if c.session.active = channel then c.scroll else 0
      cursor := rowOf c.directory channel }, effects)

def rows (c : Client) : Nat := c.directory.size + 1

def cursorUp (c : Client) : Client := { c with cursor := c.cursor - 1 }

def cursorDown (c : Client) : Client := { c with cursor := min (c.cursor + 1) (c.rows - 1) }

def underCursor (c : Client) : Nat :=
  match c.cursor with
  | 0 => homeId
  | row + 1 => (c.directory.idAt? row).getD homeId

def openUnderCursor (c : Client) : Client × List Effect :=
  c.select (some c.underCursor)

def openNewest (c : Client) : Client × List Effect :=
  match c.directory.recent 1 with
  | channel :: _ => c.select (some channel.id)
  | [] => (c, [])

/-- Sends the draft. It is cleared only if something was sent. -/
def sendDraft (c : Client) : Client × List Effect :=
  let (c, effects) := c.feed (.send c.draft.value)
  (if effects.isEmpty then c else { c with draft := c.draft.clear }, effects)

def scrollStep : Nat := 3

def scrollUp (c : Client) : Client := { c with scroll := c.scroll + scrollStep }

def scrollDown (c : Client) : Client := { c with scroll := c.scroll - scrollStep }

def nextPanel (c : Client) : Client := { c with panel := c.panel.next }

def previousPanel (c : Client) : Client := { c with panel := c.panel.previous }

def ask (c : Client) (prompt : Prompt) : Client := { c.clearBanners with prompt := some prompt }

def editPrompt (c : Client) (change : TextField → TextField) : Client :=
  match c.prompt with
  | some .newChannel => { c with newChannelName := change c.newChannelName }
  | some .search => { c with searchQuery := change c.searchQuery }
  | none => c

def openProfile (c : Client) : Client := { c with profile := some { loading := true } }

def onSignIn (c : Client) (change : SignIn → SignIn) : Client :=
  { c with signIn := change c.signIn }

def onProfile (c : Client) (change : Profile → Profile) : Client :=
  { c with profile := c.profile.map change }

end Client

end ChatTerminal
