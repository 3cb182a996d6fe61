import ChatTerminal.Key
import ChatTerminal.Station.Account
import ChatTerminal.Station.Channels
/-!
# What the keys do

A key goes to whatever has the keyboard: the form on the sign-in page; on the chat page the
profile overlay, else the open prompt, else the panel. While the program loads no key does
anything.
-/

namespace ChatTerminal

/-- Whether the program goes on after a key. -/
inductive Verdict where
  | stay
  | quit
deriving Repr, DecidableEq

namespace Station

def enterChat (server : Server) (s : Station) (who : Identity) : Station :=
  (s.onClient (·.enterChat who)).loadChannels server

def submit (server : Server) (s : Station) : Station :=
  match s.client.signIn.mode with
  | .register => s.register server
  | .login =>
    match s.signIn server with
    | (s, some who) => s.remember.enterChat server who
    | (s, none) => s

def pressOnSignIn (server : Server) (s : Station) (k : Key) : Station × Verdict :=
  if s.client.signIn.loading then (s, .stay)
  else if k.control then
    (if k.code = .char 'r' then s.onSignIn SignIn.toggle else s, .stay)
  else
    match k.code with
    | .escape => (s, .quit)
    | .tab | .down => (s.onSignIn SignIn.nextField, .stay)
    | .backTab | .up => (s.onSignIn SignIn.previousField, .stay)
    | .enter =>
      (if s.client.signIn.onLastField then s.submit server else s.onSignIn SignIn.nextField, .stay)
    | code => (s.onSignIn (·.edit (·.press code)), .stay)

def pressControlOnProfile (server : Server) (s : Station) : Key.Code → Station
  | .char 'l' => (s.signOut server).forget
  | .char 'd' =>
    match s.deleteAccount server with
    | (s, true) => s.forget
    | (s, false) => s
  | _ => s

/-- Saves the profile. The server reissues the session with each change it takes. -/
def saveAndRemember (server : Server) (s : Station) : Station :=
  match s.saveProfile server with
  | (s, true) => s.remember
  | (s, false) => s

def pressOnProfile (server : Server) (s : Station) (p : Profile) (k : Key) : Station :=
  if k.control then s.pressControlOnProfile server k.code
  else if k.code = .escape then s.onClient fun c => { c with profile := none }
  else if p.loading then s
  else
    let s := s.onProfile Profile.cancelDelete
    match k.code with
    | .tab | .down => s.onProfile Profile.nextField
    | .backTab | .up => s.onProfile Profile.previousField
    | .enter => s.saveAndRemember server
    | code => s.onProfile (·.edit (·.press code))

def pressOnPrompt (server : Server) (s : Station) (prompt : Prompt) (k : Key) : Station :=
  match k.code, prompt with
  | .escape, _ => s.onClient fun c => { c with prompt := none }
  | .enter, .newChannel => s.createChannel server
  | .enter, .search => s.joinChannel server
  | code, _ => s.onClient (·.editPrompt (·.press code))

def pressOnShell (server : Server) (s : Station) (code : Key.Code) : Station × Verdict :=
  match code with
  | .char 'q' => (s, .quit)
  | .tab => (s.onClient Client.nextPanel, .stay)
  | .backTab => (s.onClient Client.previousPanel, .stay)
  | .char 'c' => (s.onClient (·.ask .newChannel), .stay)
  | .char '/' => (s.onClient (·.ask .search), .stay)
  | .char 'p' => (s.openProfile server, .stay)
  | .char 'h' => (s.select server (some homeId), .stay)
  | .char 'e' => (if s.client.isHome then s.perform server Client.openNewest else s, .stay)
  | .char 'r' => (s.loadChannels server, .stay)
  | _ => (s, .stay)

def pressOnSidebar (server : Server) (s : Station) (code : Key.Code) : Station × Verdict :=
  match code with
  | .up | .char 'k' => (s.onClient Client.cursorUp, .stay)
  | .down | .char 'j' => (s.onClient Client.cursorDown, .stay)
  | .enter => ((s.onClient Client.clearBanners).perform server Client.openUnderCursor, .stay)
  | .char 'd' =>
    let id := s.client.underCursor
    (if id = homeId then s else s.deleteChannel server id, .stay)
  | code => s.pressOnShell server code

def pressOnMessages (server : Server) (s : Station) (code : Key.Code) : Station × Verdict :=
  match code with
  | .up | .char 'k' => (s.onClient Client.scrollUp, .stay)
  | .down | .char 'j' => (s.onClient Client.scrollDown, .stay)
  | code => s.pressOnShell server code

def pressOnDraft (server : Server) (s : Station) (code : Key.Code) : Station :=
  match code with
  | .escape => s.onClient fun c => { c with panel := .sidebar }
  | .tab => s.onClient Client.nextPanel
  | .backTab => s.onClient Client.previousPanel
  | .enter => s.sendDraft server
  | code => s.onClient fun c => { c with draft := c.draft.press code }

def pressOnChat (server : Server) (s : Station) (k : Key) : Station × Verdict :=
  match s.client.profile, s.client.prompt, s.client.panel with
  | some p, _, _ => (s.pressOnProfile server p k, .stay)
  | none, some prompt, _ => (s.pressOnPrompt server prompt k, .stay)
  | none, none, .sidebar => s.pressOnSidebar server k.code
  | none, none, .messages => s.pressOnMessages server k.code
  | none, none, .input => (s.pressOnDraft server k.code, .stay)

def press (server : Server) (s : Station) (k : Key) : Station × Verdict :=
  match s.client.page with
  | .loading _ => (s, .stay)
  | .signIn => s.pressOnSignIn server k
  | .chat => s.pressOnChat server k

end Station

end ChatTerminal
