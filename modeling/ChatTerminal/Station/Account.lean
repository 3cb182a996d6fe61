import ChatTerminal.Station
/-!
# Signing in and out, and the profile

The flows around the user: who is signed in at the start, signing in, creating an account, the
profile overlay, deleting the account and signing out. Each checks what was typed before it asks
the server anything.
-/

namespace ChatTerminal.Station

/-- Who is signed in at the start: the developer where signing in is bypassed, else whoever the
kept session belongs to. -/
def resolveIdentity (server : Server) (bypass : Bool) (s : Station) : Station × Option Identity :=
  if bypass then (s, some .developer)
  else
    let (s, reply) := s.ask server .me
    (s, ((reply.value? UserRecord.ofTree?).toOption).bind (·.identity?))

def onSignIn (s : Station) (change : SignIn → SignIn) : Station :=
  s.onClient (·.onSignIn change)

def signIn (server : Server) (s : Station) : Station × Option Identity :=
  let s := s.onSignIn fun f => { f.clearBanners with loading := true }
  let (s, reply) := s.ask server (.login s.client.signIn.loginRequest)
  let s := s.onSignIn fun f => { f with loading := false }
  match reply.value? UserRecord.ofAnswer? with
  | .error e => (s.onSignIn fun f => { f with error := e.userText SignIn.loginFailed }, none)
  | .ok user =>
    match user.bind (·.identity?) with
    | some who => (s.onSignIn SignIn.succeeded, some who)
    | none => (s.onSignIn fun f => { f with error := SignIn.loginFailed }, none)

def register (server : Server) (s : Station) : Station :=
  let s := s.onSignIn SignIn.clearBanners
  let form := s.client.signIn
  match form.registerRequest with
  | .error r => s.onSignIn fun f => { f with error := r.message }
  | .ok account =>
    let s := s.onSignIn fun f => { f with loading := true }
    let (s, reply) := s.ask server (.register account)
    let s := s.onSignIn fun f => { f with loading := false }
    match reply.value? UserRecord.ofAnswer? with
    | .ok _ => s.onSignIn (·.registered form.email.value)
    | .error e => s.onSignIn fun f => { f with error := e.userText SignIn.registerFailed }

def signOut (server : Server) (s : Station) : Station :=
  (s.ask server .logout).1.perform server Client.signOut

def onProfile (s : Station) (change : Profile → Profile) : Station :=
  s.onClient (·.onProfile change)

def openProfile (server : Server) (s : Station) : Station :=
  let (s, reply) := (s.onClient Client.openProfile).ask server .me
  let s := s.onProfile fun p => { p with loading := false }
  match reply.value? UserRecord.ofTree? with
  | .ok user => s.onProfile (·.load user)
  | .error _ => s.onProfile fun p => { p with error := Profile.loadFailed }

/-- Saves the profile overlay. The answer is whether the server took the change; the client then
goes by the saved name and email. -/
def saveProfile (server : Server) (s : Station) : Station × Bool :=
  match s.client.profile with
  | none => (s, false)
  | some p =>
    match p.update with
    | .error r => (s.onProfile fun p => { p with message := "", error := r.message }, false)
    | .ok update =>
      let s := s.onProfile fun p => { p.clearBanners with loading := true }
      let (s, reply) := s.ask server (.updateMe update)
      let s := s.onProfile fun p => { p with loading := false }
      match reply.value? UserRecord.ofAnswer? with
      | .ok answer =>
        let p := { p.clearBanners with loading := false }.saved update answer
        (s.onClient fun c =>
          { c with profile := some p }.adopt ⟨p.name.value, p.email.value⟩, true)
      | .error _ => (s.onProfile fun p => { p with error := Profile.updateFailed }, false)

/-- Deletes the account once the overlay is confirmed. The answer is whether the user was signed
out. -/
def deleteAccount (server : Server) (s : Station) : Station × Bool :=
  match s.client.profile with
  | none => (s, false)
  | some p =>
    let (confirmed, p) := p.confirmDelete
    let s := s.onProfile fun _ => p
    if !confirmed then (s, false)
    else
      let s := s.onProfile fun p => { p.clearBanners with loading := true }
      let (s, reply) := s.ask server .deleteMe
      let s := s.onProfile fun p => { p with loading := false }
      match reply.content? with
      | .ok _ => (s.signOut server, true)
      | .error _ => (s.onProfile fun p => { p with error := Profile.deleteFailed }, false)

def remember (s : Station) : Station :=
  match s.agent.token? s.now with
  | some token => { s with kept := some token }
  | none => s

/-- Forgets the session, the kept one and the one in the jar. -/
def forget (s : Station) : Station :=
  { s with kept := none, agent := s.agent.forget s.now }

end ChatTerminal.Station
