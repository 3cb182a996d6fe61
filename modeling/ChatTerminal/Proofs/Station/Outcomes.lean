import ChatTerminal.Station.Keys
/-!
# What the flows come to

A request changes nothing of a station but the agent's jar and the record of requests, and its
reply does not hang on what the client shows.  So every flow can be read as its requests first and
one change of the client after them; that is how each flow is given here, and how what it does to
the client is found out.
-/

namespace ChatTerminal

/-! ## Forms after a reply -/

namespace SignIn

def settled (f : SignIn) : SignIn := { f.clearBanners with loading := false }

def refused (f : SignIn) (text : String) : SignIn := { f.settled with error := text }

end SignIn

namespace Profile

def settled (p : Profile) : Profile := { p.clearBanners with loading := false }

def refused (p : Profile) (text : String) : Profile := { p.settled with error := text }

end Profile

namespace Station

variable {server : Server} {s : Station}

/-! ## Requests -/

@[simp] theorem client_ask (server : Server) (s : Station) (c : Call) :
    (s.ask server c).1.client = s.client := by
  unfold ask
  split <;> rfl

@[simp] theorem kept_ask (server : Server) (s : Station) (c : Call) :
    (s.ask server c).1.kept = s.kept := by
  unfold ask
  split <;> rfl

@[simp] theorem linkCalls_ask (server : Server) (s : Station) (c : Call) :
    (s.ask server c).1.linkCalls = s.linkCalls := by
  unfold ask
  split <;> rfl

/-- What the client shows plays no part in a request. -/
theorem ask_onClient (server : Server) (s : Station) (change : Client → Client) (c : Call) :
    (s.onClient change).ask server c =
      ((s.ask server c).1.onClient change, (s.ask server c).2) := by
  unfold ask
  rw [show (s.onClient change).agent = s.agent from rfl]
  split <;> rfl

theorem askBoth_keeps {α : Type} (part : Station → α)
    (hexchange : ∀ t u r, part (exchange server t u r).1 = part t) (s : Station) (a b : Call) :
    part (s.askBoth server a b).1 = part s := by
  have hask : part (s.ask server a).1 = part s := by
    unfold ask
    split
    · exact hexchange s _ _
    · rfl
  unfold askBoth
  generalize s.ask server a = answer at hask ⊢
  obtain ⟨t, reply⟩ := answer
  dsimp only at hask ⊢
  split
  · rw [← hask]
    exact hexchange t _ _
  · exact hask

@[simp] theorem client_askBoth (server : Server) (s : Station) (a b : Call) :
    (s.askBoth server a b).1.client = s.client :=
  askBoth_keeps Station.client (fun _ _ _ => rfl) s a b

@[simp] theorem kept_askBoth (server : Server) (s : Station) (a b : Call) :
    (s.askBoth server a b).1.kept = s.kept :=
  askBoth_keeps Station.kept (fun _ _ _ => rfl) s a b

@[simp] theorem linkCalls_askBoth (server : Server) (s : Station) (a b : Call) :
    (s.askBoth server a b).1.linkCalls = s.linkCalls :=
  askBoth_keeps Station.linkCalls (fun _ _ _ => rfl) s a b

/-! ## The flows around the user -/

theorem signIn_eq (server : Server) (s : Station) :
    s.signIn server =
      let (t, reply) := s.ask server (.login s.client.signIn.loginRequest)
      match reply.value? UserRecord.ofAnswer? with
      | .error e => (t.onSignIn (·.refused (e.userText SignIn.loginFailed)), none)
      | .ok user =>
        match user.bind (·.identity?) with
        | some who => (t.onSignIn (·.settled.succeeded), some who)
        | none => (t.onSignIn (·.refused SignIn.loginFailed), none) := by
  have hrequest :
      (s.onSignIn fun f => { f.clearBanners with loading := true }).client.signIn.loginRequest =
      s.client.signIn.loginRequest := rfl
  unfold signIn
  dsimp only
  rw [hrequest, onSignIn, ask_onClient]
  generalize s.ask server (.login s.client.signIn.loginRequest) = answer
  obtain ⟨t, reply⟩ := answer
  dsimp only
  cases reply.value? UserRecord.ofAnswer? with
  | error e => rfl
  | ok user =>
      dsimp only
      cases user.bind (·.identity?) with
      | none => rfl
      | some who => rfl

theorem register_eq (server : Server) (s : Station) :
    s.register server =
      match s.client.signIn.registerRequest with
      | .error r => s.onSignIn fun f => { f.clearBanners with error := r.message }
      | .ok account =>
        let (t, reply) := s.ask server (.register account)
        match reply.value? UserRecord.ofAnswer? with
        | .ok _ => t.onSignIn (·.settled.registered s.client.signIn.email.value)
        | .error e => t.onSignIn (·.refused (e.userText SignIn.registerFailed)) := by
  have hform : (s.onSignIn SignIn.clearBanners).client.signIn.registerRequest =
      s.client.signIn.registerRequest := rfl
  unfold register
  dsimp only
  rw [hform]
  cases s.client.signIn.registerRequest with
  | error r => rfl
  | ok account =>
      dsimp only [onSignIn]
      rw [ask_onClient, ask_onClient]
      generalize s.ask server (.register account) = answer
      obtain ⟨t, reply⟩ := answer
      dsimp only
      cases reply.value? UserRecord.ofAnswer? with
      | error e => rfl
      | ok user => rfl

theorem openProfile_eq (server : Server) (s : Station) :
    s.openProfile server =
      let (t, reply) := s.ask server .me
      match reply.value? UserRecord.ofTree? with
      | .ok user => t.onClient fun c => { c with profile := some (({} : Profile).load user) }
      | .error _ => t.onClient fun c =>
          { c with profile := some (({} : Profile).refused Profile.loadFailed) } := by
  unfold openProfile
  rw [ask_onClient]
  generalize s.ask server .me = answer
  obtain ⟨t, reply⟩ := answer
  dsimp only
  cases reply.value? UserRecord.ofTree? with
  | error e => rfl
  | ok user => rfl

theorem saveProfile_of_none (server : Server) {s : Station} (hclosed : s.client.profile = none) :
    s.saveProfile server = (s, false) := by
  unfold saveProfile
  rw [hclosed]

theorem saveProfile_eq (server : Server) {s : Station} {p : Profile}
    (hopen : s.client.profile = some p) :
    s.saveProfile server =
      match p.update with
      | .error r => (s.onProfile fun p => { p with message := "", error := r.message }, false)
      | .ok update =>
        let (t, reply) := s.ask server (.updateMe update)
        match reply.value? UserRecord.ofAnswer? with
        | .ok answer =>
          let p := p.settled.saved update answer
          (t.onClient fun c =>
            { c with profile := some p }.adopt ⟨p.name.value, p.email.value⟩, true)
        | .error _ => (t.onProfile (·.refused Profile.updateFailed), false) := by
  unfold saveProfile
  rw [hopen]
  dsimp only
  cases p.update with
  | error r => rfl
  | ok update =>
      dsimp only
      rw [onProfile, ask_onClient]
      have hclient := client_ask server s (.updateMe update)
      generalize s.ask server (.updateMe update) = answer at hclient ⊢
      obtain ⟨t, reply⟩ := answer
      dsimp only at hclient ⊢
      have hstill : t.client.profile = some p := hclient ▸ hopen
      cases reply.value? UserRecord.ofAnswer? with
      | ok answer => rfl
      | error e =>
          simp only [onProfile, onClient, Client.onProfile, hstill, Option.map_some]
          rfl

theorem deleteAccount_of_none (server : Server) {s : Station}
    (hclosed : s.client.profile = none) : s.deleteAccount server = (s, false) := by
  unfold deleteAccount
  rw [hclosed]

theorem deleteAccount_eq (server : Server) {s : Station} {p : Profile}
    (hopen : s.client.profile = some p) :
    s.deleteAccount server =
      if p.armed then
        let (t, reply) := s.ask server .deleteMe
        match reply.content? with
        | .ok _ => ((t.onProfile fun p => { p.settled with armed := false }).signOut server, true)
        | .error _ =>
          (t.onProfile fun p => { p.refused Profile.deleteFailed with armed := false }, false)
      else
        (s.onProfile fun p =>
          { p with armed := true, message := "", error := Profile.confirmationText }, false) := by
  unfold deleteAccount Profile.confirmDelete
  rw [hopen]
  cases harmed : p.armed with
  | false => simp [onProfile, onClient, Client.onProfile, hopen, harmed]
  | true =>
      simp only [harmed, if_true, Bool.not_true, Bool.false_eq_true, if_false, onProfile,
        ask_onClient]
      have hclient := client_ask server s .deleteMe
      generalize s.ask server .deleteMe = answer at hclient ⊢
      obtain ⟨t, reply⟩ := answer
      dsimp only at hclient ⊢
      have hstill : t.client.profile = some p := hclient ▸ hopen
      simp only [onClient, Client.onProfile, hstill, Option.map_some]
      rfl

end Station

end ChatTerminal
