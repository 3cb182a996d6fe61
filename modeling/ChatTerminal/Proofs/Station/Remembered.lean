import ChatTerminal.Proofs.Agent.Restart
import ChatTerminal.Proofs.Station.Outcomes
import ChatTerminal.Proofs.Station.SignedOut
/-!
# Signed in again after a restart

When the server takes a sign-in or a change of the profile, the session that the agent then knows is
kept.  What is kept is read back as it is, and an agent that starts with it knows the same session
and sends it with its first request.
-/

namespace ChatTerminal.Station

open Web

variable {server : Server} {s t u : Station}

/-! ## Accepted answers -/

/-- The server takes what the user sent: the credentials on the sign-in page, or the profile. The
first station is the one that has the answer, the second the one after everything the key does. -/
inductive Accepted (server : Server) (s : Station) : Station → Station → Prop where
  | signIn {who : Identity} (hmode : s.client.signIn.mode = .login)
      (h : (s.signIn server).2 = some who) :
      Accepted server s (s.signIn server).1 (s.submit server)
  | save (h : (s.saveProfile server).2 = true) :
      Accepted server s (s.saveProfile server).1 (s.saveAndRemember server)

theorem agent_ask (server : Server) (s : Station) (c : Call) :
    ∃ jar, (s.ask server c).1.agent = { s.agent with jar := jar } := by
  unfold ask
  split
  · rename_i a _
    dsimp only [exchange]
    cases server s.requests (s.agent.requestTo s.now c a) with
    | dropped => exact ⟨_, rfl⟩
    | answered status body cookies => exact ⟨_, rfl⟩
  · exact ⟨_, rfl⟩

theorem urlOf?_of_value {α : Type} {read : Json.Tree → Option α} {c : Call} {value : α}
    (h : (s.ask server c).2.value? read = .ok value) : ∃ a, s.agent.urlOf? c = some a := by
  cases hasked : s.agent.urlOf? c with
  | some a => exact ⟨a, rfl⟩
  | none =>
      unfold ask at h
      rw [hasked] at h
      cases h

theorem Accepted.asked (h : Accepted server s t u) :
    ∃ c a, s.agent.urlOf? c = some a ∧ t.agent = (s.ask server c).1.agent := by
  cases h with
  | @signIn who _ h =>
      have hasked : ∀ user, (s.ask server (.login s.client.signIn.loginRequest)).2.value?
          UserRecord.ofAnswer? = .ok user →
          ∃ a, s.agent.urlOf? (.login s.client.signIn.loginRequest) = some a :=
        fun _ => urlOf?_of_value
      refine ⟨.login s.client.signIn.loginRequest, ?_⟩
      rw [signIn_eq] at h ⊢
      generalize s.ask server (.login s.client.signIn.loginRequest) = answer at h hasked ⊢
      obtain ⟨t, reply⟩ := answer
      dsimp only at h hasked ⊢
      cases hreply : reply.value? UserRecord.ofAnswer? with
      | error e =>
          rw [hreply] at h
          cases h
      | ok user =>
          obtain ⟨a, ha⟩ := hasked user hreply
          refine ⟨a, ha, ?_⟩
          dsimp only
          cases user.bind (·.identity?) with
          | none => rfl
          | some who => rfl
  | save h =>
      cases hopen : s.client.profile with
      | none =>
          rw [saveProfile_of_none server hopen] at h
          cases h
      | some p =>
          rw [saveProfile_eq server hopen] at h ⊢
          cases hupdate : p.update with
          | error r =>
              rw [hupdate] at h
              cases h
          | ok update =>
              have hasked : ∀ user, (s.ask server (.updateMe update)).2.value?
                  UserRecord.ofAnswer? = .ok user →
                  ∃ a, s.agent.urlOf? (.updateMe update) = some a :=
                fun _ => urlOf?_of_value
              refine ⟨.updateMe update, ?_⟩
              rw [hupdate] at h
              dsimp only at h ⊢
              generalize s.ask server (.updateMe update) = answer at h hasked ⊢
              obtain ⟨t, reply⟩ := answer
              dsimp only at h hasked ⊢
              cases hreply : reply.value? UserRecord.ofAnswer? with
              | error e =>
                  rw [hreply] at h
                  cases h
              | ok user =>
                  obtain ⟨a, ha⟩ := hasked user hreply
                  exact ⟨a, ha, rfl⟩

/-! ## The kept session -/

theorem kept_carryOut (server : Server) (s : Station) (e : Effect) :
    (s.carryOut server e).kept = s.kept := by
  cases e with
  | connect | disconnect | send | notify => rfl
  | fetchMembers channel =>
      have hask := kept_ask server s (.members channel)
      rw [show s.carryOut server (.fetchMembers channel) = s.fetchMembers server channel from rfl]
      unfold fetchMembers
      generalize s.ask server (.members channel) = answer at hask ⊢
      obtain ⟨t, reply⟩ := answer
      dsimp only at hask ⊢
      rw [fst_feed]
      exact hask

theorem kept_carryOutAll (server : Server) (s : Station) (effects : List Effect) :
    (s.carryOutAll server effects).kept = s.kept := by
  induction effects generalizing s with
  | nil => rfl
  | cons e effects ih => exact (ih _).trans (kept_carryOut server s e)

theorem kept_loadChannels (server : Server) (s : Station) :
    (s.loadChannels server).kept = s.kept := by
  have hask := kept_askBoth server s .ownedChannels .joinedChannels
  unfold loadChannels
  generalize s.askBoth server .ownedChannels .joinedChannels = answer at hask ⊢
  obtain ⟨t, owned, joined⟩ := answer
  dsimp only at hask ⊢
  split
  · split
    · exact (kept_carryOutAll server _ _).trans hask
    · exact hask
  · exact hask

theorem kept_remember {token : String} (h : s.agent.token? s.now = some token) :
    s.remember.kept = some token := by
  unfold remember
  rw [h]

/-- What the agent knows once the server has answered is what is kept. -/
theorem Accepted.kept (h : Accepted server s t u) {token : String}
    (htoken : t.agent.token? t.now = some token) : u.kept = some token := by
  cases h with
  | @signIn who hmode h =>
      unfold submit
      rw [hmode]
      dsimp only
      generalize s.signIn server = answer at h htoken ⊢
      obtain ⟨t, taken⟩ := answer
      obtain rfl : taken = some who := h
      exact (kept_loadChannels server _).trans (kept_remember htoken)
  | save h =>
      unfold saveAndRemember
      generalize s.saveProfile server = answer at h htoken ⊢
      obtain ⟨t, taken⟩ := answer
      obtain rfl : taken = true := h
      exact kept_remember htoken

/-! ## After a restart -/

theorem ownDomain?_eq {host : Host}
    (h : ∀ a b, host ≠ .ipv6 [0, 0, 0, 0, 0, 0xFFFF, a, b]) : host.ownDomain? = some host.text := by
  unfold Host.ownDomain?
  split
  · exact absurd rfl (h _ _)
  · rfl

/-- A session survives a restart unchanged.  Whatever cookies the jar of a run holds, the session
that the agent knows when the server has accepted a sign-in or a change of the profile is the one
that the next run reads; and a new agent for the same base, with that session in its jar, knows it
at any time, and makes every call with the cookie that carries it and no other.  The base is none of
the hosts of which the jar keeps no cookies of their own. -/
theorem session_survives_restart (server : Server) {base : String} {fresh : Agent}
    (hbase : Agent.ofBase base = .ok fresh)
    (hkeeps : ∀ a b, fresh.url.host ≠ some (.ipv6 [0, 0, 0, 0, 0, 0xFFFF, a, b])) {s t u : Station}
    {jar : CookieJar} (hagent : s.agent = { fresh with jar := jar }) (hjar : jar.Received)
    (haccepted : Accepted server s t u) {token : String}
    (htoken : t.agent.token? t.now = some token) :
    keptToken? u.kept = some token ∧
      ∀ (anew : Server) (seeded later : Int),
        let again := fresh.seed seeded token
        again.token? later = some token ∧
          ∀ c, ∃ r, (ask anew { agent := again, now := later } c).1.requests = [r] ∧
            r.cookie = some (Agent.sessionCookie ++ "=" ++ token) := by
  obtain ⟨asked, a, hasked, hanswered⟩ := haccepted.asked
  obtain ⟨jar', hjar'⟩ := agent_ask server s asked
  have hreceived : t.agent.jar.Received := by
    rw [hanswered]
    exact received_ask (hagent ▸ hjar) server asked
  have hurl : t.agent.url = fresh.url := by
    rw [hanswered, hjar', hagent]
  have hfresh : fresh.urlOf? asked = some a := by
    rw [hagent] at hasked
    exact hasked
  obtain ⟨hcarried, host, hhost⟩ := Agent.carried_of_token? hreceived htoken
  rw [hurl] at hhost
  have hown : host.ownDomain? = some host.text :=
    ownDomain?_eq fun a b heq => hkeeps a b (heq ▸ hhost)
  refine ⟨?_, fun anew seeded later => ?_⟩
  · rw [haccepted.kept htoken]
    exact hcarried.keptToken?
  · obtain ⟨hknown, hcalls⟩ := hcarried.again hbase hfresh hhost hown seeded later
    refine ⟨hknown, fun c => ?_⟩
    obtain ⟨v, hv, hheader⟩ := hcalls c
    refine ⟨(fresh.seed seeded token).requestTo later c v, ?_, hheader⟩
    unfold ask
    rw [hv]
    rfl

/-- The local host, and a server that sets two cookies when it lets a user in. -/
theorem session_survives_restart_of_local_host :
    let server : Server := fun _ _ =>
      .answered 200 "\x7b\"user\":\x7b\"name\":\"ann\"\x7d\x7d"
        ["theme=dark", " auth_token = a=b ; Path=/; HttpOnly"]
    let fresh : Agent := ⟨"http://[::1]", { scheme := "http".toList
                                            host := some (.ipv6 [0, 0, 0, 0, 0, 0, 0, 1])
                                            path := .segments [[]] }, {}⟩
    let s : Station := { agent := fresh, client := { page := .signIn } }
    (s.signIn server).1.agent.token? (s.signIn server).1.now = some "a=b" ∧
      keptToken? (s.submit server).kept = some "a=b" ∧
      ∀ c, ∃ r, (ask server { agent := fresh.seed 5 "a=b", now := 9 } c).1.requests = [r] ∧
        r.cookie = some "auth_token=a=b" := by
  intro server fresh s
  have hreply : (s.ask server (.login s.client.signIn.loginRequest)).2.value?
      UserRecord.ofAnswer? = .ok (some ⟨0, some "ann", none⟩) := by
    rw [show (s.ask server (.login s.client.signIn.loginRequest)).2 = .answered 200
      "\x7b\"user\":\x7b\"name\":\"ann\"\x7d\x7d"
      ["theme=dark", " auth_token = a=b ; Path=/; HttpOnly"] by decide +kernel]
    rfl
  have hheld : (s.ask server (.login s.client.signIn.loginRequest)).1.agent.token? 0 =
      some "a=b" := by
    decide +kernel
  have hsigned : (s.signIn server).2 = some ⟨"ann", ""⟩ ∧
      (s.signIn server).1.agent.token? (s.signIn server).1.now = some "a=b" := by
    have hnow := now_ask server s (.login s.client.signIn.loginRequest)
    rw [signIn_eq]
    generalize s.ask server (.login s.client.signIn.loginRequest) = answer at hreply hheld hnow ⊢
    obtain ⟨t, reply⟩ := answer
    dsimp only at hreply hheld hnow ⊢
    rw [hreply]
    exact ⟨rfl, hnow.symm ▸ hheld⟩
  have hkeeps : ∀ a b, fresh.url.host ≠ some (.ipv6 [0, 0, 0, 0, 0, 0xFFFF, a, b]) := by
    intro a b heq
    cases heq
  have haccepted : Accepted server s (s.signIn server).1 (s.submit server) :=
    .signIn rfl hsigned.1
  obtain ⟨hkept, hagain⟩ := session_survives_restart server Agent.ofBase_localHost hkeeps rfl
    CookieJar.received_empty haccepted hsigned.2
  exact ⟨hsigned.2, hkept, (hagain server 5 9).2⟩

end ChatTerminal.Station
