import ChatTerminal.Proofs.Agent.Credentials
import ChatTerminal.Proofs.Station.Course
import ChatTerminal.Proofs.Station.Deletion
/-!
# What is left of a session after signing out

Signing out forgets the sessions of the agent's own host for all its pages.  If the jar held no
others, the station is without a credential from then on, and it makes no request with one until
the server has set another.  A session that was set for some pages only, or for a domain above the
host, stays in the jar and goes on being sent.
-/

namespace ChatTerminal

open Web

/-- None of some requests, which follow others and are made at seconds given with them, is answered
with a grant. -/
def Server.Ungranted (server : Server) (past : List Request) (log : List (Int × Request)) : Prop :=
  ∀ before now r later, log = before ++ (now, r) :: later →
    ¬ (server (past ++ before.map Prod.snd) r).Grants now

variable {server : Server} {past : List Request} {log : List (Int × Request)} {r : Request}
  {now : Int}

theorem Server.Ungranted.left {more : List (Int × Request)}
    (h : server.Ungranted past (log ++ more)) : server.Ungranted past log := by
  rintro before now q later rfl
  exact h before now q (later ++ more) (by simp)

theorem Server.Ungranted.last (h : server.Ungranted past (log ++ [(now, r)])) :
    ¬ (server (past ++ log.map Prod.snd) r).Grants now :=
  h log now r [] rfl

namespace Station

variable {s t u v : Station}

/-! ## What the jar was given -/

theorem now_ask (server : Server) (s : Station) (c : Call) : (s.ask server c).1.now = s.now := by
  unfold ask
  split <;> rfl

theorem received_ask (h : s.agent.jar.Received) (server : Server) (c : Call) :
    (s.ask server c).1.agent.jar.Received := by
  unfold ask
  split
  · exact Agent.received_receive h _ _ _
  · exact h

theorem received_askBoth (h : s.agent.jar.Received) (server : Server) (a b : Call) :
    (s.askBoth server a b).1.agent.jar.Received := by
  have hask := received_ask h server a
  unfold askBoth
  generalize s.ask server a = answer at hask ⊢
  obtain ⟨t, first⟩ := answer
  dsimp only at hask ⊢
  split
  · exact Agent.received_receive hask _ _ _
  · exact hask

theorem received_remember (h : s.agent.jar.Received) : s.remember.agent.jar.Received := by
  unfold remember
  split <;> exact h

theorem Course.received (hst : Course server s t) (h : s.agent.jar.Received) :
    t.agent.jar.Received := by
  induction hst with
  | refl => exact h
  | tail _ hmoment ih =>
      cases hmoment with
      | asks c => exact received_ask ih server c
      | asksBoth a b => exact received_askBoth ih server a b
      | remembers => exact received_remember ih
      | forgets => exact Agent.received_forget ih _
      | shows | calls | waits => exact ih

/-! ## Without a credential -/

/-- Neither the kept session nor the jar has a credential. -/
structure SignedOff (s : Station) : Prop where
  kept : s.kept = none
  agent : s.agent.SignedOff

/-- No session is kept, the agent knows none, and no handshake of a link would carry one. -/
structure WithoutCredential (s : Station) : Prop where
  kept : s.kept = none
  token : ∀ now, s.agent.token? now = none
  handshake : ∀ now origin channel,
    ¬ CarriesSession (s.agent.linkRequest now origin channel).cookie

theorem SignedOff.withoutCredential (h : s.SignedOff) (hjar : s.agent.jar.Received) :
    s.WithoutCredential :=
  ⟨h.kept, fun now => h.agent.token? hjar now, fun now _ _ =>
    h.agent.cookieHeader? hjar now⟩

theorem SignedOff.remember (h : s.SignedOff) (hjar : s.agent.jar.Received) :
    s.remember.SignedOff := by
  unfold Station.remember
  rw [h.agent.token? hjar s.now]
  exact h

/-- What has happened since there was no credential: the requests made, none of which carries one
before a grant, and no credential without a grant. -/
structure Since (server : Server) (past : List Request) (u : Station) (log : List (Int × Request)) :
    Prop where
  requests : u.requests = past ++ log.map Prod.snd
  clock : 0 ≤ u.now
  received : u.agent.jar.Received
  unsent : ∀ before now r later, log = before ++ (now, r) :: later → server.Ungranted past before →
    ¬ CarriesSession r.cookie
  signedOff : server.Ungranted past log → u.SignedOff

theorem SignedOff.since (h : u.SignedOff) (hclock : 0 ≤ u.now) (hjar : u.agent.jar.Received) :
    Since server u.requests u [] :=
  ⟨by simp, hclock, hjar, by simp, fun _ => h⟩

/-- A request of an agent that held no credential either. -/
theorem Since.exchange (h : Since server past u log) {held : Agent}
    (hjar : held.jar.Received) (hheld : server.Ungranted past log → held.SignedOff)
    (now : Int) (c : Call) (a : Url) :
    Since server past (u.exchange server a (held.requestTo now c a)).1
      (log ++ [(u.now, held.requestTo now c a)]) where
  requests := by
    simp only [Station.exchange, h.requests, List.append_assoc, List.map_append]
    rfl
  clock := h.clock
  received := Agent.received_receive h.received _ _ _
  unsent := by
    intro before second r later hsplit hbefore
    rcases LinkCall.split_concat hsplit with ⟨rfl, hlast⟩ | ⟨rest, hlog⟩
    · obtain ⟨-, rfl⟩ := Prod.mk.inj hlast
      exact (hheld hbefore).header? hjar now a
    · exact h.unsent before second r rest hlog hbefore
  signedOff := by
    intro hungranted
    have hoff := h.signedOff hungranted.left
    refine ⟨hoff.kept, hoff.agent.receive ?_ _⟩
    rw [h.requests]
    exact hungranted.last

theorem Since.ask (h : Since server past u log) (c : Call) : ∃ asked : List Request,
    Since server past (u.ask server c).1 (log ++ asked.map ((u.now, ·))) := by
  unfold Station.ask
  split
  · rename_i a _
    exact ⟨[_], h.exchange h.received (fun hu => (h.signedOff hu).agent) u.now c a⟩
  · exact ⟨[], by simpa using h⟩

theorem Since.askBoth (h : Since server past u log) (a b : Call) : ∃ asked : List Request,
    Since server past (u.askBoth server a b).1 (log ++ asked.map ((u.now, ·))) := by
  obtain ⟨asked, hfirst⟩ := h.ask a
  have hnow := now_ask server u a
  have hheld : server.Ungranted past (log ++ asked.map ((u.now, ·))) → u.agent.SignedOff :=
    fun hungranted => (h.signedOff hungranted.left).agent
  unfold Station.askBoth
  generalize u.ask server a = answer at hfirst hnow ⊢
  obtain ⟨t, first⟩ := answer
  dsimp only at hfirst hnow ⊢
  split
  · rename_i address _
    have hsecond := hfirst.exchange h.received hheld t.now b address
    rw [hnow, List.append_assoc] at hsecond
    exact ⟨asked ++ [_], by simpa [hnow] using hsecond⟩
  · exact ⟨asked, hfirst⟩

/-- Where nothing is asked and no credential comes in, nothing has happened since. -/
theorem Since.unasked (h : Since server past u log) (hrequests : v.requests = u.requests)
    (hclock : 0 ≤ v.now) (hjar : v.agent.jar.Received) (hoff : u.SignedOff → v.SignedOff) :
    Since server past v log :=
  ⟨hrequests.trans h.requests, hclock, hjar, h.unsent, fun hungranted =>
    hoff (h.signedOff hungranted)⟩

theorem Since.moment (h : Since server past u log) (huv : Moment server u v) :
    ∃ asked : List Request, Since server past v (log ++ asked.map ((u.now, ·))) := by
  have hnone : ∀ {v : Station}, Since server past v log →
      ∃ asked : List Request, Since server past v (log ++ asked.map ((u.now, ·))) :=
    fun hv => ⟨[], by simpa using hv⟩
  cases huv with
  | asks c => exact h.ask c
  | asksBoth a b => exact h.askBoth a b
  | shows | calls =>
      exact hnone (h.unasked rfl h.clock h.received fun hu => ⟨hu.kept, hu.agent⟩)
  | waits now hnow => exact hnone (h.unasked rfl hnow h.received fun hu => ⟨hu.kept, hu.agent⟩)
  | remembers =>
      have hsame : u.remember.requests = u.requests ∧ u.remember.now = u.now := by
        unfold remember
        split <;> exact ⟨rfl, rfl⟩
      exact hnone (h.unasked hsame.1 (hsame.2 ▸ h.clock) (received_remember h.received)
        fun hu => hu.remember h.received)
  | forgets =>
      refine hnone (h.unasked rfl h.clock (Agent.received_forget h.received u.now) fun hu => ?_)
      exact ⟨rfl, Agent.signedOff_forget h.clock fun c hc hsession =>
        absurd hsession (hu.agent c hc)⟩

theorem Since.records {more : List (Int × Request)} (h : Since server past u log)
    (huv : Records server u more v) : Since server past v (log ++ more) := by
  induction huv with
  | nothing => simpa using h
  | @moment more t v asked _ hmoment hasked ih =>
      obtain ⟨asked', hlater⟩ := ih.moment hmoment
      -- The requests of the moment are those the record has grown by.
      have hsame : asked' = asked := by
        have hgrown := hlater.requests
        rw [List.map_append, map_snd_stamped, ← List.append_assoc, ← ih.requests, hasked] at hgrown
        exact (List.append_cancel_left hgrown).symm
      rw [hsame, List.append_assoc] at hlater
      exact hlater

/-! ## Signing out -/

theorem Course.clock (hst : Course server s t) (h : 0 ≤ s.now) : 0 ≤ t.now := by
  induction hst with
  | refl => exact h
  | @tail t u _ hmoment ih =>
      cases hmoment with
      | waits now hnow => exact hnow
      | asks c => exact (now_ask server t c).symm ▸ ih
      | asksBoth a b =>
          exact (askBoth_keeps Station.now (fun _ _ _ => rfl) t a b).symm ▸ ih
      | remembers =>
          unfold remember
          split <;> exact ih
      | shows | calls | forgets => exact ih

/-- The station when a key of the overlay comes to forgetting the session: the user has signed out,
whatever the server answered, or the account is deleted. -/
inductive Parting (server : Server) (s : Station) : Key.Code → Station → Prop where
  | logout : Parting server s (.char 'l') (s.signOut server)
  | deletion (h : (s.deleteAccount server).2 = true) :
      Parting server s (.char 'd') (s.deleteAccount server).1

theorem Parting.course {code : Key.Code} (h : Parting server s code t) : Course server s t := by
  cases h with
  | logout => exact signOut_course server s
  | deletion _ => exact deleteAccount_course server s

theorem Parting.press {code : Key.Code} (h : Parting server s code t) :
    s.pressControlOnProfile server code = t.forget := by
  cases h with
  | logout => rfl
  | deletion hdeleted =>
      unfold pressControlOnProfile
      generalize s.deleteAccount server = answer at hdeleted ⊢
      obtain ⟨t, deleted⟩ := answer
      subst hdeleted
      rfl

/-- A session that forgetting does not reach is still in the jar after signing out. -/
theorem unreached_session_stays {code : Key.Code} (h : Parting server s code t)
    (hhttp : t.agent.url.isHttp = true) (hclock : 0 ≤ t.now) {c : Cookie}
    (hheld : c ∈ t.agent.jar.cookies) (hunreached : ¬ t.agent.Reaches c) :
    c ∈ (s.pressControlOnProfile server code).agent.jar.cookies := by
  rw [h.press]
  exact (Agent.mem_forget hhttp hclock).mpr ⟨hheld, fun hreached => hunreached hreached.2⟩

/-- What comes after a station without a credential: no request made before a grant carries one, and
there is none without a grant. -/
structure StaysWithout (server : Server) (out : Station) (log : List (Int × Request))
    (u : Station) : Prop where
  requests : u.requests = out.requests ++ log.map Prod.snd
  unsent : ∀ before now r later, log = before ++ (now, r) :: later →
    server.Ungranted out.requests before → ¬ CarriesSession r.cookie
  without : server.Ungranted out.requests log → u.WithoutCredential

theorem SignedOff.staysWithout (h : s.SignedOff) (hclock : 0 ≤ s.now) (hjar : s.agent.jar.Received)
    (hrecords : Records server s log u) : StaysWithout server s log u := by
  have hsince := (h.since hclock hjar).records hrecords
  rw [List.nil_append] at hsince
  exact ⟨hsince.requests, hsince.unsent, fun hungranted =>
    (hsince.signedOff hungranted).withoutCredential hsince.received⟩

theorem received_seeded {base : String} {fresh : Agent} (hbase : Agent.ofBase base = .ok fresh)
    (token : Option String) (seeded : Int) :
    (token.elim fresh (fresh.seed seeded)).jar.Received := by
  cases token with
  | none => exact Agent.received_ofBase hbase
  | some token => exact Agent.received_seed (Agent.received_ofBase hbase) seeded token

theorem Parting.signedOff {code : Key.Code} (h : Parting server s code t)
    (hclock : 0 ≤ s.now) (hjar : s.agent.jar.Received)
    (hreached : ∀ c ∈ t.agent.jar.cookies, c.IsSession → t.agent.Reaches c) :
    let out := s.pressControlOnProfile server code
    out.SignedOff ∧ 0 ≤ out.now ∧ out.agent.jar.Received := by
  have hnow := h.course.clock hclock
  rw [h.press]
  exact ⟨⟨rfl, Agent.signedOff_forget hnow hreached⟩, hnow,
    Agent.received_forget (h.course.received hjar) t.now⟩

/-- If the jar of a run holds no session but those that forgetting reaches, nothing is left of them
once the user has signed out or deleted the account; and from then on, at any point of any course,
no request made before a grant carries a session, and there is none without a grant. -/
theorem no_credential_after_signing_out (server : Server) {base : String} {fresh : Agent}
    (hbase : Agent.ofBase base = .ok fresh) (token kept : Option String) (seeded now : Int)
    {s t : Station} {code : Key.Code} (hclock : 0 ≤ now)
    (hrun : Course server
      { agent := token.elim fresh (fresh.seed seeded), kept := kept, now := now } s)
    (hparting : Parting server s code t)
    (hreached : ∀ c ∈ t.agent.jar.cookies, c.IsSession → t.agent.Reaches c) :
    let out := s.pressControlOnProfile server code
    out.WithoutCredential ∧
      ∀ u, Course server out u → (∃ log, Records server out log u) ∧
        ∀ log, Records server out log u → StaysWithout server out log u := by
  intro out
  obtain ⟨hoff, hpresent, hjar⟩ := hparting.signedOff (hrun.clock hclock)
    (hrun.received (received_seeded hbase token seeded)) hreached
  exact ⟨hoff.withoutCredential hjar, fun u hu => ⟨hu.exists_records, fun log hlog =>
    hoff.staysWithout hpresent hjar hlog⟩⟩

/-- The local host, and a server that grants one session, for all its pages, and afterwards only
takes sessions away. -/
theorem no_credential_after_signing_out_of_local_host :
    let server : Server := fun past _ =>
      .answered 200 "" [if past = [] then "auth_token=t; Path=/" else "auth_token=; Max-Age=0"]
    let fresh : Agent := ⟨"http://[::1]", { scheme := "http".toList
                                            host := some (.ipv6 [0, 0, 0, 0, 0, 0, 0, 1])
                                            path := .segments [[]] }, {}⟩
    let s := (ask server { agent := fresh } (.login [])).1
    let out := s.pressControlOnProfile server (.char 'l')
    s.agent.token? 0 = some "t" ∧ out.WithoutCredential ∧
      (out.ask server .me).1.WithoutCredential := by
  intro server fresh s out
  have hbase : Agent.ofBase "http://[::1]" = .ok fresh := Agent.ofBase_localHost
  have hrun : Course server { agent := fresh } s := ask_course server _ _
  have hreached : ∀ c ∈ (s.signOut server).agent.jar.cookies, c.IsSession →
      (s.signOut server).agent.Reaches c := by decide +kernel
  obtain ⟨hwithout, hstays⟩ :=
    no_credential_after_signing_out server hbase none none 0 0 (Int.le_refl 0) hrun .logout hreached
  refine ⟨by decide +kernel, hwithout, ?_⟩
  obtain ⟨asked, hasked⟩ := exists_asked_ask server out .me
  have hlog := Records.nothing.moment (.asks .me) hasked
  refine ((hstays _ (ask_course server out .me)).2 _ hlog).without ?_
  intro before second r later hsplit
  have hpast : out.requests ++ before.map Prod.snd ≠ [] :=
    List.append_ne_nil_of_left_ne_nil (by decide +kernel) _
  have hmem : (second, r) ∈ asked.map ((out.now, ·)) := by
    rw [← List.nil_append (asked.map _), hsplit]
    simp
  obtain ⟨_, _, hsecond⟩ := List.mem_map.mp hmem
  have hpresent : 0 ≤ second := (Prod.mk.inj hsecond).1 ▸ (by decide +kernel : 0 ≤ out.now)
  dsimp only [server]
  rw [if_neg hpast]
  exact Reply.not_grants hpresent (by decide +kernel)

/-- At any point of a run the overlay can be open on the chat page; there the key does the same, and
the turns that follow make a course. -/
theorem run_without_credential (server : Server) (bypass : Bool) {base : String} {fresh : Agent}
    (hbase : Agent.ofBase base = .ok fresh) (token kept : Option String) (seeded : Int)
    {now : Int} (hclock : 0 ≤ now) (turns later : List Turn) {t : Station} {code : Key.Code} :
    let agent := token.elim fresh (fresh.seed seeded)
    let s := (start server bypass { agent := agent, kept := kept, now := now }).2.afterTurns server
      turns
    s.client.page = .chat → s.client.profile ≠ none → Parting server s code t →
      (∀ c ∈ t.agent.jar.cookies, c.IsSession → t.agent.Reaches c) →
      let out := s.afterTurn server (.key ⟨code, true⟩)
      let u := out.afterTurns server later
      out.WithoutCredential ∧ (∃ log, Records server out log u) ∧
        ∀ log, Records server out log u → StaysWithout server out log u := by
  intro agent s onChat hopen hparting hreached out u
  obtain ⟨p, hp⟩ := Option.ne_none_iff_exists'.mp hopen
  have hrun : Course server { agent := agent, kept := kept, now := now } s :=
    (start_course server bypass _).trans (turns_course server _ turns)
  have hout : out = s.pressControlOnProfile server code := afterTurn_key onChat hp ⟨code, true⟩
  obtain ⟨hoff, hpresent, hjar⟩ := hparting.signedOff (hrun.clock hclock)
    (hrun.received (received_seeded hbase token seeded)) hreached
  rw [← hout] at hoff hpresent hjar
  exact ⟨hoff.withoutCredential hjar, (turns_course server out later).exists_records,
    fun log hlog => hoff.staysWithout hpresent hjar hlog⟩

/-- A session that the server grants below a path goes on being sent after signing out. -/
theorem session_sent_after_signing_out :
    let server : Server := fun _ r =>
      .answered 200 "" (if r.target = "/api/login" then ["auth_token=t"] else [])
    let fresh : Agent := ⟨"http://[::1]", { scheme := "http".toList
                                            host := some (.ipv6 [0, 0, 0, 0, 0, 0, 0, 1])
                                            path := .segments [[]] }, {}⟩
    let chat : Client := { page := .chat, identity := some .developer, profile := some {} }
    let s := (ask server { agent := fresh, client := chat } (.login [])).1
    let out := (s.press server ⟨.char 'l', true⟩).1
    let later := (out.ask server .me).1
    out.client.page = .signIn ∧ out.kept = none ∧
      CarriesSession (later.requests.getLast?.bind (·.cookie)) := by
  intro server fresh chat s out later
  have hsent : later.requests.getLast?.bind (·.cookie) = some "auth_token=t" := by decide +kernel
  rw [hsent]
  exact ⟨by decide +kernel, by decide +kernel, "auth_token=t", rfl, by decide +kernel⟩

end Station

end ChatTerminal
