import ChatTerminal.Proofs.Station.Outcomes
/-!
# Flows that come to nothing

A flow comes to nothing if what was typed is turned down, or if a reply that it hangs on fails.
Then all that it may have changed are texts below the forms, the marks that a form waits, and the
arming of the profile overlay; and if it was turned down it has asked the server nothing.
-/

namespace ChatTerminal

/-! ## Replies that fail -/

namespace Reply

inductive Refuses : Reply → Prop where
  | dropped : Refuses .dropped
  | status (status : Nat) (body : String) (cookies : List String)
      (h : ¬ (200 ≤ status ∧ status < 300)) : Refuses (.answered status body cookies)

inductive Fails {α : Type} (read : Json.Tree → Option α) : Reply → Prop where
  | refuses {r : Reply} (h : r.Refuses) : Fails read r
  | unread (status : Nat) (body : String) (cookies : List String)
      (h : (Json.Tree.ofText? (if isBodiless status then "" else body).toList).bind read = none) :
      Fails read (.answered status body cookies)

variable {α : Type} {read : Json.Tree → Option α} {r : Reply}

theorem refuses_iff : r.Refuses ↔ ∃ e, r.content? = .error e := by
  constructor
  · rintro (_ | ⟨status, body, cookies, h⟩)
    · exact ⟨.unreachable, rfl⟩
    · refine ⟨_, if_neg ?_⟩
      simpa using h
  · rintro ⟨e, h⟩
    cases r with
    | dropped => exact .dropped
    | answered status body cookies =>
        refine .status status body cookies fun hstatus => ?_
        simp [content?, hstatus] at h

theorem fails_iff : r.Fails read ↔ ∃ e, r.value? read = .error e := by
  unfold value?
  constructor
  · rintro (h | ⟨status, body, cookies, h⟩)
    · obtain ⟨e, he⟩ := refuses_iff.mp h
      exact ⟨e, by rw [he]; rfl⟩
    · by_cases hstatus : 200 ≤ status ∧ status < 300
      · refine ⟨.undecodable, ?_⟩
        simp only [content?, hstatus, decide_true, Bool.and_self, if_true]
        simp [bind, Except.bind, h]
      · obtain ⟨e, he⟩ := refuses_iff.mp (.status status body cookies hstatus)
        exact ⟨e, by rw [he]; rfl⟩
  · rintro ⟨e, h⟩
    cases r with
    | dropped => exact .refuses .dropped
    | answered status body cookies =>
        by_cases hstatus : 200 ≤ status ∧ status < 300
        · refine .unread status body cookies ?_
          simp only [content?, hstatus, decide_true, Bool.and_self, if_true] at h
          simp only [bind, Except.bind] at h
          split at h
          · cases h
          · assumption
        · exact .refuses (.status status body cookies hstatus)

end Reply

namespace Station

theorem exists_value_of_not_fails {α : Type} {read : Json.Tree → Option α} {r : Reply}
    (h : ¬ r.Fails read) : ∃ a, r.value? read = .ok a := by
  cases hvalue : r.value? read with
  | ok a => exact ⟨a, rfl⟩
  | error e => exact absurd (Reply.fails_iff.mpr ⟨e, hvalue⟩) h

theorem not_fails_of_value {α : Type} {read : Json.Tree → Option α} {r : Reply} {a : α}
    (h : r.value? read = .ok a) : ¬ r.Fails read := by
  intro hfails
  obtain ⟨e, he⟩ := Reply.fails_iff.mp hfails
  exact nomatch he.symm.trans h

theorem exists_content_of_not_refuses {r : Reply} (h : ¬ r.Refuses) :
    ∃ content, r.content? = .ok content := by
  cases hcontent : r.content? with
  | ok content => exact ⟨content, rfl⟩
  | error e => exact absurd (Reply.refuses_iff.mpr ⟨e, hcontent⟩) h

end Station

/-! ## What a failure may touch -/

def SignIn.bare (f : SignIn) : SignIn := { f with error := "", message := "", loading := false }

def Profile.bare (p : Profile) : Profile :=
  { p with error := "", message := "", loading := false, armed := false }

/-- The client without the texts below its forms, the marks that a form waits, and the arming of
the overlay. -/
def Client.bare (c : Client) : Client :=
  { c with
    sidebarError := ""
    sidebarMessage := ""
    signIn := c.signIn.bare
    profile := c.profile.map Profile.bare }

theorem Client.bare_onSignIn {change : SignIn → SignIn} (h : ∀ f, (change f).bare = f.bare)
    (c : Client) : (c.onSignIn change).bare = c.bare := by
  simp only [bare, onSignIn, h]

theorem Client.bare_onProfile {change : Profile → Profile} (h : ∀ p, (change p).bare = p.bare)
    (c : Client) : (c.onProfile change).bare = c.bare := by
  simp only [bare, onProfile, Option.map_map, Function.comp_def, h]

namespace Station

/-- The client is the same but for what `Client.bare` leaves out, the kept session is the same,
and the links were not called. -/
structure Untouched (s t : Station) : Prop where
  client : t.client.bare = s.client.bare
  kept : t.kept = s.kept
  linkCalls : t.linkCalls = s.linkCalls

variable {server : Server} {s t : Station}

theorem Untouched.refl (s : Station) : Untouched s s := ⟨rfl, rfl, rfl⟩

theorem untouched_ask (server : Server) (s : Station) (c : Call) :
    Untouched s (s.ask server c).1 :=
  ⟨by rw [client_ask], kept_ask server s c, linkCalls_ask server s c⟩

theorem Untouched.ask (h : Untouched s t) (c : Call) : Untouched s (t.ask server c).1 := by
  have hask := untouched_ask server t c
  exact ⟨hask.client.trans h.client, hask.kept.trans h.kept, hask.linkCalls.trans h.linkCalls⟩

theorem untouched_askBoth (server : Server) (s : Station) (a b : Call) :
    Untouched s (s.askBoth server a b).1 :=
  ⟨by rw [client_askBoth], kept_askBoth server s a b, linkCalls_askBoth server s a b⟩

theorem Untouched.onClient (h : Untouched s t) {change : Client → Client}
    (hbare : ∀ c, (change c).bare = c.bare) : Untouched s (t.onClient change) :=
  ⟨(hbare t.client).trans h.client, h.kept, h.linkCalls⟩

theorem Untouched.onSignIn (h : Untouched s t) {change : SignIn → SignIn}
    (hbare : ∀ f, (change f).bare = f.bare) : Untouched s (t.onSignIn change) :=
  h.onClient (Client.bare_onSignIn hbare)

theorem Untouched.onProfile (h : Untouched s t) {change : Profile → Profile}
    (hbare : ∀ p, (change p).bare = p.bare) : Untouched s (t.onProfile change) :=
  h.onClient (Client.bare_onProfile hbare)

theorem Untouched.showError (h : Untouched s t) (text : String) :
    Untouched s (t.onClient (·.showError text)) := h.onClient fun _ => rfl

theorem Untouched.clearBanners (h : Untouched s t) :
    Untouched s (t.onClient Client.clearBanners) := h.onClient fun _ => rfl

/-! ## Flows -/

inductive Flow where
  | signIn
  | register
  | loadChannels
  | createChannel
  | joinChannel
  | deleteChannel (id : Nat)
  | saveProfile
  | deleteAccount

def follow (server : Server) (s : Station) : Flow → Station
  | .signIn => (s.signIn server).1
  | .register => s.register server
  | .loadChannels => s.loadChannels server
  | .createChannel => s.createChannel server
  | .joinChannel => s.joinChannel server
  | .deleteChannel id => s.deleteChannel server id
  | .saveProfile => (s.saveProfile server).1
  | .deleteAccount => (s.deleteAccount server).1

/-- What the user typed or picked is turned down, or there is no overlay, or the overlay only
asks to confirm. -/
def Flow.TurnedDown (c : Client) : Flow → Prop
  | .signIn | .loadChannels => False
  | .register => ∃ r, c.signIn.registerRequest = .error r
  | .createChannel => ∃ r, channelName c.newChannelName.value = .error r
  | .joinChannel => ∃ r, Search.parse c.searchQuery.value = .error r
  | .deleteChannel id => (c.directory.get? id).any (·.isOwnedBy c.userName) = false
  | .saveProfile => ∀ p, c.profile = some p → ∃ r, p.update = .error r
  | .deleteAccount => ∀ p, c.profile = some p → p.armed = false

def Flow.Fails (server : Server) (s : Station) : Flow → Prop
  | .signIn =>
    let reply := (s.ask server (.login s.client.signIn.loginRequest)).2
    reply.Fails UserRecord.ofAnswer? ∨
      ∃ user, reply.value? UserRecord.ofAnswer? = .ok user ∧ user.bind (·.identity?) = none
  | .register => ∃ account, s.client.signIn.registerRequest = .ok account ∧
      (s.ask server (.register account)).2.Fails UserRecord.ofAnswer?
  | .loadChannels =>
    let listed := s.askBoth server .ownedChannels .joinedChannels
    let read := Json.Tree.list ChannelRecord.ofTree?
    listed.2.1.Fails read ∨ listed.2.2.Fails read
  | .createChannel => ∃ name, channelName s.client.newChannelName.value = .ok name ∧
      (s.ask server (.createChannel name)).2.Fails ChannelRecord.ofTree?
  | .joinChannel => ∃ search, Search.parse s.client.searchQuery.value = .ok search ∧
      let found := s.ask server (.searchChannel search.query)
      found.2.Fails ChannelRecord.ofTree? ∨
        ∃ record, found.2.value? ChannelRecord.ofTree? = .ok record ∧
          (found.1.ask server (.joinChannel record.id)).2.Fails ChannelRecord.ofTree?
  | .deleteChannel id => (s.ask server (.deleteChannel id)).2.Refuses
  | .saveProfile => ∃ p update, s.client.profile = some p ∧ p.update = .ok update ∧
      (s.ask server (.updateMe update)).2.Fails UserRecord.ofAnswer?
  | .deleteAccount => (s.ask server .deleteMe).2.Refuses

/-! ## Each flow that fails -/

theorem signIn_untouched (h : Flow.signIn.Fails server s) :
    Untouched s (s.follow server .signIn) := by
  have hask := untouched_ask server s (.login s.client.signIn.loginRequest)
  rw [follow, signIn_eq]
  unfold Flow.Fails at h
  generalize s.ask server (.login s.client.signIn.loginRequest) = answer at h hask ⊢
  obtain ⟨t, reply⟩ := answer
  dsimp only at h hask ⊢
  rcases h with hfails | ⟨user, hvalue, hnobody⟩
  · obtain ⟨e, he⟩ := Reply.fails_iff.mp hfails
    rw [he]
    dsimp only
    exact hask.onSignIn fun f => rfl
  · rw [hvalue]
    dsimp only
    rw [hnobody]
    exact hask.onSignIn fun f => rfl

theorem register_untouched (h : Flow.register.Fails server s) :
    Untouched s (s.follow server .register) := by
  obtain ⟨account, haccount, hfails⟩ := h
  have hask := untouched_ask server s (.register account)
  obtain ⟨e, he⟩ := Reply.fails_iff.mp hfails
  rw [follow, register_eq, haccount]
  dsimp only
  rw [he]
  dsimp only
  exact hask.onSignIn fun f => rfl

theorem loadChannels_untouched (h : Flow.loadChannels.Fails server s) :
    Untouched s (s.follow server .loadChannels) := by
  have hask := untouched_askBoth server s .ownedChannels .joinedChannels
  unfold Flow.Fails at h
  rw [follow, loadChannels]
  generalize s.askBoth server .ownedChannels .joinedChannels = answer at h hask ⊢
  obtain ⟨t, owned, joined⟩ := answer
  dsimp only at h hask ⊢
  split
  · rename_i howned hjoined
    rcases h with hfails | hfails
    · exact absurd hfails (not_fails_of_value howned)
    · exact absurd hfails (not_fails_of_value hjoined)
  · exact hask.showError _

theorem createChannel_untouched (h : Flow.createChannel.Fails server s) :
    Untouched s (s.follow server .createChannel) := by
  obtain ⟨name, hname, hfails⟩ := h
  have hask := untouched_ask server s (.createChannel name)
  obtain ⟨e, he⟩ := Reply.fails_iff.mp hfails
  rw [follow, createChannel, hname]
  dsimp only
  rw [ask_onClient]
  dsimp only
  rw [he]
  dsimp only
  exact hask.clearBanners.showError _

/-- Also when the channel was found and only joining it failed. -/
theorem joinChannel_untouched (h : Flow.joinChannel.Fails server s) :
    Untouched s (s.follow server .joinChannel) := by
  obtain ⟨search, hsearch, hfails⟩ := h
  have hask := untouched_ask server s (.searchChannel search.query)
  rw [follow, joinChannel, hsearch]
  dsimp only
  rw [ask_onClient]
  generalize s.ask server (.searchChannel search.query) = answer at hfails hask ⊢
  obtain ⟨t, found⟩ := answer
  dsimp only at hfails hask ⊢
  rcases hfails with hfound | ⟨record, hrecord, hjoin⟩
  · obtain ⟨e, he⟩ := Reply.fails_iff.mp hfound
    rw [he]
    dsimp only
    exact hask.clearBanners.showError _
  · obtain ⟨e, he⟩ := Reply.fails_iff.mp hjoin
    rw [hrecord]
    dsimp only
    rw [ask_onClient]
    dsimp only [ChannelRecord.toChannel]
    rw [he]
    dsimp only
    exact (hask.ask (.joinChannel record.id)).clearBanners.showError _

theorem deleteChannel_untouched {id : Nat} (h : (Flow.deleteChannel id).Fails server s) :
    Untouched s (s.follow server (.deleteChannel id)) := by
  have hask := untouched_ask server s (.deleteChannel id)
  have hclear := (Untouched.refl s).clearBanners
  obtain ⟨e, he⟩ := Reply.refuses_iff.mp h
  rw [follow, deleteChannel]
  dsimp only
  split
  · exact hclear.showError _
  · rw [ask_onClient]
    dsimp only
    rw [he]
    dsimp only
    exact hask.clearBanners.showError _

theorem saveProfile_untouched (h : Flow.saveProfile.Fails server s) :
    Untouched s (s.follow server .saveProfile) := by
  obtain ⟨p, update, hopen, hupdate, hfails⟩ := h
  have hask := untouched_ask server s (.updateMe update)
  obtain ⟨e, he⟩ := Reply.fails_iff.mp hfails
  rw [follow, saveProfile_eq server hopen, hupdate]
  dsimp only
  rw [he]
  dsimp only
  exact hask.onProfile fun p => rfl

theorem deleteAccount_untouched (h : Flow.deleteAccount.Fails server s) :
    Untouched s (s.follow server .deleteAccount) := by
  have hask := untouched_ask server s .deleteMe
  obtain ⟨e, he⟩ := Reply.refuses_iff.mp h
  cases hopen : s.client.profile with
  | none =>
      rw [follow, deleteAccount_of_none server hopen]
      exact .refl s
  | some p =>
      rw [follow, deleteAccount_eq server hopen]
      split
      · dsimp only
        rw [he]
        dsimp only
        exact hask.onProfile fun p => rfl
      · exact (Untouched.refl s).onProfile fun p => rfl

/-! ## Flows that are turned down -/

/-- A flow that is turned down changes the client and nothing else. -/
theorem follow_of_turnedDown (server : Server) {f : Flow} (h : f.TurnedDown s.client) :
    ∃ change : Client → Client, (∀ c, (change c).bare = c.bare) ∧
      s.follow server f = s.onClient change := by
  cases f with
  | signIn => exact h.elim
  | loadChannels => exact h.elim
  | register =>
      obtain ⟨r, hr⟩ := h
      refine ⟨(·.onSignIn fun f => { f.clearBanners with error := r.message }),
        Client.bare_onSignIn fun f => rfl, ?_⟩
      rw [follow, register_eq, hr]
      rfl
  | createChannel =>
      obtain ⟨r, hr⟩ := h
      refine ⟨(·.showError r.message), fun c => rfl, ?_⟩
      rw [follow, createChannel, hr]
  | joinChannel =>
      obtain ⟨r, hr⟩ := h
      refine ⟨(·.showError r.message), fun c => rfl, ?_⟩
      rw [follow, joinChannel, hr]
  | deleteChannel id =>
      have hcleared : ((s.onClient Client.clearBanners).client.directory.get? id).any
          (·.isOwnedBy (s.onClient Client.clearBanners).client.userName) = false := h
      refine ⟨(·.showError Channels.notOwned), fun c => rfl, ?_⟩
      rw [follow, deleteChannel]
      dsimp only
      rw [hcleared]
      rfl
  | saveProfile =>
      cases hopen : s.client.profile with
      | none =>
          refine ⟨id, fun c => rfl, ?_⟩
          rw [follow, saveProfile_of_none server hopen]
          rfl
      | some p =>
          obtain ⟨r, hr⟩ := h p hopen
          refine ⟨(·.onProfile fun p => { p with message := "", error := r.message }),
            Client.bare_onProfile fun p => rfl, ?_⟩
          rw [follow, saveProfile_eq server hopen, hr]
          rfl
  | deleteAccount =>
      cases hopen : s.client.profile with
      | none =>
          refine ⟨id, fun c => rfl, ?_⟩
          rw [follow, deleteAccount_of_none server hopen]
          rfl
      | some p =>
          refine ⟨(·.onProfile fun p =>
            { p with armed := true, message := "", error := Profile.confirmationText }),
            Client.bare_onProfile fun p => rfl, ?_⟩
          rw [follow, deleteAccount_eq server hopen, h p hopen]
          rfl

theorem follow_of_fails {f : Flow} (h : f.Fails server s) : Untouched s (s.follow server f) := by
  cases f with
  | signIn => exact signIn_untouched h
  | register => exact register_untouched h
  | loadChannels => exact loadChannels_untouched h
  | createChannel => exact createChannel_untouched h
  | joinChannel => exact joinChannel_untouched h
  | deleteChannel id => exact deleteChannel_untouched h
  | saveProfile => exact saveProfile_untouched h
  | deleteAccount => exact deleteAccount_untouched h

/-- A flow that is turned down or hangs on a reply that fails leaves everything as it was, but for
texts below the forms, marks that a form waits and the arming of the overlay; and one that is
turned down makes no request. -/
theorem failure_leaves_untouched (server : Server) (s : Station) (f : Flow) :
    (f.TurnedDown s.client ∨ f.Fails server s → Untouched s (s.follow server f)) ∧
      (f.TurnedDown s.client →
        (s.follow server f).requests = s.requests ∧ (s.follow server f).agent = s.agent) := by
  constructor
  · rintro (hdown | hfails)
    · obtain ⟨change, hbare, heq⟩ := follow_of_turnedDown server hdown
      rw [heq]
      exact (Untouched.refl s).onClient hbare
    · exact follow_of_fails hfails
  · intro hdown
    obtain ⟨change, -, heq⟩ := follow_of_turnedDown server hdown
    rw [heq]
    exact ⟨rfl, rfl⟩

/-- A channel that is found and cannot be joined, and a search text without a channel. -/
theorem failure_leaves_untouched_on_search :
    let server : Server := fun _ r =>
      if r.method = .get then .answered 200 "\x7b\"id\":7,\"name\":\"den\"\x7d" []
      else .answered 403 "" []
    let agent : Agent := ⟨"http://[::1]", { scheme := "http".toList }, {}⟩
    let s : Station := { agent := agent, client := { searchQuery := { value := "ann@den" } } }
    let t : Station := { agent := agent, client := { searchQuery := { value := "den" } } }
    (Flow.joinChannel.Fails server s ∧ Untouched s (s.follow server .joinChannel)) ∧
      Flow.joinChannel.TurnedDown t.client ∧ Untouched t (t.follow server .joinChannel) ∧
        (t.follow server .joinChannel).requests = [] := by
  intro server agent s t
  have hfound : (s.ask server (.searchChannel (Search.mk "ann" "den").query)).2 =
      .answered 200 "\x7b\"id\":7,\"name\":\"den\"\x7d" [] := by decide +kernel
  have hrecord : (s.ask server (.searchChannel (Search.mk "ann" "den").query)).2.value?
      ChannelRecord.ofTree? = .ok ⟨7, "den", 0, none, none⟩ := by
    rw [hfound]
    rfl
  have hjoin : ((s.ask server (.searchChannel (Search.mk "ann" "den").query)).1.ask server
      (.joinChannel 7)).2 = .answered 403 "" [] := by decide +kernel
  have hrefused : ((s.ask server (.searchChannel (Search.mk "ann" "den").query)).1.ask server
      (.joinChannel 7)).2.Fails ChannelRecord.ofTree? := by
    rw [hjoin]
    exact .refuses (.status 403 "" [] (by decide))
  have hsearch : Search.parse s.client.searchQuery.value = .ok ⟨"ann", "den"⟩ := by cbv
  have hfails : Flow.joinChannel.Fails server s :=
    ⟨⟨"ann", "den"⟩, hsearch, .inr ⟨⟨7, "den", 0, none, none⟩, hrecord, hrefused⟩⟩
  have hdown : Flow.joinChannel.TurnedDown t.client := ⟨.badSearch, by cbv⟩
  exact ⟨⟨hfails, (failure_leaves_untouched server s .joinChannel).1 (.inr hfails)⟩, hdown,
    (failure_leaves_untouched server t .joinChannel).1 (.inl hdown),
    ((failure_leaves_untouched server t .joinChannel).2 hdown).1⟩

end Station

end ChatTerminal
