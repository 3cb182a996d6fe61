import ChatTerminal.Proofs.Client.Mirrored
import ChatTerminal.Proofs.Station.Coherence
/-!
# Stations that go on alike

Two runs go on from two stations.  Where the clients mirror each other and the servers answer alike,
every flow and every key keeps it so: the requests made since are the same but for the cookies, and
the calls of the links are the same but for the numbers.
-/

namespace ChatTerminal

def Request.bare (r : Request) : Request := { r with cookie := none }

namespace LinkCall

def renumber (n m : Nat) : LinkCall → LinkCall
  | .connect g channel => .connect (Link.renumber n m g) channel
  | .disconnect g => .disconnect (Link.renumber n m g)
  | .send g content => .send (Link.renumber n m g) content

/-- The link that is called has a number above `n`. -/
def Beyond (n : Nat) : LinkCall → Prop
  | .connect g _ | .disconnect g | .send g _ => n < g

end LinkCall

namespace Station

/-- What has been asked since two stations was answered alike, whatever the cookies. -/
def AnswerAlike (s₀ t₀ : Station) (server server' : Server) : Prop :=
  ∀ asked asked' r r', asked'.map Request.bare = asked.map Request.bare → r'.bare = r.bare →
    server' (t₀.requests ++ asked') r' = server (s₀.requests ++ asked) r

/-- Since `s₀` and `t₀`, where their links were numbered so far, `t` has gone the way of `s`. -/
structure Mirrors (s₀ t₀ s t : Station) : Prop where
  client : Client.Mirrors s₀.client.session.lastGeneration t₀.client.session.lastGeneration
    s.client t.client
  base : t.agent.base = s.agent.base
  requests : ∃ asked asked', s.requests = s₀.requests ++ asked ∧
    t.requests = t₀.requests ++ asked' ∧ asked'.map Request.bare = asked.map Request.bare
  linkCalls : ∃ calls, s.linkCalls = s₀.linkCalls ++ calls ∧
    t.linkCalls = t₀.linkCalls ++ calls.map
      (LinkCall.renumber s₀.client.session.lastGeneration t₀.client.session.lastGeneration) ∧
    ∀ call ∈ calls, call.Beyond s₀.client.session.lastGeneration

/-- The same for stations with a result each, and the results are one. -/
inductive MirrorsWith (s₀ t₀ : Station) {α : Type} : Station × α → Station × α → Prop where
  | mk (s t : Station) (h : Mirrors s₀ t₀ s t) (a : α) : MirrorsWith s₀ t₀ (s, a) (t, a)

variable {server server' : Server} {s₀ t₀ s t : Station}

theorem Mirrors.part (h : Mirrors s₀ t₀ s t) {α : Type} (part : Client → α)
    (hpart : ∀ n m c scroll masked,
      part (c.recast (c.session.renumber n m) scroll masked) = part c) :
    part t.client = part s.client :=
  h.client.part part (hpart _ _)

theorem Mirrors.userName (h : Mirrors s₀ t₀ s t) : t.client.userName = s.client.userName :=
  h.part Client.userName fun _ _ _ _ _ => rfl

theorem Mirrors.activeId (h : Mirrors s₀ t₀ s t) : t.client.activeId = s.client.activeId :=
  h.part Client.activeId fun _ _ _ _ _ => rfl

theorem Mirrors.directory (h : Mirrors s₀ t₀ s t) : t.client.directory = s.client.directory :=
  h.part Client.directory fun _ _ _ _ _ => rfl

theorem Mirrors.profile (h : Mirrors s₀ t₀ s t) : t.client.profile = s.client.profile :=
  h.part Client.profile fun _ _ _ _ _ => rfl

theorem Mirrors.form (h : Mirrors s₀ t₀ s t) : t.client.signIn = s.client.signIn :=
  h.part Client.signIn fun _ _ _ _ _ => rfl

/-! ## Requests -/

theorem Mirrors.exchange (h : Mirrors s₀ t₀ s t) (hserver : AnswerAlike s₀ t₀ server server')
    (u : Web.Url) {r r' : Request} (hr : r'.bare = r.bare) :
    MirrorsWith s₀ t₀ (s.exchange server u r) (t.exchange server' u r') := by
  obtain ⟨asked, asked', hs, ht, halike⟩ := h.requests
  have hreply : server' t.requests r' = server s.requests r := by
    rw [hs, ht]
    exact hserver asked asked' r r' halike hr
  have hexchanged : Mirrors s₀ t₀
      { s with agent := s.agent.receive s.now u (server s.requests r)
               requests := s.requests ++ [r] }
      { t with agent := t.agent.receive t.now u (server s.requests r)
               requests := t.requests ++ [r'] } := by
    refine ⟨h.client, ?_, ⟨asked ++ [r], asked' ++ [r'], ?_, ?_, ?_⟩, h.linkCalls⟩
    · rw [Agent.base_receive, Agent.base_receive]
      exact h.base
    · rw [hs, List.append_assoc]
    · rw [ht, List.append_assoc]
    · rw [List.map_append, List.map_append, halike, List.map_singleton, List.map_singleton, hr]
  unfold Station.exchange
  dsimp only
  rw [hreply]
  exact .mk _ _ hexchanged _

theorem Mirrors.ask (h : Mirrors s₀ t₀ s t) (hserver : AnswerAlike s₀ t₀ server server')
    (c : Call) : MirrorsWith s₀ t₀ (s.ask server c) (t.ask server' c) := by
  unfold Station.ask
  rw [Agent.urlOf?_of_base h.base]
  split
  · exact h.exchange hserver _ rfl
  · exact .mk _ _ h _

theorem Mirrors.askBoth (h : Mirrors s₀ t₀ s t) (hserver : AnswerAlike s₀ t₀ server server')
    (a b : Call) : MirrorsWith s₀ t₀ (s.askBoth server a b) (t.askBoth server' a b) := by
  have hfirst := h.ask hserver a
  unfold Station.askBoth
  dsimp only
  rw [Agent.urlOf?_of_base h.base]
  generalize s.ask server a = answer at hfirst ⊢
  generalize t.ask server' a = answer' at hfirst ⊢
  obtain ⟨u, v, hasked, first⟩ := hfirst
  dsimp only
  cases s.agent.urlOf? b with
  | none => exact .mk _ _ hasked _
  | some address =>
      have hbare : (t.agent.requestTo v.now b address).bare =
          (s.agent.requestTo u.now b address).bare := rfl
      have hsecond := hasked.exchange hserver address hbare
      dsimp only
      generalize u.exchange server address _ = answer at hsecond ⊢
      generalize v.exchange server' address _ = answer' at hsecond ⊢
      obtain ⟨u, v, hasked, second⟩ := hsecond
      exact .mk _ _ hasked _

/-! ## Changes of the client -/

theorem Mirrors.onClient (h : Mirrors s₀ t₀ s t) {c d : Client}
    (hclient : Client.Mirrors s₀.client.session.lastGeneration
      t₀.client.session.lastGeneration c d) :
    Mirrors s₀ t₀ { s with client := c } { t with client := d } :=
  ⟨hclient, h.base, h.requests, h.linkCalls⟩

theorem Mirrors.shows (h : Mirrors s₀ t₀ s t) (change : Client → Client)
    (hchange : Client.Neutral change) :
    Mirrors s₀ t₀ (s.onClient change) (t.onClient change) :=
  h.onClient (h.client.change change hchange)

theorem Mirrors.onSignIn (h : Mirrors s₀ t₀ s t) (change : SignIn → SignIn) :
    Mirrors s₀ t₀ (s.onSignIn change) (t.onSignIn change) :=
  h.shows (·.onSignIn change) fun _ _ _ _ => rfl

theorem Mirrors.onProfile (h : Mirrors s₀ t₀ s t) (change : Profile → Profile) :
    Mirrors s₀ t₀ (s.onProfile change) (t.onProfile change) :=
  h.shows (·.onProfile change) fun _ _ _ _ => rfl

theorem Mirrors.remember (h : Mirrors s₀ t₀ s t) : Mirrors s₀ t₀ s.remember t.remember := by
  have hkept : ∀ kept kept',
      Mirrors s₀ t₀ { s with kept := kept } { t with kept := kept' } := fun _ _ =>
    ⟨h.client, h.base, h.requests, h.linkCalls⟩
  unfold Station.remember
  cases s.agent.token? s.now with
  | none =>
      cases t.agent.token? t.now with
      | none => exact h
      | some token => exact hkept s.kept token
  | some token =>
      cases t.agent.token? t.now with
      | none => exact hkept token t.kept
      | some token' => exact hkept token token'

theorem Mirrors.forget (h : Mirrors s₀ t₀ s t) : Mirrors s₀ t₀ s.forget t.forget :=
  ⟨h.client, h.base, h.requests, h.linkCalls⟩

/-! ## Effects -/

theorem Mirrors.call (h : Mirrors s₀ t₀ s t) (call : LinkCall)
    (hbeyond : call.Beyond s₀.client.session.lastGeneration) :
    Mirrors s₀ t₀ (s.call call) (t.call (call.renumber s₀.client.session.lastGeneration
      t₀.client.session.lastGeneration)) := by
  obtain ⟨calls, hs, ht, hcalls⟩ := h.linkCalls
  refine ⟨h.client, h.base, h.requests, calls ++ [call], ?_, ?_, ?_⟩
  · rw [Station.call, hs, List.append_assoc]
  · rw [Station.call, ht, List.map_append, List.append_assoc]
    rfl
  · intro other hother
    rcases List.mem_append.mp hother with hother | hother
    · exact hcalls other hother
    · exact List.mem_singleton.mp hother ▸ hbeyond

theorem Mirrors.fetchMembers (h : Mirrors s₀ t₀ s t)
    (hserver : AnswerAlike s₀ t₀ server server') (channel : Nat) :
    Mirrors s₀ t₀ (s.fetchMembers server channel) (t.fetchMembers server' channel) := by
  have hask := h.ask hserver (.members channel)
  unfold Station.fetchMembers
  generalize s.ask server _ = answer at hask ⊢
  generalize t.ask server' _ = answer' at hask ⊢
  obtain ⟨u, v, hasked, reply⟩ := hask
  dsimp only
  rw [fst_feed, fst_feed]
  exact hasked.onClient (hasked.client.roster channel _)

theorem Mirrors.carryOut (h : Mirrors s₀ t₀ s t) (hserver : AnswerAlike s₀ t₀ server server')
    {e : Effect} (hbeyond : e.Beyond s₀.client.session.lastGeneration) :
    Mirrors s₀ t₀ (s.carryOut server e) (t.carryOut server'
      (e.renumber s₀.client.session.lastGeneration t₀.client.session.lastGeneration)) := by
  cases e with
  | connect g channel => exact h.call (.connect g channel) hbeyond
  | disconnect g => exact h.call (.disconnect g) hbeyond
  | send g content => exact h.call (.send g content) hbeyond
  | fetchMembers channel => exact h.fetchMembers hserver channel
  | notify text => exact h.shows (·.showError text) fun _ _ _ _ => rfl

theorem Mirrors.carryOutAll (h : Mirrors s₀ t₀ s t) (hserver : AnswerAlike s₀ t₀ server server')
    {effects : List Effect}
    (hbeyond : ∀ e ∈ effects, e.Beyond s₀.client.session.lastGeneration) :
    Mirrors s₀ t₀ (s.carryOutAll server effects) (t.carryOutAll server' (effects.map
      (Effect.renumber s₀.client.session.lastGeneration t₀.client.session.lastGeneration))) := by
  induction effects generalizing s t with
  | nil => exact h
  | cons e effects ih =>
      have hfirst := h.carryOut hserver (hbeyond e List.mem_cons_self)
      exact ih hfirst fun other hother => hbeyond other (List.mem_cons_of_mem e hother)

theorem Mirrors.performs (h : Mirrors s₀ t₀ s t) (hserver : AnswerAlike s₀ t₀ server server')
    {change change' : Client → Client × List Effect}
    (hchange : Client.MirrorsWith s₀.client.session.lastGeneration
      t₀.client.session.lastGeneration (change s.client) (change' t.client)) :
    Mirrors s₀ t₀ (s.perform server change) (t.perform server' change') := by
  have hchanged := h.onClient hchange.client
  have hcarried := hchanged.carryOutAll hserver hchange.beyond
  rw [← hchange.effects] at hcarried
  exact hcarried

theorem Mirrors.select (h : Mirrors s₀ t₀ s t) (hserver : AnswerAlike s₀ t₀ server server')
    (channel : Option Nat) :
    Mirrors s₀ t₀ (s.select server channel) (t.select server' channel) :=
  h.performs hserver (h.client.select channel)

theorem Mirrors.followRow (h : Mirrors s₀ t₀ s t) : Mirrors s₀ t₀ s.followRow t.followRow := by
  have hactive := h.activeId
  unfold Station.followRow
  refine h.onClient ?_
  dsimp only
  rw [hactive]
  exact (h.client.select _).client

theorem Mirrors.seed (h : Mirrors s₀ t₀ s t) (members : List Member) :
    Mirrors s₀ t₀ (s.feed (.seed members)).1 (t.feed (.seed members)).1 := by
  rw [fst_feed, fst_feed]
  exact h.onClient (h.client.seed members)

/-! ## The flows around the user -/

theorem Mirrors.signIn (h : Mirrors s₀ t₀ s t) (hserver : AnswerAlike s₀ t₀ server server') :
    MirrorsWith s₀ t₀ (s.signIn server) (t.signIn server') := by
  have hask := h.ask hserver (.login s.client.signIn.loginRequest)
  rw [signIn_eq, signIn_eq, h.form]
  generalize s.ask server _ = answer at hask ⊢
  generalize t.ask server' _ = answer' at hask ⊢
  obtain ⟨u, v, hasked, reply⟩ := hask
  dsimp only
  split
  · exact .mk _ _ (hasked.onSignIn _) _
  · split
    · exact .mk _ _ (hasked.onSignIn _) _
    · exact .mk _ _ (hasked.onSignIn _) _

theorem Mirrors.register (h : Mirrors s₀ t₀ s t) (hserver : AnswerAlike s₀ t₀ server server') :
    Mirrors s₀ t₀ (s.register server) (t.register server') := by
  rw [register_eq, register_eq, h.form]
  split
  · exact h.onSignIn _
  · rename_i account _
    have hask := h.ask hserver (.register account)
    generalize s.ask server _ = answer at hask ⊢
    generalize t.ask server' _ = answer' at hask ⊢
    obtain ⟨u, v, hasked, reply⟩ := hask
    dsimp only
    split
    · exact hasked.onSignIn _
    · exact hasked.onSignIn _

theorem Mirrors.openProfile (h : Mirrors s₀ t₀ s t)
    (hserver : AnswerAlike s₀ t₀ server server') :
    Mirrors s₀ t₀ (s.openProfile server) (t.openProfile server') := by
  have hask := h.ask hserver .me
  rw [openProfile_eq, openProfile_eq]
  generalize s.ask server _ = answer at hask ⊢
  generalize t.ask server' _ = answer' at hask ⊢
  obtain ⟨u, v, hasked, reply⟩ := hask
  dsimp only
  split
  · exact hasked.shows _ fun _ _ _ _ => rfl
  · exact hasked.shows _ fun _ _ _ _ => rfl

theorem Mirrors.saveProfile (h : Mirrors s₀ t₀ s t)
    (hserver : AnswerAlike s₀ t₀ server server') :
    MirrorsWith s₀ t₀ (s.saveProfile server) (t.saveProfile server') := by
  cases hopen : s.client.profile with
  | none =>
      rw [saveProfile_of_none server hopen, saveProfile_of_none server' (h.profile.trans hopen)]
      exact .mk _ _ h _
  | some p =>
      rw [saveProfile_eq server hopen, saveProfile_eq server' (h.profile.trans hopen)]
      split
      · exact .mk _ _ (h.onProfile _) _
      · rename_i update _
        have hask := h.ask hserver (.updateMe update)
        generalize s.ask server _ = answer at hask ⊢
        generalize t.ask server' _ = answer' at hask ⊢
        obtain ⟨u, v, hasked, reply⟩ := hask
        dsimp only
        split
        · exact .mk _ _ (hasked.shows _ fun _ _ _ _ => rfl) _
        · exact .mk _ _ (hasked.onProfile _) _

theorem Mirrors.saveAndRemember (h : Mirrors s₀ t₀ s t)
    (hserver : AnswerAlike s₀ t₀ server server') :
    Mirrors s₀ t₀ (s.saveAndRemember server) (t.saveAndRemember server') := by
  have hsave := h.saveProfile hserver
  unfold Station.saveAndRemember
  generalize s.saveProfile server = answer at hsave ⊢
  generalize t.saveProfile server' = answer' at hsave ⊢
  obtain ⟨u, v, hsaved, saved⟩ := hsave
  cases saved with
  | true => exact hsaved.remember
  | false => exact hsaved

theorem Mirrors.signOut (h : Mirrors s₀ t₀ s t) (hserver : AnswerAlike s₀ t₀ server server') :
    Mirrors s₀ t₀ (s.signOut server) (t.signOut server') := by
  have hask := h.ask hserver .logout
  unfold Station.signOut
  generalize s.ask server _ = answer at hask ⊢
  generalize t.ask server' _ = answer' at hask ⊢
  obtain ⟨u, v, hasked, reply⟩ := hask
  exact hasked.performs hserver hasked.client.signOut

theorem Mirrors.deleteAccount (h : Mirrors s₀ t₀ s t)
    (hserver : AnswerAlike s₀ t₀ server server') :
    MirrorsWith s₀ t₀ (s.deleteAccount server) (t.deleteAccount server') := by
  cases hopen : s.client.profile with
  | none =>
      rw [deleteAccount_of_none server hopen,
        deleteAccount_of_none server' (h.profile.trans hopen)]
      exact .mk _ _ h _
  | some p =>
      rw [deleteAccount_eq server hopen, deleteAccount_eq server' (h.profile.trans hopen)]
      split
      · have hask := h.ask hserver .deleteMe
        generalize s.ask server _ = answer at hask ⊢
        generalize t.ask server' _ = answer' at hask ⊢
        obtain ⟨u, v, hasked, reply⟩ := hask
        dsimp only
        split
        · exact .mk _ _ ((hasked.onProfile _).signOut hserver) _
        · exact .mk _ _ (hasked.onProfile _) _
      · exact .mk _ _ (h.onProfile _) _

/-! ## The flows around the channels -/

theorem Mirrors.loadChannels (h : Mirrors s₀ t₀ s t)
    (hserver : AnswerAlike s₀ t₀ server server') :
    Mirrors s₀ t₀ (s.loadChannels server) (t.loadChannels server') := by
  have hask := h.askBoth hserver .ownedChannels .joinedChannels
  unfold Station.loadChannels
  rw [h.userName]
  generalize s.client.userName = me
  generalize s.askBoth server _ _ = answer at hask ⊢
  generalize t.askBoth server' _ _ = answer' at hask ⊢
  obtain ⟨u, v, hasked, owned, joined⟩ := hask
  dsimp only
  split
  · rename_i owned joined _ _
    have hmerged := hasked.shows (fun c => { c with
      directory := c.directory.merge (ownedOf owned me) (joinedOf joined) }) fun _ _ _ _ => rfl
    rw [hmerged.activeId]
    split
    · exact hmerged.select hserver _
    · exact hmerged.followRow
  · exact hasked.shows _ fun _ _ _ _ => rfl

theorem Mirrors.createChannel (h : Mirrors s₀ t₀ s t)
    (hserver : AnswerAlike s₀ t₀ server server') :
    Mirrors s₀ t₀ (s.createChannel server) (t.createChannel server') := by
  have hname : t.client.newChannelName = s.client.newChannelName :=
    h.part Client.newChannelName fun _ _ _ _ _ => rfl
  unfold Station.createChannel
  rw [hname, h.userName]
  split
  · exact h.shows _ fun _ _ _ _ => rfl
  · rename_i name _
    generalize s.client.userName = me
    have hclear := h.shows Client.clearBanners fun _ _ _ _ => rfl
    have hask := hclear.ask hserver (.createChannel name)
    generalize Station.ask server _ _ = answer at hask ⊢
    generalize Station.ask server' _ _ = answer' at hask ⊢
    obtain ⟨u, v, hasked, reply⟩ := hask
    dsimp only
    split
    · exact hasked.shows _ fun _ _ _ _ => rfl
    · refine Mirrors.shows (Mirrors.seed (Mirrors.select (Mirrors.shows hasked _ ?_) hserver _) _) _ ?_
      · exact fun _ _ _ _ => rfl
      · exact fun _ _ _ _ => rfl

theorem Mirrors.joinChannel (h : Mirrors s₀ t₀ s t)
    (hserver : AnswerAlike s₀ t₀ server server') :
    Mirrors s₀ t₀ (s.joinChannel server) (t.joinChannel server') := by
  have hquery : t.client.searchQuery = s.client.searchQuery :=
    h.part Client.searchQuery fun _ _ _ _ _ => rfl
  unfold Station.joinChannel
  rw [hquery]
  split
  · exact h.shows _ fun _ _ _ _ => rfl
  · rename_i search _
    have hclear := h.shows Client.clearBanners fun _ _ _ _ => rfl
    have hfind := hclear.ask hserver (.searchChannel search.query)
    generalize Station.ask server _ _ = found at hfind ⊢
    generalize Station.ask server' _ _ = found' at hfind ⊢
    obtain ⟨u, v, hasked, reply⟩ := hfind
    dsimp only
    split
    · exact hasked.shows _ fun _ _ _ _ => rfl
    · rename_i record _
      generalize record.toChannel (some search.owner) = channel
      have hjoin := hasked.ask hserver (.joinChannel channel.id)
      generalize u.ask server _ = answer at hjoin ⊢
      generalize v.ask server' _ = answer' at hjoin ⊢
      obtain ⟨u, v, hjoined, answer⟩ := hjoin
      dsimp only
      split
      · exact hjoined.shows _ fun _ _ _ _ => rfl
      · have hlisted := hjoined.shows
          (fun c => { c with directory := c.directory.insertNew channel }) fun _ _ _ _ => rfl
        have hselect := (hlisted.client.select (some channel.id)).andFetch channel.id
        refine Mirrors.shows (Mirrors.performs hlisted hserver ?_) _ fun _ _ _ _ => rfl
        exact hselect

theorem Mirrors.deleteChannel (h : Mirrors s₀ t₀ s t)
    (hserver : AnswerAlike s₀ t₀ server server') (id : Nat) :
    Mirrors s₀ t₀ (s.deleteChannel server id) (t.deleteChannel server' id) := by
  have hclear := h.shows Client.clearBanners fun _ _ _ _ => rfl
  unfold Station.deleteChannel
  dsimp only
  rw [hclear.directory, hclear.userName]
  split
  · exact hclear.shows _ fun _ _ _ _ => rfl
  · have hask := hclear.ask hserver (.deleteChannel id)
    generalize Station.ask server _ _ = answer at hask ⊢
    generalize Station.ask server' _ _ = answer' at hask ⊢
    obtain ⟨u, v, hasked, reply⟩ := hask
    dsimp only
    split
    · exact hasked.shows _ fun _ _ _ _ => rfl
    · have herased := hasked.shows
        (fun c => { c with directory := c.directory.erase id }) fun _ _ _ _ => rfl
      rw [herased.activeId, herased.directory]
      split
      · exact (herased.select hserver _).shows _ fun _ _ _ _ => rfl
      · exact herased.followRow.shows _ fun _ _ _ _ => rfl

/-! ## Turns -/

theorem Mirrors.enterChat (h : Mirrors s₀ t₀ s t) (hserver : AnswerAlike s₀ t₀ server server')
    (who : Identity) : Mirrors s₀ t₀ (s.enterChat server who) (t.enterChat server' who) :=
  (h.onClient (h.client.enterChat who)).loadChannels hserver

theorem Mirrors.submit (h : Mirrors s₀ t₀ s t) (hserver : AnswerAlike s₀ t₀ server server') :
    Mirrors s₀ t₀ (s.submit server) (t.submit server') := by
  unfold Station.submit
  rw [h.form]
  split
  · exact h.register hserver
  · have hsign := h.signIn hserver
    generalize s.signIn server = answer at hsign ⊢
    generalize t.signIn server' = answer' at hsign ⊢
    obtain ⟨u, v, hsigned, who⟩ := hsign
    cases who with
    | none => exact hsigned
    | some who => exact hsigned.remember.enterChat hserver who

theorem Mirrors.onLink (h : Mirrors s₀ t₀ s t) (hserver : AnswerAlike s₀ t₀ server server')
    {e e' : Link.Event} (he : e.Matches s₀.client.session.lastGeneration
      t₀.client.session.lastGeneration e') :
    Mirrors s₀ t₀ (s.onLink server e) (t.onLink server' e') :=
  h.performs hserver (h.client.link he)

theorem Mirrors.sendDraft (h : Mirrors s₀ t₀ s t)
    (hserver : AnswerAlike s₀ t₀ server server') :
    Mirrors s₀ t₀ (s.sendDraft server) (t.sendDraft server') :=
  h.performs hserver h.client.sendDraft

end Station

end ChatTerminal
