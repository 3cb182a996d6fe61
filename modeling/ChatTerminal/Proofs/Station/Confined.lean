import ChatTerminal.Proofs.Station.Coherence
/-!
# What a flow may do

A flow is confined by the calls it may make of the server and by a part of the client that it
keeps.  Each flow is gone through once, here; which requests it makes and what it leaves alone are
read off from that.
-/

namespace ChatTerminal

namespace Client

def surface (c : Client) : Page × Option Profile := (c.page, c.profile)

/-- What the flows around the channels leave alone: the page, the user, the form to sign in and the
overlay. -/
def account (c : Client) : Page × Option Identity × SignIn × Option Profile :=
  (c.page, c.identity, c.signIn, c.profile)

theorem surface_eq_of_account {c d : Client} (h : d.account = c.account) :
    d.surface = c.surface := by
  simp only [account, Prod.mk.injEq] at h
  obtain ⟨hpage, -, -, hprofile⟩ := h
  rw [surface, surface, hpage, hprofile]

end Client

def Call.Plain : Call → Prop
  | .updateMe _ | .deleteMe => False
  | _ => True

theorem Call.Plain.ne_deleteMe {c : Call} (h : c.Plain) : c ≠ .deleteMe := by
  rintro rfl
  exact h

namespace Station

variable {server : Server} {may : Call → Prop} {α β : Type} {part : Client → α} {s t u : Station}

inductive ConfinedMoment (server : Server) (may : Call → Prop) (part : Client → α) (s : Station) :
    Station → Prop where
  | asks (c : Call) (h : may c) : ConfinedMoment server may part s (s.ask server c).1
  | asksBoth (a b : Call) (ha : may a) (hb : may b) :
      ConfinedMoment server may part s (s.askBoth server a b).1
  | shows (change : Client → Client) (h : part (change s.client) = part s.client) :
      ConfinedMoment server may part s (s.onClient change)
  | calls (c : LinkCall) : ConfinedMoment server may part s (s.call c)
  | remembers : ConfinedMoment server may part s s.remember
  | forgets : ConfinedMoment server may part s s.forget

/-- Some moments, one after another, within the bounds of a flow. -/
abbrev Confined (server : Server) (may : Call → Prop) (part : Client → α) :
    Station → Station → Prop :=
  Relation.ReflTransGen (ConfinedMoment server may part)

theorem Confined.weaken {part' : Client → β} (h : Confined server may part s t)
    (hpart : ∀ c d, part d = part c → part' d = part' c) : Confined server may part' s t := by
  refine Relation.ReflTransGen.mono (fun v w hmoment => ?_) s t h
  cases hmoment with
  | asks c hc => exact .asks c hc
  | asksBoth a b ha hb => exact .asksBoth a b ha hb
  | shows change hkept => exact .shows change (hpart _ _ hkept)
  | calls c => exact .calls c
  | remembers => exact .remembers
  | forgets => exact .forgets

theorem client_remember (s : Station) : s.remember.client = s.client := by
  unfold remember
  split <;> rfl

theorem Confined.kept (h : Confined server may part s t) : part t.client = part s.client := by
  induction h with
  | refl => rfl
  | tail _ hmoment ih =>
      rw [← ih]
      cases hmoment with
      | asks c _ => rw [client_ask]
      | asksBoth a b _ _ => rw [client_askBoth]
      | shows change hkept => exact hkept
      | calls c => rfl
      | remembers => rw [client_remember]
      | forgets => rfl

/-! ## Moments of a flow -/

theorem Confined.asks (h : Confined server may part s t) {c : Call} (hc : may c) :
    Confined server may part s (t.ask server c).1 :=
  h.tail (.asks c hc)

theorem Confined.shows (h : Confined server may part s t) (change : Client → Client)
    (hkept : part (change t.client) = part t.client) :
    Confined server may part s (t.onClient change) :=
  h.tail (.shows change hkept)

theorem Confined.onSignIn (h : Confined server may part s t) (change : SignIn → SignIn)
    (hkept : part (t.client.onSignIn change) = part t.client) :
    Confined server may part s (t.onSignIn change) :=
  h.shows _ hkept

theorem Confined.onProfile (h : Confined server may part s t) (change : Profile → Profile)
    (hkept : part (t.client.onProfile change) = part t.client) :
    Confined server may part s (t.onProfile change) :=
  h.shows _ hkept

theorem Confined.remembers (h : Confined server may part s t) :
    Confined server may part s t.remember :=
  h.tail .remembers

theorem Confined.forgets (h : Confined server may part s t) :
    Confined server may part s t.forget :=
  h.tail .forgets

/-! ## Effects -/

theorem Confined.carriesOut (h : Confined server may Client.account s t) (e : Effect)
    (hmembers : ∀ channel, e = .fetchMembers channel → may (.members channel)) :
    Confined server may Client.account s (t.carryOut server e) := by
  cases e with
  | connect g channel => exact h.tail (.calls _)
  | disconnect g => exact h.tail (.calls _)
  | send g content => exact h.tail (.calls _)
  | notify text => exact h.shows (fun c => c.showError text) rfl
  | fetchMembers channel =>
      have hask := h.asks (hmembers channel rfl)
      rw [show t.carryOut server (.fetchMembers channel) = t.fetchMembers server channel from rfl]
      unfold fetchMembers
      generalize t.ask server (.members channel) = answer at hask ⊢
      obtain ⟨u, reply⟩ := answer
      dsimp only at hask ⊢
      rw [fst_feed]
      exact hask.shows _ rfl

theorem Confined.carriesOutAll (h : Confined server may Client.account s t)
    {effects : List Effect}
    (hmembers : ∀ channel, .fetchMembers channel ∈ effects → may (.members channel)) :
    Confined server may Client.account s (t.carryOutAll server effects) := by
  induction effects generalizing t with
  | nil => exact h
  | cons e effects ih =>
      have hfirst := h.carriesOut e fun channel he => hmembers channel (he ▸ List.mem_cons_self)
      exact ih hfirst fun channel he => hmembers channel (List.mem_cons_of_mem e he)

theorem Confined.performs (h : Confined server may Client.account s t)
    {change : Client → Client × List Effect}
    (hkept : (change t.client).1.account = t.client.account)
    (hmembers : ∀ channel, .fetchMembers channel ∈ (change t.client).2 → may (.members channel)) :
    Confined server may Client.account s (t.perform server change) :=
  (h.shows (fun c => (change c).1) hkept).carriesOutAll hmembers

theorem Confined.selects (h : Confined server may Client.account s t) (channel : Option Nat) :
    Confined server may Client.account s (t.select server channel) :=
  h.performs rfl fun id he =>
    absurd he (fetches_of_calls (select_calls t.client.session channel) id)

/-! ## The flows around the user -/

theorem signIn_confined (server : Server) (s : Station) (hlogin : ∀ fields, may (.login fields)) :
    Confined server may Client.surface s (s.signIn server).1 := by
  have hask : Confined server may Client.surface s
      (s.ask server (.login s.client.signIn.loginRequest)).1 := .single (.asks _ (hlogin _))
  rw [signIn_eq]
  generalize s.ask server (.login s.client.signIn.loginRequest) = answer at hask ⊢
  obtain ⟨t, reply⟩ := answer
  dsimp only at hask ⊢
  split
  · exact hask.onSignIn _ rfl
  · split
    · exact hask.onSignIn _ rfl
    · exact hask.onSignIn _ rfl

theorem register_confined (server : Server) (s : Station)
    (hregister : ∀ account, may (.register account)) :
    Confined server may Client.surface s (s.register server) := by
  rw [register_eq]
  split
  · exact Confined.onSignIn .refl _ rfl
  · rename_i account _
    have hask : Confined server may Client.surface s (s.ask server (.register account)).1 :=
      .single (.asks _ (hregister account))
    generalize s.ask server (.register account) = answer at hask ⊢
    obtain ⟨t, reply⟩ := answer
    dsimp only at hask ⊢
    split
    · exact hask.onSignIn _ rfl
    · exact hask.onSignIn _ rfl

theorem openProfile_confined (server : Server) (s : Station) (hme : may .me) :
    Confined server may Client.page s (s.openProfile server) := by
  have hask : Confined server may Client.page s (s.ask server .me).1 := .single (.asks _ hme)
  rw [openProfile_eq]
  generalize s.ask server .me = answer at hask ⊢
  obtain ⟨t, reply⟩ := answer
  dsimp only at hask ⊢
  split
  · exact hask.shows _ rfl
  · exact hask.shows _ rfl

theorem saveProfile_confined (server : Server) (s : Station)
    (hupdate : ∀ p update, s.client.profile = some p → p.update = .ok update →
      may (.updateMe update)) :
    Confined server may Client.page s (s.saveProfile server).1 := by
  cases hopen : s.client.profile with
  | none =>
      rw [saveProfile_of_none server hopen]
  | some p =>
      rw [saveProfile_eq server hopen]
      split
      · exact Confined.onProfile .refl _ rfl
      · rename_i update hsent
        have hask : Confined server may Client.page s (s.ask server (.updateMe update)).1 :=
          .single (.asks _ (hupdate p update hopen hsent))
        generalize s.ask server (.updateMe update) = answer at hask ⊢
        obtain ⟨t, reply⟩ := answer
        dsimp only at hask ⊢
        split <;> dsimp only
        · exact hask.shows _ rfl
        · exact hask.onProfile _ rfl

theorem saveAndRemember_confined (server : Server) (s : Station)
    (hupdate : ∀ p update, s.client.profile = some p → p.update = .ok update →
      may (.updateMe update)) :
    Confined server may Client.page s (s.saveAndRemember server) := by
  have hsave := saveProfile_confined server s hupdate
  unfold saveAndRemember
  generalize s.saveProfile server = answer at hsave ⊢
  obtain ⟨t, saved⟩ := answer
  cases saved with
  | true => exact Confined.remembers hsave
  | false => exact hsave

/-- Letting go of the channel on display does not touch the page that signing out opens. -/
theorem release_confined (server : Server) (s : Station) :
    Confined server may Client.account (s.onClient fun c => c.signOut.1)
      (s.perform server Client.signOut) :=
  Confined.carriesOutAll .refl fun id he =>
    absurd he (fetches_of_calls (reset_calls s.client.session) id)

theorem signOut_confined (server : Server) (s : Station) (hlogout : may .logout) :
    Confined server may (fun _ => ()) s (s.signOut server) := by
  have hask : Confined server may (fun _ => ()) s (s.ask server .logout).1 :=
    .single (.asks _ hlogout)
  unfold signOut
  generalize s.ask server .logout = answer at hask ⊢
  obtain ⟨t, reply⟩ := answer
  dsimp only at hask ⊢
  have hout := hask.shows (fun c => c.signOut.1) rfl
  exact hout.trans ((release_confined server t).weaken fun _ _ _ => rfl)

/-- Only an overlay that is armed lets the account be deleted. -/
theorem deleteAccount_confined (server : Server) (s : Station)
    (hdelete : ∀ p, s.client.profile = some p → p.armed = true → may .deleteMe)
    (hlogout : may .logout) :
    Confined server may (fun _ => ()) s (s.deleteAccount server).1 := by
  cases hopen : s.client.profile with
  | none =>
      rw [deleteAccount_of_none server hopen]
  | some p =>
      rw [deleteAccount_eq server hopen]
      split
      · rename_i harmed
        have hask : Confined server may (fun _ => ()) s (s.ask server .deleteMe).1 :=
          .single (.asks _ (hdelete p hopen harmed))
        generalize s.ask server .deleteMe = answer at hask ⊢
        obtain ⟨t, reply⟩ := answer
        dsimp only at hask ⊢
        split <;> dsimp only
        · exact (hask.onProfile _ rfl).trans (signOut_confined server _ hlogout)
        · exact hask.onProfile _ rfl
      · exact Confined.onProfile .refl _ rfl

/-! ## The flows around the channels -/

theorem loadChannels_confined (server : Server) (s : Station) (howned : may .ownedChannels)
    (hjoined : may .joinedChannels) :
    Confined server may Client.account s (s.loadChannels server) := by
  have hask : Confined server may Client.account s
      (s.askBoth server .ownedChannels .joinedChannels).1 :=
    .single (.asksBoth _ _ howned hjoined)
  unfold loadChannels
  generalize s.askBoth server .ownedChannels .joinedChannels = answer at hask ⊢
  obtain ⟨t, owned, joined⟩ := answer
  dsimp only at hask ⊢
  split
  · rename_i owned joined _ _
    have hmerged := hask.shows (fun c => { c with
      directory := c.directory.merge (ownedOf owned s.client.userName) (joinedOf joined) }) rfl
    split
    · exact hmerged.selects _
    · exact hmerged.shows _ rfl
  · exact hask.shows _ rfl

theorem createChannel_confined (server : Server) (s : Station)
    (hcreate : ∀ name, may (.createChannel name)) :
    Confined server may Client.account s (s.createChannel server) := by
  unfold createChannel
  split
  · exact .single (.shows _ rfl)
  · rename_i name _
    have hclear : Confined server may Client.account s (s.onClient Client.clearBanners) :=
      .single (.shows _ rfl)
    have hask := hclear.asks (hcreate name)
    generalize ask server (s.onClient Client.clearBanners) (.createChannel name) = answer
      at hask ⊢
    obtain ⟨t, reply⟩ := answer
    dsimp only at hask ⊢
    split
    · exact hask.shows _ rfl
    · rw [fst_feed]
      exact (((hask.shows _ rfl).selects _).shows _ rfl).shows _ rfl

theorem joinChannel_confined (server : Server) (s : Station)
    (hsearch : ∀ query, may (.searchChannel query)) (hjoin : ∀ id, may (.joinChannel id))
    (hmembers : ∀ id, may (.members id)) :
    Confined server may Client.account s (s.joinChannel server) := by
  unfold joinChannel
  split
  · exact .single (.shows _ rfl)
  · rename_i search _
    have hclear : Confined server may Client.account s (s.onClient Client.clearBanners) :=
      .single (.shows _ rfl)
    have hfind := hclear.asks (hsearch search.query)
    generalize ask server (s.onClient Client.clearBanners) (.searchChannel search.query) = found
      at hfind ⊢
    obtain ⟨t, reply⟩ := found
    dsimp only at hfind ⊢
    split
    · exact hfind.shows _ rfl
    · rename_i record _
      generalize record.toChannel (some search.owner) = channel
      have hjoined := hfind.asks (hjoin channel.id)
      generalize ask server t (.joinChannel channel.id) = answer at hjoined ⊢
      obtain ⟨u, reply'⟩ := answer
      dsimp only at hjoined ⊢
      split
      · exact hjoined.shows _ rfl
      · exact ((hjoined.shows _ rfl).performs rfl fun id _ => hmembers id).shows _ rfl

theorem deleteChannel_confined (server : Server) (s : Station) (id : Nat)
    (hdelete : may (.deleteChannel id)) :
    Confined server may Client.account s (s.deleteChannel server id) := by
  have hclear : Confined server may Client.account s (s.onClient Client.clearBanners) :=
    .single (.shows _ rfl)
  unfold deleteChannel
  dsimp only
  split
  · exact hclear.shows _ rfl
  · have hask := hclear.asks hdelete
    generalize ask server (s.onClient Client.clearBanners) (.deleteChannel id) = answer at hask ⊢
    obtain ⟨t, reply⟩ := answer
    dsimp only at hask ⊢
    split
    · exact hask.shows _ rfl
    · have herase := hask.shows (fun c => { c with directory := c.directory.erase id }) rfl
      split
      · exact (herase.selects _).shows _ rfl
      · exact (herase.shows _ rfl).shows _ rfl

theorem openNewest_confined (server : Server) (s : Station) :
    Confined server may Client.account s (s.perform server Client.openNewest) := by
  refine Confined.performs .refl ?_ fun id he =>
    absurd he (fetches_of_calls (openNewest_calls s.client) id)
  unfold Client.openNewest
  split <;> rfl

theorem openUnderCursor_confined (server : Server) (s : Station) :
    Confined server may Client.account s
      ((s.onClient Client.clearBanners).perform server Client.openUnderCursor) :=
  Confined.selects (.single (.shows Client.clearBanners rfl)) _

theorem sendDraft_confined (server : Server) (s : Station) :
    Confined server may Client.account s (s.sendDraft server) := by
  refine Confined.performs .refl ?_ fun id he =>
    absurd he (fetches_of_calls (sendDraft_calls s.client) id)
  unfold Client.sendDraft
  dsimp only
  split <;> rfl

theorem onLink_confined (server : Server) (s : Station) (e : Link.Event)
    (hmembers : ∀ id, may (.members id)) :
    Confined server may Client.account s (s.onLink server e) :=
  Confined.performs .refl rfl fun id _ => hmembers id

/-! ## Turns -/

theorem enterChat_confined (server : Server) (s : Station) (who : Identity)
    (howned : may .ownedChannels) (hjoined : may .joinedChannels) :
    Confined server may (fun _ => ()) s (s.enterChat server who) := by
  have hentered : Confined server may (fun _ => ()) s (s.onClient (·.enterChat who)) :=
    .single (.shows _ rfl)
  have hloaded := loadChannels_confined server (s.onClient (·.enterChat who)) howned hjoined
  exact hentered.trans (hloaded.weaken fun _ _ _ => rfl)

theorem submit_confined (server : Server) (s : Station) (hmay : ∀ c : Call, c.Plain → may c) :
    Confined server may (fun _ => ()) s (s.submit server) := by
  unfold submit
  split
  · exact (register_confined server s fun _ => hmay _ trivial).weaken fun _ _ _ => rfl
  · have hsign : Confined server may Client.surface s (s.signIn server).1 :=
        signIn_confined server s fun _ => hmay _ trivial
    generalize s.signIn server = answer at hsign ⊢
    obtain ⟨t, who⟩ := answer
    have hsigned : Confined server may (fun _ => ()) s t := hsign.weaken fun _ _ _ => rfl
    cases who with
    | none => exact hsigned
    | some who =>
        exact hsigned.remembers.trans
          (enterChat_confined server _ who (hmay _ trivial) (hmay _ trivial))

/-- Whatever a turn comes to, it asks for a change of the account only where the overlay is open,
and for its deletion only where the overlay is armed. -/
theorem Deed.confined (h : Deed server s t) (hmay : ∀ c : Call, c.Plain → may c)
    (hupdate : s.client.profile ≠ none → ∀ update, may (.updateMe update))
    (hdelete : ∀ p, s.client.profile = some p → p.armed = true → may .deleteMe) :
    Confined server may (fun _ => ()) s t := by
  have hflow : ∀ {u}, Confined server may Client.account s u →
      Confined server may (fun _ => ()) s u := fun hu => hu.weaken fun _ _ _ => rfl
  cases h with
  | rest => exact .refl
  | link e => exact hflow (onLink_confined server s e fun _ => hmay _ trivial)
  | fill _ _ => exact Confined.onSignIn .refl _ rfl
  | submit _ => exact submit_confined server s hmay
  | fillOverlay _ _ => exact Confined.onProfile .refl _ rfl
  | closeOverlay => exact .single (.shows _ rfl)
  | save =>
      have hcancel : Confined server may (fun _ => ()) s (s.onProfile Profile.cancelDelete) :=
        Confined.onProfile .refl _ rfl
      have hsave : Confined server may Client.page (s.onProfile Profile.cancelDelete)
          ((s.onProfile Profile.cancelDelete).saveAndRemember server) :=
        saveAndRemember_confined server _ fun _ update hopen _ => hupdate (fun hclosed =>
          nomatch hopen.symm.trans (congrArg (Option.map Profile.cancelDelete) hclosed)) update
      exact hcancel.trans (hsave.weaken fun _ _ _ => rfl)
  | signOut _ => exact Confined.forgets (signOut_confined server s (hmay _ trivial))
  | undeleted _ => exact deleteAccount_confined server s hdelete (hmay _ trivial)
  | deleted _ => exact Confined.forgets (deleteAccount_confined server s hdelete (hmay _ trivial))
  | closePrompt => exact .single (.shows _ rfl)
  | createChannel _ => exact hflow (createChannel_confined server s fun _ => hmay _ trivial)
  | joinChannel _ =>
      exact hflow (joinChannel_confined server s (fun _ => hmay _ trivial) (fun _ => hmay _ trivial)
        fun _ => hmay _ trivial)
  | browse _ _ => exact .single (.shows _ rfl)
  | ask _ _ prompt => exact .single (.shows _ rfl)
  | openProfile _ _ =>
      exact (openProfile_confined server s (hmay _ trivial)).weaken fun _ _ _ => rfl
  | home _ => exact hflow (Confined.selects .refl _)
  | newest _ => exact hflow (openNewest_confined server s)
  | load _ => exact hflow (loadChannels_confined server s (hmay _ trivial) (hmay _ trivial))
  | openUnderCursor _ => exact hflow (openUnderCursor_confined server s)
  | delete _ id => exact hflow (deleteChannel_confined server s id (hmay _ trivial))
  | send => exact hflow (sendDraft_confined server s)

/-- Opening the first page leaves the account as it is. -/
theorem start_confined (server : Server) (bypass : Bool) (s : Station)
    (hmay : ∀ c : Call, c.Plain → may c) :
    Confined server may (fun _ => ()) s (s.start server bypass).2 := by
  have hloading : Confined server may (fun _ => ()) s (s.showLoading checking) :=
    .single (.shows _ rfl)
  have hresolve : Confined server may (fun _ => ()) s
      ((s.showLoading checking).resolveIdentity server bypass).1 := by
    unfold resolveIdentity
    split
    · exact hloading
    · have hask := hloading.asks (hmay .me trivial)
      generalize (s.showLoading checking).ask server .me = answer at hask ⊢
      exact hask
  unfold start
  dsimp only
  generalize (s.showLoading checking).resolveIdentity server bypass = answer at hresolve ⊢
  obtain ⟨t, who⟩ := answer
  dsimp only at hresolve ⊢
  cases who with
  | none => exact hresolve.shows _ rfl
  | some who =>
      have hshown := hresolve.shows (fun c => { c with page := .loading loadingChannels }) rfl
      dsimp only
      exact hshown.trans (enterChat_confined server _ who (hmay _ trivial) (hmay _ trivial))

/-! ## Requests -/

end Station

def Call.Sends (base : String) (c : Call) (r : Request) : Prop :=
  ∃ (a : Agent) (now : Int) (u : Web.Url),
    a.base = base ∧ a.urlOf? c = some u ∧ r = a.requestTo now c u

namespace Station

/-- Between two stations below a base only calls that may be made are made. -/
structure Asks (may : Call → Prop) (base : String) (s t : Station) : Prop where
  below : t.agent.base = base
  requests : ∃ asked, t.requests = s.requests ++ asked ∧
    ∀ r ∈ asked, ∃ c, may c ∧ c.Sends base r

variable {base : String}

theorem Asks.of_eq (hbase : t.agent.base = base) (h : t.requests = s.requests) :
    Asks may base s t :=
  ⟨hbase, [], by rw [h, List.append_nil], nofun⟩

theorem Asks.trans (hst : Asks may base s t) (htu : Asks may base t u) : Asks may base s u := by
  obtain ⟨first, hfirst, hsent⟩ := hst.requests
  obtain ⟨more, hmore, hsent'⟩ := htu.requests
  refine ⟨htu.below, first ++ more, by rw [hmore, hfirst, List.append_assoc], fun r hr => ?_⟩
  rcases List.mem_append.mp hr with hr | hr
  · exact hsent r hr
  · exact hsent' r hr

theorem Asks.exchange (server : Server) {held : Agent} {c : Call} {a : Web.Url}
    (hbase : s.agent.base = base) (hheld : held.base = base) (hc : may c)
    (ha : held.urlOf? c = some a) :
    Asks may base s (s.exchange server a (held.requestTo s.now c a)).1 := by
  refine ⟨(Agent.base_receive _ _ _ _).trans hbase, [held.requestTo s.now c a], rfl, ?_⟩
  intro r hr
  obtain rfl := List.mem_singleton.mp hr
  exact ⟨c, hc, held, s.now, a, hheld, ha, rfl⟩

theorem asks_ask (server : Server) {c : Call} (hbase : s.agent.base = base) (hc : may c) :
    Asks may base s (s.ask server c).1 := by
  unfold ask
  split
  · rename_i a ha
    exact .exchange server hbase hbase hc ha
  · exact .of_eq hbase rfl

theorem asks_askBoth (server : Server) {a b : Call} (hbase : s.agent.base = base) (ha : may a)
    (hb : may b) : Asks may base s (s.askBoth server a b).1 := by
  have hask := asks_ask server hbase ha
  unfold askBoth
  generalize s.ask server a = answer at hask ⊢
  obtain ⟨t, first⟩ := answer
  dsimp only at hask ⊢
  split
  · rename_i address haddress
    exact hask.trans (.exchange server hask.below hbase hb haddress)
  · exact hask

theorem Confined.asked (h : Confined server may part s t) (hbase : s.agent.base = base) :
    Asks may base s t := by
  induction h with
  | refl => exact .of_eq hbase rfl
  | tail _ hmoment ih =>
      refine ih.trans ?_
      cases hmoment with
      | asks c hc => exact asks_ask server ih.below hc
      | asksBoth a b ha hb => exact asks_askBoth server ih.below ha hb
      | shows change _ => exact .of_eq ih.below rfl
      | calls c => exact .of_eq ih.below rfl
      | remembers =>
          unfold remember
          split
          · exact .of_eq ih.below rfl
          · exact .of_eq ih.below rfl
      | forgets => exact .of_eq ih.below rfl

end Station

end ChatTerminal
