import ChatTerminal.Proofs.Client.Holdings
import ChatTerminal.Proofs.Station.Confined
import ChatTerminal.Proofs.Station.Upkeep
/-!
# What a turn makes of the sidebar

The sidebar hangs on the user, the directory, the channel on display and the cursor.  The requests
and the effects of a flow leave all of them alone, so a flow comes to one change of the sidebar:
nothing at all if it fails, and else the cursor goes to the row of the channel on display in a
directory that has lost nothing but a channel whose deletion the server took.  The flows are gone
through once, here.
-/

namespace ChatTerminal

structure Sidebar where
  page : Page
  user : Option Identity
  directory : Directory
  active : Option Nat
  cursor : Nat

def Sidebar.display (b : Sidebar) (d : Directory) (channel : Option Nat) : Sidebar :=
  { b with directory := d, active := channel, cursor := Client.rowOf d channel }

def Sidebar.rename (b : Sidebar) (old : String) (who : Identity) : Sidebar :=
  { b with user := some who, directory := b.directory.renameOwner old who.displayName }

def Client.sidebar (c : Client) : Sidebar :=
  ⟨c.page, c.identity, c.directory, c.session.active, c.cursor⟩

theorem Client.sidebar_eq_of_bare {c d : Client} (h : d.bare = c.bare) : d.sidebar = c.sidebar := by
  have hsidebar : d.bare.sidebar = c.bare.sidebar := by rw [h]
  exact hsidebar

theorem Client.sidebar_select (c : Client) (channel : Option Nat) :
    (c.select channel).1.sidebar = c.sidebar.display c.directory channel := by
  have hactive : (c.session.select channel).1.active = channel := Session.active_select _ _
  simp only [select, sidebar, Session.apply, Sidebar.display, hactive]

theorem Client.sidebar_admitted (c : Client) (channel : Channel) (members : List Member)
    (text : String) : (c.admitted channel members text).sidebar =
      c.sidebar.display (c.directory.insertNew channel) (some channel.id) :=
  sidebar_select { c with directory := c.directory.insertNew channel } (some channel.id)

theorem Client.sidebar_signOut (c : Client) :
    c.signOut.1.sidebar = ⟨.signIn, none, .empty, none, c.cursor⟩ := by
  have hactive : c.session.reset.1.active = none := Station.active_reset _
  simp only [signOut, showSignIn, sidebar, hactive]

namespace Station

variable {server : Server} {s t : Station} {id : Nat}

theorem directory_of_sidebar {b : Sidebar} (h : t.client.sidebar = b) :
    t.client.directory = b.directory := congrArg Sidebar.directory h

/-! ## Effects -/

theorem sidebar_carryOut (server : Server) (s : Station) (e : Effect) :
    (s.carryOut server e).client.sidebar = s.client.sidebar := by
  cases e with
  | connect g channel => rfl
  | disconnect g => rfl
  | send g content => rfl
  | notify text => rfl
  | fetchMembers channel =>
      have hclient := client_ask server s (.members channel)
      rw [show s.carryOut server (.fetchMembers channel) = s.fetchMembers server channel from rfl]
      unfold fetchMembers
      generalize s.ask server (.members channel) = answer at hclient ⊢
      obtain ⟨t, reply⟩ := answer
      dsimp only at hclient ⊢
      rw [← hclient, fst_feed, onClient]
      unfold Client.feed Session.apply
      dsimp only
      split <;> rfl

theorem sidebar_carryOutAll (server : Server) (s : Station) (effects : List Effect) :
    (s.carryOutAll server effects).client.sidebar = s.client.sidebar := by
  induction effects generalizing s with
  | nil => rfl
  | cons e effects ih => exact (ih (s.carryOut server e)).trans (sidebar_carryOut server s e)

theorem sidebar_perform (server : Server) (s : Station) (change : Client → Client × List Effect) :
    (s.perform server change).client.sidebar = (change s.client).1.sidebar :=
  sidebar_carryOutAll server _ _

theorem sidebar_select (server : Server) (s : Station) (channel : Option Nat) :
    (s.select server channel).client.sidebar =
      s.client.sidebar.display s.client.directory channel :=
  (sidebar_perform server s _).trans (s.client.sidebar_select channel)

theorem sidebar_onLink (server : Server) (s : Station) (e : Link.Event) :
    (s.onLink server e).client.sidebar = s.client.sidebar := by
  have hactive : (s.client.session.onEvent e).1.active = s.client.session.active :=
    (s.client.session.onEvent_keeps e).1
  refine (sidebar_perform server s _).trans ?_
  simp only [Client.feed, Session.apply, Client.sidebar, hactive]

theorem sidebar_sendDraft (server : Server) (s : Station) :
    (s.sendDraft server).client.sidebar = s.client.sidebar := by
  refine (sidebar_perform server s _).trans ?_
  unfold Client.sendDraft
  dsimp only
  split <;> rfl

/-! ## The flows around the user -/

theorem sidebar_signIn (server : Server) (s : Station) :
    (s.signIn server).1.client.sidebar = s.client.sidebar := by
  have hclient := client_ask server s (.login s.client.signIn.loginRequest)
  rw [signIn_eq]
  generalize s.ask server (.login s.client.signIn.loginRequest) = answer at hclient ⊢
  obtain ⟨t, reply⟩ := answer
  dsimp only at hclient ⊢
  rw [← hclient]
  split
  · rfl
  · split <;> rfl

theorem sidebar_register (server : Server) (s : Station) :
    (s.register server).client.sidebar = s.client.sidebar := by
  rw [register_eq]
  split
  · rfl
  · rename_i account _
    have hclient := client_ask server s (.register account)
    generalize s.ask server (.register account) = answer at hclient ⊢
    obtain ⟨t, reply⟩ := answer
    dsimp only at hclient ⊢
    rw [← hclient]
    split <;> rfl

theorem sidebar_openProfile (server : Server) (s : Station) :
    (s.openProfile server).client.sidebar = s.client.sidebar := by
  have hclient := client_ask server s .me
  rw [openProfile_eq]
  generalize s.ask server .me = answer at hclient ⊢
  obtain ⟨t, reply⟩ := answer
  dsimp only at hclient ⊢
  rw [← hclient]
  split <;> rfl

theorem sidebar_signOut (server : Server) (s : Station) :
    (s.signOut server).client.sidebar = ⟨.signIn, none, .empty, none, s.client.cursor⟩ := by
  unfold signOut
  rw [sidebar_perform, client_ask]
  exact s.client.sidebar_signOut

/-! ## The flows around the channels -/

theorem sidebar_follow_of_nothing {f : Flow} (h : f.TurnedDown s.client ∨ f.Fails server s) :
    (s.follow server f).client.sidebar = s.client.sidebar := by
  rcases h with hdown | hfails
  · obtain ⟨change, hbare, hchange⟩ := follow_of_turnedDown server hdown
    rw [hchange]
    exact Client.sidebar_eq_of_bare (hbare s.client)
  · exact Client.sidebar_eq_of_bare (follow_of_fails hfails).client

/-- The sidebar of `t` is that of `s` with the cursor on the row of the channel on display, in a
directory that has lost nothing. -/
def Arrives (s t : Station) : Prop :=
  ∃ d channel, s.client.directory.Grows d ∧
    t.client.sidebar = s.client.sidebar.display d channel

theorem arrives_select (server : Server) (s : Station) (channel : Option Nat) :
    Arrives s (s.select server channel) :=
  ⟨s.client.directory, channel, .refl _, sidebar_select server s channel⟩

theorem arrives_openNewest (server : Server) (h : s.client.directory.channels ≠ []) :
    Arrives s (s.perform server Client.openNewest) := by
  obtain ⟨id, -, hopened⟩ := Client.exists_openNewest h
  refine ⟨s.client.directory, some id, .refl _, ?_⟩
  rw [sidebar_perform, hopened]
  exact s.client.sidebar_select _

theorem openNewest_of_empty (server : Server) (h : s.client.directory.channels = []) :
    s.perform server Client.openNewest = s := by
  simp only [perform, Client.openNewest_of_empty h, carryOutAll, List.foldl_nil]

/-- Loading keeps the channel on display; where nothing is, the landing page comes. -/
theorem loadChannels_arrives (h : ¬ Flow.loadChannels.Fails server s) :
    ∃ d, s.client.directory.Grows d ∧ (s.loadChannels server).client.sidebar =
      s.client.sidebar.display d (some (s.client.activeId.getD homeId)) := by
  obtain ⟨owned, joined, hfetched⟩ := fetches_of_not_fails h
  refine ⟨(s.client.restocked owned joined).directory, ?_, ?_⟩
  · exact Directory.grows_merge (Directory.attributed_ownedOf s.client.userName_ne_empty)
      Directory.attributed_joinedOf
  · rw [(loadChannels_of_fetches hfetched).1, Client.sidebar_select]
    rfl

theorem arrives_createChannel (haccepted : ¬ Flow.createChannel.TurnedDown s.client)
    (hanswered : ¬ Flow.createChannel.Fails server s) : Arrives s (s.createChannel server) := by
  obtain ⟨record, hcreates⟩ := exists_creates haccepted hanswered
  have hattributed : Channel.Attributed
      ⟨record.id, record.name, record.ownerId, some s.client.userName⟩ := by
    simpa [Channel.Attributed] using s.client.userName_ne_empty
  refine ⟨_, some record.id, Directory.grows_insertNew hattributed, ?_⟩
  rw [(createChannel_of_creates hcreates).1]
  exact s.client.sidebar_admitted _ [⟨0, s.client.userName⟩] Channels.created

theorem arrives_joinChannel (haccepted : ¬ Flow.joinChannel.TurnedDown s.client)
    (hanswered : ¬ Flow.joinChannel.Fails server s) : Arrives s (s.joinChannel server) := by
  obtain ⟨search, record, hjoins⟩ := exists_joins haccepted hanswered
  have hattributed : (record.toChannel (some search.owner)).Attributed :=
    record.attributed_toChannel (by simpa using Search.owner_ne_empty hjoins.typed)
  refine ⟨_, some record.id, Directory.grows_insertNew hattributed, ?_⟩
  rw [(joinChannel_of_joins hjoins).1]
  exact s.client.sidebar_admitted _ _ _

def Drops (server : Server) (s t : Station) (id : Nat) : Prop :=
  ∃ u content, s.agent.urlOf? (.deleteChannel id) = some u ∧
    t.requests = s.requests ++ [s.agent.requestTo s.now (.deleteChannel id) u] ∧
    (server s.requests (s.agent.requestTo s.now (.deleteChannel id) u)).content? = .ok content

theorem drops_ask {content : String}
    (h : (s.ask server (.deleteChannel id)).2.content? = .ok content) :
    Drops server s (s.ask server (.deleteChannel id)).1 id := by
  unfold ask at h ⊢
  split at h
  · rename_i u hu
    exact ⟨u, content, hu, rfl, h⟩
  · cases h

theorem Confined.unasked {α : Type} {part : Client → α}
    (h : Confined server (fun _ => False) part s t) : t.requests = s.requests := by
  obtain ⟨asked, hasked, hnone⟩ := (h.asked rfl).requests
  obtain rfl : asked = [] := by
    refine List.eq_nil_iff_forall_not_mem.mpr fun r hr => ?_
    obtain ⟨_, hfalse, -⟩ := hnone r hr
    exact hfalse
  rw [hasked, List.append_nil]

theorem requests_dropChannel (server : Server) (s : Station) (id : Nat) :
    (s.dropChannel server id).requests = s.requests := by
  unfold dropChannel
  dsimp only
  generalize hwithout : s.onClient (·.clearBanners.without id) = u
  have hu : u.requests = s.requests := hwithout ▸ rfl
  split
  · have hselect : Confined server (fun _ => False) Client.account u
        (u.select server u.client.directory.fallback?) := Confined.selects .refl _
    exact hselect.unasked.trans hu
  · exact hu

theorem requests_deleteChannel (server : Server)
    (h : (s.client.directory.get? id).any (·.isOwnedBy s.client.userName) = true) :
    (s.deleteChannel server id).requests = (s.ask server (.deleteChannel id)).1.requests := by
  rw [deleteChannel_of_owned server h]
  generalize s.ask server (.deleteChannel id) = answer
  obtain ⟨t, reply⟩ := answer
  dsimp only
  cases reply.content? with
  | error e => rfl
  | ok content => exact requests_dropChannel server t id

theorem deleteChannel_arrives (haccepted : ¬ (Flow.deleteChannel id).TurnedDown s.client)
    (hanswered : ¬ (Flow.deleteChannel id).Fails server s) :
    Drops server s (s.deleteChannel server id) id ∧
      ∃ channel, (s.deleteChannel server id).client.sidebar =
        s.client.sidebar.display (s.client.directory.erase id) channel := by
  have howned : (s.client.directory.get? id).any (·.isOwnedBy s.client.userName) = true :=
    eq_true_of_ne_false haccepted
  have hrequests := requests_deleteChannel server howned
  have hclient := client_ask server s (.deleteChannel id)
  obtain ⟨content, hcontent⟩ := exists_content_of_not_refuses hanswered
  obtain ⟨u, content', hu, hasked, htaken⟩ := drops_ask hcontent
  refine ⟨⟨u, content', hu, hrequests.trans hasked, htaken⟩, s.client.successor? id, ?_⟩
  rw [deleteChannel_of_owned server howned]
  generalize s.ask server (.deleteChannel id) = answer at hclient hcontent ⊢
  obtain ⟨t, reply⟩ := answer
  dsimp only at hclient hcontent ⊢
  rw [hcontent, ← hclient]
  have hselected := Client.sidebar_select (t.client.clearBanners.without id)
    (t.client.successor? id)
  dsimp only
  rw [(dropChannel_selects server t id).1]
  exact hselected

/-! ## Turns -/

def Opened (t : Station) (who : Identity) : Prop :=
  ∃ d, Directory.empty.Grows d ∧ t.client.sidebar = ⟨.chat, some who, d, some homeId, 0⟩

theorem enterChat_opened (server : Server) (s : Station) (who : Identity) :
    Opened (s.enterChat server who) who := by
  have hfresh : (s.onClient (·.enterChat who)).client.sidebar =
      ⟨.chat, some who, .empty, some homeId, 0⟩ := rfl
  unfold enterChat
  generalize s.onClient (·.enterChat who) = entered at hfresh ⊢
  by_cases hfails : Flow.loadChannels.Fails server entered
  · exact ⟨.empty, .refl _, (sidebar_follow_of_nothing (.inr hfails)).trans hfresh⟩
  · obtain ⟨d, hgrows, hloaded⟩ := loadChannels_arrives hfails
    have hempty : entered.client.directory = .empty := directory_of_sidebar hfresh
    have hhome : entered.client.activeId = some homeId := congrArg Sidebar.active hfresh
    rw [hempty] at hgrows
    rw [hhome, hfresh] at hloaded
    exact ⟨d, hgrows, hloaded⟩

inductive Shift (server : Server) (s t : Station) : Prop where
  | kept (h : t.client.sidebar = s.client.sidebar)
  | moved (h : t.client.sidebar = { s.client.sidebar with cursor := t.client.cursor })
      (hcursor : s.client.cursor ≤ s.client.directory.size →
        t.client.cursor ≤ s.client.directory.size)
  | arrived (onChat : s.client.page = .chat) (h : Arrives s t)
  | dropped (onChat : s.client.page = .chat) (id : Nat) (channel : Option Nat)
      (hdrops : Drops server s t id)
      (h : t.client.sidebar = s.client.sidebar.display (s.client.directory.erase id) channel)
  | renamed (who : Identity)
      (h : t.client.sidebar = s.client.sidebar.rename s.client.userName who)
  | left (h : t.client.sidebar = ⟨.signIn, none, .empty, none, s.client.cursor⟩)
  | entered (onSignIn : s.client.page = .signIn) (who : Identity) (h : Opened t who)

theorem submit_shift (server : Server) (onSignIn : s.client.page = .signIn) :
    Shift server s (s.submit server) := by
  unfold submit
  split
  · exact .kept (sidebar_register server s)
  · have hsigned := sidebar_signIn server s
    generalize s.signIn server = answer at hsigned ⊢
    obtain ⟨t, who⟩ := answer
    cases who with
    | none => exact .kept hsigned
    | some who => exact .entered onSignIn who (enterChat_opened server _ who)

theorem sidebar_saveProfile (server : Server) (s : Station) :
    (s.saveProfile server).1.client.sidebar = s.client.sidebar ∨
      ∃ who, (s.saveProfile server).1.client.sidebar = s.client.sidebar.rename
        s.client.userName who := by
  cases hopen : s.client.profile with
  | none =>
      rw [saveProfile_of_none server hopen]
      exact .inl rfl
  | some p =>
      rw [saveProfile_eq server hopen]
      split
      · exact .inl rfl
      · rename_i update _
        have hclient := client_ask server s (.updateMe update)
        generalize s.ask server (.updateMe update) = answer at hclient ⊢
        obtain ⟨t, reply⟩ := answer
        dsimp only at hclient ⊢
        rw [← hclient]
        split
        · exact .inr ⟨_, rfl⟩
        · exact .inl rfl

theorem sidebar_saveAndRemember (server : Server) (s : Station) :
    (s.saveAndRemember server).client.sidebar = (s.saveProfile server).1.client.sidebar := by
  unfold saveAndRemember
  generalize s.saveProfile server = answer
  obtain ⟨t, saved⟩ := answer
  cases saved with
  | false => rfl
  | true => exact congrArg Client.sidebar (client_remember t)

theorem sidebar_forget (s : Station) : s.forget.client.sidebar = s.client.sidebar := rfl

theorem sidebar_deleteAccount (server : Server) (s : Station) :
    (s.deleteAccount server).1.client.sidebar = s.client.sidebar ∨
      (s.deleteAccount server).1.client.sidebar =
        ⟨.signIn, none, .empty, none, s.client.cursor⟩ := by
  cases hopen : s.client.profile with
  | none =>
      rw [deleteAccount_of_none server hopen]
      exact .inl rfl
  | some p =>
      rw [deleteAccount_eq server hopen]
      split
      · have hclient := client_ask server s .deleteMe
        generalize s.ask server .deleteMe = answer at hclient ⊢
        obtain ⟨t, reply⟩ := answer
        dsimp only at hclient ⊢
        rw [← hclient]
        split <;> dsimp only
        · exact .inr (sidebar_signOut server _)
        · exact .inl rfl
      · exact .inl rfl

theorem Shift.of_deleteAccount (h : t.client.sidebar = (s.deleteAccount server).1.client.sidebar) :
    Shift server s t := by
  rcases sidebar_deleteAccount server s with hkept | hleft
  · exact .kept (h.trans hkept)
  · exact .left (h.trans hleft)

theorem Deed.shift (h : Deed server s t) : Shift server s t := by
  cases h with
  | rest => exact .kept rfl
  | link e => exact .kept (sidebar_onLink server s e)
  | fill _ _ => exact .kept rfl
  | submit onSignIn => exact submit_shift server onSignIn
  | fillOverlay _ _ => exact .kept rfl
  | closeOverlay => exact .kept rfl
  | save =>
      have hsave := sidebar_saveAndRemember server (s.onProfile Profile.cancelDelete)
      rcases sidebar_saveProfile server (s.onProfile Profile.cancelDelete) with hkept | ⟨who, hwho⟩
      · exact .kept (hsave.trans hkept)
      · exact .renamed who (hsave.trans hwho)
  | signOut _ => exact .left ((sidebar_forget _).trans (sidebar_signOut server s))
  | undeleted _ => exact .of_deleteAccount rfl
  | deleted _ => exact .of_deleteAccount (sidebar_forget _)
  | closePrompt => exact .kept rfl
  | createChannel onChat =>
      by_cases hnothing : Flow.createChannel.TurnedDown s.client ∨ Flow.createChannel.Fails server s
      · have hkept := sidebar_follow_of_nothing hnothing
        exact .kept hkept
      · rw [not_or] at hnothing
        exact .arrived onChat (arrives_createChannel hnothing.1 hnothing.2)
  | joinChannel onChat =>
      by_cases hnothing : Flow.joinChannel.TurnedDown s.client ∨ Flow.joinChannel.Fails server s
      · have hkept := sidebar_follow_of_nothing hnothing
        exact .kept hkept
      · rw [not_or] at hnothing
        exact .arrived onChat (arrives_joinChannel hnothing.1 hnothing.2)
  | @browse change hcore hcursor =>
      refine .moved ?_ (hcursor s.client)
      have hsidebar : (change s.client).core.sidebar = s.client.core.sidebar :=
        congrArg Client.sidebar (hcore s.client)
      simp only [Client.sidebar, Client.core, Sidebar.mk.injEq] at hsidebar ⊢
      obtain ⟨hpage, huser, hdirectory, hactive, -⟩ := hsidebar
      exact ⟨hpage, huser, hdirectory, hactive, trivial⟩
  | ask _ _ prompt => exact .kept rfl
  | openProfile _ _ => exact .kept (sidebar_openProfile server s)
  | home onChat => exact .arrived onChat (arrives_select server s _)
  | newest onChat =>
      by_cases hempty : s.client.directory.channels = []
      · rw [openNewest_of_empty server hempty]
        exact .kept rfl
      · exact .arrived onChat (arrives_openNewest server hempty)
  | load onChat =>
      by_cases hfails : Flow.loadChannels.Fails server s
      · have hkept := sidebar_follow_of_nothing (.inr hfails)
        exact .kept hkept
      · obtain ⟨d, hgrows, h⟩ := loadChannels_arrives hfails
        exact .arrived onChat ⟨d, _, hgrows, h⟩
  | openUnderCursor onChat =>
      exact .arrived onChat (arrives_select server (s.onClient Client.clearBanners) _)
  | delete onChat id =>
      by_cases hnothing : (Flow.deleteChannel id).TurnedDown s.client ∨
          (Flow.deleteChannel id).Fails server s
      · have hkept := sidebar_follow_of_nothing hnothing
        exact .kept hkept
      · rw [not_or] at hnothing
        obtain ⟨hdrops, channel, h⟩ := deleteChannel_arrives hnothing.1 hnothing.2
        exact .dropped onChat id channel hdrops h
  | send => exact .kept (sidebar_sendDraft server s)

theorem turn_shift (server : Server) (s : Station) (turn : Turn) :
    Shift server s (s.afterTurn server turn) :=
  (turn_deed server s turn).shift

/-! ## The start of a run -/

/-- A run starts on a chat page that has just been opened, or on the sign-in page without any
channels. -/
theorem start_opened (server : Server) (bypass : Bool) (hempty : s.client.directory = .empty) :
    (∃ who, Opened (s.start server bypass).2 who) ∨
      (s.start server bypass).2.client.page = .signIn ∧
        (s.start server bypass).2.client.directory = .empty := by
  have hresolve : ((s.showLoading checking).resolveIdentity server bypass).1.client.directory =
      .empty := by
    unfold resolveIdentity
    split
    · exact hempty
    · have hclient := client_ask server (s.showLoading checking) .me
      generalize (s.showLoading checking).ask server .me = answer at hclient ⊢
      obtain ⟨t, reply⟩ := answer
      dsimp only at hclient ⊢
      rw [hclient]
      exact hempty
  unfold start
  dsimp only
  generalize (s.showLoading checking).resolveIdentity server bypass = answer at hresolve ⊢
  obtain ⟨t, who⟩ := answer
  cases who with
  | none => exact .inr ⟨rfl, hresolve⟩
  | some who =>
      dsimp only
      exact .inl ⟨who, enterChat_opened server _ who⟩

end Station

end ChatTerminal
