import ChatTerminal.Proofs.Agent.Restart
import ChatTerminal.Proofs.Station.Deletion
import ChatTerminal.Proofs.Station.Sidebar
/-!
# No channels without a server

A base may be no address that can be asked, and then every call is dropped.  Channels come out of
replies only, so on a run below such a base the directory stays empty: a channel that is listed says
that the server can be asked.
-/

namespace ChatTerminal.Station

variable {server : Server} {base : String} {s t : Station} {c : Call}

def Mute (s : Station) : Prop := ∀ c, s.agent.urlOf? c = none

theorem empty_of_sidebar {b : Sidebar} (h : t.client.sidebar = b)
    (hempty : b.directory = .empty) : t.client.directory = .empty :=
  (directory_of_sidebar h).trans hempty

theorem Mute.of_base (h : s.Mute) (hbase : t.agent.base = s.agent.base) : t.Mute :=
  fun c => (Agent.urlOf?_of_base hbase c).trans (h c)

theorem Mute.ask (h : s.Mute) (server : Server) (c : Call) : s.ask server c = (s, .dropped) := by
  unfold Station.ask
  rw [h c]

theorem Mute.askBoth (h : s.Mute) (server : Server) (a b : Call) :
    s.askBoth server a b = (s, .dropped, .dropped) := by
  unfold Station.askBoth
  rw [h.ask]
  dsimp only
  rw [h b]

theorem fails_dropped {α : Type} (read : Json.Tree → Option α) : Reply.dropped.Fails read :=
  .refuses .dropped

/-! ## Flows -/

theorem Mute.loadChannels (h : s.Mute) (server : Server) : Flow.loadChannels.Fails server s := by
  unfold Flow.Fails
  dsimp only
  rw [h.askBoth]
  exact .inl (fails_dropped _)

theorem Mute.createChannel (h : s.Mute) (server : Server) :
    Flow.createChannel.TurnedDown s.client ∨ Flow.createChannel.Fails server s := by
  cases hname : channelName s.client.newChannelName.value with
  | error r => exact .inl ⟨r, hname⟩
  | ok name =>
      refine .inr ⟨name, hname, ?_⟩
      rw [h.ask]
      exact fails_dropped _

theorem Mute.joinChannel (h : s.Mute) (server : Server) :
    Flow.joinChannel.TurnedDown s.client ∨ Flow.joinChannel.Fails server s := by
  cases hsearch : Search.parse s.client.searchQuery.value with
  | error r => exact .inl ⟨r, hsearch⟩
  | ok search =>
      refine .inr ⟨search, hsearch, .inl ?_⟩
      rw [h.ask]
      exact fails_dropped _

theorem Mute.deleteChannel (h : s.Mute) (server : Server) (id : Nat) :
    (Flow.deleteChannel id).TurnedDown s.client ∨ (Flow.deleteChannel id).Fails server s := by
  have hrefuses : (s.ask server (.deleteChannel id)).2.Refuses := by
    rw [h.ask]
    exact .dropped
  exact .inr hrefuses

theorem Mute.enterChat (h : s.Mute) (server : Server) (who : Identity) :
    (s.enterChat server who).client.directory = .empty := by
  have hmute : (s.onClient (·.enterChat who)).Mute := h
  have hempty : (s.onClient (·.enterChat who)).client.directory = .empty := rfl
  unfold Station.enterChat
  generalize s.onClient (·.enterChat who) = entered at hmute hempty ⊢
  have hfollow := sidebar_follow_of_nothing (.inr (hmute.loadChannels server))
  have hkept : (entered.loadChannels server).client.sidebar = entered.client.sidebar := hfollow
  exact empty_of_sidebar hkept hempty

theorem Mute.signIn (h : s.Mute) (server : Server) : s.signIn server =
    (s.onSignIn (·.refused (Failure.unreachable.userText SignIn.loginFailed)), none) := by
  rw [signIn_eq, h.ask]
  rfl

theorem Mute.submit (h : s.Mute) (server : Server) (hempty : s.client.directory = .empty) :
    (s.submit server).client.directory = .empty := by
  unfold Station.submit
  split
  · exact empty_of_sidebar (sidebar_register server s) hempty
  · have hsigned := sidebar_signIn server s
    rw [h.signIn server] at hsigned ⊢
    exact empty_of_sidebar hsigned hempty

/-! ## Turns -/

/-- The flows that bring channels come to nothing, the others bring none. -/
theorem Mute.turn (h : s.Mute) (server : Server) (hempty : s.client.directory = .empty)
    (turn : Turn) : (s.afterTurn server turn).client.directory = .empty := by
  have hdeed := turn_deed server s turn
  generalize s.afterTurn server turn = t at hdeed ⊢
  cases hdeed with
  | rest | fill | fillOverlay | closeOverlay | closePrompt | ask => exact hempty
  | submit _ => exact h.submit server hempty
  | createChannel _ =>
      have hkept := sidebar_follow_of_nothing (h.createChannel server)
      exact empty_of_sidebar hkept hempty
  | joinChannel _ =>
      have hkept := sidebar_follow_of_nothing (h.joinChannel server)
      exact empty_of_sidebar hkept hempty
  | load _ =>
      have hkept := sidebar_follow_of_nothing (.inr (h.loadChannels server))
      exact empty_of_sidebar hkept hempty
  | delete _ id =>
      have hkept := sidebar_follow_of_nothing (h.deleteChannel server id)
      exact empty_of_sidebar hkept hempty
  | link e => exact empty_of_sidebar (sidebar_onLink server s e) hempty
  | send => exact empty_of_sidebar (sidebar_sendDraft server s) hempty
  | openProfile _ _ => exact empty_of_sidebar (sidebar_openProfile server s) hempty
  | home _ => exact empty_of_sidebar (sidebar_select server s _) hempty
  | openUnderCursor _ =>
      have hmoved := sidebar_perform server (s.onClient Client.clearBanners) Client.openUnderCursor
      rw [Client.openUnderCursor, Client.sidebar_select] at hmoved
      exact empty_of_sidebar hmoved hempty
  | newest _ =>
      rw [openNewest_of_empty server (congrArg Directory.channels hempty)]
      exact hempty
  | @browse change hcore _ =>
      have hdirectory : (change s.client).core.directory = s.client.core.directory :=
        congrArg Client.directory (hcore s.client)
      exact hdirectory.trans hempty
  | save =>
      have hsave := sidebar_saveAndRemember server (s.onProfile Profile.cancelDelete)
      rcases sidebar_saveProfile server (s.onProfile Profile.cancelDelete) with hkept | ⟨who, hwho⟩
      · exact empty_of_sidebar (hsave.trans hkept) hempty
      · refine (directory_of_sidebar (hsave.trans hwho)).trans ?_
        change s.client.directory.renameOwner _ _ = .empty
        rw [hempty]
        rfl
  | signOut _ => exact empty_of_sidebar ((sidebar_forget _).trans (sidebar_signOut server s)) rfl
  | undeleted _ =>
      rcases sidebar_deleteAccount server s with hkept | hleft
      · exact empty_of_sidebar hkept hempty
      · exact empty_of_sidebar hleft rfl
  | deleted _ =>
      rcases sidebar_deleteAccount server s with hkept | hleft
      · exact empty_of_sidebar ((sidebar_forget _).trans hkept) hempty
      · exact empty_of_sidebar ((sidebar_forget _).trans hleft) rfl

/-! ## Runs -/

theorem Mute.turns (h : s.Mute) (server : Server) (hempty : s.client.directory = .empty)
    (turns : List Turn) : (s.afterTurns server turns).client.directory = .empty := by
  induction turns generalizing s with
  | nil => exact hempty
  | cons turn more ih =>
      exact ih (h.of_base (base_afterTurns server rfl [turn])) (h.turn server hempty turn)

theorem Mute.start (h : s.Mute) (server : Server) (bypass : Bool)
    (hempty : s.client.directory = .empty) :
    (s.start server bypass).2.client.directory = .empty := by
  have hloading : (s.showLoading checking).Mute := h
  have hstill : (s.showLoading checking).client.directory = .empty := hempty
  unfold Station.start
  dsimp only
  generalize s.showLoading checking = loading at hloading hstill ⊢
  cases bypass with
  | true =>
      have hresolve : loading.resolveIdentity server true = (loading, some .developer) := rfl
      have hshown : (loading.showLoading loadingChannels).Mute := hloading
      rw [hresolve]
      dsimp only
      exact hshown.enterChat server _
  | false =>
      have hresolve : loading.resolveIdentity server false = (loading, none) := by
        simp only [resolveIdentity, hloading.ask]
        rfl
      rw [hresolve]
      exact hstill

/-- On every run a channel is listed only if all calls can be made. -/
theorem exists_urlOf?_of_listed {agent fresh : Agent} (hbase : Agent.ofBase agent.base = .ok fresh)
    (server : Server) (bypass : Bool) (kept : Option String) (now : Int) (turns : List Turn)
    (hlisted : (afterTurns server
      (start server bypass { agent := agent, kept := kept, now := now }).2 turns).client.directory ≠
        .empty) (c : Call) : ∃ u, agent.urlOf? c = some u := by
  by_cases hasked : ∃ asked u, agent.urlOf? asked = some u
  · obtain ⟨asked, u, hu⟩ := hasked
    obtain ⟨v, hv, -⟩ := (Agent.urlOf?_of_asked hbase rfl hu).2 c
    exact ⟨v, hv⟩
  · have hmute : Mute { agent := agent, kept := kept, now := now } := by
      intro c
      rw [Option.eq_none_iff_forall_ne_some]
      exact fun u hu => hasked ⟨c, u, hu⟩
    have hstart := hmute.start server bypass rfl
    have hconfined : Confined server (fun _ => True) (fun _ => ())
        { agent := agent, kept := kept, now := now }
        (start server bypass { agent := agent, kept := kept, now := now }).2 :=
      start_confined server bypass _ fun _ _ => trivial
    have hfirst := hmute.of_base (hconfined.asked rfl).below
    exact absurd (hfirst.turns server hstart turns) hlisted

end ChatTerminal.Station
