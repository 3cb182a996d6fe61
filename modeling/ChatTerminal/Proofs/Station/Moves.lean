import ChatTerminal.Proofs.Station.Talks
import Mathlib.Logic.Relation
/-!
# What the turns of a run do to the wire

Besides quiet flows and those that steer there are two more: signing out leaves the channel on
display, and opening the chat page starts a session that goes on counting.  A key makes a few
such moves, and it opens the chat page only from another page.  The one key that does something
else sends the draft.
-/

namespace ChatTerminal.Station

open LinkCall

structure SignsOut (s t : Station) : Prop where
  page : t.client.page = .signIn
  wire : t.wire = s.wire.take .reset

structure Enters (s t : Station) : Prop where
  page : t.client.page = .chat
  wire : t.wire = ⟨.continuing s.client.session, s.linkCalls⟩

inductive Move (s t : Station) : Prop where
  | quiet (h : Quiet s t)
  | steers (onChat : s.client.page = .chat) (h : Steers s t)
  | signsOut (onChat : s.client.page = .chat) (h : SignsOut s t)
  | enters (apart : s.client.page ≠ .chat) (h : Enters s t)

abbrev Moves : Station → Station → Prop := Relation.ReflTransGen Move

variable {server : Server} {s t u : Station}

theorem Quiet.moves (h : Quiet s t) : Moves s t := .single (.quiet h)

theorem Steers.moves (onChat : s.client.page = .chat) (h : Steers s t) : Moves s t :=
  .single (.steers onChat h)

/-! ## Signing in and out -/

theorem reset_calls (s : Session) : ∀ e ∈ s.reset.2, (ofEffect? e).isSome := by
  intro e he
  by_cases hactive : s.active = none
  · simp [Session.reset_of_active_none hactive] at he
  · rw [Session.reset_of_active_some hactive] at he
    obtain ⟨g, -, rfl⟩ := List.mem_map.mp he
    rfl

theorem signOut_signsOut (server : Server) (s : Station) : SignsOut s (s.signOut server) := by
  have hask := quiet_ask server s .logout
  unfold signOut
  generalize ask server s .logout = answer at hask ⊢
  obtain ⟨t, reply⟩ := answer
  dsimp only at hask ⊢
  unfold perform
  have hreset : ∀ e ∈ t.client.signOut.2, (ofEffect? e).isSome := reset_calls t.client.session
  obtain ⟨hclient, hcalls⟩ :=
    carryOutAll_calls server { t with client := t.client.signOut.1 } hreset
  constructor
  · rw [hclient]
    rfl
  · rw [← hask.wire]
    simp only [Station.wire, hclient, hcalls]
    rfl

/-- Deleting the account asks the server at most, or signs out after that. -/
theorem deleteAccount_quiet_or_signsOut (server : Server) (s : Station) :
    Quiet s (s.deleteAccount server).1 ∨
      ∃ t, Quiet s t ∧ SignsOut t (s.deleteAccount server).1 := by
  unfold deleteAccount
  split
  · exact .inl (.refl s)
  · rename_i p _
    generalize p.confirmDelete = answer
    obtain ⟨confirmed, p'⟩ := answer
    have harm := quiet_onProfile s fun _ => p'
    dsimp only
    generalize s.onProfile (fun _ => p') = armed at harm ⊢
    split
    · exact .inl harm
    · have hwait := harm.trans
        (quiet_onProfile armed fun p => { p.clearBanners with loading := true })
      generalize armed.onProfile (fun p => { p.clearBanners with loading := true }) = waiting
        at hwait ⊢
      have hask := hwait.trans (quiet_ask server waiting .deleteMe)
      generalize ask server waiting .deleteMe = answer at hask ⊢
      obtain ⟨t, reply⟩ := answer
      dsimp only at hask ⊢
      have hdone := hask.trans (quiet_onProfile t fun p => { p with loading := false })
      generalize t.onProfile (fun p => { p with loading := false }) = answered at hdone ⊢
      split
      · have hout := signOut_signsOut server answered
        dsimp only
        exact .inr ⟨answered, hdone, hout⟩
      · exact .inl (hdone.trans (quiet_onProfile _ _))

theorem deleteAccount_moves (server : Server) (s : Station) (onChat : s.client.page = .chat) :
    Moves s (s.deleteAccount server).1 := by
  rcases deleteAccount_quiet_or_signsOut server s with hquiet | ⟨t, hquiet, hout⟩
  · exact hquiet.moves
  · exact hquiet.moves.tail (.signsOut (hquiet.page.trans onChat) hout)

theorem enterChat_moves (server : Server) (s : Station) (who : Identity)
    (apart : s.client.page ≠ .chat) : Moves s (s.enterChat server who) := by
  have henter : Enters s (s.onClient (·.enterChat who)) := ⟨rfl, rfl⟩
  exact .trans (.single (.enters apart henter))
    ((loadChannels_steers server _).moves henter.page)

theorem submit_moves (server : Server) (s : Station) (apart : s.client.page ≠ .chat) :
    Moves s (s.submit server) := by
  unfold submit
  split
  · exact (quiet_register server s).moves
  · have hsign := quiet_signIn server s
    generalize s.signIn server = answer at hsign ⊢
    obtain ⟨t, who⟩ := answer
    cases who with
    | none => exact hsign.moves
    | some who =>
        have hremember := hsign.trans (quiet_remember t)
        have hapart : t.remember.client.page ≠ .chat := hremember.page ▸ apart
        exact hremember.moves.trans (enterChat_moves server _ who hapart)

/-! ## Keys -/

theorem pressOnSignIn_moves (server : Server) (s : Station) (k : Key)
    (apart : s.client.page ≠ .chat) : Moves s (s.pressOnSignIn server k).1 := by
  unfold pressOnSignIn
  split
  · exact .refl
  · split
    · dsimp only
      split
      · exact (quiet_onSignIn _ _).moves
      · exact .refl
    · split
      · exact .refl
      · exact (quiet_onSignIn _ _).moves
      · exact (quiet_onSignIn _ _).moves
      · exact (quiet_onSignIn _ _).moves
      · exact (quiet_onSignIn _ _).moves
      · dsimp only
        split
        · exact submit_moves server s apart
        · exact (quiet_onSignIn _ _).moves
      · exact (quiet_onSignIn _ _).moves

theorem pressControlOnProfile_moves (server : Server) (s : Station) (code : Key.Code)
    (onChat : s.client.page = .chat) : Moves s (s.pressControlOnProfile server code) := by
  unfold pressControlOnProfile
  split
  · exact .tail (.single (.signsOut onChat (signOut_signsOut server s)))
      (.quiet (quiet_forget _))
  · have hdelete := deleteAccount_moves server s onChat
    generalize s.deleteAccount server = answer at hdelete ⊢
    obtain ⟨t, deleted⟩ := answer
    cases deleted with
    | true => exact hdelete.tail (.quiet (quiet_forget t))
    | false => exact hdelete
  · exact .refl

theorem pressOnProfile_moves (server : Server) (s : Station) (p : Profile) (k : Key)
    (onChat : s.client.page = .chat) : Moves s (s.pressOnProfile server p k) := by
  unfold pressOnProfile
  split
  · exact pressControlOnProfile_moves server s k.code onChat
  · split
    · exact (quiet_onClient s rfl rfl).moves
    · split
      · exact .refl
      · have hcancel := quiet_onProfile s Profile.cancelDelete
        dsimp only
        generalize s.onProfile Profile.cancelDelete = cancelled at hcancel ⊢
        split
        · exact (hcancel.trans (quiet_onProfile _ _)).moves
        · exact (hcancel.trans (quiet_onProfile _ _)).moves
        · exact (hcancel.trans (quiet_onProfile _ _)).moves
        · exact (hcancel.trans (quiet_onProfile _ _)).moves
        · exact (hcancel.trans (quiet_saveAndRemember server _)).moves
        · exact (hcancel.trans (quiet_onProfile _ _)).moves

theorem quiet_asking (s : Station) (prompt : Prompt) : Quiet s (s.onClient (·.ask prompt)) :=
  quiet_onClient s rfl rfl

theorem pressOnPrompt_steers (server : Server) (s : Station) (prompt : Prompt) (k : Key) :
    Steers s (s.pressOnPrompt server prompt k) := by
  unfold pressOnPrompt
  split
  · exact (quiet_onClient s rfl rfl).steers
  · exact createChannel_steers server s
  · exact joinChannel_steers server s
  · apply Quiet.steers
    apply quiet_onClient <;> unfold Client.editPrompt <;> split <;> rfl

theorem pressOnShell_steers (server : Server) (s : Station) (code : Key.Code) :
    Steers s (s.pressOnShell server code).1 := by
  unfold pressOnShell
  split <;> dsimp only
  · exact (Quiet.refl s).steers
  · exact (quiet_onClient s rfl rfl).steers
  · exact (quiet_onClient s rfl rfl).steers
  · exact (quiet_asking s .newChannel).steers
  · exact (quiet_asking s .search).steers
  · exact (quiet_openProfile server s).steers
  · exact select_steers server s _
  · split
    · exact openNewest_steers server s
    · exact (Quiet.refl s).steers
  · exact loadChannels_steers server s
  · exact (Quiet.refl s).steers

theorem pressOnSidebar_steers (server : Server) (s : Station) (code : Key.Code) :
    Steers s (s.pressOnSidebar server code).1 := by
  unfold pressOnSidebar
  split
  · exact (quiet_onClient s rfl rfl).steers
  · exact (quiet_onClient s rfl rfl).steers
  · exact (quiet_onClient s rfl rfl).steers
  · exact (quiet_onClient s rfl rfl).steers
  · exact (quiet_onClient s rfl rfl).steers.trans (openUnderCursor_steers server _)
  · dsimp only
    split
    · exact (Quiet.refl s).steers
    · exact deleteChannel_steers server s _
  · exact pressOnShell_steers server s _

theorem pressOnMessages_steers (server : Server) (s : Station) (code : Key.Code) :
    Steers s (s.pressOnMessages server code).1 := by
  unfold pressOnMessages
  split
  · exact (quiet_onClient s rfl rfl).steers
  · exact (quiet_onClient s rfl rfl).steers
  · exact (quiet_onClient s rfl rfl).steers
  · exact (quiet_onClient s rfl rfl).steers
  · exact pressOnShell_steers server s _

theorem quiet_pressOnDraft (server : Server) (s : Station) {code : Key.Code} (h : code ≠ .enter) :
    Quiet s (s.pressOnDraft server code) := by
  unfold pressOnDraft
  split
  · exact quiet_onClient s rfl rfl
  · exact quiet_onClient s rfl rfl
  · exact quiet_onClient s rfl rfl
  · exact absurd rfl h
  · exact quiet_onClient s rfl rfl

/-- The keyboard is on the draft. -/
structure Drafting (c : Client) : Prop where
  onChat : c.page = .chat
  closed : c.profile = none
  unasked : c.prompt = none
  panel : c.panel = .input

structure Submits (s : Station) (k : Key) : Prop where
  drafting : Drafting s.client
  enter : k.code = .enter

theorem press_of_submits {k : Key} (server : Server) (h : s.Submits k) :
    s.press server k = (s.sendDraft server, .stay) := by
  obtain ⟨⟨onChat, closed, unasked, panel⟩, enter⟩ := h
  simp only [press, onChat, pressOnChat, closed, unasked, panel, pressOnDraft, enter]

theorem pressOnChat_moves (server : Server) {s : Station} {k : Key}
    (onChat : s.client.page = .chat) (h : ¬ s.Submits k) :
    Moves s (s.pressOnChat server k).1 := by
  unfold pressOnChat
  split
  · exact pressOnProfile_moves server s _ k onChat
  · exact (pressOnPrompt_steers server s _ k).moves onChat
  · exact (pressOnSidebar_steers server s k.code).moves onChat
  · exact (pressOnMessages_steers server s k.code).moves onChat
  · rename_i closed unasked panel
    have hother : k.code ≠ .enter := fun enter => h ⟨⟨onChat, closed, unasked, panel⟩, enter⟩
    exact (quiet_pressOnDraft server s hother).moves

theorem press_moves (server : Server) {s : Station} {k : Key} (h : ¬ s.Submits k) :
    Moves s (s.press server k).1 := by
  unfold press
  cases hpage : s.client.page with
  | loading message => exact .refl
  | signIn => exact pressOnSignIn_moves server s k (by simp [hpage])
  | chat => exact pressOnChat_moves server hpage h

/-- Whatever every move and every talk keeps, every key keeps. -/
theorem press_keeps {holds : Station → Prop} (server : Server) (s : Station) (k : Key)
    (hmoves : ∀ t, Moves s t → holds t)
    (htalks : s.client.page = .chat → ∀ t, Talks s t → holds t) :
    holds (s.press server k).1 := by
  by_cases h : s.Submits k
  · rw [press_of_submits server h]
    dsimp only
    exact htalks h.drafting.onChat _ (sendDraft_talks server s)
  · exact hmoves _ (press_moves server h)

/-! ## The start -/

theorem quiet_resolveIdentity (server : Server) (bypass : Bool) (s : Station) :
    Quiet s (s.resolveIdentity server bypass).1 := by
  unfold resolveIdentity
  split
  · exact .refl s
  · have hask := quiet_ask server s .me
    generalize ask server s .me = answer at hask ⊢
    exact hask

/-- Up to its first page a run shows pages that are not the chat page. -/
theorem start_moves (server : Server) (bypass : Bool) (s : Station) :
    ∃ t, t.wire = s.wire ∧ t.client.page ≠ .chat ∧ Moves t (s.start server bypass).2 := by
  have hresolve := quiet_resolveIdentity server bypass (s.showLoading checking)
  unfold start
  dsimp only
  generalize resolveIdentity server bypass (s.showLoading checking) = answer at hresolve ⊢
  obtain ⟨t, who⟩ := answer
  dsimp only at hresolve ⊢
  cases who with
  | none => exact ⟨t.onClient Client.showSignIn, hresolve.wire, Page.noConfusion, .refl⟩
  | some who =>
      have hapart : (t.showLoading loadingChannels).client.page ≠ .chat := Page.noConfusion
      have henter := enterChat_moves server _ who hapart
      dsimp only
      exact ⟨t.showLoading loadingChannels, hresolve.wire, hapart, henter⟩

end ChatTerminal.Station
