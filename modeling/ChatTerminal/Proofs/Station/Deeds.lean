import ChatTerminal.Proofs.Client.Coherent
import ChatTerminal.Proofs.Client.Masked
import ChatTerminal.Proofs.Station.OneLink
/-!
# What a turn can do

A turn comes to one deed: it changes something that is typed or browsed, or it goes through one of
the flows.  What is on display says which flows a key can reach.  The keys are gone through once,
here.
-/

namespace ChatTerminal.Station

inductive Deed (server : Server) (s : Station) : Station → Prop where
  | rest : Deed server s s
  | link (e : Link.Event) : Deed server s (s.onLink server e)
  | fill {change : SignIn → SignIn} (h : ∀ f, f.Rested → (change f).Rested)
      (hmasked : ∀ f, f.Masked → (change f).Masked) : Deed server s (s.onSignIn change)
  | submit (onSignIn : s.client.page = .signIn) : Deed server s (s.submit server)
  | fillOverlay {change : Profile → Profile} (h : ∀ p, p.Rested → (change p).Rested)
      (hmasked : ∀ p, p.Masked → (change p).Masked) : Deed server s (s.onProfile change)
  | closeOverlay : Deed server s (s.onClient fun c => { c with profile := none })
  | save : Deed server s ((s.onProfile Profile.cancelDelete).saveAndRemember server)
  | signOut (overlay : s.client.profile ≠ none) : Deed server s (s.signOut server).forget
  | undeleted (h : (s.deleteAccount server).2 = false) :
      Deed server s (s.deleteAccount server).1
  | deleted (h : (s.deleteAccount server).2 = true) :
      Deed server s (s.deleteAccount server).1.forget
  | closePrompt : Deed server s (s.onClient fun c => { c with prompt := none })
  | createChannel (onChat : s.client.page = .chat) : Deed server s (s.createChannel server)
  | joinChannel (onChat : s.client.page = .chat) : Deed server s (s.joinChannel server)
  | browse {change : Client → Client} (h : ∀ c, (change c).core = c.core)
      (hcursor : ∀ c, c.cursor ≤ c.directory.size → (change c).cursor ≤ c.directory.size) :
      Deed server s (s.onClient change)
  | ask (onChat : s.client.page = .chat) (closed : s.client.profile = none) (prompt : Prompt) :
      Deed server s (s.onClient (·.ask prompt))
  | openProfile (onChat : s.client.page = .chat) (unasked : s.client.prompt = none) :
      Deed server s (s.openProfile server)
  | home (onChat : s.client.page = .chat) : Deed server s (s.select server (some homeId))
  | newest (onChat : s.client.page = .chat) :
      Deed server s (s.perform server Client.openNewest)
  | load (onChat : s.client.page = .chat) : Deed server s (s.loadChannels server)
  | openUnderCursor (onChat : s.client.page = .chat) :
      Deed server s ((s.onClient Client.clearBanners).perform server Client.openUnderCursor)
  | delete (onChat : s.client.page = .chat) (id : Nat) :
      Deed server s (s.deleteChannel server id)
  | send : Deed server s (s.sendDraft server)

variable {server : Server} {s : Station}

theorem onProfile_onProfile (s : Station) (first second : Profile → Profile) :
    (s.onProfile first).onProfile second = s.onProfile (second ∘ first) := by
  simp [onProfile, onClient, Client.onProfile]

/-! ## The sign-in page -/

theorem pressOnSignIn_deed (server : Server) (k : Key) (onSignIn : s.client.page = .signIn) :
    Deed server s (s.pressOnSignIn server k).1 := by
  unfold pressOnSignIn
  split
  · exact .rest
  · split
    · dsimp only
      split
      · exact .fill (fun f h => h.setMode _) fun f h => h.setMode _
      · exact .rest
    · split
      · exact .rest
      · exact .fill (fun f h => ⟨h.loading, h.banner⟩) fun f h => h.nextField
      · exact .fill (fun f h => ⟨h.loading, h.banner⟩) fun f h => h.nextField
      · exact .fill (fun f h => ⟨h.loading, h.banner⟩) fun f h => h.previousField
      · exact .fill (fun f h => ⟨h.loading, h.banner⟩) fun f h => h.previousField
      · dsimp only
        split
        · exact .submit onSignIn
        · exact .fill (fun f h => ⟨h.loading, h.banner⟩) fun f h => h.nextField
      · exact .fill (fun f h => h.edit _) fun f h => h.edit fun t => t.masked_press _

/-! ## The profile overlay -/

theorem pressControlOnProfile_deed (server : Server) (code : Key.Code)
    (overlay : s.client.profile ≠ none) :
    Deed server s (s.pressControlOnProfile server code) := by
  unfold pressControlOnProfile
  split
  · exact .signOut overlay
  · split
    · rename_i t hdeleted
      have h : Deed server s (s.deleteAccount server).1.forget :=
        .deleted (congrArg Prod.snd hdeleted)
      rwa [hdeleted] at h
    · rename_i t hundeleted
      have h : Deed server s (s.deleteAccount server).1 :=
        .undeleted (congrArg Prod.snd hundeleted)
      rwa [hundeleted] at h
  · exact .rest

/-- A key in the overlay takes back an order to delete before it does anything else. -/
theorem fillOverlay_deed (server : Server) (s : Station) {change : Profile → Profile}
    (h : ∀ p, p.Rested → (change p).Rested) (hmasked : ∀ p, p.Masked → (change p).Masked) :
    Deed server s ((s.onProfile Profile.cancelDelete).onProfile change) := by
  rw [onProfile_onProfile]
  exact .fillOverlay (fun p hp => h _ hp.cancelDelete) fun p hp => hmasked _ hp.cancelDelete

theorem pressOnProfile_deed (server : Server) {p : Profile} (k : Key)
    (overlay : s.client.profile = some p) : Deed server s (s.pressOnProfile server p k) := by
  unfold pressOnProfile
  split
  · exact pressControlOnProfile_deed server k.code (by simp [overlay])
  · split
    · exact .closeOverlay
    · split
      · exact .rest
      · dsimp only
        split
        · exact fillOverlay_deed server s (fun p h => ⟨h.loading, h.banner⟩) fun p h => h
        · exact fillOverlay_deed server s (fun p h => ⟨h.loading, h.banner⟩) fun p h => h
        · exact fillOverlay_deed server s (fun p h => ⟨h.loading, h.banner⟩) fun p h => h
        · exact fillOverlay_deed server s (fun p h => ⟨h.loading, h.banner⟩) fun p h => h
        · exact .save
        · exact fillOverlay_deed server s (fun p h => h.edit _) fun p h =>
            h.edit fun t => t.masked_press _

/-! ## The chat page -/

theorem pressOnPrompt_deed (server : Server) (prompt : Prompt) (k : Key)
    (onChat : s.client.page = .chat) : Deed server s (s.pressOnPrompt server prompt k) := by
  unfold pressOnPrompt
  split
  · exact .closePrompt
  · exact .createChannel onChat
  · exact .joinChannel onChat
  · refine .browse (fun c => ?_) fun c hc => ?_
    · unfold Client.editPrompt
      split <;> rfl
    · unfold Client.editPrompt
      split <;> exact hc

theorem pressOnShell_deed (server : Server) (code : Key.Code) (onChat : s.client.page = .chat)
    (closed : s.client.profile = none) (unasked : s.client.prompt = none) :
    Deed server s (s.pressOnShell server code).1 := by
  unfold pressOnShell
  split <;> dsimp only
  · exact .rest
  · exact .browse (fun c => rfl) fun c hc => hc
  · exact .browse (fun c => rfl) fun c hc => hc
  · exact .ask onChat closed .newChannel
  · exact .ask onChat closed .search
  · exact .openProfile onChat unasked
  · exact .home onChat
  · split
    · exact .newest onChat
    · exact .rest
  · exact .load onChat
  · exact .rest

theorem cursorUp_within (c : Client) (h : c.cursor ≤ c.directory.size) :
    c.cursorUp.cursor ≤ c.directory.size :=
  (Nat.sub_le _ _).trans h

theorem cursorDown_within (c : Client) (_ : c.cursor ≤ c.directory.size) :
    c.cursorDown.cursor ≤ c.directory.size := Nat.min_le_right _ _

theorem pressOnSidebar_deed (server : Server) (code : Key.Code) (onChat : s.client.page = .chat)
    (closed : s.client.profile = none) (unasked : s.client.prompt = none) :
    Deed server s (s.pressOnSidebar server code).1 := by
  unfold pressOnSidebar
  split
  · exact .browse (fun c => rfl) cursorUp_within
  · exact .browse (fun c => rfl) cursorUp_within
  · exact .browse (fun c => rfl) cursorDown_within
  · exact .browse (fun c => rfl) cursorDown_within
  · exact .openUnderCursor onChat
  · dsimp only
    split
    · exact .rest
    · exact .delete onChat _
  · exact pressOnShell_deed server _ onChat closed unasked

theorem pressOnMessages_deed (server : Server) (code : Key.Code) (onChat : s.client.page = .chat)
    (closed : s.client.profile = none) (unasked : s.client.prompt = none) :
    Deed server s (s.pressOnMessages server code).1 := by
  unfold pressOnMessages
  split
  · exact .browse (fun c => rfl) fun c hc => hc
  · exact .browse (fun c => rfl) fun c hc => hc
  · exact .browse (fun c => rfl) fun c hc => hc
  · exact .browse (fun c => rfl) fun c hc => hc
  · exact pressOnShell_deed server _ onChat closed unasked

theorem pressOnDraft_deed (server : Server) (s : Station) (code : Key.Code) :
    Deed server s (s.pressOnDraft server code) := by
  unfold pressOnDraft
  split
  · exact .browse (fun c => rfl) fun c hc => hc
  · exact .browse (fun c => rfl) fun c hc => hc
  · exact .browse (fun c => rfl) fun c hc => hc
  · exact .send
  · exact .browse (fun c => rfl) fun c hc => hc

theorem pressOnChat_deed (server : Server) (k : Key) (onChat : s.client.page = .chat) :
    Deed server s (s.pressOnChat server k).1 := by
  unfold pressOnChat
  split
  · rename_i p _ _ overlay
    exact pressOnProfile_deed server k overlay
  · exact pressOnPrompt_deed server _ k onChat
  · rename_i closed unasked _
    exact pressOnSidebar_deed server k.code onChat closed unasked
  · rename_i closed unasked _
    exact pressOnMessages_deed server k.code onChat closed unasked
  · exact pressOnDraft_deed server s k.code

/-! ## Turns -/

theorem turn_deed (server : Server) (s : Station) (turn : Turn) :
    Deed server s (s.afterTurn server turn) := by
  cases turn with
  | link e => exact .link e
  | key k =>
      unfold afterTurn press
      cases hpage : s.client.page with
      | loading message => exact .rest
      | signIn => exact pressOnSignIn_deed server k hpage
      | chat => exact pressOnChat_deed server k hpage

end ChatTerminal.Station
