import ChatTerminal.Proofs.Station.Confined
import ChatTerminal.Proofs.View.Masking
/-!
# Passwords never reach the screen

The passwords of the sign-in page and of the profile overlay are masked at every point of every
run, whatever is typed and whatever the server answers.  So no screen shows more of them than how
many characters they have and how many of these stand before the cursor.
-/

namespace ChatTerminal.Station

variable {server : Server} {s t : Station}

theorem masked_of_account (h : s.client.Masked) (hkept : t.client.account = s.client.account) :
    t.client.Masked := by
  simp only [Client.account, Prod.mk.injEq] at hkept
  obtain ⟨-, -, hsignIn, hprofile⟩ := hkept
  exact h.of_eq hsignIn hprofile

theorem masked_onSignIn (h : s.client.Masked) {change : SignIn → SignIn}
    (hchange : ∀ f, f.Masked → (change f).Masked) : (s.onSignIn change).client.Masked :=
  h.onSignIn hchange

/-! ## The flows around the user -/

theorem masked_enterChat (server : Server) (h : s.client.Masked) (who : Identity) :
    (s.enterChat server who).client.Masked := by
  have hentered : (s.onClient (·.enterChat who)).client.Masked := ⟨h.signIn, nofun⟩
  have hloaded : Confined server (fun _ => True) Client.account (s.onClient (·.enterChat who))
      (s.enterChat server who) := loadChannels_confined server _ trivial trivial
  exact masked_of_account hentered hloaded.kept

theorem masked_signIn (server : Server) (h : s.client.Masked) :
    (s.signIn server).1.client.Masked := by
  have hask := client_ask server s (.login s.client.signIn.loginRequest)
  rw [signIn_eq]
  generalize s.ask server (.login s.client.signIn.loginRequest) = answer at hask ⊢
  obtain ⟨t, reply⟩ := answer
  dsimp only at hask ⊢
  rw [← hask] at h
  split
  · dsimp only
    exact masked_onSignIn h fun f hf => ⟨hf.password, hf.newPassword, hf.confirmPassword⟩
  · split <;> dsimp only
    · exact masked_onSignIn h fun f hf => ⟨hf.password, hf.newPassword, hf.confirmPassword⟩
    · exact masked_onSignIn h fun f hf => ⟨hf.password, hf.newPassword, hf.confirmPassword⟩

theorem masked_register (server : Server) (h : s.client.Masked) :
    (s.register server).client.Masked := by
  rw [register_eq]
  split
  · exact masked_onSignIn h fun f hf => ⟨hf.password, hf.newPassword, hf.confirmPassword⟩
  · rename_i account _
    have hask := client_ask server s (.register account)
    generalize s.ask server (.register account) = answer at hask ⊢
    obtain ⟨t, reply⟩ := answer
    dsimp only at hask ⊢
    rw [← hask] at h
    split
    · exact masked_onSignIn h fun f hf => ⟨hf.password, hf.newPassword, hf.confirmPassword⟩
    · exact masked_onSignIn h fun f hf => ⟨hf.password, hf.newPassword, hf.confirmPassword⟩

theorem masked_submit (server : Server) (h : s.client.Masked) :
    (s.submit server).client.Masked := by
  unfold submit
  split
  · exact masked_register server h
  · have hsign := masked_signIn server h
    generalize s.signIn server = answer at hsign ⊢
    obtain ⟨t, who⟩ := answer
    cases who with
    | none => exact hsign
    | some who =>
        dsimp only at hsign ⊢
        rw [← client_remember] at hsign
        exact masked_enterChat server hsign who

theorem masked_signOut (server : Server) (s : Station) : (s.signOut server).client.Masked := by
  have hleft : ((s.ask server .logout).1.onClient fun c => c.signOut.1).client.Masked :=
    (s.ask server .logout).1.client.masked_signOut
  have hreleased : Confined server (fun _ => True) Client.account
      ((s.ask server .logout).1.onClient fun c => c.signOut.1) (s.signOut server) :=
    release_confined server _
  exact masked_of_account hleft hreleased.kept

theorem masked_openProfile (server : Server) (h : s.client.Masked) :
    (s.openProfile server).client.Masked := by
  have hask := client_ask server s .me
  rw [openProfile_eq]
  generalize s.ask server .me = answer at hask ⊢
  obtain ⟨t, reply⟩ := answer
  dsimp only at hask ⊢
  rw [← hask] at h
  split
  · exact h.openOverlay rfl
  · exact h.openOverlay rfl

theorem masked_saveProfile (server : Server) (h : s.client.Masked) :
    (s.saveProfile server).1.client.Masked := by
  cases hopen : s.client.profile with
  | none =>
      rw [saveProfile_of_none server hopen]
      exact h
  | some p =>
      have hp := h.profile p hopen
      rw [saveProfile_eq server hopen]
      split
      · exact h.onProfile fun q hq => hq
      · rename_i update _
        have hask := client_ask server s (.updateMe update)
        generalize s.ask server (.updateMe update) = answer at hask ⊢
        obtain ⟨t, reply⟩ := answer
        dsimp only at hask ⊢
        rw [← hask] at h
        split
        · rename_i answer _
          have hsaved : (p.settled.saved update answer).Masked := hp
          exact (h.openOverlay hsaved).of_eq rfl rfl
        · exact h.onProfile fun q hq => hq

theorem masked_saveAndRemember (server : Server) (h : s.client.Masked) :
    (s.saveAndRemember server).client.Masked := by
  have hsave := masked_saveProfile server h
  unfold saveAndRemember
  generalize s.saveProfile server = answer at hsave ⊢
  obtain ⟨t, saved⟩ := answer
  cases saved with
  | true =>
      dsimp only at hsave ⊢
      rwa [client_remember]
  | false => exact hsave

theorem masked_deleteAccount (server : Server) (h : s.client.Masked) :
    (s.deleteAccount server).1.client.Masked := by
  cases hopen : s.client.profile with
  | none =>
      rw [deleteAccount_of_none server hopen]
      exact h
  | some p =>
      rw [deleteAccount_eq server hopen]
      split
      · have hask := client_ask server s .deleteMe
        generalize s.ask server .deleteMe = answer at hask ⊢
        obtain ⟨t, reply⟩ := answer
        dsimp only at hask ⊢
        rw [← hask] at h
        split
        · dsimp only
          exact masked_signOut server _
        · exact h.onProfile fun q hq => hq
      · exact h.onProfile fun q hq => hq

theorem masked_forget (h : s.client.Masked) : s.forget.client.Masked := h

/-! ## Turns -/

theorem Deed.masked (hdeed : Deed server s t) (h : s.client.Masked) : t.client.Masked := by
  have hflow : ∀ {u}, Confined server (fun _ => True) Client.account s u → u.client.Masked :=
    fun hu => masked_of_account h hu.kept
  -- The flows of the channels leave the form and the overlay alone; the others are gone through.
  cases hdeed with
  | rest => exact h
  | link e => exact hflow (onLink_confined server s e fun _ => trivial)
  | fill _ hmasked => exact h.onSignIn hmasked
  | submit _ => exact masked_submit server h
  | fillOverlay _ hmasked => exact h.onProfile hmasked
  | closeOverlay => exact h.closeOverlay
  | save => exact masked_saveAndRemember server (h.onProfile fun p hp => hp.cancelDelete)
  | signOut _ => exact masked_forget (masked_signOut server s)
  | undeleted _ => exact masked_deleteAccount server h
  | deleted _ => exact masked_forget (masked_deleteAccount server h)
  | closePrompt => exact h.of_eq rfl rfl
  | createChannel _ => exact hflow (createChannel_confined server s fun _ => trivial)
  | joinChannel _ =>
      exact hflow (joinChannel_confined server s (fun _ => trivial) (fun _ => trivial)
        fun _ => trivial)
  | @browse change hcore _ =>
      have haccount : (change s.client).core.account = s.client.core.account :=
        congrArg Client.account (hcore s.client)
      exact masked_of_account h haccount
  | ask _ _ prompt => exact h.of_eq rfl rfl
  | openProfile _ _ => exact masked_openProfile server h
  | home _ => exact hflow (Confined.selects .refl _)
  | newest _ => exact hflow (openNewest_confined server s)
  | load _ => exact hflow (loadChannels_confined server s trivial trivial)
  | openUnderCursor _ => exact hflow (openUnderCursor_confined server s)
  | delete _ id => exact hflow (deleteChannel_confined server s id trivial)
  | send => exact hflow (sendDraft_confined server s)

theorem masked_turns (server : Server) (h : s.client.Masked) (turns : List Turn) :
    (s.afterTurns server turns).client.Masked := by
  induction turns generalizing s with
  | nil => exact h
  | cons turn more ih => exact ih ((turn_deed server s turn).masked h)

theorem masked_resolveIdentity (server : Server) (bypass : Bool) (h : s.client.Masked) :
    (s.resolveIdentity server bypass).1.client.Masked := by
  unfold resolveIdentity
  split
  · exact h
  · have hask := client_ask server s .me
    generalize s.ask server .me = answer at hask ⊢
    dsimp only
    rwa [hask]

theorem masked_start (server : Server) (bypass : Bool) (h : s.client.Masked) :
    (s.start server bypass).2.client.Masked := by
  have hloading : ∀ message, (s.showLoading message).client.Masked := fun _ => h.of_eq rfl rfl
  have hresolve := masked_resolveIdentity server bypass (hloading checking)
  unfold start
  dsimp only
  generalize (s.showLoading checking).resolveIdentity server bypass = answer at hresolve ⊢
  obtain ⟨t, who⟩ := answer
  dsimp only at hresolve ⊢
  cases who with
  | none => exact ⟨SignIn.masked_fresh, hresolve.profile⟩
  | some who =>
      have hshown : (t.showLoading loadingChannels).client.Masked := hresolve.of_eq rfl rfl
      exact masked_enterChat server hshown who

/-- At every point of every run the passwords are masked; and no screen of any size tells two
clients apart that hide their passwords and differ in nothing but the texts of the passwords, as
long as these have as many characters, and as many of them before the cursor. -/
theorem passwords_unseen :
    (∀ (server : Server) (bypass : Bool) (agent : Agent) (kept : Option String) (now : Int)
      (turns : List Turn),
      ((start server bypass { agent := agent, kept := kept, now := now }).2.afterTurns server
        turns).client.Masked) ∧
    ∀ c d : Client, c.Masked → c.Twin d → ∀ width height,
      View.draw d width height = View.draw c width height := by
  constructor
  · intro server bypass agent kept now turns
    exact masked_turns server (masked_start server bypass Client.masked_fresh) turns
  · intro c d hidden htwin width height
    exact View.draw_twin htwin hidden width height

/-- Two passwords of seven characters, one of them with letters of two bytes. -/
theorem passwords_unseen_on_sign_in :
    let typed (password : String) (cursor : Nat) : Client :=
      { page := .signIn, signIn := { password := ⟨password, cursor, true⟩ } }
    (typed "hunter2" 3).Masked ∧ (typed "hunter2" 3).Twin (typed "ébène-1" 5) ∧
      View.draw (typed "ébène-1" 5) 60 16 = View.draw (typed "hunter2" 3) 60 16 := by
  intro typed
  have hidden : (typed "hunter2" 3).Masked := ⟨⟨rfl, rfl, rfl⟩, nofun⟩
  have hpassword : TextField.Twin ⟨"hunter2", 3, true⟩ ⟨"ébène-1", 5, true⟩ :=
    ⟨rfl, by decide, by decide +kernel⟩
  have htwin : (typed "hunter2" 3).Twin (typed "ébène-1" 5) :=
    ⟨_, _, ⟨_, _, _, hpassword, ⟨rfl, rfl, rfl⟩, ⟨rfl, rfl, rfl⟩, rfl⟩, .none, rfl⟩
  exact ⟨hidden, htwin, passwords_unseen.2 _ _ hidden htwin 60 16⟩

end ChatTerminal.Station
