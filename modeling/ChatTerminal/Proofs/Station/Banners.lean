import ChatTerminal.Proofs.Station.Upkeep
/-!
# Banners

The form to sign in, the sidebar and the profile overlay each have room for an error and for a
message.  What an attempt of the user comes to is shown in one of them: an attempt that comes to
nothing shows an error and no message, and one that succeeds leaves no error behind.
-/

namespace ChatTerminal

/-! ## Where an attempt shows how it ended -/

structure Banners where
  error : String
  message : String
deriving Repr, DecidableEq

inductive Scope where
  | signIn
  | sidebar
  | overlay
deriving Repr, DecidableEq

/-- The banners of a scope; the overlay has some only while it is open. -/
def Client.banners? (c : Client) : Scope → Option Banners
  | .signIn => some ⟨c.signIn.error, c.signIn.message⟩
  | .sidebar => some ⟨c.sidebarError, c.sidebarMessage⟩
  | .overlay => c.profile.map fun p => ⟨p.error, p.message⟩

def Reply.ownText? (r : Reply) : Option String :=
  match r.content? with
  | .error (.refused _ text) => text
  | _ => none

namespace Reply

variable {α : Type} {read : Json.Tree → Option α} {r : Reply}

theorem ownText?_of_value (h : ∃ a, r.value? read = .ok a) : r.ownText? = none := by
  obtain ⟨a, h⟩ := h
  unfold value? at h
  unfold ownText?
  cases hcontent : r.content? with
  | ok body => rfl
  | error e =>
      rw [hcontent] at h
      cases h

/-- The user is told the server's own text, else the text at hand. -/
theorem userText_of_value {e : Failure} (h : r.value? read = .error e) (fallback : String) :
    e.userText fallback = r.ownText?.getD fallback := by
  unfold value? at h
  unfold ownText?
  cases hcontent : r.content? with
  | ok body =>
      rw [hcontent] at h
      simp only [bind, Except.bind] at h
      split at h
      · cases h
      · obtain rfl := Except.error.inj h
        rfl
  | error e' =>
      rw [hcontent] at h
      obtain rfl : e' = e := Except.error.inj h
      cases e' with
      | refused status text => cases text <;> rfl
      | badBase | unreachable | undecodable => rfl

end Reply

theorem Refusal.message_ne (r : Refusal) : r.message ≠ "" := by
  cases r <;> decide

namespace Station

/-- What the user attempts: one of the flows, or a look at the profile. -/
inductive Attempt where
  | flow (f : Flow)
  | openProfile

namespace Attempt

def run (server : Server) (s : Station) : Attempt → Station
  | .flow f => s.follow server f
  | .openProfile => s.openProfile server

def scope : Attempt → Scope
  | .flow .signIn | .flow .register => .signIn
  | .flow .loadChannels | .flow .createChannel | .flow .joinChannel | .flow (.deleteChannel _) =>
    .sidebar
  | .flow .saveProfile | .flow .deleteAccount | .openProfile => .overlay

/-- The overlay is there to be saved; the deletion of the account is confirmed already. -/
def Ready (c : Client) : Attempt → Prop
  | .flow .saveProfile => ∃ p, c.profile = some p
  | .flow .deleteAccount => ∃ p, c.profile = some p ∧ p.armed = true
  | _ => True

def Fails (server : Server) (s : Station) : Attempt → Prop
  | .flow f => f.TurnedDown s.client ∨ f.Fails server s
  | .openProfile => (s.ask server .me).2.Fails UserRecord.ofTree?

/-- The text of its own with which the server refused credentials or an account. -/
def ownText? (server : Server) (s : Station) : Attempt → Option String
  | .flow .signIn => (s.ask server (.login s.client.signIn.loginRequest)).2.ownText?
  | .flow .register =>
    match s.client.signIn.registerRequest with
    | .ok account => (s.ask server (.register account)).2.ownText?
    | .error _ => none
  | _ => none

end Attempt

/-- An error is shown in the scope, and no message: the server's own text if there is one, else a
text that is not empty. -/
def Explains (c : Client) (scope : Scope) (own : Option String) : Prop :=
  ∃ error, c.banners? scope = some ⟨error, ""⟩ ∧ (error = "" ↔ own = some "") ∧
    ∀ text, own = some text → error = text

variable {server : Server} {s t : Station} {scope : Scope}

theorem explains_of_ne {c : Client} {error : String}
    (hbanners : c.banners? scope = some ⟨error, ""⟩) (hne : error ≠ "") : Explains c scope none :=
  ⟨error, hbanners, iff_of_false hne nofun, nofun⟩

theorem explains_own {c : Client} {own : Option String} (fallback : String) (hne : fallback ≠ "")
    (hbanners : c.banners? scope = some ⟨own.getD fallback, ""⟩) : Explains c scope own := by
  cases own with
  | none => exact explains_of_ne hbanners hne
  | some text =>
      refine ⟨text, hbanners, by simp, fun text' h => ?_⟩
      exact Option.some.inj h

theorem explains_showError (t : Station) {text : String} (hne : text ≠ "") :
    Explains (t.onClient (·.showError text)).client .sidebar none :=
  explains_of_ne rfl hne

theorem explains_refused (t : Station) {text : String} (hne : text ≠ "") :
    Explains (t.onSignIn (·.refused text)).client .signIn none :=
  explains_of_ne rfl hne

theorem explains_userText (t : Station) {α : Type} {read : Json.Tree → Option α} {reply : Reply}
    {e : Failure} (he : reply.value? read = .error e) {fallback : String} (hne : fallback ≠ "") :
    Explains (t.onSignIn (·.refused (e.userText fallback))).client .signIn reply.ownText? := by
  rw [Reply.userText_of_value he]
  exact explains_own fallback hne rfl

theorem explains_onProfile {p : Profile} (hopen : t.client.profile = some p)
    {change : Profile → Profile} {text : String} (herror : (change p).error = text)
    (hmessage : (change p).message = "") (hne : text ≠ "") :
    Explains (t.onProfile change).client .overlay none := by
  refine explains_of_ne ?_ hne
  have hbanners : (t.onProfile change).client.banners? .overlay =
      (t.client.profile.map change).map fun p => ⟨p.error, p.message⟩ := rfl
  rw [hbanners, hopen, ← herror, ← hmessage]
  rfl

/-! ## Attempts that come to nothing -/

theorem signIn_explains (server : Server) (s : Station)
    (h : (Attempt.flow .signIn).Fails server s) :
    Explains (s.follow server .signIn).client .signIn
      (Attempt.ownText? server s (.flow .signIn)) := by
  rcases h with hdown | hfails
  · exact hdown.elim
  · rw [follow, signIn_eq]
    unfold Flow.Fails at hfails
    unfold Attempt.ownText?
    dsimp only at hfails ⊢
    generalize s.ask server (.login s.client.signIn.loginRequest) = answer at hfails ⊢
    obtain ⟨t, reply⟩ := answer
    dsimp only at hfails ⊢
    rcases hfails with hreply | ⟨user, hvalue, hnobody⟩
    · obtain ⟨e, he⟩ := Reply.fails_iff.mp hreply
      rw [he]
      exact explains_userText t he (by decide)
    · rw [hvalue, Reply.ownText?_of_value ⟨user, hvalue⟩]
      dsimp only
      rw [hnobody]
      exact explains_refused t (by decide)

theorem register_explains (server : Server) (s : Station)
    (h : (Attempt.flow .register).Fails server s) :
    Explains (s.follow server .register).client .signIn
      (Attempt.ownText? server s (.flow .register)) := by
  rw [follow, register_eq]
  unfold Attempt.ownText?
  rcases h with ⟨r, hr⟩ | ⟨account, haccount, hreply⟩
  · rw [hr]
    exact explains_of_ne rfl r.message_ne
  · obtain ⟨e, he⟩ := Reply.fails_iff.mp hreply
    rw [haccount]
    dsimp only
    rw [he]
    exact explains_userText _ he (by decide)

theorem loadChannels_explains (server : Server) (s : Station)
    (h : (Attempt.flow .loadChannels).Fails server s) :
    Explains (s.follow server .loadChannels).client .sidebar none := by
  rcases h with hdown | hfails
  · exact hdown.elim
  · unfold Flow.Fails at hfails
    rw [follow, loadChannels]
    generalize s.askBoth server .ownedChannels .joinedChannels = answer at hfails ⊢
    obtain ⟨t, owned, joined⟩ := answer
    dsimp only at hfails ⊢
    split
    · rename_i howned hjoined
      rcases hfails with hreply | hreply
      · exact absurd hreply (not_fails_of_value howned)
      · exact absurd hreply (not_fails_of_value hjoined)
    · exact explains_showError t (by decide)

theorem createChannel_explains (server : Server) (s : Station)
    (h : (Attempt.flow .createChannel).Fails server s) :
    Explains (s.follow server .createChannel).client .sidebar none := by
  rw [follow, createChannel]
  rcases h with ⟨r, hr⟩ | ⟨name, hname, hreply⟩
  · rw [hr]
    exact explains_showError s r.message_ne
  · obtain ⟨e, he⟩ := Reply.fails_iff.mp hreply
    rw [hname]
    dsimp only
    rw [ask_onClient]
    dsimp only
    rw [he]
    exact explains_showError _ (by decide)

theorem joinChannel_explains (server : Server) (s : Station)
    (h : (Attempt.flow .joinChannel).Fails server s) :
    Explains (s.follow server .joinChannel).client .sidebar none := by
  rw [follow, joinChannel]
  rcases h with ⟨r, hr⟩ | ⟨search, hsearch, hfails⟩
  · rw [hr]
    exact explains_showError s r.message_ne
  · rw [hsearch]
    dsimp only
    rw [ask_onClient]
    generalize s.ask server (.searchChannel search.query) = answer at hfails ⊢
    obtain ⟨t, found⟩ := answer
    dsimp only at hfails ⊢
    rcases hfails with hfound | ⟨record, hrecord, hjoin⟩
    · obtain ⟨e, he⟩ := Reply.fails_iff.mp hfound
      rw [he]
      exact explains_showError _ (by decide)
    · obtain ⟨e, he⟩ := Reply.fails_iff.mp hjoin
      rw [hrecord]
      dsimp only
      rw [ask_onClient]
      dsimp only [ChannelRecord.toChannel]
      rw [he]
      exact explains_showError _ (by decide)

theorem deleteChannel_explains (server : Server) (s : Station) {id : Nat}
    (h : (Attempt.flow (.deleteChannel id)).Fails server s) :
    Explains (s.follow server (.deleteChannel id)).client .sidebar none := by
  rw [follow]
  cases howned : (s.client.directory.get? id).any (·.isOwnedBy s.client.userName) with
  | false =>
      rw [deleteChannel_of_not_owned server howned]
      exact explains_showError _ (by decide)
  | true =>
      rcases h with hforeign | hreply
      · exact absurd (howned.symm.trans hforeign) (by decide)
      · obtain ⟨e, he⟩ := Reply.refuses_iff.mp hreply
        rw [deleteChannel_of_owned server howned]
        dsimp only
        rw [he]
        exact explains_showError _ (by decide)

theorem saveProfile_explains (server : Server) (s : Station)
    (hready : (Attempt.flow .saveProfile).Ready s.client)
    (h : (Attempt.flow .saveProfile).Fails server s) :
    Explains (s.follow server .saveProfile).client .overlay none := by
  obtain ⟨p, hopen⟩ := hready
  rw [follow, saveProfile_eq server hopen]
  rcases h with hdown | ⟨q, update, hopen', hupdate, hreply⟩
  · obtain ⟨r, hr⟩ := hdown p hopen
    rw [hr]
    exact explains_onProfile hopen rfl rfl r.message_ne
  · obtain rfl : p = q := Option.some.inj (hopen.symm.trans hopen')
    obtain ⟨e, he⟩ := Reply.fails_iff.mp hreply
    have hstill : (s.ask server (.updateMe update)).1.client.profile = some p := by
      rw [client_ask, hopen]
    have hne : Profile.updateFailed ≠ "" := by decide
    rw [hupdate]
    dsimp only
    rw [he]
    exact explains_onProfile hstill rfl rfl hne

theorem deleteAccount_explains (server : Server) (s : Station)
    (hready : (Attempt.flow .deleteAccount).Ready s.client)
    (h : (Attempt.flow .deleteAccount).Fails server s) :
    Explains (s.follow server .deleteAccount).client .overlay none := by
  obtain ⟨p, hopen, harmed⟩ := hready
  rcases h with hdown | hreply
  · exact nomatch harmed.symm.trans (hdown p hopen)
  · obtain ⟨e, he⟩ := Reply.refuses_iff.mp hreply
    have hstill : (s.ask server .deleteMe).1.client.profile = some p := by
      rw [client_ask, hopen]
    have hne : Profile.deleteFailed ≠ "" := by decide
    rw [follow, deleteAccount_eq server hopen, harmed, if_pos rfl]
    dsimp only
    rw [he]
    exact explains_onProfile hstill rfl rfl hne

theorem openProfile_explains (server : Server) (s : Station)
    (h : Attempt.openProfile.Fails server s) :
    Explains (s.openProfile server).client .overlay none := by
  obtain ⟨e, he⟩ := Reply.fails_iff.mp h
  rw [openProfile_eq]
  dsimp only
  rw [he]
  exact explains_of_ne rfl (by decide)

/-- An attempt that is turned down or fails shows an error in its scope and no message there.  The
error is the text with which the server refused the credentials or the account, if it sent one;
only such a text can be empty. -/
theorem failure_explained (server : Server) (s : Station) (a : Attempt) (hready : a.Ready s.client)
    (hfails : a.Fails server s) :
    Explains (a.run server s).client a.scope (a.ownText? server s) := by
  cases a with
  | openProfile => exact openProfile_explains server s hfails
  | flow f =>
      cases f with
      | signIn => exact signIn_explains server s hfails
      | register => exact register_explains server s hfails
      | loadChannels => exact loadChannels_explains server s hfails
      | createChannel => exact createChannel_explains server s hfails
      | joinChannel => exact joinChannel_explains server s hfails
      | deleteChannel id => exact deleteChannel_explains server s hfails
      | saveProfile => exact saveProfile_explains server s hready hfails
      | deleteAccount => exact deleteAccount_explains server s hready hfails

/-- A name that is missing, and a profile that the server does not give. -/
theorem failure_explained_without_name :
    let server : Server := fun _ _ => .answered 503 "" []
    let agent : Agent := ⟨"http://[::1]", { scheme := "http".toList }, {}⟩
    let s : Station := { agent := agent }
    Explains ((Attempt.flow .createChannel).run server s).client .sidebar none ∧
      Explains (Attempt.openProfile.run server s).client .overlay none := by
  intro server agent s
  have hdown : Flow.createChannel.TurnedDown s.client := ⟨.emptyChannelName, by decide +kernel⟩
  have hreply : (s.ask server .me).2 = .answered 503 "" [] := by decide +kernel
  have hfails : Attempt.openProfile.Fails server s := by
    unfold Attempt.Fails
    rw [hreply]
    exact .refuses (.status 503 "" [] (by decide))
  exact ⟨failure_explained server s (.flow .createChannel) trivial (.inl hdown),
    failure_explained server s .openProfile trivial hfails⟩

/-- A server that refuses every request with an empty text: at the first sign-in nothing tells the
user that it failed. -/
theorem refusal_unexplained :
    let server : Server := fun _ _ => .answered 401 "\x7b\"error\":\"\"\x7d" []
    let agent : Agent := ⟨"http://[::1]", { scheme := "http".toList }, {}⟩
    let s := (start server false { agent := agent }).2.afterTurns server [.key ⟨.tab, false⟩]
    (Attempt.flow .signIn).Fails server s ∧
      ((Attempt.flow .signIn).run server s).client.banners? .signIn = some ⟨"", ""⟩ ∧
      (s.afterTurn server (.key ⟨.enter, false⟩)).requests.length = s.requests.length + 1 ∧
      (s.afterTurn server (.key ⟨.enter, false⟩)).client.page = .signIn ∧
      (s.afterTurn server (.key ⟨.enter, false⟩)).client.banners? .signIn = some ⟨"", ""⟩ := by
  intro server agent s
  have hreply : (s.ask server (.login s.client.signIn.loginRequest)).2 =
      .answered 401 "\x7b\"error\":\"\"\x7d" [] := by decide +kernel
  refine ⟨.inr (.inl ?_), ?_, ?_, ?_, ?_⟩
  · rw [hreply]
    exact .refuses (.status 401 _ [] (by decide))
  · decide +kernel
  · decide +kernel
  · decide +kernel
  · decide +kernel

/-! ## Attempts that succeed -/

def Clears (c : Client) (scope : Scope) : Prop :=
  ∃ message, c.banners? scope = some ⟨"", message⟩

theorem signIn_clears (server : Server) (s : Station)
    (h : ¬ (Attempt.flow .signIn).Fails server s) :
    Clears (s.follow server .signIn).client .signIn := by
  obtain ⟨-, hfails⟩ := not_or.mp h
  obtain ⟨hreply, hsomebody⟩ := not_or.mp hfails
  obtain ⟨user, hvalue⟩ := exists_value_of_not_fails hreply
  rw [follow, signIn_eq]
  dsimp only
  rw [hvalue]
  dsimp only
  cases hwho : user.bind (·.identity?) with
  | none => exact absurd ⟨user, hvalue, hwho⟩ hsomebody
  | some who => exact ⟨SignIn.welcomeBack, rfl⟩

theorem register_clears (server : Server) (s : Station)
    (h : ¬ (Attempt.flow .register).Fails server s) :
    Clears (s.follow server .register).client .signIn := by
  obtain ⟨hdown, hfails⟩ := not_or.mp h
  rw [follow, register_eq]
  cases haccount : s.client.signIn.registerRequest with
  | error r => exact absurd ⟨r, haccount⟩ hdown
  | ok account =>
      obtain ⟨answer, hvalue⟩ :=
        exists_value_of_not_fails fun hreply => hfails ⟨account, haccount, hreply⟩
      dsimp only
      rw [hvalue]
      exact ⟨SignIn.accountCreated, rfl⟩

theorem createChannel_clears (server : Server) (s : Station)
    (h : ¬ (Attempt.flow .createChannel).Fails server s) :
    Clears (s.follow server .createChannel).client .sidebar := by
  obtain ⟨hdown, hfails⟩ := not_or.mp h
  obtain ⟨record, hcreates⟩ := exists_creates hdown hfails
  rw [follow, (createChannel_of_creates hcreates).1]
  exact ⟨Channels.created, rfl⟩

theorem joinChannel_clears (server : Server) (s : Station)
    (h : ¬ (Attempt.flow .joinChannel).Fails server s) :
    Clears (s.follow server .joinChannel).client .sidebar := by
  obtain ⟨hdown, hfails⟩ := not_or.mp h
  obtain ⟨search, record, hjoins⟩ := exists_joins hdown hfails
  rw [follow, (joinChannel_of_joins hjoins).1]
  exact ⟨Channels.joined, rfl⟩

theorem deleteChannel_clears (server : Server) (s : Station) {id : Nat}
    (h : ¬ (Attempt.flow (.deleteChannel id)).Fails server s) :
    Clears (s.follow server (.deleteChannel id)).client .sidebar := by
  obtain ⟨hdown, hfails⟩ := not_or.mp h
  obtain ⟨content, hcontent⟩ := exists_content_of_not_refuses hfails
  rw [follow, deleteChannel_of_owned server (eq_true_of_ne_false hdown)]
  dsimp only
  rw [hcontent]
  exact ⟨Channels.deleted, rfl⟩

theorem saveProfile_clears (server : Server) (s : Station)
    (hready : (Attempt.flow .saveProfile).Ready s.client)
    (h : ¬ (Attempt.flow .saveProfile).Fails server s) :
    Clears (s.follow server .saveProfile).client .overlay := by
  obtain ⟨hdown, hfails⟩ := not_or.mp h
  obtain ⟨p, hopen⟩ := hready
  rw [follow, saveProfile_eq server hopen]
  cases hupdate : p.update with
  | error r =>
      refine absurd (fun q hq => ?_) hdown
      obtain rfl : p = q := Option.some.inj (hopen.symm.trans hq)
      exact ⟨r, hupdate⟩
  | ok update =>
      obtain ⟨answer, hvalue⟩ :=
        exists_value_of_not_fails fun hreply => hfails ⟨p, update, hopen, hupdate, hreply⟩
      dsimp only
      rw [hvalue]
      exact ⟨Profile.updated, rfl⟩

theorem openProfile_clears (server : Server) (s : Station)
    (h : ¬ Attempt.openProfile.Fails server s) : Clears (s.openProfile server).client .overlay := by
  obtain ⟨user, hvalue⟩ := exists_value_of_not_fails h
  rw [openProfile_eq]
  dsimp only
  rw [hvalue]
  exact ⟨"", rfl⟩

/-- Channels that load leave the banners of the sidebar as they are. -/
theorem banners_loadChannels (server : Server) (s : Station)
    (h : ¬ (Attempt.flow .loadChannels).Fails server s) :
    (s.follow server .loadChannels).client.banners? .sidebar = s.client.banners? .sidebar := by
  obtain ⟨owned, joined, hfetched⟩ := fetches_of_not_fails (not_or.mp h).2
  rw [follow, (loadChannels_of_fetches hfetched).1]
  rfl

/-- An attempt that succeeds leaves no error in its scope, whatever was shown there before; only
channels that load leave there what was shown. -/
theorem success_clears (server : Server) (s : Station) (a : Attempt) (hready : a.Ready s.client)
    (hsucceeds : ¬ a.Fails server s) :
    (a ≠ .flow .loadChannels → a ≠ .flow .deleteAccount →
        Clears (a.run server s).client a.scope) ∧
      (a = .flow .loadChannels →
        (a.run server s).client.banners? .sidebar = s.client.banners? .sidebar) := by
  refine ⟨fun hload hdelete => ?_, ?_⟩
  · cases a with
    | openProfile => exact openProfile_clears server s hsucceeds
    | flow f =>
        cases f with
        | signIn => exact signIn_clears server s hsucceeds
        | register => exact register_clears server s hsucceeds
        | loadChannels => exact absurd rfl hload
        | createChannel => exact createChannel_clears server s hsucceeds
        | joinChannel => exact joinChannel_clears server s hsucceeds
        | deleteChannel id => exact deleteChannel_clears server s hsucceeds
        | saveProfile => exact saveProfile_clears server s hready hsucceeds
        | deleteAccount => exact absurd rfl hdelete
  · rintro rfl
    exact banners_loadChannels server s hsucceeds

theorem loads_of_empty (h : (s.askBoth server .ownedChannels .joinedChannels).2 =
    (.answered 200 "[]" [], .answered 200 "[]" [])) :
    ¬ (Attempt.flow .loadChannels).Fails server s := by
  have hempty : ¬ (Reply.answered 200 "[]" []).Fails (Json.Tree.list ChannelRecord.ofTree?) :=
    not_fails_of_value (a := []) rfl
  refine not_or.mpr ⟨id, ?_⟩
  unfold Flow.Fails
  dsimp only
  rw [h]
  exact not_or.mpr ⟨hempty, hempty⟩

/-- A profile that loads over an error, and channels that load below one. -/
theorem success_clears_on_profile :
    let server : Server := fun _ r =>
      .answered 200 (if r.target = "/api/me" then "\x7b\"id\":7\x7d" else "[]") []
    let agent : Agent := ⟨"http://[::1]", { scheme := "http".toList }, {}⟩
    let client : Client :=
      { sidebarError := Channels.deleteFailed, profile := some { error := Profile.loadFailed } }
    let s : Station := { agent := agent, client := client }
    Clears (Attempt.openProfile.run server s).client .overlay ∧
      ((Attempt.flow .loadChannels).run server s).client.banners? .sidebar =
        some ⟨Channels.deleteFailed, ""⟩ := by
  intro server agent client s
  have hme : (s.ask server .me).2 = .answered 200 "\x7b\"id\":7\x7d" [] := by decide +kernel
  have hopens : ¬ Attempt.openProfile.Fails server s := by
    unfold Attempt.Fails
    rw [hme]
    exact not_fails_of_value (a := ⟨7, none, none⟩) rfl
  have hlisted : (s.askBoth server .ownedChannels .joinedChannels).2 =
      (.answered 200 "[]" [], .answered 200 "[]" []) := by decide +kernel
  have hloads := loads_of_empty hlisted
  refine ⟨(success_clears server s .openProfile trivial hopens).1 nofun nofun, ?_⟩
  exact (success_clears server s (.flow .loadChannels) trivial hloads).2 rfl

/-- The channels do not load at the start, and load when the user asks for them again: the error of
the start is still shown. -/
theorem error_outlives_reload :
    let server : Server := fun past _ =>
      if past.length < 2 then .answered 500 "" [] else .answered 200 "[]" []
    let agent : Agent := ⟨"http://[::1]", { scheme := "http".toList }, {}⟩
    let s := (start server true { agent := agent }).2
    s.client.banners? .sidebar = some ⟨Channels.loadFailed, ""⟩ ∧
      ¬ (Attempt.flow .loadChannels).Fails server s ∧
      ((Attempt.flow .loadChannels).run server s).client.banners? .sidebar =
        some ⟨Channels.loadFailed, ""⟩ ∧
      (s.afterTurn server (.key (Key.ofChar 'r'))).requests.length = s.requests.length + 2 ∧
      (s.afterTurn server (.key (Key.ofChar 'r'))).client.banners? .sidebar =
        some ⟨Channels.loadFailed, ""⟩ := by
  intro server agent s
  have hlisted : (s.askBoth server .ownedChannels .joinedChannels).2 =
      (.answered 200 "[]" [], .answered 200 "[]" []) := by decide +kernel
  refine ⟨?_, loads_of_empty hlisted, ?_, ?_, ?_⟩
  · decide +kernel
  · decide +kernel
  · decide +kernel
  · decide +kernel

end Station

end ChatTerminal
