import ChatTerminal.Client
import ChatTerminal.Proofs.Client.Newest
import ChatTerminal.Proofs.Session.Lifecycle
/-!
# Clients whose parts agree

The parts of a client are changed apart from one another, so what they have to do with one another
is an invariant.  The session displays a channel of the directory or none; the user is known
exactly on the chat page; a form that is not waiting shows one text at most.  Each change of the
client keeps this, some of them under a condition on what they are given.
-/

namespace ChatTerminal

/-! ## Forms at rest -/

structure SignIn.Rested (f : SignIn) : Prop where
  loading : f.loading = false
  banner : f.error = "" ∨ f.message = ""

structure Profile.Rested (p : Profile) : Prop where
  loading : p.loading = false
  banner : p.error = "" ∨ p.message = ""

theorem SignIn.Rested.edit {f : SignIn} (h : f.Rested) (change : TextField → TextField) :
    (f.edit change).Rested := by
  unfold SignIn.edit SignIn.setField
  split <;> exact ⟨h.loading, h.banner⟩

theorem SignIn.Rested.setMode {f : SignIn} (h : f.Rested) (mode : SignIn.Mode) :
    (f.setMode mode).Rested := ⟨h.loading, .inl rfl⟩

theorem Profile.Rested.edit {p : Profile} (h : p.Rested) (change : TextField → TextField) :
    (p.edit change).Rested := by
  unfold Profile.edit Profile.setField
  split <;> exact ⟨h.loading, h.banner⟩

theorem Profile.Rested.cancelDelete {p : Profile} (h : p.Rested) : p.cancelDelete.Rested := by
  unfold Profile.cancelDelete
  split
  · exact ⟨h.loading, .inl rfl⟩
  · exact h

/-! ## The session and the directory -/

namespace Session

/-- The session displays a channel of the directory, or it displays nothing at all. -/
structure Fits (s : Session) (d : Directory) : Prop where
  sound : s.Sound
  unlisted : s.generation = none → s.members = []
  numbered : homeId ∉ d.ids
  displayed : ∀ id, s.active = some id → id ≠ homeId → id ∈ d.ids

variable {s : Session} {d d' : Directory}

theorem Origin.fits (o : Origin) : o.session.Fits .empty where
  sound := o.sound
  unlisted := by cases o <;> simp [Origin.session, Session.home, Session.continuing]
  numbered := List.not_mem_nil
  displayed := by cases o <;> simp [Origin.session, Session.home, Session.continuing]

theorem Fits.listed (h : s.Fits d) (hmore : ∀ id ∈ d.ids, id ∈ d'.ids)
    (hnumbered : homeId ∉ d'.ids) : s.Fits d' :=
  ⟨h.sound, h.unlisted, hnumbered, fun id hactive hlive => hmore id (h.displayed id hactive hlive)⟩

/-- What was on display does not matter to a selection, so the directory may have lost it. -/
theorem fits_select (hsound : s.Sound) (hunlisted : s.generation = none → s.members = [])
    (hnumbered : homeId ∉ d.ids) {channel : Option Nat}
    (hlisted : ∀ id, channel = some id → id ≠ homeId → id ∈ d.ids) :
    (s.select channel).1.Fits d := by
  by_cases hself : channel = s.active
  · rw [hself, select_self]
    exact ⟨hsound, hunlisted, hnumbered, hself ▸ hlisted⟩
  · cases hlive : isLive channel with
    | false =>
        rw [select_parked hself hlive]
        exact ⟨.parked s hlive, fun _ => rfl, hnumbered, hlisted⟩
    | true =>
        obtain ⟨id, rfl⟩ : ∃ id, channel = some id := by
          cases channel with
          | none => cases hlive
          | some id => exact ⟨id, rfl⟩
        have hid : id ≠ homeId := by simpa [isLive] using hlive
        rw [select_live hself hid]
        exact ⟨.asking s id hid, fun hnone => absurd hnone (Option.some_ne_none _), hnumbered,
          hlisted⟩

theorem Fits.onEvent (h : s.Fits d) (e : Link.Event) : (s.onEvent e).1.Fits d := by
  obtain ⟨hactive, hgeneration, -, hmembers⟩ := s.onEvent_keeps e
  refine ⟨(s.onEvent_outcome e).sound h.sound, ?_, h.numbered, ?_⟩
  · rw [hgeneration, hmembers]
    exact h.unlisted
  · rw [hactive]
    exact h.displayed

theorem Fits.setMembers (h : s.Fits d) (howned : s.generation ≠ none) (members : List Member) :
    { s with members := members }.Fits d :=
  ⟨⟨h.sound.idle_iff, h.sound.live_eq, h.sound.owned_last, h.sound.unspoken⟩,
    fun hnone => absurd hnone howned, h.numbered, h.displayed⟩

theorem Sound.owned_of_active (h : s.Sound) {id : Nat} (hactive : s.active = some id)
    (hlive : id ≠ homeId) : s.generation ≠ none := by
  intro hnone
  rcases h.parked_iff.mpr hnone with hnowhere | hhome
  · exact nomatch hactive.symm.trans hnowhere
  · exact hlive (Option.some.inj (hactive.symm.trans hhome))

theorem Fits.roster (h : s.Fits d) {channel : Nat} (hlive : channel ≠ homeId)
    (members : Option (List Member)) : (s.apply (.roster channel members)).1.Fits d := by
  unfold Session.apply
  dsimp only
  split
  · rename_i hactive
    exact h.setMembers (h.sound.owned_of_active hactive hlive) _
  · exact h

/-- A link that opens asks for the members of a channel other than the landing page. -/
theorem Sound.fetches_live (h : s.Sound) {e : Link.Event} {channel : Nat}
    (hfetch : .fetchMembers channel ∈ (s.onEvent e).2) : channel ≠ homeId := by
  obtain ⟨howned, -, -, hactive⟩ := (s.fetch_mem_onEvent e.generation e.report channel).mp hfetch
  obtain ⟨id, hid, hlive⟩ := h.active_of_owned howned
  rw [hactive] at hid
  exact Option.some.inj hid ▸ hlive

end Session

namespace Client

/-! ## The invariant -/

structure Vacant (directory : Directory) (session : Session) (prompt : Option Prompt)
    (profile : Option Profile) : Prop where
  directory : directory = .empty
  unowned : session.generation = none
  prompt : prompt = none
  profile : profile = none

structure Coherent (c : Client) : Prop where
  fits : c.session.Fits c.directory
  chat_iff : c.page = .chat ↔ c.identity.isSome
  apart : c.page ≠ .chat → Vacant c.directory c.session c.prompt c.profile
  single : c.prompt = none ∨ c.profile = none
  signIn : c.signIn.Rested
  profile : ∀ p, c.profile = some p → p.Rested
  banner : c.sidebarError = "" ∨ c.sidebarMessage = ""

variable {c d : Client}

theorem coherent_fresh : ({} : Client).Coherent where
  fits := Session.Origin.home.fits
  chat_iff := by simp
  apart := fun _ => ⟨rfl, rfl, rfl, rfl⟩
  single := .inl rfl
  signIn := ⟨rfl, .inl rfl⟩
  profile := nofun
  banner := .inl rfl

/-! ## Changes that touch one part -/

def core (c : Client) : Client :=
  { c with
    panel := .sidebar
    cursor := 0
    scroll := 0
    draft := {}
    newChannelName := {}
    searchQuery := {} }

theorem coherent_core : c.core.Coherent ↔ c.Coherent :=
  ⟨fun h => ⟨h.fits, h.chat_iff, h.apart, h.single, h.signIn, h.profile, h.banner⟩,
    fun h => ⟨h.fits, h.chat_iff, h.apart, h.single, h.signIn, h.profile, h.banner⟩⟩

theorem Coherent.of_core (h : c.Coherent) (hcore : d.core = c.core) : d.Coherent := by
  rw [← coherent_core, hcore, coherent_core]
  exact h

theorem Coherent.setBanners (h : c.Coherent) {error message : String}
    (hsingle : error = "" ∨ message = "") :
    { c with sidebarError := error, sidebarMessage := message }.Coherent :=
  ⟨h.fits, h.chat_iff, h.apart, h.single, h.signIn, h.profile, hsingle⟩

theorem Coherent.clearBanners (h : c.Coherent) : c.clearBanners.Coherent :=
  h.setBanners (.inl rfl)

theorem Coherent.showError (h : c.Coherent) (text : String) : (c.showError text).Coherent :=
  h.setBanners (.inr rfl)

theorem Coherent.showMessage (h : c.Coherent) (text : String) : (c.showMessage text).Coherent :=
  h.setBanners (.inl rfl)

theorem Coherent.onSignIn (h : c.Coherent) {change : SignIn → SignIn}
    (hrest : ∀ f, f.Rested → (change f).Rested) : (c.onSignIn change).Coherent :=
  ⟨h.fits, h.chat_iff, h.apart, h.single, hrest _ h.signIn, h.profile, h.banner⟩

theorem Coherent.closePrompt (h : c.Coherent) : { c with prompt := none }.Coherent :=
  ⟨h.fits, h.chat_iff, fun hpage =>
    ⟨(h.apart hpage).directory, (h.apart hpage).unowned, rfl, (h.apart hpage).profile⟩, .inl rfl,
    h.signIn, h.profile, h.banner⟩

theorem Coherent.setSession (h : c.Coherent) {s : Session} (hfits : s.Fits c.directory)
    (hunowned : c.page ≠ .chat → s.generation = none) : { c with session := s }.Coherent :=
  ⟨hfits, h.chat_iff, fun hpage =>
    ⟨(h.apart hpage).directory, hunowned hpage, (h.apart hpage).prompt, (h.apart hpage).profile⟩,
    h.single, h.signIn, h.profile, h.banner⟩

/-! ## Changes on the chat page -/

theorem Coherent.ask (h : c.Coherent) (onChat : c.page = .chat) (hclosed : c.profile = none)
    (prompt : Prompt) : (c.ask prompt).Coherent :=
  ⟨h.fits, h.chat_iff, fun hpage => absurd onChat hpage, .inr hclosed, h.signIn, h.profile,
    .inl rfl⟩

theorem Coherent.setProfile (h : c.Coherent) (onChat : c.page = .chat) {profile : Option Profile}
    (hsingle : c.prompt = none ∨ profile = none) (hrest : ∀ p, profile = some p → p.Rested) :
    { c with profile := profile }.Coherent :=
  ⟨h.fits, h.chat_iff, fun hpage => absurd onChat hpage, hsingle, h.signIn, hrest, h.banner⟩

/-- An overlay is open only on the chat page and without a prompt. -/
theorem Coherent.of_overlay (h : c.Coherent) {p : Profile} (hopen : c.profile = some p) :
    c.page = .chat ∧ c.prompt = none := by
  constructor
  · by_contra hpage
    exact nomatch hopen.symm.trans (h.apart hpage).profile
  · exact h.single.resolve_right fun hclosed => nomatch hopen.symm.trans hclosed

theorem Coherent.onProfile (h : c.Coherent) {change : Profile → Profile}
    (hrest : ∀ p, p.Rested → (change p).Rested) : (c.onProfile change).Coherent := by
  cases hopen : c.profile with
  | none =>
      have hself : c.onProfile change = c := by
        cases c
        simp_all [Client.onProfile]
      rw [hself]
      exact h
  | some p =>
      obtain ⟨onChat, hprompt⟩ := h.of_overlay hopen
      refine h.setProfile onChat (.inl hprompt) fun q hq => ?_
      rw [hopen] at hq
      exact Option.some.inj hq ▸ hrest p (h.profile p hopen)

theorem Coherent.closeOverlay (h : c.Coherent) : { c with profile := none }.Coherent :=
  ⟨h.fits, h.chat_iff, fun hpage =>
    ⟨(h.apart hpage).directory, (h.apart hpage).unowned, (h.apart hpage).prompt, rfl⟩, .inr rfl,
    h.signIn, nofun, h.banner⟩

theorem Coherent.setDirectory (h : c.Coherent) (onChat : c.page = .chat) {d : Directory}
    (hmore : ∀ id ∈ c.directory.ids, id ∈ d.ids) (hnumbered : homeId ∉ d.ids) :
    { c with directory := d }.Coherent :=
  ⟨h.fits.listed hmore hnumbered, h.chat_iff, fun hpage => absurd onChat hpage, h.single,
    h.signIn, h.profile, h.banner⟩

theorem Coherent.adopt (h : c.Coherent) (onChat : c.page = .chat) (who : Identity) :
    (c.adopt who).Coherent := by
  have hids := c.directory.ids_renameOwner c.userName who.displayName
  have hfits : c.session.Fits (c.directory.renameOwner c.userName who.displayName) :=
    h.fits.listed (fun id hid => hids ▸ hid) (hids ▸ h.fits.numbered)
  exact ⟨hfits, iff_of_true onChat rfl, fun hpage => absurd onChat hpage, h.single, h.signIn,
    h.profile, h.banner⟩

/-- A selection is coherent whatever was on display before, even if the directory lost it. -/
theorem coherent_select_of (h : c.Coherent) (onChat : c.page = .chat) {d : Directory}
    (hnumbered : homeId ∉ d.ids) {channel : Option Nat}
    (hlisted : ∀ id, channel = some id → id ≠ homeId → id ∈ d.ids) :
    ({ c with directory := d }.select channel).1.Coherent :=
  ⟨Session.fits_select h.fits.sound h.fits.unlisted hnumbered hlisted, h.chat_iff,
    fun hpage => absurd onChat hpage, h.single, h.signIn, h.profile, h.banner⟩

theorem Coherent.select (h : c.Coherent) (onChat : c.page = .chat) {channel : Option Nat}
    (hlisted : ∀ id, channel = some id → id ≠ homeId → id ∈ c.directory.ids) :
    (c.select channel).1.Coherent :=
  coherent_select_of h onChat h.fits.numbered hlisted

theorem underCursor_listed (c : Client) (hlive : c.underCursor ≠ homeId) :
    c.underCursor ∈ c.directory.ids := by
  unfold underCursor at hlive ⊢
  cases hrow : c.cursor with
  | zero => simp [hrow] at hlive
  | succ row =>
      cases hid : c.directory.idAt? row with
      | none => simp [hrow, hid] at hlive
      | some id => simpa [hid] using Directory.mem_ids_of_idAt? hid

theorem Coherent.openUnderCursor (h : c.Coherent) (onChat : c.page = .chat) :
    c.openUnderCursor.1.Coherent := by
  refine h.select onChat fun id hid hlive => ?_
  rw [← Option.some.inj hid] at hlive ⊢
  exact c.underCursor_listed hlive

theorem Coherent.openNewest (h : c.Coherent) (onChat : c.page = .chat) :
    c.openNewest.1.Coherent := by
  by_cases hempty : c.directory.channels = []
  · rw [openNewest_of_empty hempty]
    exact h
  · obtain ⟨newest, hgreatest, hopened⟩ := exists_openNewest hempty
    rw [hopened]
    exact h.select onChat fun id hid _ => Option.some.inj hid ▸ hgreatest.1

theorem Coherent.sendDraft (h : c.Coherent) : c.sendDraft.1.Coherent := by
  unfold Client.sendDraft
  dsimp only
  split
  · exact h
  · exact h.of_core rfl

/-! ## Events and rosters -/

theorem Coherent.onEvent (h : c.Coherent) (e : Link.Event) : (c.feed (.link e)).1.Coherent := by
  have hgeneration : (c.session.onEvent e).1.generation = c.session.generation :=
    (c.session.onEvent_keeps e).2.1
  exact h.setSession (h.fits.onEvent e) fun hpage =>
    hgeneration.trans (h.apart hpage).unowned

theorem generation_roster (s : Session) (channel : Nat) (members : Option (List Member)) :
    (s.apply (.roster channel members)).1.generation = s.generation := by
  unfold Session.apply
  dsimp only
  split <;> rfl

theorem Coherent.roster (h : c.Coherent) {channel : Nat} (hlive : channel ≠ homeId)
    (members : Option (List Member)) : (c.feed (.roster channel members)).1.Coherent := by
  exact h.setSession (h.fits.roster hlive members) fun hpage =>
    (generation_roster c.session channel members).trans (h.apart hpage).unowned

theorem Coherent.seed (h : c.Coherent) {id : Nat} (hactive : c.session.active = some id)
    (hlive : id ≠ homeId) (members : List Member) : (c.feed (.seed members)).1.Coherent := by
  have howned := h.fits.sound.owned_of_active hactive hlive
  exact h.setSession (h.fits.setMembers howned members) fun hpage =>
    absurd (h.apart hpage).unowned howned

/-! ## Pages -/

theorem Coherent.showLoading (h : c.Coherent) (hpage : c.page ≠ .chat) (message : String) :
    { c with page := .loading message }.Coherent := by
  have hnobody : ¬ c.identity.isSome := fun hsome => hpage (h.chat_iff.mpr hsome)
  exact ⟨h.fits, ⟨nofun, fun hsome => absurd hsome hnobody⟩, fun _ => h.apart hpage, h.single,
    h.signIn, h.profile, h.banner⟩

theorem Coherent.showSignIn (h : c.Coherent) (hpage : c.page ≠ .chat) : c.showSignIn.Coherent :=
  ⟨h.fits, ⟨nofun, nofun⟩, fun _ => h.apart hpage, h.single, ⟨rfl, .inl rfl⟩, h.profile, h.banner⟩

theorem coherent_enterChat (h : c.Coherent) (who : Identity) : (c.enterChat who).Coherent where
  fits := (Session.Origin.continuing c.session).fits
  chat_iff := iff_of_true rfl rfl
  apart := fun hpage => absurd rfl hpage
  single := .inl rfl
  signIn := h.signIn
  profile := nofun
  banner := .inl rfl

theorem coherent_signOut (h : c.Coherent) (hprompt : c.prompt = none) :
    c.signOut.1.Coherent := by
  have hfits : c.session.reset.1.Fits .empty := by
    by_cases hactive : c.session.active = none
    · rw [Session.reset_of_active_none hactive]
      have hsound := (Session.Departure.cleared hactive).sound h.fits.sound
      exact ⟨hsound, fun _ => rfl, List.not_mem_nil, fun id hid => nomatch hactive.symm.trans hid⟩
    · rw [Session.reset_of_active_some hactive]
      exact ⟨.parked _ rfl, fun _ => rfl, List.not_mem_nil, nofun⟩
  have hunowned : c.session.reset.1.generation = none := by
    by_cases hactive : c.session.active = none
    · rw [Session.reset_of_active_none hactive]
      exact h.fits.sound.parked_iff.mp (.inl hactive)
    · rw [Session.reset_of_active_some hactive]
      rfl
  exact ⟨hfits, ⟨nofun, nofun⟩, fun _ => ⟨rfl, hunowned, hprompt, rfl⟩, .inr rfl,
    ⟨rfl, .inl rfl⟩, nofun, h.banner⟩

/-! ## What it comes to -/

/-- The user is known exactly on the chat page; off it nothing of a chat page is left; on it the
channel on display is listed, and there is none exactly while the session is idle, with nothing to
show.  No two layers lie over the page, no form waits, and no form shows two texts. -/
structure InOrder (c : Client) : Prop where
  chat_iff : c.page = .chat ↔ c.identity.isSome
  apart : c.page ≠ .chat →
    c.directory.isEmpty ∧ c.session.state = .idle ∧ c.prompt = none ∧ c.profile = none
  displayed : c.page = .chat → ∀ id, c.activeId = some id → id ≠ homeId → c.directory.contains id
  home_iff : c.page = .chat → (c.isHome ↔ c.session.state = .idle)
  home_bare : c.page = .chat → c.isHome → c.session.messages = [] ∧ c.session.members = []
  single : c.prompt = none ∨ c.profile = none
  signIn : c.signIn.Rested
  profile : ∀ p, c.profile = some p → p.Rested
  banner : c.sidebarError = "" ∨ c.sidebarMessage = ""

theorem Coherent.isHome_iff (h : c.Coherent) : c.isHome ↔ c.session.state = .idle := by
  rw [h.fits.sound.idle_iff, ← h.fits.sound.parked_iff]
  unfold isHome activeChannel? activeId
  cases hactive : c.session.active with
  | none => simp
  | some id =>
      by_cases hlive : id = homeId
      · have hunlisted : c.directory.get? homeId = none := by
          rw [← Option.not_isSome_iff_eq_none, Directory.get?_isSome_iff]
          exact h.fits.numbered
        simp [hlive, hunlisted]
      · have hlisted := Directory.get?_isSome_iff.mpr (h.fits.displayed id hactive hlive)
        obtain ⟨channel, hchannel⟩ := Option.isSome_iff_exists.mp hlisted
        simp [hchannel, hlive]

theorem Coherent.inOrder (h : c.Coherent) : c.InOrder where
  chat_iff := h.chat_iff
  apart := fun hpage => by
    have hvacant := h.apart hpage
    exact ⟨by rw [hvacant.directory]; rfl, h.fits.sound.idle_iff.mpr hvacant.unowned,
      hvacant.prompt, hvacant.profile⟩
  displayed := fun _ id hactive hlive =>
    Directory.get?_isSome_iff.mpr (h.fits.displayed id hactive hlive)
  home_iff := fun _ => h.isHome_iff
  home_bare := fun _ hhome => by
    have hidle := h.isHome_iff.mp hhome
    exact ⟨h.fits.sound.unspoken (.inl hidle), h.fits.unlisted (h.fits.sound.idle_iff.mp hidle)⟩
  single := h.single
  signIn := h.signIn
  profile := h.profile
  banner := h.banner

end Client

end ChatTerminal
