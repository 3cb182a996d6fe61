import ChatTerminal.Proofs.Client.Coherent
import ChatTerminal.Proofs.Session.Renumbering
import ChatTerminal.View
/-!
# Clients that show the same

One client mirrors another if it differs in nothing that can be seen: in the numbers of its links,
in how far it is scrolled back where no messages are shown, and in whether its draft is marked as
hidden, which nothing asks for.  What a user does to a client keeps the mirroring, and mirrored
clients draw the same screens.
-/

namespace ChatTerminal

namespace Client

variable {n m : Nat} {c d : Client}

/-- The client with another session, scrolled back otherwise, and with its draft marked otherwise.
-/
def recast (c : Client) (session : Session) (scroll : Nat) (masked : Bool) : Client :=
  { c with session := session, scroll := scroll, draft := { c.draft with masked := masked } }

/-- The change leaves the session, the scrolling and the mark of the draft alone and does not hang on
them. -/
def Neutral (change : Client → Client) : Prop :=
  ∀ c session scroll masked,
    change (c.recast session scroll masked) = (change c).recast session scroll masked

theorem Neutral.session {change : Client → Client} (h : Neutral change) (c : Client) :
    (change c).session = c.session := by
  have hsame : change c = (change c).recast c.session c.scroll c.draft.masked := h c _ _ _
  rw [hsame]
  rfl

theorem Neutral.scroll {change : Client → Client} (h : Neutral change) (c : Client) :
    (change c).scroll = c.scroll := by
  have hsame : change c = (change c).recast c.session c.scroll c.draft.masked := h c _ _ _
  rw [hsame]
  rfl

theorem neutral_editPrompt (change : TextField → TextField) : Neutral (·.editPrompt change) := by
  intro c session scroll masked
  have hprompt : (c.recast session scroll masked).prompt = c.prompt := rfl
  unfold editPrompt
  dsimp only
  rw [hprompt]
  split <;> rfl

/-- What can be seen of `d` is what can be seen of `c`; the links that `c` numbers from `n` on, `d`
numbers from `m` on. -/
structure Mirrors (n m : Nat) (c d : Client) : Prop where
  beyond : c.session.Beyond n
  same : ∃ scroll masked, d = c.recast (c.session.renumber n m) scroll masked ∧
    (c.session.generation ≠ none → scroll = c.scroll)

theorem Mirrors.part (h : Mirrors n m c d) {α : Type} (part : Client → α)
    (hpart : ∀ c scroll masked,
      part (c.recast (c.session.renumber n m) scroll masked) = part c) : part d = part c := by
  obtain ⟨scroll, masked, rfl, -⟩ := h.same
  exact hpart c scroll masked

/-! ## Changes without effects -/

theorem Mirrors.change (h : Mirrors n m c d) (change : Client → Client)
    (hchange : Neutral change) : Mirrors n m (change c) (change d) := by
  obtain ⟨scroll, masked, rfl, hscroll⟩ := h.same
  rw [hchange]
  refine ⟨hchange.session c ▸ h.beyond, scroll, masked, ?_, ?_⟩
  · rw [hchange.session]
  · rw [hchange.session, hchange.scroll]
    exact hscroll

theorem Mirrors.editDraft (h : Mirrors n m c d) (edit : TextField → TextField)
    (hedit : ∀ f masked, edit { f with masked := masked } = { edit f with masked := masked }) :
    Mirrors n m { c with draft := edit c.draft } { d with draft := edit d.draft } := by
  obtain ⟨scroll, masked, rfl, hscroll⟩ := h.same
  refine ⟨h.beyond, scroll, masked, ?_, hscroll⟩
  exact congrArg (fun draft => { c with
    session := c.session.renumber n m, scroll := scroll, draft := draft }) (hedit c.draft masked)

/-- Scrolling matters only where messages may be shown. -/
theorem Mirrors.scrolled (h : Mirrors n m c d) (step : Nat → Nat) :
    Mirrors n m { c with scroll := step c.scroll } { d with scroll := step d.scroll } := by
  obtain ⟨scroll, masked, rfl, hscroll⟩ := h.same
  exact ⟨h.beyond, step scroll, masked, rfl, fun howned => congrArg step (hscroll howned)⟩

theorem Mirrors.continuing (h : Mirrors n m c d) :
    Mirrors n m { c with session := .continuing c.session }
      { d with session := .continuing d.session } := by
  obtain ⟨scroll, masked, rfl, hscroll⟩ := h.same
  exact ⟨⟨(Session.Origin.continuing c.session).sound, h.beyond.counted, nofun⟩, scroll, masked, rfl,
    fun howned => absurd rfl howned⟩

theorem Mirrors.roster (h : Mirrors n m c d) (channel : Nat) (members : Option (List Member)) :
    Mirrors n m (c.feed (.roster channel members)).1 (d.feed (.roster channel members)).1 := by
  have hbeyond := ((c.session.step_outcome (.input (.roster channel members))).beyond h.beyond).1
  have hgeneration := generation_roster c.session channel members
  obtain ⟨scroll, masked, rfl, hscroll⟩ := h.same
  refine ⟨hbeyond, scroll, masked, ?_, fun howned => hscroll (hgeneration ▸ howned)⟩
  exact congrArg (fun session => { c with
    session := session, scroll := scroll, draft := { c.draft with masked := masked } })
    (Session.roster_renumber c.session channel members)

theorem Mirrors.seed (h : Mirrors n m c d) (members : List Member) :
    Mirrors n m (c.feed (.seed members)).1 (d.feed (.seed members)).1 := by
  have hbeyond := ((c.session.step_outcome (.input (.seed members))).beyond h.beyond).1
  obtain ⟨scroll, masked, rfl, hscroll⟩ := h.same
  exact ⟨hbeyond, scroll, masked, rfl, hscroll⟩

/-! ## Changes with effects -/

/-- What a change comes to for two clients, one of which mirrors the other: clients of which the same
is true, and effects that are the same but for the numbers. -/
structure MirrorsWith (n m : Nat) (r r' : Client × List Effect) : Prop where
  client : Mirrors n m r.1 r'.1
  effects : r'.2 = r.2.map (Effect.renumber n m)
  beyond : ∀ e ∈ r.2, e.Beyond n

theorem Mirrors.select (h : Mirrors n m c d) (channel : Option Nat) :
    MirrorsWith n m (c.select channel) (d.select channel) := by
  obtain ⟨hbeyond, heffects⟩ := (c.session.select_outcome channel).beyond h.beyond
  obtain ⟨scroll, masked, rfl, hscroll⟩ := h.same
  have hselect := Session.select_renumber (m := m) h.beyond.counted channel
  refine ⟨⟨hbeyond, if c.session.active = channel then scroll else 0, masked, ?_, ?_⟩, ?_, heffects⟩
  · exact congrArg (fun r : Session × List Effect => { c with
      session := r.1
      scroll := if c.session.active = channel then scroll else 0
      cursor := rowOf c.directory channel
      draft := { c.draft with masked := masked } }) hselect
  · intro howned
    change (if c.session.active = channel then scroll else 0) =
      if c.session.active = channel then c.scroll else 0
    by_cases hself : c.session.active = channel
    · have hstays : (c.select channel).1.session = c.session := by
        rw [← hself]
        exact congrArg Prod.fst c.session.select_self
      rw [if_pos hself, if_pos hself, hscroll (hstays ▸ howned)]
    · rw [if_neg hself, if_neg hself]
  · exact congrArg Prod.snd hselect

theorem MirrorsWith.andFetch {r r' : Client × List Effect} (h : MirrorsWith n m r r')
    (channel : Nat) :
    MirrorsWith n m (r.1, r.2 ++ [.fetchMembers channel]) (r'.1, r'.2 ++ [.fetchMembers channel]) := by
  refine ⟨h.client, ?_, fun e he => ?_⟩
  · rw [h.effects, List.map_append]
    rfl
  · rcases List.mem_append.mp he with he | he
    · exact h.beyond e he
    · exact List.mem_singleton.mp he ▸ trivial

theorem Mirrors.openUnderCursor (h : Mirrors n m c d) :
    MirrorsWith n m c.openUnderCursor d.openUnderCursor := by
  have hrow : d.underCursor = c.underCursor := h.part Client.underCursor fun _ _ _ => rfl
  unfold Client.openUnderCursor
  rw [hrow]
  exact h.select _

theorem Mirrors.openNewest (h : Mirrors n m c d) :
    MirrorsWith n m c.openNewest d.openNewest := by
  have hdirectory : d.directory = c.directory := h.part Client.directory fun _ _ _ => rfl
  unfold Client.openNewest
  rw [hdirectory]
  split
  · exact h.select _
  · exact ⟨h, rfl, nofun⟩

theorem Mirrors.link (h : Mirrors n m c d) {e e' : Link.Event} (he : e.Matches n m e') :
    MirrorsWith n m (c.feed (.link e)) (d.feed (.link e')) := by
  obtain ⟨hbeyond, heffects⟩ := (c.session.onEvent_outcome e).beyond h.beyond
  have hgeneration : (c.session.onEvent e).1.generation = c.session.generation :=
    (c.session.onEvent_keeps e).2.1
  have hevent := Session.onEvent_renumber h.beyond he
  obtain ⟨scroll, masked, rfl, hscroll⟩ := h.same
  refine ⟨⟨hbeyond, scroll, masked, ?_, fun howned => hscroll (hgeneration ▸ howned)⟩, ?_, heffects⟩
  · exact congrArg (fun r : Session × List Effect => { c with
      session := r.1, scroll := scroll, draft := { c.draft with masked := masked } }) hevent
  · exact congrArg Prod.snd hevent

theorem sendDraft_eq (c : Client) :
    c.sendDraft = (if (c.session.send c.draft.value).isEmpty then c
      else { c with draft := c.draft.clear }, c.session.send c.draft.value) := rfl

theorem Mirrors.sendDraft (h : Mirrors n m c d) :
    MirrorsWith n m c.sendDraft d.sendDraft := by
  have hsend : d.session.send d.draft.value =
      (c.session.send c.draft.value).map (Effect.renumber n m) := by
    obtain ⟨scroll, masked, rfl, -⟩ := h.same
    exact c.session.send_renumber c.draft.value
  have hbeyond := ((c.session.send_outcome c.draft.value).beyond h.beyond).2
  have hclear : Mirrors n m { c with draft := c.draft.clear } { d with draft := d.draft.clear } :=
    h.editDraft TextField.clear fun _ _ => rfl
  rw [sendDraft_eq, sendDraft_eq, hsend, List.isEmpty_map]
  generalize c.session.send c.draft.value = effects at hbeyond ⊢
  refine ⟨?_, rfl, hbeyond⟩
  cases effects with
  | nil => exact h
  | cons e effects => exact hclear

theorem Mirrors.signOut (h : Mirrors n m c d) : MirrorsWith n m c.signOut d.signOut := by
  obtain ⟨hbeyond, heffects⟩ := (Session.Outcome.departed c.session.reset_departure).beyond h.beyond
  have hreset := Session.reset_renumber (m := m) h.beyond.counted
  obtain ⟨scroll, masked, rfl, hscroll⟩ := h.same
  refine ⟨⟨hbeyond, scroll, masked, ?_, ?_⟩, ?_, heffects⟩
  · exact congrArg (fun r : Session × List Effect => { c with
      session := r.1, profile := none, directory := .empty, identity := none, signIn := {}
      page := .signIn, scroll := scroll, draft := { c.draft with masked := masked } }) hreset
  · intro howned
    by_cases hactive : c.session.active = none
    · refine hscroll ?_
      change c.session.reset.1.generation ≠ none at howned
      rwa [Session.reset_of_active_none hactive] at howned
    · change c.session.reset.1.generation ≠ none at howned
      rw [Session.reset_of_active_some hactive] at howned
      exact absurd rfl howned
  · exact congrArg Prod.snd hreset

theorem Mirrors.enterChat (h : Mirrors n m c d) (who : Identity) :
    Mirrors n m (c.enterChat who) (d.enterChat who) := by
  have hcleared := h.continuing.editDraft TextField.clear fun _ _ => rfl
  exact hcleared.change (fun c => { c.clearBanners with
    identity := some who, directory := .empty, panel := .sidebar, cursor := 0, prompt := none
    profile := none, page := .chat }) fun _ _ _ _ => rfl

/-! ## Screens -/

/-- Where no messages are shown, how far they are scrolled back cannot be seen. -/
theorem Mirrors.messages (h : Mirrors n m c d) (area : Screen.Area) :
    View.messages area d = View.messages area c := by
  obtain ⟨scroll, masked, rfl, hscroll⟩ := h.same
  cases howned : c.session.generation with
  | some g =>
      rw [hscroll (howned ▸ Option.some_ne_none g)]
      rfl
  | none =>
      have hsilent : c.session.messages = [] :=
        h.beyond.sound.unspoken (.inl (h.beyond.sound.idle_iff.mpr howned))
      unfold View.messages
      change (if c.session.messages.isEmpty then _ else _) = _
      dsimp only
      rw [hsilent]
      rfl

theorem Mirrors.channelPage (h : Mirrors n m c d) (area : Screen.Area) :
    View.channelPage area d = View.channelPage area c := by
  have hdraft : ∀ area, View.draft area d = View.draft area c := fun area =>
    h.part (View.draft area) fun _ _ _ => rfl
  unfold View.channelPage
  dsimp only
  rw [h.messages, hdraft]

theorem Mirrors.draw (h : Mirrors n m c d) (width height : Nat) :
    View.draw d width height = View.draw c width height := by
  have hpage : d.page = c.page := h.part Client.page fun _ _ _ => rfl
  have hsignIn : d.signIn = c.signIn := h.part Client.signIn fun _ _ _ => rfl
  have hchat : ∀ screen, View.chat screen d = View.chat screen c := by
    intro screen
    have hprompt : d.prompt = c.prompt := h.part Client.prompt fun _ _ _ => rfl
    have hprofile : d.profile = c.profile := h.part Client.profile fun _ _ _ => rfl
    have hhome : d.isHome = c.isHome := h.part Client.isHome fun _ _ _ => rfl
    have hheader : ∀ area, View.header area d = View.header area c := fun area =>
      h.part (View.header area) fun _ _ _ => rfl
    have hstatus : ∀ area, View.statusBar area d = View.statusBar area c := fun area =>
      h.part (View.statusBar area) fun _ _ _ => rfl
    have hmembers : ∀ area, View.members area d = View.members area c := fun area =>
      h.part (View.members area) fun _ _ _ => rfl
    have hlanding : ∀ area, View.home area d = View.home area c := fun area =>
      h.part (View.home area) fun _ _ _ => rfl
    have hsidebar : ∀ area, View.sidebar area d = View.sidebar area c := fun area =>
      h.part (View.sidebar area) fun _ _ _ => rfl
    have hasking : ∀ which, View.prompt screen d which = View.prompt screen c which := fun which =>
      h.part (View.prompt screen · which) fun _ _ _ => rfl
    unfold View.chat View.body
    simp only [hprompt, hprofile, hhome, hheader, hstatus, hmembers, hlanding, hsidebar,
      hasking, h.channelPage]
  unfold View.draw View.scene
  rw [hpage, hsignIn]
  simp only [hchat]

end Client

end ChatTerminal
