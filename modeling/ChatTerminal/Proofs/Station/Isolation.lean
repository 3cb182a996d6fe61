import ChatTerminal.Proofs.Station.Confined
import ChatTerminal.Proofs.Station.Mirrored
/-!
# Users of one process

One user signs out and another enters.  What the first one left in the two prompts is still there,
as nothing clears them; but for that, whatever was typed, joined, received or selected before cannot
be told from what the next user sees, asks the server or asks the links.
-/

namespace ChatTerminal

inductive Turn.Matches (n m : Nat) : Turn → Turn → Prop where
  | key (k : Key) : Turn.Matches n m (.key k) (.key k)
  | link {e e' : Link.Event} (h : e.Matches n m e') : Turn.Matches n m (.link e) (.link e')

namespace Station

variable {server server' : Server} {s₀ t₀ s t : Station}

/-! ## Keys -/

theorem Mirrors.pressOnSignIn (h : Mirrors s₀ t₀ s t)
    (hserver : AnswerAlike s₀ t₀ server server') (k : Key) :
    MirrorsWith s₀ t₀ (s.pressOnSignIn server k) (t.pressOnSignIn server' k) := by
  obtain ⟨code, control⟩ := k
  unfold Station.pressOnSignIn
  rw [h.form]
  split
  · exact .mk _ _ h _
  · split
    · dsimp only
      split
      · exact .mk _ _ (h.onSignIn _) _
      · exact .mk _ _ h _
    · dsimp only
      split
      · exact .mk _ _ h _
      · exact .mk _ _ (h.onSignIn _) _
      · exact .mk _ _ (h.onSignIn _) _
      · exact .mk _ _ (h.onSignIn _) _
      · exact .mk _ _ (h.onSignIn _) _
      · split
        · exact .mk _ _ (h.submit hserver) _
        · exact .mk _ _ (h.onSignIn _) _
      · exact .mk _ _ (h.onSignIn _) _

theorem Mirrors.pressControlOnProfile (h : Mirrors s₀ t₀ s t)
    (hserver : AnswerAlike s₀ t₀ server server') (code : Key.Code) :
    Mirrors s₀ t₀ (s.pressControlOnProfile server code)
      (t.pressControlOnProfile server' code) := by
  unfold Station.pressControlOnProfile
  split
  · exact (h.signOut hserver).forget
  · have hdelete := h.deleteAccount hserver
    generalize s.deleteAccount server = answer at hdelete ⊢
    generalize t.deleteAccount server' = answer' at hdelete ⊢
    obtain ⟨u, v, hdeleted, deleted⟩ := hdelete
    cases deleted with
    | true => exact hdeleted.forget
    | false => exact hdeleted
  · exact h

theorem Mirrors.pressOnProfile (h : Mirrors s₀ t₀ s t)
    (hserver : AnswerAlike s₀ t₀ server server') (p : Profile) (k : Key) :
    Mirrors s₀ t₀ (s.pressOnProfile server p k) (t.pressOnProfile server' p k) := by
  obtain ⟨code, control⟩ := k
  have hcancelled := h.onProfile Profile.cancelDelete
  unfold Station.pressOnProfile
  dsimp only
  split
  · exact h.pressControlOnProfile hserver code
  · split
    · exact h.shows _ fun _ _ _ _ => rfl
    · split
      · exact h
      · split
        · exact hcancelled.onProfile _
        · exact hcancelled.onProfile _
        · exact hcancelled.onProfile _
        · exact hcancelled.onProfile _
        · exact hcancelled.saveAndRemember hserver
        · exact hcancelled.onProfile _

theorem Mirrors.pressOnPrompt (h : Mirrors s₀ t₀ s t)
    (hserver : AnswerAlike s₀ t₀ server server') (prompt : Prompt) (k : Key) :
    Mirrors s₀ t₀ (s.pressOnPrompt server prompt k) (t.pressOnPrompt server' prompt k) := by
  obtain ⟨code, control⟩ := k
  unfold Station.pressOnPrompt
  dsimp only
  split
  · exact h.shows _ fun _ _ _ _ => rfl
  · exact h.createChannel hserver
  · exact h.joinChannel hserver
  · exact h.shows _ (Client.neutral_editPrompt _)

theorem Mirrors.pressOnShell (h : Mirrors s₀ t₀ s t)
    (hserver : AnswerAlike s₀ t₀ server server') (code : Key.Code) :
    MirrorsWith s₀ t₀ (s.pressOnShell server code) (t.pressOnShell server' code) := by
  have hhome : t.client.isHome = s.client.isHome := h.part Client.isHome fun _ _ _ _ _ => rfl
  unfold Station.pressOnShell
  rw [hhome]
  split
  · exact .mk _ _ h _
  · exact .mk _ _ (h.shows _ fun _ _ _ _ => rfl) _
  · exact .mk _ _ (h.shows _ fun _ _ _ _ => rfl) _
  · exact .mk _ _ (h.shows _ fun _ _ _ _ => rfl) _
  · exact .mk _ _ (h.shows _ fun _ _ _ _ => rfl) _
  · exact .mk _ _ (h.openProfile hserver) _
  · exact .mk _ _ (h.select hserver _) _
  · split
    · exact .mk _ _ (h.performs hserver h.client.openNewest) _
    · exact .mk _ _ h _
  · exact .mk _ _ (h.loadChannels hserver) _
  · exact .mk _ _ h _

theorem Mirrors.pressOnSidebar (h : Mirrors s₀ t₀ s t)
    (hserver : AnswerAlike s₀ t₀ server server') (code : Key.Code) :
    MirrorsWith s₀ t₀ (s.pressOnSidebar server code) (t.pressOnSidebar server' code) := by
  have hrow : t.client.underCursor = s.client.underCursor :=
    h.part Client.underCursor fun _ _ _ _ _ => rfl
  have hclear := h.shows Client.clearBanners fun _ _ _ _ => rfl
  unfold Station.pressOnSidebar
  rw [hrow]
  split
  · exact .mk _ _ (h.shows _ fun _ _ _ _ => rfl) _
  · exact .mk _ _ (h.shows _ fun _ _ _ _ => rfl) _
  · exact .mk _ _ (h.shows _ fun _ _ _ _ => rfl) _
  · exact .mk _ _ (h.shows _ fun _ _ _ _ => rfl) _
  · exact .mk _ _ (hclear.performs hserver hclear.client.openUnderCursor) _
  · dsimp only
    split
    · exact .mk _ _ h _
    · exact .mk _ _ (h.deleteChannel hserver _) _
  · exact h.pressOnShell hserver _

theorem Mirrors.pressOnMessages (h : Mirrors s₀ t₀ s t)
    (hserver : AnswerAlike s₀ t₀ server server') (code : Key.Code) :
    MirrorsWith s₀ t₀ (s.pressOnMessages server code) (t.pressOnMessages server' code) := by
  have hup := h.onClient (h.client.scrolled (· + Client.scrollStep))
  have hdown := h.onClient (h.client.scrolled (· - Client.scrollStep))
  unfold Station.pressOnMessages
  split
  · exact .mk _ _ hup _
  · exact .mk _ _ hup _
  · exact .mk _ _ hdown _
  · exact .mk _ _ hdown _
  · exact h.pressOnShell hserver _

theorem press_masked (f : TextField) (code : Key.Code) (masked : Bool) :
    TextField.press { f with masked := masked } code = { f.press code with masked := masked } := by
  cases code <;> rfl

theorem Mirrors.pressOnDraft (h : Mirrors s₀ t₀ s t)
    (hserver : AnswerAlike s₀ t₀ server server') (code : Key.Code) :
    Mirrors s₀ t₀ (s.pressOnDraft server code) (t.pressOnDraft server' code) := by
  unfold Station.pressOnDraft
  split
  · exact h.shows _ fun _ _ _ _ => rfl
  · exact h.shows _ fun _ _ _ _ => rfl
  · exact h.shows _ fun _ _ _ _ => rfl
  · exact h.sendDraft hserver
  · exact h.onClient (h.client.editDraft (·.press code) fun f masked => press_masked f code masked)

theorem Mirrors.pressOnChat (h : Mirrors s₀ t₀ s t)
    (hserver : AnswerAlike s₀ t₀ server server') (k : Key) :
    MirrorsWith s₀ t₀ (s.pressOnChat server k) (t.pressOnChat server' k) := by
  have hprompt : t.client.prompt = s.client.prompt := h.part Client.prompt fun _ _ _ _ _ => rfl
  have hpanel : t.client.panel = s.client.panel := h.part Client.panel fun _ _ _ _ _ => rfl
  unfold Station.pressOnChat
  rw [h.profile, hprompt, hpanel]
  split
  · exact .mk _ _ (h.pressOnProfile hserver _ k) _
  · exact .mk _ _ (h.pressOnPrompt hserver _ k) _
  · exact h.pressOnSidebar hserver k.code
  · exact h.pressOnMessages hserver k.code
  · exact .mk _ _ (h.pressOnDraft hserver k.code) _

theorem Mirrors.press (h : Mirrors s₀ t₀ s t) (hserver : AnswerAlike s₀ t₀ server server')
    (k : Key) : MirrorsWith s₀ t₀ (s.press server k) (t.press server' k) := by
  have hpage : t.client.page = s.client.page := h.part Client.page fun _ _ _ _ _ => rfl
  unfold Station.press
  rw [hpage]
  split
  · exact .mk _ _ h _
  · exact h.pressOnSignIn hserver k
  · exact h.pressOnChat hserver k

/-! ## Turns -/

theorem Mirrors.turn (h : Mirrors s₀ t₀ s t) (hserver : AnswerAlike s₀ t₀ server server')
    {turn turn' : Turn} (hturn : turn.Matches s₀.client.session.lastGeneration
      t₀.client.session.lastGeneration turn') :
    MirrorsWith s₀ t₀ (s.turn server turn) (t.turn server' turn') := by
  cases hturn with
  | link he => exact .mk _ _ (h.onLink hserver he) _
  | key k =>
      unfold Station.turn
      dsimp only
      split
      · exact .mk _ _ h _
      · exact h.press hserver k

/-- The clients drawn on the way mirror each other, one by one, and so do the stations at the end. -/
theorem Mirrors.takeTurns (h : Mirrors s₀ t₀ s t) (hserver : AnswerAlike s₀ t₀ server server')
    {turns turns' : List Turn}
    (hturns : List.Forall₂ (Turn.Matches s₀.client.session.lastGeneration
      t₀.client.session.lastGeneration) turns turns') :
    List.Forall₂ (Client.Mirrors s₀.client.session.lastGeneration
        t₀.client.session.lastGeneration) (s.takeTurns server turns).1
        (t.takeTurns server' turns').1 ∧
      Mirrors s₀ t₀ (s.takeTurns server turns).2 (t.takeTurns server' turns').2 := by
  induction hturns generalizing s t with
  | nil => exact ⟨.nil, h⟩
  | @cons turn turn' more more' hturn _ ih =>
      have hnext := h.turn hserver hturn
      unfold Station.takeTurns
      generalize s.turn server turn = taken at hnext ⊢
      generalize t.turn server' turn' = taken' at hnext ⊢
      obtain ⟨u, v, hnext, verdict⟩ := hnext
      cases verdict with
      | quit => exact ⟨.cons h.client .nil, hnext⟩
      | stay =>
          obtain ⟨hdrawn, hlast⟩ := ih hnext
          exact ⟨.cons h.client hdrawn, hlast⟩

/-- Clients that mirror each other one by one draw the same row of screens. -/
theorem map_draw_eq {n m : Nat} {drawn drawn' : List Client}
    (h : List.Forall₂ (Client.Mirrors n m) drawn drawn') (width height : Nat) :
    drawn'.map (View.draw · width height) = drawn.map (View.draw · width height) := by
  induction h with
  | nil => rfl
  | cons hclient _ ih => rw [List.map_cons, List.map_cons, ih, hclient.draw]

/-! ## From one user to the next -/

def handOver (server : Server) (s : Station) (who : Identity) : Station :=
  (s.perform server Client.signOut).onClient (·.enterChat who)

theorem client_handOver (server : Server) (s : Station) (who : Identity) :
    (s.handOver server who).client = s.client.signOut.1.enterChat who := by
  have hreleased := (carryOutAll_calls server { s with client := s.client.signOut.1 }
    (reset_calls s.client.session)).1
  exact congrArg (·.enterChat who) hreleased

theorem base_handOver (server : Server) (s : Station) (who : Identity) :
    (s.handOver server who).agent.base = s.agent.base := by
  have hreleased : Confined server (fun _ => True) Client.account
      (s.onClient fun c => c.signOut.1) (s.perform server Client.signOut) :=
    release_confined server s
  exact (hreleased.asked rfl).below

/-- What one user leaves behind mirrors what another leaves behind, but for the prompts. -/
theorem mirrors_handOver (server server' : Server) {s t : Station} (who : Identity)
    (hbase : t.agent.base = s.agent.base)
    (hname : t.client.newChannelName = s.client.newChannelName)
    (hquery : t.client.searchQuery = s.client.searchQuery) :
    Mirrors (s.handOver server who) (t.handOver server' who) (s.handOver server who)
      (t.handOver server' who) := by
  refine ⟨?_, ?_, ⟨[], [], ?_, ?_, rfl⟩, ⟨[], ?_, ?_, nofun⟩⟩
  · rw [client_handOver, client_handOver]
    have hsession := Session.continuing_renumber s.client.signOut.1.session
      t.client.signOut.1.session
    refine ⟨Session.beyond_continuing _, t.client.scroll, t.client.draft.masked, ?_, ?_⟩
    · unfold Client.recast Client.enterChat Client.clearBanners
      dsimp only
      rw [show t.client.signOut.1.newChannelName = s.client.signOut.1.newChannelName from hname,
        show t.client.signOut.1.searchQuery = s.client.signOut.1.searchQuery from hquery]
      exact congrArg (fun session : Session => { s.client.signOut.1.enterChat who with
        session := session, scroll := t.client.scroll, draft := t.client.draft.clear })
        hsession.symm
    · exact fun howned => absurd rfl howned
  · rw [base_handOver, base_handOver, hbase]
  · rw [List.append_nil]
  · rw [List.append_nil]
  · rw [List.append_nil]
  · rw [List.map_nil, List.append_nil]

/-- What the next user sees, asks the server and asks the links hangs on nothing that the user before
did, apart from what was left in the two prompts. -/
theorem next_user_apart (server server' : Server) (s t : Station) (who : Identity)
    (turns turns' : List Turn) :
    let out := s.handOver server who
    let out' := t.handOver server' who
    let n := out.client.session.lastGeneration
    let m := out'.client.session.lastGeneration
    t.agent.base = s.agent.base →
    t.client.newChannelName = s.client.newChannelName →
    t.client.searchQuery = s.client.searchQuery →
    AnswerAlike out out' server server' →
    List.Forall₂ (Turn.Matches n m) turns turns' →
    let taken := out.takeTurns server turns
    let taken' := out'.takeTurns server' turns'
    (∀ width height, taken'.1.map (View.draw · width height) =
      taken.1.map (View.draw · width height)) ∧
    (∀ width height, View.draw taken'.2.client width height =
      View.draw taken.2.client width height) ∧
    (∃ asked asked', taken.2.requests = out.requests ++ asked ∧
      taken'.2.requests = out'.requests ++ asked' ∧
      asked'.map Request.bare = asked.map Request.bare) ∧
    ∃ calls, taken.2.linkCalls = out.linkCalls ++ calls ∧
      taken'.2.linkCalls = out'.linkCalls ++ calls.map (LinkCall.renumber n m) ∧
      ∀ call ∈ calls, call.Beyond n := by
  intro out out' n m hbase hname hquery hserver hturns taken taken'
  obtain ⟨hdrawn, hlast⟩ :=
    (mirrors_handOver server server' who hbase hname hquery).takeTurns hserver hturns
  refine ⟨fun width height => ?_, hlast.client.draw, hlast.requests, hlast.linkCalls⟩
  exact map_draw_eq hdrawn width height

/-- One user was reading a channel and had scrolled back, the other had just entered. -/
theorem next_user_apart_from_reader :
    let server : Server := fun _ _ => .dropped
    let agent : Agent := ⟨"http://[::1]", { scheme := "http".toList }, {}⟩
    let session : Session :=
      { active := some 7, state := .open, generation := some 3, lastGeneration := 3
        messages := [⟨"ann", "a secret", .sent 0⟩] }
    let s : Station :=
      { client := { page := .chat, session := session, scroll := 6 }, agent := agent }
    let t : Station := { client := { page := .chat }, agent := agent }
    let turns : List Turn := [.key (.ofChar 'r'), .link ⟨3, .closed⟩, .link ⟨4, .opened⟩]
    let turns' : List Turn := [.key (.ofChar 'r'), .link ⟨0, .closed⟩, .link ⟨1, .opened⟩]
    AnswerAlike (s.handOver server .developer) (t.handOver server .developer) server server ∧
      List.Forall₂ (Turn.Matches 3 0) turns turns' ∧
      ∀ width height,
        ((t.handOver server .developer).takeTurns server turns').1.map
            (View.draw · width height) =
          ((s.handOver server .developer).takeTurns server turns).1.map
            (View.draw · width height) := by
  intro server agent session s t turns turns'
  have hserver : AnswerAlike (s.handOver server .developer) (t.handOver server .developer) server
      server := fun _ _ _ _ _ _ => rfl
  have hturns : List.Forall₂ (Turn.Matches 3 0) turns turns' :=
    .cons (.key _) (.cons (.link ⟨rfl, rfl⟩) (.cons (.link ⟨rfl, rfl⟩) .nil))
  exact ⟨hserver, hturns,
    (next_user_apart server server s t .developer turns turns' rfl rfl rfl hserver hturns).1⟩

/-- A name typed into the prompt by the user before is what the next user asks the server to create a
channel by, with nothing typed. -/
theorem left_name_reaches_next_user :
    let server : Server := fun _ _ => .dropped
    let agent : Agent := ⟨"http://[::1]", { scheme := "http".toList }, {}⟩
    let fresh := (start server true { agent := agent }).2
    let typed := fresh.afterTurns server
      [.key (.ofChar 'c'), .key (.ofChar 'x'), .key ⟨.escape, false⟩]
    let asked : Station → List (Method × Option Fields) := fun s =>
      let out := s.handOver server .developer
      let taken := out.takeTurns server [.key (.ofChar 'c'), .key ⟨.enter, false⟩]
      (taken.2.requests.drop out.requests.length).map fun r => (r.method, r.body)
    asked typed = [(.post, some [("name", "x")])] ∧ asked fresh = [] := by
  decide +kernel

end Station

end ChatTerminal
