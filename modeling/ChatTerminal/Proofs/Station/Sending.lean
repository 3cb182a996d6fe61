import ChatTerminal.Proofs.Client.Mirrored
import ChatTerminal.Proofs.Session.Lifecycle
import ChatTerminal.Proofs.Station.OneLink
/-!
# Sending the draft

Enter on the draft sends it if the link of the channel on display is open.  A link is open once its
opening was delivered to the session that owns it, and until an end of it is; so what Enter does is
told by the turns of the run.  No other turn sends anything.
-/

namespace ChatTerminal

open LinkCall

/-! ## What a session hears while it is steered -/

theorem Wire.hears_takeAll {w : Wire} {reports : Nat → List Link.Report}
    (hs : w.session.Hears reports) {steps : List Session.Step} (hsteer : ∀ x ∈ steps, x.Steers) :
    (w.takeAll steps).session.Hears reports := by
  induction steps generalizing w with
  | nil => exact hs
  | cons x more ih =>
      rw [List.forall_mem_cons] at hsteer
      have hstep : (w.take x).session.Hears reports := hs.step hsteer.1.not_event
      exact ih hstep hsteer.2

namespace Station

def sent (s : Station) : List (Nat × String) := s.linkCalls.filterMap sent?

variable {server : Server} {s t : Station} {reports : Nat → List Link.Report} {g : Nat}
  {r : Link.Report}

/-- Nothing is sent on the way, and the session hears nothing of its link. -/
structure Unheard (s t : Station) : Prop where
  sent : t.sent = s.sent
  hears : ∀ {reports}, s.client.session.Hears reports → t.client.session.Hears reports

theorem Unheard.of_takeAll {steps : List Session.Step} (hsteer : ∀ x ∈ steps, x.Steers)
    (hwire : t.wire = s.wire.takeAll steps) : Unheard s t := by
  constructor
  · have hsent : t.wire.sent = s.wire.sent := by
      rw [hwire]
      exact s.wire.sent_takeAll hsteer
    exact hsent
  · intro reports hs
    have hheard : (s.wire.takeAll steps).session.Hears reports := Wire.hears_takeAll hs hsteer
    rwa [← hwire] at hheard

theorem Unheard.trans {u : Station} (hst : Unheard s t) (htu : Unheard t u) : Unheard s u :=
  ⟨htu.sent.trans hst.sent, fun hs => htu.hears (hst.hears hs)⟩

theorem Steers.unheard (h : Steers s t) : Unheard s t := by
  obtain ⟨-, steps, hsteer, hwire⟩ := h
  exact .of_takeAll hsteer hwire

theorem Move.unheard (h : Move s t) : Unheard s t := by
  cases h with
  | quiet h => exact h.steers.unheard
  | steers onChat h => exact h.unheard
  | signsOut onChat h =>
      have hsteer : ∀ x ∈ [Session.Step.reset], x.Steers := List.forall_mem_singleton.mpr trivial
      exact .of_takeAll hsteer h.wire
  | enters apart h =>
      have hsession : t.client.session = .continuing s.client.session :=
        congrArg Wire.session h.wire
      have hcalls : t.linkCalls = s.linkCalls := congrArg Wire.calls h.wire
      constructor
      · rw [sent, hcalls]
        rfl
      · intro reports hs
        rw [hsession]
        exact ⟨nofun, hs.unheard⟩

theorem Moves.unheard (h : Moves s t) : Unheard s t := by
  induction h with
  | refl => exact ⟨rfl, id⟩
  | tail _ hmove ih => exact ih.trans hmove.unheard

/-! ## What is delivered -/

def delivery? (s : Station) (g : Nat) : Turn → Option Link.Report
  | .key _ => none
  | .link e => Session.Visit.heard? ⟨s.client.session, .input (.link e)⟩ g

def delivered (server : Server) (s : Station) (g : Nat) : List Turn → List Link.Report
  | [] => []
  | turn :: more => (s.delivery? g turn).toList ++ delivered server (s.afterTurn server turn) g more

/-- One of the turns was the report of the link, and the session owned the link by then. -/
def Delivered (server : Server) (s : Station) (turns : List Turn) (g : Nat) (r : Link.Report) :
    Prop :=
  ∃ before later, turns = before ++ .link ⟨g, r⟩ :: later ∧
    (s.afterTurns server before).client.session.generation = some g

theorem delivery?_eq_some_iff {turn : Turn} :
    s.delivery? g turn = some r ↔
      turn = .link ⟨g, r⟩ ∧ s.client.session.generation = some g := by
  cases turn with
  | key k => simp [delivery?]
  | link e =>
      obtain ⟨h, q⟩ := e
      by_cases howned : s.client.session.generation = some g
      · simp [delivery?, Session.Visit.heard?, howned]
      · simp [delivery?, Session.Visit.heard?, howned]

theorem mem_delivered {turns : List Turn} :
    r ∈ s.delivered server g turns ↔ s.Delivered server turns g r := by
  induction turns generalizing s with
  | nil => simp [delivered, Delivered]
  | cons turn more ih =>
      rw [delivered, List.mem_append, Option.mem_toList, delivery?_eq_some_iff, ih]
      constructor
      · rintro (⟨rfl, howned⟩ | ⟨before, later, rfl, howned⟩)
        · exact ⟨[], more, rfl, howned⟩
        · exact ⟨turn :: before, later, rfl, howned⟩
      · rintro ⟨before, later, hsplit, howned⟩
        cases before with
        | nil =>
            obtain ⟨rfl, rfl⟩ := List.cons.inj hsplit
            exact .inl ⟨rfl, howned⟩
        | cons first before =>
            obtain ⟨rfl, rfl⟩ := List.cons.inj hsplit
            exact .inr ⟨before, later, rfl, howned⟩

theorem delivered_concat (server : Server) (s : Station) (g : Nat) (turns : List Turn)
    (turn : Turn) :
    s.delivered server g (turns ++ [turn]) =
      s.delivered server g turns ++ ((s.afterTurns server turns).delivery? g turn).toList := by
  induction turns generalizing s with
  | nil => simp [delivered, afterTurns]
  | cons first turns ih =>
      rw [List.cons_append, delivered, ih, delivered, List.append_assoc]
      rfl

/-! ## Turns -/

theorem session_sendDraft (server : Server) (s : Station) :
    (s.sendDraft server).client.session = s.client.session := by
  rw [sendDraft, perform_eq, (carryOutAll_calls server _ (sendDraft_calls s.client)).1,
    Client.sendDraft_eq]
  dsimp only
  split <;> rfl

theorem hears_turn (htied : s.Tied) (hs : s.client.session.Hears reports) (turn : Turn) :
    (s.afterTurn server turn).client.session.Hears fun g =>
      reports g ++ (s.delivery? g turn).toList := by
  cases turn with
  | key k =>
      simp only [delivery?, Option.toList_none, List.append_nil]
      by_cases hsubmits : s.Submits k
      · rw [afterTurn, press_of_submits server hsubmits, session_sendDraft]
        exact hs
      · exact (press_moves server hsubmits).unheard.hears hs
  | link e =>
      have hheard := hs.onEvent htied.wire.sound e
      obtain ⟨-, rosters, hsteer, hwire⟩ := onLink_wire server s e
      have hlater := Wire.hears_takeAll (w := s.wire.take (.input (.link e))) hheard hsteer
      rwa [← hwire] at hlater

theorem hears_turns (server : Server) (htied : s.Tied) (hs : s.client.session.Hears fun _ => [])
    (turns : List Turn) :
    (s.afterTurns server turns).client.session.Hears fun g => s.delivered server g turns := by
  -- From the end: whether the last turn delivers its report depends on where the others led.
  induction turns using List.reverseRecOn with
  | nil => exact hs
  | append_singleton turns turn ih =>
      simp only [afterTurns_concat, delivered_concat]
      exact hears_turn (htied.turns turns) ih turn

theorem sent_turn (server : Server) (s : Station) {turn : Turn}
    (hturn : ¬ ∃ k, turn = .key k ∧ s.Submits k) : (s.afterTurn server turn).sent = s.sent := by
  cases turn with
  | key k =>
      have hother : ¬ s.Submits k := fun h => hturn ⟨k, rfl, h⟩
      exact (press_moves server hother).unheard.sent
  | link e =>
      obtain ⟨-, rosters, hsteer, hwire⟩ := onLink_wire server s e
      have hsent : (s.onLink server e).wire.sent = s.wire.sent := by
        rw [hwire, Wire.sent_takeAll _ hsteer, Wire.sent_take _ fun typed => by simp]
      exact hsent

/-! ## The draft -/

theorem sendDraft_of_open (server : Server) (howned : s.client.session.generation = some g)
    (hopen : s.client.session.state = .open) (htext : Text.trim s.client.draft.value ≠ "") :
    s.sendDraft server =
      { s with
        client := { s.client with draft := s.client.draft.clear }
        linkCalls := s.linkCalls ++ [.send g (Text.trim s.client.draft.value)] } := by
  have hsend : s.client.session.send s.client.draft.value =
      [.send g (Text.trim s.client.draft.value)] := by
    simp [Session.send, Session.isOpen, howned, hopen, htext]
  rw [sendDraft, perform_eq, Client.sendDraft_eq, hsend]
  rfl

theorem sendDraft_of_unsent (server : Server)
    (hsend : s.client.session.send s.client.draft.value = []) : s.sendDraft server = s := by
  rw [sendDraft, perform_eq, Client.sendDraft_eq, hsend]
  rfl

theorem Drafting.redraft {c : Client} (h : Drafting c) (draft : TextField) :
    Drafting { c with draft := draft } := ⟨h.onChat, h.closed, h.unasked, h.panel⟩

/-- Enter on the draft sends it, whether Control is held or not. -/
theorem turn_enter (server : Server) (h : Drafting s.client) (control : Bool) :
    s.turn server (.key ⟨.enter, control⟩) = (s.sendDraft server, .stay) := by
  have hgoes : (⟨.enter, control⟩ : Key) ≠ Key.interrupt := by simp [Key.interrupt]
  unfold turn
  dsimp only
  rw [if_neg hgoes]
  exact press_of_submits server ⟨h, rfl⟩

/-- The session owns the link, and of all that was delivered of it while the session owned it
there was an opening and no end. -/
structure Ready (server : Server) (s : Station) (turns : List Turn) (g : Nat) : Prop where
  owned : (s.afterTurns server turns).client.session.generation = some g
  opened : s.Delivered server turns g .opened
  unended : ∀ r, s.Delivered server turns g r → r.ends = false

section Draft

variable {turns : List Turn}
  (hs : (s.afterTurns server turns).client.session.Hears fun g => s.delivered server g turns)
  (hsession : t.client.session = (s.afterTurns server turns).client.session)

include hs hsession

theorem sendDraft_of_ready (hready : s.Ready server turns g)
    (htext : Text.trim t.client.draft.value ≠ "") :
    t.sendDraft server =
      { t with
        client := { t.client with draft := t.client.draft.clear }
        linkCalls := t.linkCalls ++ [.send g (Text.trim t.client.draft.value)] } := by
  have howned := hready.owned
  have hstate := hs.state g howned
  rw [← hsession] at howned hstate
  have hopen : t.client.session.state = .open := by
    rw [hstate, Link.stateOf_eq_open_iff]
    simp only [mem_delivered]
    exact ⟨hready.opened, hready.unended⟩
  exact sendDraft_of_open server howned hopen htext

theorem sendDraft_of_unready
    (h : ¬ ∃ g, s.Ready server turns g ∧ Text.trim t.client.draft.value ≠ "") :
    t.sendDraft server = t := by
  apply sendDraft_of_unsent
  unfold Session.send
  dsimp only
  split
  · rfl
  · rename_i hcontent
    simp only [Session.isOpen, Bool.or_eq_true, Bool.not_eq_true', not_or, Bool.not_eq_true,
      Bool.not_eq_false, beq_iff_eq] at hcontent
    obtain ⟨htext, hopen⟩ := hcontent
    cases howned : t.client.session.generation with
    | none => rfl
    | some g =>
        rw [hsession] at hopen howned
        rw [hs.state g howned, Link.stateOf_eq_open_iff] at hopen
        simp only [mem_delivered] at hopen
        exact absurd ⟨g, ⟨howned, hopen.1, hopen.2⟩, by simpa using htext⟩ h

end Draft

/-! ## Runs -/

theorem unheard_start (server : Server) (bypass : Bool) (agent : Agent) (kept : Option String)
    (now : Int) :
    Unheard { agent := agent, kept := kept, now := now }
      (start server bypass { agent := agent, kept := kept, now := now }).2 := by
  obtain ⟨t, hwire, -, hmoves⟩ :=
    start_moves server bypass { agent := agent, kept := kept, now := now }
  have hbefore : Unheard { agent := agent, kept := kept, now := now } t :=
    .of_takeAll (List.forall_mem_nil _) hwire
  exact hbefore.trans hmoves.unheard

/-- The text was sent by Enter on the draft, over a link that was ready by then. -/
def SentOnEnter (server : Server) (s : Station) (turns : List Turn) (g : Nat) (content : String) :
    Prop :=
  ∃ before k later, turns = before ++ .key k :: later ∧
    (s.afterTurns server before).Submits k ∧ s.Ready server before g ∧
      Text.trim (s.afterTurns server before).client.draft.value = content

theorem SentOnEnter.append {turns : List Turn} {content : String}
    (h : s.SentOnEnter server turns g content) (more : List Turn) :
    s.SentOnEnter server (turns ++ more) g content := by
  obtain ⟨before, k, later, rfl, hsubmits, hready, htext⟩ := h
  exact ⟨before, k, later ++ more, by simp, hsubmits, hready, htext⟩

section Begun

variable (htied : s.Tied) (hs : s.client.session.Hears fun _ => [])

include htied hs

theorem sentOnEnter_of_mem (hnothing : s.sent = []) {turns : List Turn} {content : String}
    (hmem : (g, content) ∈ (s.afterTurns server turns).sent) :
    s.SentOnEnter server turns g content := by
  induction turns using List.reverseRecOn with
  | nil => simp [afterTurns, hnothing] at hmem
  | append_singleton turns turn ih =>
      have hheard := hears_turns server htied hs turns
      rw [afterTurns_concat] at hmem
      -- A call is in the log of the turns before, or the last turn is the Enter that made it.
      by_cases hturn : ∃ k, turn = .key k ∧ (s.afterTurns server turns).Submits k
      · obtain ⟨k, rfl, hsubmits⟩ := hturn
        rw [afterTurn, press_of_submits server hsubmits] at hmem
        by_cases hsends : ∃ h, s.Ready server turns h ∧
            Text.trim (s.afterTurns server turns).client.draft.value ≠ ""
        · obtain ⟨h, hready, htext⟩ := hsends
          rw [sendDraft_of_ready hheard rfl hready htext, sent, List.filterMap_append,
            List.mem_append] at hmem
          rcases hmem with hold | hnew
          · exact (ih hold).append [.key k]
          · obtain ⟨rfl, rfl⟩ := Prod.mk.inj (List.mem_singleton.mp hnew)
            exact ⟨turns, k, [], rfl, hsubmits, hready, rfl⟩
        · rw [sendDraft_of_unready hheard rfl hsends] at hmem
          exact (ih hmem).append [.key k]
      · rw [sent_turn server _ hturn] at hmem
        exact (ih hmem).append [turn]

/-- After some turns, whatever the draft: Enter on it makes one call, which sends its text over the
live connection, and empties it, if that connection is ready and there is a text; else it does
nothing.  No other turn sends anything. -/
structure SendsOnce (server : Server) (s : Station) (turns : List Turn) : Prop where
  ready : Drafting (s.afterTurns server turns).client →
    ∀ (draft : TextField) (control : Bool) (g : Nat), s.Ready server turns g →
      Text.trim draft.value ≠ "" →
      let t := (s.afterTurns server turns).onClient fun c => { c with draft := draft }
      (live t.linkCalls).map Prod.fst = some g ∧
        t.turn server (.key ⟨.enter, control⟩) =
          ({ t with
              client := { t.client with draft := draft.clear }
              linkCalls := t.linkCalls ++ [.send g (Text.trim draft.value)] }, .stay)
  unready : Drafting (s.afterTurns server turns).client →
    ∀ (draft : TextField) (control : Bool),
      (¬ ∃ g, s.Ready server turns g ∧ Text.trim draft.value ≠ "") →
      let t := (s.afterTurns server turns).onClient fun c => { c with draft := draft }
      t.turn server (.key ⟨.enter, control⟩) = (t, .stay)
  others : ∀ turn, (¬ ∃ k, turn = .key k ∧ (s.afterTurns server turns).Submits k) →
    ((s.afterTurns server turns).afterTurn server turn).sent = (s.afterTurns server turns).sent

theorem sendsOnce_of_heard (turns : List Turn) : SendsOnce server s turns := by
  have hheard := hears_turns server htied hs turns
  constructor
  · intro hdrafting draft control g hready htext t
    have hsession : t.client.session = (s.afterTurns server turns).client.session := rfl
    rw [turn_enter server (hdrafting.redraft draft) control,
      sendDraft_of_ready hheard hsession hready htext]
    exact ⟨(htied.turns turns).wire.live_of_owned hready.owned, rfl⟩
  · intro hdrafting draft control hunready t
    have hsession : t.client.session = (s.afterTurns server turns).client.session := rfl
    rw [turn_enter server (hdrafting.redraft draft) control,
      sendDraft_of_unready hheard hsession hunready]
  · exact fun turn => sent_turn server _

end Begun

/-- At every point of every run Enter sends the text of the draft once, if the link of the channel
on display was opened and has not ended since, and empties the draft; else it leaves everything as
it is.  All that is sent during a run, up to its very end, is sent so. -/
theorem draft_sent_once (server : Server) (bypass : Bool) (agent : Agent) (kept : Option String)
    (now : Int) :
    let begun : Station := { agent := agent, kept := kept, now := now }
    let s := (start server bypass begun).2
    s.sent = [] ∧ ∀ turns, SendsOnce server s turns ∧
      ∀ g content, (g, content) ∈ (run server bypass begun turns).2.sent →
        s.SentOnEnter server turns g content := by
  intro begun s
  have htied : s.Tied := tied_start server bypass agent kept now
  have hunheard : Unheard begun s := unheard_start server bypass agent kept now
  have hbegun : begun.client.session.Hears fun _ => [] := ⟨nofun, fun _ _ => rfl⟩
  have hs := hunheard.hears hbegun
  refine ⟨hunheard.sent, fun turns => ⟨sendsOnce_of_heard htied hs turns, ?_⟩⟩
  intro g content hmem
  obtain ⟨taken, ⟨rest, rfl⟩, hlast⟩ := takeTurns_eq server s turns
  have hsent : (run server bypass begun (taken ++ rest)).2.sent =
      (s.afterTurns server taken).sent := by
    rw [← hlast]
    exact (leave_steers server _).unheard.sent
  rw [hsent] at hmem
  exact (sentOnEnter_of_mem htied hs hunheard.sent hmem).append rest

end Station

end ChatTerminal
