import ChatTerminal.Proofs.Station.Moves
/-!
# One live link

Whatever keys are pressed and whatever events and replies arrive, the calls of the links keep one
connection live at most, and it is the one that the channel on display asked for.  Off the chat
page nothing is owned; this is what lets the chat page open with a session of its own.
-/

namespace ChatTerminal.Station

open LinkCall

/-- What a key or an event makes of a station, whether or not the key also ends the run. -/
def afterTurn (server : Server) (s : Station) : Turn → Station
  | .key k => (s.press server k).1
  | .link e => s.onLink server e

def afterTurns (server : Server) (s : Station) (turns : List Turn) : Station :=
  turns.foldl (afterTurn server) s

theorem afterTurns_concat (server : Server) (s : Station) (turns : List Turn) (turn : Turn) :
    s.afterTurns server (turns ++ [turn]) = (s.afterTurns server turns).afterTurn server turn := by
  unfold afterTurns
  rw [List.foldl_append, List.foldl_cons, List.foldl_nil]

theorem afterTurns_append (server : Server) (s : Station) (turns more : List Turn) :
    s.afterTurns server (turns ++ more) = (s.afterTurns server turns).afterTurns server more := by
  unfold afterTurns
  rw [List.foldl_append]

/-! ## The invariant -/

/-- The live connection is the link that the session owns, and off the chat page it owns none. -/
structure Tied (s : Station) : Prop where
  wire : s.wire.Tied
  apart : s.client.page ≠ .chat → s.client.session.generation = none

variable {server : Server} {s t : Station}

theorem Tied.of_wire (h : s.Tied) (hwire : t.wire = s.wire) (hpage : t.client.page ≠ .chat →
    s.client.page ≠ .chat) : t.Tied := by
  have hsession : t.client.session = s.client.session := congrArg Wire.session hwire
  constructor
  · rw [hwire]
    exact h.wire
  · intro hapart
    rw [hsession]
    exact h.apart (hpage hapart)

theorem Tied.talks (h : s.Tied) (onChat : s.client.page = .chat) (hst : Talks s t) : t.Tied := by
  obtain ⟨hpage, steps, hwire⟩ := hst
  constructor
  · rw [hwire]
    exact h.wire.takeAll steps
  · intro hapart
    exact absurd (hpage.trans onChat) hapart

theorem active_reset (s : Session) : s.reset.1.active = none := by
  by_cases hactive : s.active = none
  · rw [Session.reset_of_active_none hactive, hactive]
  · rw [Session.reset_of_active_some hactive]
    rfl

theorem Tied.signsOut (h : s.Tied) (hst : SignsOut s t) : t.Tied := by
  have hwire : t.wire.Tied := by
    rw [hst.wire]
    exact h.wire.take .reset
  have hsession : t.client.session = s.client.session.reset.1 := congrArg Wire.session hst.wire
  have hactive : t.client.session.active = none := by
    rw [hsession]
    exact active_reset s.client.session
  exact ⟨hwire, fun _ => hwire.sound.parked_iff.mp (.inl hactive)⟩

/-- The session of the chat page replaces one that owns no link, so none is lost. -/
theorem Tied.enters (h : s.Tied) (apart : s.client.page ≠ .chat) (hst : Enters s t) : t.Tied := by
  have hlive : live s.linkCalls = none := h.wire.live_of_unowned (h.apart apart)
  constructor
  · rw [hst.wire]
    exact ⟨(Session.Origin.continuing s.client.session).sound, h.wire.orderly, hlive⟩
  · intro hapart
    exact absurd hst.page hapart

theorem Tied.move (h : s.Tied) (hst : Move s t) : t.Tied := by
  cases hst with
  | quiet hquiet => exact h.of_wire hquiet.wire (hquiet.page ▸ id)
  | steers onChat hsteers => exact h.talks onChat hsteers.talks
  | signsOut onChat hout => exact h.signsOut hout
  | enters apart henters => exact h.enters apart henters

theorem Tied.moves (h : s.Tied) (hst : Moves s t) : t.Tied := by
  induction hst with
  | refl => exact h
  | tail _ hmove ih => exact ih.move hmove

/-! ## Runs -/

theorem feed_of_ne {c : Client} {e : Link.Event} (h : c.session.generation ≠ some e.generation) :
    c.feed (.link e) = (c, []) := by
  simp only [Client.feed, Session.apply, Session.onEvent_of_ne h]

theorem onLink_of_ne {e : Link.Event} (h : s.client.session.generation ≠ some e.generation) :
    s.onLink server e = s := by
  simp only [onLink, perform, feed_of_ne h, carryOutAll, List.foldl_nil]

theorem Tied.turn (h : s.Tied) (turn : Turn) : (s.afterTurn server turn).Tied := by
  cases turn with
  | key k =>
      exact press_keeps server s k (fun t => h.moves) fun onChat t => h.talks onChat
  | link e =>
      by_cases onChat : s.client.page = .chat
      · exact h.talks onChat (onLink_talks server s e)
      · have hne : s.client.session.generation ≠ some e.generation := by simp [h.apart onChat]
        rw [afterTurn, onLink_of_ne hne]
        exact h

theorem Tied.turns (h : s.Tied) (turns : List Turn) : (s.afterTurns server turns).Tied := by
  induction turns generalizing s with
  | nil => exact h
  | cons turn more ih => exact ih (h.turn turn)

theorem tied_start (server : Server) (bypass : Bool) (agent : Agent) (kept : Option String)
    (now : Int) : (start server bypass { agent := agent, kept := kept, now := now }).2.Tied := by
  obtain ⟨t, hwire, hapart, hmoves⟩ :=
    start_moves server bypass { agent := agent, kept := kept, now := now }
  have hfresh : Tied { agent := agent, kept := kept, now := now } :=
    ⟨⟨Session.Origin.home.sound, orderly_nil, rfl⟩, fun _ => rfl⟩
  have hbefore : t.Tied := hfresh.of_wire hwire fun _ => Page.noConfusion
  exact hbefore.moves hmoves

/-- No call of the links is out of place, and the live connection is that of the channel on
display. -/
structure OneLink (s : Station) : Prop where
  orderly : Orderly s.linkCalls
  owned : (live s.linkCalls).map Prod.fst = s.client.session.generation
  displayed : ∀ g channel, live s.linkCalls = some (g, channel) →
    s.client.session.active = some channel ∧ channel ≠ homeId
  apart : s.client.page ≠ .chat ∨ s.client.session.active = none ∨
    s.client.session.active = some homeId → live s.linkCalls = none

theorem Tied.oneLink (h : s.Tied) : OneLink s := by
  have hlink : live s.linkCalls = s.client.session.link? := h.wire.live_eq
  have hsound : s.client.session.Sound := h.wire.sound
  have hnone : s.client.session.generation = none → live s.linkCalls = none :=
    h.wire.live_of_unowned
  refine ⟨h.wire.orderly, ?_, ?_, ?_⟩
  · cases howned : s.client.session.generation with
    | none => simp [hnone howned]
    | some g => exact h.wire.live_of_owned howned
  · intro g channel hlive
    rw [hlink, Session.link?, Option.bind_eq_some_iff] at hlive
    obtain ⟨h', howned, hpair⟩ := hlive
    obtain ⟨id, hactive, hlive⟩ := hsound.active_of_owned howned
    rw [hactive] at hpair
    obtain ⟨-, rfl⟩ : h' = g ∧ id = channel := by simpa using hpair
    exact ⟨hactive, hlive⟩
  · rintro (hapart | hparked)
    · exact hnone (h.apart hapart)
    · exact hnone (hsound.parked_iff.mp hparked)

/-- At every point of every run there is one live connection at most, the one of the channel on
display. -/
theorem oneLink_of_run (server : Server) (bypass : Bool) (agent : Agent) (kept : Option String)
    (now : Int) (turns : List Turn) :
    OneLink (afterTurns server
      (start server bypass { agent := agent, kept := kept, now := now }).2 turns) :=
  ((tied_start server bypass agent kept now).turns turns).oneLink

/-! ## The end of a run -/

/-- A turn is what its key or its event makes of the station, but for the key that interrupts. -/
theorem turn_eq (server : Server) (s : Station) (turn : Turn) :
    (s.turn server turn).1 = s.afterTurn server turn ∨ s.turn server turn = (s, .quit) := by
  cases turn with
  | link e => exact .inl rfl
  | key k =>
      by_cases hk : k = Key.interrupt
      · exact .inr (if_pos hk)
      · exact .inl (congrArg Prod.fst (if_neg hk))

/-- A run takes some of the turns given to it, up to the key that ends it. -/
theorem takeTurns_eq (server : Server) (s : Station) (turns : List Turn) :
    ∃ taken, taken <+: turns ∧ (s.takeTurns server turns).2 = s.afterTurns server taken := by
  induction turns generalizing s with
  | nil => exact ⟨[], List.prefix_refl _, rfl⟩
  | cons turn more ih =>
      have hturn := turn_eq server s turn
      unfold Station.takeTurns
      generalize s.turn server turn = answer at hturn ⊢
      obtain ⟨next, verdict⟩ := answer
      rcases hturn with rfl | hquit
      · cases verdict with
        | quit => exact ⟨[turn], by simp, rfl⟩
        | stay =>
            obtain ⟨taken, htaken, hlast⟩ := ih (s.afterTurn server turn)
            exact ⟨turn :: taken, by simpa using htaken, hlast⟩
      · obtain ⟨rfl, rfl⟩ := Prod.mk.inj hquit
        exact ⟨[], List.nil_prefix, rfl⟩

theorem Tied.takeTurns (h : s.Tied) (turns : List Turn) : (s.takeTurns server turns).2.Tied := by
  obtain ⟨taken, -, hlast⟩ := takeTurns_eq server s turns
  rw [hlast]
  exact h.turns taken

theorem leave_wire (server : Server) (s : Station) :
    (s.leave server).wire = s.wire.take .reset := by
  obtain ⟨hclient, hcalls⟩ := carryOutAll_calls server
    { s with client := { s.client with session := s.client.session.reset.1 } }
    (reset_calls s.client.session)
  unfold leave perform
  simp only [Station.wire, hclient, hcalls]
  rfl

/-- A run leaves no connection live. -/
theorem run_disconnects (server : Server) (bypass : Bool) (agent : Agent) (kept : Option String)
    (now : Int) (turns : List Turn) :
    let last := (run server bypass { agent := agent, kept := kept, now := now } turns).2
    Orderly last.linkCalls ∧ live last.linkCalls = none := by
  have hstart := tied_start server bypass agent kept now
  unfold run
  generalize start server bypass _ = started at hstart ⊢
  obtain ⟨first, s⟩ := started
  dsimp only at hstart ⊢
  have hlast : (s.takeTurns server turns).2.Tied := hstart.takeTurns turns
  generalize s.takeTurns server turns = taken at hlast ⊢
  obtain ⟨drawn, t⟩ := taken
  dsimp only at hlast ⊢
  have htied : (t.leave server).wire.Tied := by
    rw [leave_wire]
    exact hlast.wire.take .reset
  have hactive : (t.leave server).wire.session.active = none := by
    rw [leave_wire]
    exact active_reset t.client.session
  have hnone := htied.sound.parked_iff.mp (.inl hactive)
  exact ⟨htied.orderly, htied.live_of_unowned hnone⟩

end ChatTerminal.Station
