import ChatTerminal.Proofs.Station.OneLink
/-!
# Late events

An action is anything that can be done to a station, on any page and in any order.  Across all of
them the numbers of the connections increase, also where a session is replaced without letting its
link go; so a number that was let go is never owned again, and events that still carry it are let
pass.  A run with such events put in anywhere is followed state by state by the run without them.
-/

namespace ChatTerminal

open LinkCall

namespace Wire

/-! ## Numbers let go stay let go -/

/-- What every change of a wire keeps: the count, and the numbers let go. -/
structure Onward (w v : Wire) : Prop where
  numbered : w.Numbered → v.Numbered
  released : ∀ g, w.Numbered → w.Released g → v.Released g

variable {w v u : Wire}

theorem Onward.refl (w : Wire) : Onward w w := ⟨id, fun _ _ => id⟩

theorem Onward.of_eq (h : v = w) : Onward w v := h ▸ .refl w

theorem Onward.trans (hwv : Onward w v) (hvu : Onward v u) : Onward w u := by
  constructor
  · intro hnumbered
    exact hvu.numbered (hwv.numbered hnumbered)
  · intro g hnumbered hreleased
    exact hvu.released g (hwv.numbered hnumbered) (hwv.released g hnumbered hreleased)

theorem onward_take (w : Wire) (x : Session.Step) : Onward w (w.take x) :=
  ⟨fun h => h.take x, fun _ hnumbered h => h.take hnumbered x⟩

theorem onward_takeAll (w : Wire) (steps : List Session.Step) : Onward w (w.takeAll steps) := by
  induction steps generalizing w with
  | nil => exact .refl w
  | cons x more ih => exact (onward_take w x).trans (ih (w.take x))

/-- A session that goes on counting owns nothing, whatever the one before it owned. -/
theorem onward_continuing (w : Wire) : Onward w ⟨.continuing w.session, w.calls⟩ := by
  constructor
  · rintro ⟨hincreasing, hbounded, -⟩
    exact ⟨hincreasing, hbounded, by simp [Session.continuing, Session.home]⟩
  · rintro g - ⟨hmem, -⟩
    exact ⟨hmem, by simp [Session.continuing, Session.home]⟩

end Wire

namespace Station

variable {server : Server} {s t : Station}

theorem Quiet.onward (h : Quiet s t) : s.wire.Onward t.wire := .of_eq h.wire

theorem Talks.onward (h : Talks s t) : s.wire.Onward t.wire := by
  obtain ⟨-, steps, hwire⟩ := h
  rw [hwire]
  exact s.wire.onward_takeAll steps

theorem SignsOut.onward (h : SignsOut s t) : s.wire.Onward t.wire := by
  rw [h.wire]
  exact s.wire.onward_take .reset

theorem Move.onward (h : Move s t) : s.wire.Onward t.wire := by
  cases h with
  | quiet h => exact h.onward
  | steers onChat h => exact h.talks.onward
  | signsOut onChat h => exact h.onward
  | enters apart h =>
      rw [h.wire]
      exact s.wire.onward_continuing

theorem Moves.onward (h : Moves s t) : s.wire.Onward t.wire := by
  induction h with
  | refl => exact .refl s.wire
  | tail _ hmove ih => exact ih.trans hmove.onward

/-! ## Actions -/

inductive Action where
  | press (k : Key)
  | link (e : Link.Event)
  | select (channel : Option Nat)
  | openUnderCursor
  | openNewest
  | loadChannels
  | createChannel
  | joinChannel
  | deleteChannel (id : Nat)
  | sendDraft
  | signIn
  | register
  | enterChat (who : Identity)
  | signOut
  | openProfile
  | saveProfile
  | deleteAccount
  | remember
  | forget
  | leave
  | wait (now : Int)
  /-- Anything on the client but the session may be changed. -/
  | edit (change : Client → Client)

def act (server : Server) (s : Station) : Action → Station
  | .press k => (s.press server k).1
  | .link e => s.onLink server e
  | .select channel => s.select server channel
  | .openUnderCursor => s.perform server Client.openUnderCursor
  | .openNewest => s.perform server Client.openNewest
  | .loadChannels => s.loadChannels server
  | .createChannel => s.createChannel server
  | .joinChannel => s.joinChannel server
  | .deleteChannel id => s.deleteChannel server id
  | .sendDraft => s.sendDraft server
  | .signIn => (s.signIn server).1
  | .register => s.register server
  | .enterChat who => s.onClient (·.enterChat who)
  | .signOut => s.signOut server
  | .openProfile => s.openProfile server
  | .saveProfile => (s.saveProfile server).1
  | .deleteAccount => (s.deleteAccount server).1
  | .remember => s.remember
  | .forget => s.forget
  | .leave => s.leave server
  | .wait now => { s with now := now }
  | .edit change => s.onClient fun c => { change c with session := c.session }

def acted (server : Server) (s : Station) (actions : List Action) : Station :=
  actions.foldl (act server) s

theorem acted_append (server : Server) (s : Station) (first more : List Action) :
    s.acted server (first ++ more) = (s.acted server first).acted server more := by
  rw [acted, List.foldl_append]
  rfl

theorem onward_deleteAccount (server : Server) (s : Station) :
    s.wire.Onward (s.deleteAccount server).1.wire := by
  rcases deleteAccount_quiet_or_signsOut server s with hquiet | ⟨t, hquiet, hout⟩
  · exact hquiet.onward
  · exact hquiet.onward.trans hout.onward

theorem onward_act (server : Server) (s : Station) (a : Action) :
    s.wire.Onward (s.act server a).wire := by
  cases a with
  | press k => exact press_keeps server s k (fun t => Moves.onward) fun _ t => Talks.onward
  | link e => exact (onLink_talks server s e).onward
  | select channel => exact (select_steers server s channel).talks.onward
  | openUnderCursor => exact (openUnderCursor_steers server s).talks.onward
  | openNewest => exact (openNewest_steers server s).talks.onward
  | loadChannels => exact (loadChannels_steers server s).talks.onward
  | createChannel => exact (createChannel_steers server s).talks.onward
  | joinChannel => exact (joinChannel_steers server s).talks.onward
  | deleteChannel id => exact (deleteChannel_steers server s id).talks.onward
  | sendDraft => exact (sendDraft_talks server s).onward
  | signIn => exact (quiet_signIn server s).onward
  | register => exact (quiet_register server s).onward
  | enterChat who => exact s.wire.onward_continuing
  | signOut => exact (signOut_signsOut server s).onward
  | openProfile => exact (quiet_openProfile server s).onward
  | saveProfile => exact (quiet_saveProfile server s).onward
  | deleteAccount => exact onward_deleteAccount server s
  | remember => exact (quiet_remember s).onward
  | forget => exact (quiet_forget s).onward
  | leave => exact (leave_steers server s).talks.onward
  | wait now => exact .refl s.wire
  | edit change => exact .refl s.wire

theorem onward_acted (server : Server) (s : Station) (actions : List Action) :
    s.wire.Onward (s.acted server actions).wire := by
  induction actions generalizing s with
  | nil => exact .refl s.wire
  | cons a more ih => exact (onward_act server s a).trans (ih (s.act server a))

/-! ## Runs with late events -/

def fresh (agent : Agent) (kept : Option String) (now : Int) : Station :=
  { agent := agent, kept := kept, now := now }

theorem numbered_fresh (agent : Agent) (kept : Option String) (now : Int) :
    (fresh agent kept now).wire.Numbered := Session.Origin.home.numbered

inductive Happening where
  | action (a : Action)
  | late (e : Link.Event)

def Happening.action? : Happening → Option Action
  | .action a => some a
  | .late _ => none

def happen (server : Server) (s : Station) : Happening → Station
  | .action a => s.act server a
  | .late e => s.onLink server e

def happened (server : Server) (s : Station) (happenings : List Happening) : Station :=
  happenings.foldl (happen server) s

def actions (happenings : List Happening) : List Action := happenings.filterMap Happening.action?

/-- What is put in are events of connections that the actions before it let go. -/
def LateOnly (server : Server) (s : Station) (happenings : List Happening) : Prop :=
  ∀ before e later, happenings = before ++ .late e :: later →
    ∃ past more, actions before = past ++ more ∧
      (s.acted server past).wire.Released e.generation

variable {happenings before later : List Happening} {past more : List Action} {g : Nat}

theorem lateOnly_nil (server : Server) (s : Station) : LateOnly server s [] := by
  intro before e later h
  simp at h

theorem LateOnly.action (h : LateOnly server s before) (a : Action) :
    LateOnly server s (before ++ [.action a]) := by
  intro first e later hsplit
  rcases split_concat hsplit with ⟨-, hlast⟩ | ⟨rest, hbefore⟩
  · exact nomatch hlast
  · exact h first e rest hbefore

theorem LateOnly.late (h : LateOnly server s before) {e : Link.Event}
    (hactions : actions before = past ++ more)
    (hreleased : (s.acted server past).wire.Released e.generation) :
    LateOnly server s (before ++ [.late e]) := by
  intro first e' later hsplit
  rcases split_concat hsplit with ⟨rfl, hlast⟩ | ⟨rest, hbefore⟩
  · obtain rfl : e = e' := Happening.late.inj hlast
    exact ⟨past, more, hactions, hreleased⟩
  · exact h first e' rest hbefore

theorem LateOnly.left (h : LateOnly server s (before ++ later)) : LateOnly server s before := by
  intro first e rest hsplit
  exact h first e (rest ++ later) (by rw [hsplit, List.append_assoc, List.cons_append])

theorem released_acted (hs : s.wire.Numbered) (h : (s.acted server past).wire.Released g)
    (more : List Action) : (s.acted server (past ++ more)).wire.Released g := by
  have hnumbered := (onward_acted server s past).numbered hs
  rw [acted_append]
  exact (onward_acted server (s.acted server past) more).released g hnumbered h

theorem LateOnly.not_owned (hs : s.wire.Numbered) (h : LateOnly server s happenings)
    {e : Link.Event} (hsplit : happenings = before ++ .late e :: later) :
    (s.acted server (actions before)).client.session.generation ≠ some e.generation := by
  obtain ⟨past, more, hactions, hreleased⟩ := h before e later hsplit
  rw [hactions]
  exact (released_acted hs hreleased more).2

/-- The run with late events goes through the stations of the run without them. -/
theorem happened_eq_acted (hs : s.wire.Numbered) (h : LateOnly server s happenings) :
    s.happened server happenings = s.acted server (actions happenings) := by
  induction happenings using List.reverseRecOn with
  | nil => rfl
  | append_singleton before last ih =>
      have hbefore := ih h.left
      rw [happened, List.foldl_concat, ← happened, hbefore]
      cases last with
      | action a =>
          have hactions : actions (before ++ [.action a]) = actions before ++ [a] :=
            List.filterMap_append
          rw [hactions, acted_append]
          rfl
      | late e =>
          have hactions : actions (before ++ [.late e]) = actions before := by
            simp [actions, Happening.action?]
          rw [hactions]
          exact onLink_of_ne (h.not_owned hs rfl)

/-- The numbers of all connections increase, one that was let go is never owned again, and events
that carry such numbers change no station of a run and ask for nothing, wherever they are put in
and however many they are. -/
theorem late_events_unseen (server : Server) (agent : Agent) (kept : Option String) (now : Int) :
    let s := fresh agent kept now
    (∀ actions, ((s.acted server actions).wire.asked.map Prod.fst).Pairwise (· < ·)) ∧
      (∀ past more g, (s.acted server past).wire.Released g →
        (s.acted server (past ++ more)).client.session.generation ≠ some g) ∧
      ∀ happenings, LateOnly server s happenings →
        ∀ before later, happenings = before ++ later →
          s.happened server before = s.acted server (actions before) ∧
            ∀ e rest, later = .late e :: rest →
              (s.happened server before).client.feed (.link e) =
                ((s.happened server before).client, []) := by
  intro s
  have hs : s.wire.Numbered := numbered_fresh agent kept now
  refine ⟨?_, ?_, ?_⟩
  · intro actions
    exact ((onward_acted server s actions).numbered hs).increasing
  · intro past more g hreleased
    exact (released_acted hs hreleased more).2
  · rintro happenings hlate before later rfl
    have hsame := happened_eq_acted hs hlate.left
    refine ⟨hsame, ?_⟩
    rintro e rest rfl
    rw [hsame]
    exact feed_of_ne (hlate.not_owned hs rfl)

/-- A link that was let go reports its opening and its end after its channel is on display again. -/
theorem late_events_unseen_on_return :
    let server : Server := fun _ _ => .dropped
    let s := fresh ⟨"", { scheme := [] }, {}⟩ none 0
    let before : List Happening :=
      [.action (.select (some 5)), .action (.select none), .late ⟨1, .opened⟩,
        .action (.select (some 5))]
    LateOnly server s (before ++ [.late ⟨1, .closed⟩]) ∧
      s.happened server before =
        s.acted server [.select (some 5), .select none, .select (some 5)] ∧
      (s.happened server before).client.feed (.link ⟨1, .closed⟩) =
        ((s.happened server before).client, []) := by
  intro server s before
  have hreleased : (s.acted server [.select (some 5), .select none]).wire.Released 1 :=
    ⟨by decide, by decide⟩
  have hgone : LateOnly server s [.action (.select (some 5)), .action (.select none)] :=
    ((lateOnly_nil server s).action _).action _
  have hactions : actions [.action (.select (some 5)), .action (.select none)] =
      [.select (some 5), .select none] ++ [] := rfl
  have hback : LateOnly server s before :=
    (hgone.late (e := ⟨1, .opened⟩) hactions hreleased).action (.select (some 5))
  have hlate : LateOnly server s (before ++ [.late ⟨1, .closed⟩]) := hback.late rfl hreleased
  obtain ⟨-, -, hpass⟩ := late_events_unseen server ⟨"", { scheme := [] }, {}⟩ none 0
  obtain ⟨hsame, hunseen⟩ := hpass _ hlate before _ rfl
  exact ⟨hlate, hsame, hunseen _ _ rfl⟩

end Station

end ChatTerminal
