import ChatTerminal.Proofs.Session.History
/-!
# What a session has on display

The messages and the members of a session are read off its history: they come from the visits
since the selection was last left, and from no link and no channel but those of the selection.
-/

namespace ChatTerminal.Session

open Link

namespace Visit

/-- The message that a visit shows after some others: a frame of the link owned at the time,
once that link has opened and before it ends. -/
def message? (past : List Visit) (v : Visit) : Option Message :=
  match v.step with
  | .input (.link ⟨g, .frame text arrived⟩) =>
    if v.before.generation = some g ∧ .opened ∈ past.filterMap (·.report? g) ∧
        ∀ r ∈ past.filterMap (·.report? g), r.ends = false then
      some (Message.ofFrame text arrived)
    else none
  | _ => none

/-- The members that a visit shows.  A failed request counts as an empty roster. -/
def roster? (v : Visit) : Option (List Member) :=
  match v.step with
  | .input (.seed members) => some members
  | .input (.roster channel members) =>
    if v.before.active = some channel then some (members.getD []) else none
  | _ => none

end Visit

def stay (s : Session) (steps : List Step) : List Visit :=
  (s.visits steps).rtakeWhile fun v => !v.before.leaves v.step

/-- The messages that visits show, each visit after those before it. -/
def conversation (past : List Visit) : List Visit → List Message
  | [] => []
  | v :: more => (v.message? past).toList ++ conversation (past ++ [v]) more

def lastRoster (stay : List Visit) : List Member :=
  (stay.filterMap Visit.roster?).getLast?.getD []

theorem conversation_concat (past stay : List Visit) (v : Visit) :
    conversation past (stay ++ [v]) =
      conversation past stay ++ (v.message? (past ++ stay)).toList := by
  induction stay generalizing past with
  | nil => simp [conversation]
  | cons u stay ih =>
      simp only [List.cons_append, conversation]
      rw [ih, List.append_assoc, List.append_assoc, List.singleton_append]

theorem lastRoster_concat (stay : List Visit) (v : Visit) :
    lastRoster (stay ++ [v]) = v.roster?.getD (lastRoster stay) := by
  rw [lastRoster, List.filterMap_append]
  cases h : v.roster? <;> simp [h, lastRoster]

theorem stay_concat_of_leaves {s : Session} {past : List Step} {x : Step}
    (h : (s.after past).leaves x = true) : s.stay (past ++ [x]) = [] := by
  rw [stay, visits_concat]
  exact List.rtakeWhile_concat_neg _ _ _ (by simp [h])

theorem stay_concat_of_stays {s : Session} {past : List Step} {x : Step}
    (h : (s.after past).leaves x = false) :
    s.stay (past ++ [x]) = s.stay past ++ [⟨s.after past, x⟩] := by
  rw [stay, visits_concat]
  exact List.rtakeWhile_concat_pos _ _ _ (by simp [h])

/-! ## The invariant -/

/-- A session shows what the visits since it last left brought, and what they reported about its
link is the state of the link. -/
structure Shows (s : Session) (stay : List Visit) : Prop where
  link : ∀ v ∈ stay, v.before.active = s.active ∧ v.before.generation = s.generation
  state : ∀ g, s.generation = some g → s.state = stateOf (stay.filterMap (·.report? g))
  messages : s.messages = conversation [] stay
  members : s.members = lastRoster stay

variable {s t : Session} {stay : List Visit} {x : Step}

theorem Origin.shows (o : Origin) : o.session.Shows [] := by
  cases o <;> constructor <;>
    simp [Origin.session, Session.home, Session.continuing, conversation, lastRoster]

theorem Shows.asking (s : Session) (id : Nat) : (s.asking id).Shows [] := by
  constructor <;> simp [Session.asking, stateOf, conversation, lastRoster]

theorem Shows.parked (s : Session) (channel : Option Nat) : (s.parked channel).Shows [] := by
  constructor <;> simp [Session.parked, conversation, lastRoster]

theorem Departure.shows {es : List Effect} (h : Departure s t es) (hs : s.Sound) :
    t.Shows [] := by
  cases h with
  | asked id changed live => exact .asking s id
  | left channel parks => exact .parked s channel
  | cleared nowhere =>
      have hnone : s.generation = none := hs.parked_iff.mp (.inl nowhere)
      constructor <;> simp [hnone, conversation, lastRoster]

theorem Shows.extend (h : s.Shows stay)
    (hlink : t.active = s.active ∧ t.generation = s.generation)
    (hstate : ∀ g, s.generation = some g → t.state =
      stateOf (stay.filterMap (·.report? g) ++ (Visit.report? ⟨s, x⟩ g).toList))
    (hmessages : t.messages = s.messages ++ (Visit.message? stay ⟨s, x⟩).toList)
    (hmembers : t.members = (Visit.roster? ⟨s, x⟩).getD s.members) :
    t.Shows (stay ++ [⟨s, x⟩]) where
  link v hv := by
    rw [hlink.1, hlink.2]
    rcases List.mem_append.mp hv with hold | hnew
    · exact h.link v hold
    · rw [List.mem_singleton.mp hnew]
      exact ⟨rfl, rfl⟩
  state g hg := by
    rw [hlink.2] at hg
    rw [hstate g hg, List.filterMap_append]
    cases hreport : Visit.report? ⟨s, x⟩ g <;> simp [hreport]
  messages := by rw [hmessages, h.messages, conversation_concat, List.nil_append]
  members := by rw [hmembers, h.members, lastRoster_concat]

theorem Shows.extend_unreported (h : s.Shows stay)
    (hlink : t.active = s.active ∧ t.generation = s.generation ∧ t.state = s.state ∧
      t.messages = s.messages)
    (hreport : ∀ g, Visit.report? ⟨s, x⟩ g = none)
    (hmessage : Visit.message? stay ⟨s, x⟩ = none)
    (hmembers : t.members = (Visit.roster? ⟨s, x⟩).getD s.members) :
    t.Shows (stay ++ [⟨s, x⟩]) := by
  obtain ⟨hactive, hgeneration, hstate, hmessages⟩ := hlink
  refine h.extend ⟨hactive, hgeneration⟩ ?_ ?_ hmembers
  · intro g hg
    rw [hstate, hreport, h.state g hg, Option.toList_none, List.append_nil]
  · rw [hmessages, hmessage, Option.toList_none, List.append_nil]

theorem messages_onEvent (hs : s.Shows stay) (e : Event) :
    (s.onEvent e).1.messages =
      s.messages ++ (Visit.message? stay ⟨s, .input (.link e)⟩).toList := by
  obtain ⟨g, r⟩ := e
  by_cases howned : s.generation = some g
  · unfold onEvent
    rw [if_neg (by simpa using howned)]
    cases r with
    | opened => dsimp only; split <;> simp [Visit.message?]
    | frame text arrived =>
        have hopen := stateOf_eq_open_iff (stay.filterMap (·.report? g))
        rw [← hs.state g howned] at hopen
        by_cases hstate : s.state = .open
        · have hsome : Visit.message? stay ⟨s, .input (.link ⟨g, .frame text arrived⟩)⟩ =
              some (Message.ofFrame text arrived) := if_pos ⟨howned, hopen.mp hstate⟩
          simp [isOpen, hstate, hsome]
        · have hnone : Visit.message? stay ⟨s, .input (.link ⟨g, .frame text arrived⟩)⟩ = none :=
            if_neg fun hall => hstate (hopen.mpr hall.2)
          simp [isOpen, hstate, hnone]
    | failed reason => simp only [closeWith]; split <;> simp [Visit.message?]
    | closed => simp only [closeWith]; split <;> simp [Visit.message?]
  · rw [onEvent_of_ne howned]
    cases r <;> simp [Visit.message?, howned]

theorem Shows.onEvent (h : s.Shows stay) (e : Event) :
    (s.onEvent e).1.Shows (stay ++ [⟨s, .input (.link e)⟩]) := by
  obtain ⟨hactive, hgeneration, -, hmembers⟩ := s.onEvent_keeps e
  refine h.extend ⟨hactive, hgeneration⟩ ?_ (messages_onEvent h e) hmembers
  intro g hg
  by_cases howned : e.generation = g
  · subst howned
    rw [state_onEvent hg (h.state _ hg)]
    simp
  · have hne : s.generation ≠ some e.generation := by
      rw [hg]
      simpa using Ne.symm howned
    rw [onEvent_of_ne hne, h.state g hg]
    simp [howned]

theorem Shows.step (h : s.Shows stay) (hstays : s.leaves x = false) :
    (s.step x).1.Shows (stay ++ [⟨s, x⟩]) := by
  cases x with
  | reset => simp [leaves] at hstays
  | input i =>
      cases i with
      | link e => exact h.onEvent e
      | select channel =>
          have hself : channel = s.active := by simpa [leaves] using hstays
          simp only [Session.step, apply, hself, select_self]
          exact h.extend_unreported ⟨rfl, rfl, rfl, rfl⟩ (fun _ => rfl) rfl rfl
      | send typed => exact h.extend_unreported ⟨rfl, rfl, rfl, rfl⟩ (fun _ => rfl) rfl rfl
      | seed members => exact h.extend_unreported ⟨rfl, rfl, rfl, rfl⟩ (fun _ => rfl) rfl rfl
      | roster channel members =>
          simp only [Session.step, apply]
          split <;> rename_i hactive
          · refine h.extend_unreported ⟨rfl, rfl, rfl, rfl⟩ (fun _ => rfl) rfl ?_
            simp [Visit.roster?, hactive]
          · refine h.extend_unreported ⟨rfl, rfl, rfl, rfl⟩ (fun _ => rfl) rfl ?_
            simp [Visit.roster?, hactive]

theorem shows_after (o : Origin) (steps : List Step) :
    (o.session.after steps).Shows (o.session.stay steps) := by
  induction steps using List.reverseRecOn with
  | nil => exact o.shows
  | append_singleton past x ih =>
      rw [after_concat]
      cases hleaves : (o.session.after past).leaves x with
      | true =>
          rw [stay_concat_of_leaves hleaves]
          exact (departure_of_leaves hleaves).shows (o.sound.after past)
      | false =>
          rw [stay_concat_of_stays hleaves]
          exact ih.step hleaves

/-- Throughout a run, the messages are the frames of the owned link since the selection was last
left, from its first opening to its first end, in the order of their arrival; and the members are
the last roster since then.  All of that was brought while the channel and the link of now were
the selected ones, and the link of now was asked for for the channel of now and for no other. -/
theorem display_of_history (o : Origin) (steps : List Step) :
    let s := o.session.after steps
    let stay := o.session.stay steps
    s.messages = conversation [] stay ∧
      s.members = lastRoster stay ∧
      (∀ v ∈ stay, v.before.active = s.active ∧ v.before.generation = s.generation) ∧
      ∀ g channel, s.generation = some g →
        ((g, channel) ∈ o.session.connects steps ↔ s.active = some channel) := by
  have hshows := shows_after o steps
  have hnumbered := o.numbered.after steps
  refine ⟨hshows.messages, hshows.members, hshows.link, ?_⟩
  intro g channel howned
  constructor
  · exact hnumbered.active_eq howned
  · intro hactive
    obtain ⟨id, hid, hlast⟩ := hnumbered.owned g howned
    obtain rfl : id = channel := Option.some.inj (hid.symm.trans hactive)
    exact List.mem_of_getLast? hlast

end ChatTerminal.Session
