import ChatTerminal.Proofs.Session.Invariant
/-!
# Sessions that number their links otherwise

The numbers of the links say which link is meant and nothing else.  A session that numbers its
links from another number on takes the same steps and has the same effects, up to the numbers;
events of links from before that number concern neither.
-/

namespace ChatTerminal

/-- The number as far above `m` as `g` is above `n`. -/
def Link.renumber (n m g : Nat) : Nat := g - n + m

/-- The same report, of links as far above `m` as above `n`, or below both. -/
structure Link.Event.Matches (n m : Nat) (e e' : Link.Event) : Prop where
  report : e'.report = e.report
  generation : e'.generation - m = e.generation - n

namespace Effect

def renumber (n m : Nat) : Effect → Effect
  | .connect g channel => .connect (Link.renumber n m g) channel
  | .disconnect g => .disconnect (Link.renumber n m g)
  | .fetchMembers channel => .fetchMembers channel
  | .send g content => .send (Link.renumber n m g) content
  | .notify text => .notify text

/-- The link that the effect is about, if any, has a number above `n`. -/
def Beyond (n : Nat) : Effect → Prop
  | .connect g _ | .disconnect g | .send g _ => n < g
  | .fetchMembers _ | .notify _ => True

end Effect

namespace Session

variable {n m : Nat} {s t : Session} {es : List Effect}

def renumber (n m : Nat) (s : Session) : Session :=
  { s with
    generation := s.generation.map (Link.renumber n m)
    lastGeneration := Link.renumber n m s.lastGeneration }

@[simp] theorem active_renumber (s : Session) : (s.renumber n m).active = s.active := rfl

@[simp] theorem state_renumber (s : Session) : (s.renumber n m).state = s.state := rfl

@[simp] theorem isOpen_renumber (s : Session) : (s.renumber n m).isOpen = s.isOpen := rfl

/-- The session has counted as far as `n`, and a link that it owns came after that. -/
structure Beyond (n : Nat) (s : Session) : Prop where
  sound : s.Sound
  counted : n ≤ s.lastGeneration
  owned : ∀ g, s.generation = some g → n < g

theorem beyond_continuing (previous : Session) :
    (continuing previous).Beyond previous.lastGeneration :=
  ⟨(Origin.continuing previous).sound, Nat.le_refl _, nofun⟩

theorem Beyond.released (h : s.Beyond n) : ∀ e ∈ s.released, e.Beyond n := by
  intro e he
  obtain ⟨g, hg, rfl⟩ := List.mem_map.mp he
  exact h.owned g (Option.mem_toList.mp hg)

theorem Departure.beyond (h : Departure s t es) (hs : s.Beyond n) :
    t.Beyond n ∧ ∀ e ∈ es, e.Beyond n := by
  have hsound : t.Sound := h.sound hs.sound
  have hcounted := hs.counted
  cases h with
  | asked id changed live =>
      have hnext : n < s.lastGeneration + 1 := by omega
      refine ⟨⟨hsound, Nat.le_of_lt hnext, fun g hg => Option.some.inj hg ▸ hnext⟩, fun e he => ?_⟩
      rcases List.mem_append.mp he with he | he
      · exact hs.released e he
      · exact List.mem_singleton.mp he ▸ hnext
  | left channel parks => exact ⟨⟨hsound, hcounted, nofun⟩, hs.released⟩
  | cleared nowhere => exact ⟨⟨hsound, hcounted, hs.owned⟩, nofun⟩

theorem Outcome.beyond (h : Outcome s t es) (hs : s.Beyond n) :
    t.Beyond n ∧ ∀ e ∈ es, e.Beyond n := by
  have hsound : t.Sound := h.sound hs.sound
  cases h with
  | same => exact ⟨hs, nofun⟩
  | departed h => exact h.beyond hs
  | listed members => exact ⟨⟨hsound, hs.counted, hs.owned⟩, nofun⟩
  | opened connecting =>
      refine ⟨⟨hsound, hs.counted, hs.owned⟩, fun e he => ?_⟩
      obtain ⟨id, -, rfl⟩ := List.mem_map.mp he
      trivial
  | heard isOpen message => exact ⟨⟨hsound, hs.counted, hs.owned⟩, nofun⟩
  | ended g owned text =>
      exact ⟨⟨hsound, hs.counted, hs.owned⟩, fun e he => List.mem_singleton.mp he ▸ trivial⟩
  | sent g owned content =>
      exact ⟨hs, fun e he => List.mem_singleton.mp he ▸ hs.owned g owned⟩

/-! ## Steps of the renumbered session -/

theorem continuing_renumber (previous other : Session) :
    (continuing previous).renumber previous.lastGeneration other.lastGeneration =
      continuing other := by
  unfold continuing renumber Link.renumber
  rw [Nat.sub_self, Nat.zero_add]
  rfl

theorem released_renumber (s : Session) :
    (s.renumber n m).released = s.released.map (Effect.renumber n m) := by
  unfold released renumber
  cases s.generation with
  | none => rfl
  | some g => rfl

theorem asking_renumber (hcounted : n ≤ s.lastGeneration) (id : Nat) :
    (s.renumber n m).asking id = (s.asking id).renumber n m := by
  have hnext : s.lastGeneration - n + m + 1 = s.lastGeneration + 1 - n + m := by omega
  simp only [asking, renumber, Link.renumber, Option.map_some, hnext]

theorem select_renumber (hcounted : n ≤ s.lastGeneration) (channel : Option Nat) :
    (s.renumber n m).select channel =
      ((s.select channel).1.renumber n m, (s.select channel).2.map (Effect.renumber n m)) := by
  by_cases hself : channel = s.active
  · have hself' : channel = (s.renumber n m).active := hself
    rw [hself', select_self]
    change _ = ((s.select s.active).1.renumber n m, (s.select s.active).2.map _)
    rw [select_self]
    rfl
  · have hself' : channel ≠ (s.renumber n m).active := hself
    cases hlive : isLive channel with
    | false =>
        rw [select_parked hself hlive, select_parked hself' hlive, released_renumber]
        rfl
    | true =>
        obtain ⟨id, rfl⟩ : ∃ id, channel = some id := by
          cases channel with
          | none => cases hlive
          | some id => exact ⟨id, rfl⟩
        have hid : id ≠ homeId := by simpa [isLive] using hlive
        have hnext : s.lastGeneration - n + m + 1 = s.lastGeneration + 1 - n + m := by omega
        rw [select_live hself hid, select_live hself' hid, released_renumber,
          asking_renumber hcounted, List.map_append]
        simp only [renumber, Link.renumber, Effect.renumber, List.map_cons, List.map_nil, hnext]

theorem reset_renumber (hcounted : n ≤ s.lastGeneration) :
    (s.renumber n m).reset =
      (s.reset.1.renumber n m, s.reset.2.map (Effect.renumber n m)) := by
  unfold reset
  rw [select_renumber hcounted]
  rfl

/-- The renumbered session owns the link of a matching event exactly if the session owns that of the
event. -/
theorem owned_renumber_iff (h : s.Beyond n) {e e' : Link.Event} (he : e.Matches n m e') :
    (s.renumber n m).generation = some e'.generation ↔ s.generation = some e.generation := by
  have hnumber := he.generation
  unfold renumber Link.renumber
  cases hg : s.generation with
  | none => simp
  | some g =>
      have howned := h.owned g hg
      simp only [Option.map_some, Option.some.injEq]
      omega

theorem onEvent_renumber (h : s.Beyond n) {e e' : Link.Event} (he : e.Matches n m e') :
    (s.renumber n m).onEvent e' =
      ((s.onEvent e).1.renumber n m, (s.onEvent e).2.map (Effect.renumber n m)) := by
  by_cases howned : s.generation = some e.generation
  · have howned' := (owned_renumber_iff h he).mpr howned
    unfold onEvent
    rw [if_neg (not_not.mpr howned), if_neg (not_not.mpr howned'), he.report]
    cases e.report with
    | opened =>
        dsimp only
        rw [state_renumber, active_renumber]
        split
        · have heffects : s.active.toList.map Effect.fetchMembers =
              (s.active.toList.map Effect.fetchMembers).map (Effect.renumber n m) := by
            rw [List.map_map]
            rfl
          exact Prod.ext rfl heffects
        · rfl
    | frame text arrived =>
        dsimp only
        rw [isOpen_renumber]
        split <;> rfl
    | failed reason =>
        dsimp only [closeWith]
        rw [state_renumber]
        split <;> rfl
    | closed =>
        dsimp only [closeWith]
        rw [state_renumber]
        split <;> rfl
  · have howned' := fun h' => howned ((owned_renumber_iff h he).mp h')
    rw [onEvent_of_ne howned, onEvent_of_ne howned']
    rfl

theorem send_renumber (s : Session) (typed : String) :
    (s.renumber n m).send typed = (s.send typed).map (Effect.renumber n m) := by
  unfold send
  dsimp only
  rw [isOpen_renumber]
  split
  · rfl
  · cases hg : s.generation <;> simp [renumber, hg, Effect.renumber]

theorem roster_renumber (s : Session) (channel : Nat) (members : Option (List Member)) :
    ((s.renumber n m).apply (.roster channel members)).1 =
      (s.apply (.roster channel members)).1.renumber n m := by
  unfold apply
  dsimp only
  rw [active_renumber]
  split <;> rfl

end Session

end ChatTerminal
