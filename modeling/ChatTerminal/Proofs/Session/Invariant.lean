import ChatTerminal.Proofs.Session.Run
import Mathlib.Data.List.Induction
import Mathlib.Data.List.Nodup
/-!
# What holds throughout a run of a session

`Sound` ties the fields of a session to one another, `Numbered` ties a session to the links it
asked for.  Every outcome of a step keeps both, so every session of a run has both.
-/

namespace ChatTerminal

def Effect.connect? : Effect → Option (Nat × Nat)
  | .connect g channel => some (g, channel)
  | _ => none

namespace Session

variable {s t : Session} {es : List Effect}

/-- A session owns a link exactly while it is not idle and a live channel is active. -/
structure Sound (s : Session) : Prop where
  idle_iff : s.state = .idle ↔ s.generation = none
  live_eq : isLive s.active = s.generation.isSome
  owned_last : ∀ g, s.generation = some g → g = s.lastGeneration
  unspoken : s.state = .idle ∨ s.state = .connecting → s.messages = []

theorem Origin.sound (o : Origin) : o.session.Sound := by
  cases o <;> constructor <;> simp [Origin.session, Session.home, Session.continuing, isLive]

theorem Sound.asking (s : Session) (id : Nat) (hlive : id ≠ homeId) : (s.asking id).Sound := by
  constructor <;> simp [Session.asking, isLive, hlive]

theorem Sound.parked (s : Session) {channel : Option Nat} (h : isLive channel = false) :
    (s.parked channel).Sound := by
  constructor <;> simp [Session.parked, h]

theorem Sound.setState (h : s.Sound) (howned : s.generation ≠ none) {state : Link.State}
    (hidle : state ≠ .idle) (hconnecting : state ≠ .connecting) :
    { s with state := state }.Sound where
  idle_iff := by simp [hidle, howned]
  live_eq := h.live_eq
  owned_last := h.owned_last
  unspoken := by simp [hidle, hconnecting]

theorem Departure.sound (h : Departure s t es) (hs : s.Sound) : t.Sound := by
  cases h with
  | asked id changed live => exact .asking s id live
  | left channel parks => exact .parked s parks
  | cleared nowhere => exact ⟨hs.idle_iff, hs.live_eq, hs.owned_last, fun _ => rfl⟩

theorem Outcome.sound (h : Outcome s t es) (hs : s.Sound) : t.Sound := by
  cases h with
  | same => exact hs
  | sent => exact hs
  | departed h => exact h.sound hs
  | listed members => exact ⟨hs.idle_iff, hs.live_eq, hs.owned_last, hs.unspoken⟩
  | opened connecting =>
      have howned : s.generation ≠ none := by
        rw [Ne, ← hs.idle_iff, connecting]
        decide
      exact hs.setState howned (by decide) (by decide)
  | heard isOpen m =>
      refine ⟨hs.idle_iff, hs.live_eq, hs.owned_last, fun hstate => ?_⟩
      simp [isOpen] at hstate
  | ended g owned text =>
      exact hs.setState (by simp [owned]) (by decide) (by decide)

theorem Sound.after (hs : s.Sound) (steps : List Step) : (s.after steps).Sound := by
  induction steps generalizing s with
  | nil => exact hs
  | cons x steps ih => exact ih ((s.step_outcome x).sound hs)

theorem Sound.active_of_owned (hs : s.Sound) {g : Nat} (howned : s.generation = some g) :
    ∃ id, s.active = some id ∧ id ≠ homeId := by
  have hlive : isLive s.active = true := by rw [hs.live_eq, howned]; rfl
  cases hactive : s.active with
  | none => simp [hactive, isLive] at hlive
  | some id => exact ⟨id, rfl, by simpa [hactive, isLive] using hlive⟩

theorem Sound.parked_iff (hs : s.Sound) :
    s.active = none ∨ s.active = some homeId ↔ s.generation = none := by
  have hlive := hs.live_eq
  cases hactive : s.active with
  | none => simpa [hactive, isLive] using hlive
  | some id => cases hg : s.generation <;> simp_all [isLive]

/-! ## The numbers of the links -/

/-- The links asked for so far, by number and channel, fit a session: their numbers increase, and
a link that the session owns is the last of them and belongs to the active channel. -/
structure Numbered (s : Session) (asked : List (Nat × Nat)) : Prop where
  increasing : (asked.map Prod.fst).Pairwise (· < ·)
  bounded : ∀ link ∈ asked, link.1 ≤ s.lastGeneration
  owned : ∀ g, s.generation = some g →
    ∃ id, s.active = some id ∧ asked.getLast? = some (g, id)

theorem Outcome.generation_eq (h : Outcome s t es) :
    t.generation = s.generation ∨ t.generation = none ∨
      t.generation = some (s.lastGeneration + 1) := by
  cases h with
  | departed h =>
      cases h with
      | asked id changed live => exact .inr (.inr rfl)
      | left channel parks => exact .inr (.inl rfl)
      | cleared nowhere => exact .inl rfl
  | same | listed | opened | heard | ended | sent => exact .inl rfl

theorem Origin.numbered (o : Origin) : o.session.Numbered [] := by
  cases o <;> constructor <;> simp [Origin.session, Session.home, Session.continuing]

@[simp] theorem connects_released (s : Session) : s.released.filterMap Effect.connect? = [] := by
  cases h : s.generation <;> simp [released, h, Effect.connect?]

theorem Numbered.ask {asked : List (Nat × Nat)} (hs : s.Numbered asked) (id : Nat) :
    (s.asking id).Numbered (asked ++ [(s.lastGeneration + 1, id)]) where
  increasing := by
    rw [List.map_append, List.pairwise_append]
    refine ⟨hs.increasing, by simp, ?_⟩
    intro a ha b hb
    obtain ⟨link, hlink, rfl⟩ := List.mem_map.mp ha
    have hle := hs.bounded link hlink
    simp only [List.map_cons, List.map_nil, List.mem_singleton] at hb
    omega
  bounded link hlink := by
    rcases List.mem_append.mp hlink with hold | hnew
    · exact Nat.le_succ_of_le (hs.bounded link hold)
    · rw [List.mem_singleton.mp hnew]
      exact Nat.le_refl _
  owned g howned := by
    obtain rfl : s.lastGeneration + 1 = g := by simpa [asking] using howned
    exact ⟨id, rfl, by simp⟩

theorem Departure.numbered {asked : List (Nat × Nat)} (h : Departure s t es)
    (hs : s.Numbered asked) : t.Numbered (asked ++ es.filterMap Effect.connect?) := by
  cases h with
  | asked id changed live => simpa [Effect.connect?] using hs.ask id
  | left channel parks => simpa using ⟨hs.increasing, hs.bounded, by simp [parked]⟩
  | cleared nowhere =>
      rw [List.filterMap_nil, List.append_nil]
      exact ⟨hs.increasing, hs.bounded, hs.owned⟩

theorem Outcome.numbered {asked : List (Nat × Nat)} (h : Outcome s t es)
    (hs : s.Numbered asked) : t.Numbered (asked ++ es.filterMap Effect.connect?) := by
  cases h with
  | departed h => exact h.numbered hs
  | opened connecting =>
      have hnone : (s.active.toList.map Effect.fetchMembers).filterMap Effect.connect? = [] := by
        cases h : s.active <;> simp [Effect.connect?]
      rw [hnone, List.append_nil]
      exact ⟨hs.increasing, hs.bounded, hs.owned⟩
  | same | listed | heard | ended | sent =>
      simp only [List.filterMap_nil, List.filterMap_cons, Effect.connect?, List.append_nil]
      exact ⟨hs.increasing, hs.bounded, hs.owned⟩

def connects (s : Session) (steps : List Step) : List (Nat × Nat) :=
  (s.effects steps).filterMap Effect.connect?

@[simp] theorem connects_concat (s : Session) (past : List Step) (x : Step) :
    s.connects (past ++ [x]) =
      s.connects past ++ ((s.after past).step x).2.filterMap Effect.connect? := by
  simp [connects]

theorem connects_append (s : Session) (first more : List Step) :
    s.connects (first ++ more) = s.connects first ++ (s.after first).connects more := by
  rw [connects, effects_append, List.filterMap_append]
  rfl

theorem Numbered.after (hs : s.Numbered []) (steps : List Step) :
    (s.after steps).Numbered (s.connects steps) := by
  induction steps using List.reverseRecOn with
  | nil => exact hs
  | append_singleton past x ih =>
      rw [after_concat, connects_concat]
      exact ((s.after past).step_outcome x).numbered ih

theorem Numbered.channel_unique {asked : List (Nat × Nat)} (hs : s.Numbered asked) {g c d : Nat}
    (hc : (g, c) ∈ asked) (hd : (g, d) ∈ asked) : c = d := by
  have hnodup : (asked.map Prod.fst).Nodup := hs.increasing.imp Nat.ne_of_lt
  have heq := List.inj_on_of_nodup_map hnodup hc hd rfl
  exact congrArg Prod.snd heq

theorem Numbered.active_eq {asked : List (Nat × Nat)} (hs : s.Numbered asked) {g c : Nat}
    (howned : s.generation = some g) (hc : (g, c) ∈ asked) : s.active = some c := by
  obtain ⟨id, hactive, hlast⟩ := hs.owned g howned
  rw [hactive, hs.channel_unique hc (List.mem_of_getLast? hlast)]

/-- A link that was asked for before a step and is owned after it was owned before it. -/
theorem Outcome.owned_before {asked : List (Nat × Nat)} (h : Outcome s t es)
    (hs : s.Numbered asked) {link : Nat × Nat} (hlink : link ∈ asked)
    (howned : t.generation = some link.1) : s.generation = some link.1 := by
  have hle := hs.bounded link hlink
  rcases h.generation_eq with hkept | hnone | hnew
  · rw [← hkept, howned]
  · simp [hnone] at howned
  · have heq : s.lastGeneration + 1 = link.1 := Option.some.inj (hnew.symm.trans howned)
    omega

/-- A link that is owned has been owned since it was asked for. -/
theorem owned_since_asked {o : Origin} {past more : List Step} {link : Nat × Nat}
    (hlink : link ∈ o.session.connects past)
    (howned : (o.session.after (past ++ more)).generation = some link.1) :
    (o.session.after past).generation = some link.1 := by
  induction more using List.reverseRecOn with
  | nil => simpa using howned
  | append_singleton more x ih =>
      have hasked : link ∈ o.session.connects (past ++ more) := by
        rw [connects_append]
        exact List.mem_append_left _ hlink
      have houtcome := (o.session.after (past ++ more)).step_outcome x
      rw [← List.append_assoc, after_concat] at howned
      exact ih (houtcome.owned_before (o.numbered.after _) hasked howned)

end Session

end ChatTerminal
