import ChatTerminal.Proofs.Session.Invariant
import ChatTerminal.Station
/-!
# Sessions and their calls of the links

The calls of the links are folded into the connection that is live.  A wire is a session together
with the calls made for it; giving its session one step after another and making the calls that
each step asks for keeps the live connection the one that the session owns.
-/

namespace ChatTerminal

namespace LinkCall

def ofEffect? : Effect → Option LinkCall
  | .connect g channel => some (.connect g channel)
  | .disconnect g => some (.disconnect g)
  | .send g content => some (.send g content)
  | .fetchMembers _ | .notify _ => none

def connect? : LinkCall → Option (Nat × Nat)
  | .connect g channel => some (g, channel)
  | _ => none

def liveAfter (live : Option (Nat × Nat)) : LinkCall → Option (Nat × Nat)
  | .connect g channel => some (g, channel)
  | .disconnect g => if live.map Prod.fst = some g then none else live
  | .send _ _ => live

/-- Nothing is connected over a live connection; what is let go or sent to is the live one. -/
def Allowed (live : Option (Nat × Nat)) : LinkCall → Prop
  | .connect _ _ => live = none
  | .disconnect g => live.map Prod.fst = some g
  | .send g _ => live.map Prod.fst = some g

def live (calls : List LinkCall) : Option (Nat × Nat) := calls.foldl liveAfter none

def Orderly (calls : List LinkCall) : Prop :=
  ∀ before call later, calls = before ++ call :: later → call.Allowed (live before)

@[simp] theorem live_concat (calls : List LinkCall) (call : LinkCall) :
    live (calls ++ [call]) = call.liveAfter (live calls) := by
  rw [live, List.foldl_append]
  rfl

theorem orderly_nil : Orderly [] := by
  intro before call later h
  simp at h

/-- A place in a list with one more at its end is that end, or a place in the list. -/
theorem split_concat {α : Type} {xs before later : List α} {last x : α}
    (h : xs ++ [last] = before ++ x :: later) :
    (xs = before ∧ last = x) ∨ ∃ rest, xs = before ++ x :: rest := by
  rcases List.eq_nil_or_concat later with rfl | ⟨rest, end', rfl⟩
  · obtain ⟨hxs, hlast⟩ := List.append_inj' h rfl
    exact .inl ⟨hxs, by simpa using hlast⟩
  · have hsplit : xs ++ [last] = (before ++ x :: rest) ++ [end'] := by simpa using h
    exact .inr ⟨rest, (List.append_inj' hsplit rfl).1⟩

theorem Orderly.concat {calls : List LinkCall} (h : Orderly calls) {call : LinkCall}
    (hcall : call.Allowed (live calls)) : Orderly (calls ++ [call]) := by
  intro before c later hsplit
  rcases split_concat hsplit with ⟨rfl, rfl⟩ | ⟨rest, hcalls⟩
  · exact hcall
  · exact h before c rest hcalls

theorem connects_ofEffects (es : List Effect) :
    (es.filterMap ofEffect?).filterMap connect? = es.filterMap Effect.connect? := by
  rw [List.filterMap_filterMap]
  apply List.filterMap_congr
  intro e _
  cases e <;> rfl

def sent? : LinkCall → Option (Nat × String)
  | .send g content => some (g, content)
  | _ => none

theorem unsent_ofEffects {es : List Effect} (h : ∀ g content, .send g content ∉ es) :
    (es.filterMap ofEffect?).filterMap sent? = [] := by
  rw [List.filterMap_filterMap, List.filterMap_eq_nil_iff]
  intro e he
  cases e with
  | send g content => exact absurd he (h g content)
  | connect | disconnect | fetchMembers | notify => rfl

end LinkCall

open LinkCall

def Session.link? (s : Session) : Option (Nat × Nat) :=
  s.generation.bind fun g => s.active.map (g, ·)

/-- A session and the calls of the links made for it. -/
structure Wire where
  session : Session
  calls : List LinkCall

namespace Wire

def take (w : Wire) (x : Session.Step) : Wire :=
  ⟨(w.session.step x).1, w.calls ++ (w.session.step x).2.filterMap ofEffect?⟩

def takeAll (w : Wire) (steps : List Session.Step) : Wire := steps.foldl take w

theorem takeAll_append (w : Wire) (first more : List Session.Step) :
    w.takeAll (first ++ more) = (w.takeAll first).takeAll more := by
  rw [takeAll, List.foldl_append]
  rfl

def asked (w : Wire) : List (Nat × Nat) := w.calls.filterMap connect?

def sent (w : Wire) : List (Nat × String) := w.calls.filterMap sent?

theorem sent_take (w : Wire) {x : Session.Step} (hx : ∀ typed, x ≠ .input (.send typed)) :
    (w.take x).sent = w.sent := by
  rw [sent, take, List.filterMap_append, unsent_ofEffects (w.session.step_unsent hx),
    List.append_nil]
  rfl

theorem sent_takeAll (w : Wire) {steps : List Session.Step} (hsteer : ∀ x ∈ steps, x.Steers) :
    (w.takeAll steps).sent = w.sent := by
  induction steps generalizing w with
  | nil => rfl
  | cons x more ih =>
      rw [List.forall_mem_cons] at hsteer
      exact (ih (w.take x) hsteer.2).trans (w.sent_take hsteer.1.not_send)

/-! ## The live connection is the link that the session owns -/

/-- The calls kept the rules, and the live connection is the link that the session owns. -/
structure Tied (w : Wire) : Prop where
  sound : w.session.Sound
  orderly : Orderly w.calls
  live_eq : live w.calls = w.session.link?

variable {w : Wire}

theorem Tied.live_of_owned (h : w.Tied) {g : Nat} (howned : w.session.generation = some g) :
    (live w.calls).map Prod.fst = some g := by
  obtain ⟨id, hactive, -⟩ := h.sound.active_of_owned howned
  rw [h.live_eq, Session.link?, howned, hactive]
  rfl

theorem Tied.live_of_unowned (h : w.Tied) (hnone : w.session.generation = none) :
    live w.calls = none := by
  rw [h.live_eq, Session.link?, hnone]
  rfl

/-- Letting the link of a session go leaves no live connection. -/
theorem Tied.release (h : w.Tied) :
    Orderly (w.calls ++ w.session.released.filterMap ofEffect?) ∧
      live (w.calls ++ w.session.released.filterMap ofEffect?) = none := by
  cases hg : w.session.generation with
  | none =>
      have hlive := h.live_of_unowned hg
      simpa [Session.released, hg] using ⟨h.orderly, hlive⟩
  | some g =>
      have hallowed := h.live_of_owned hg
      have hcalls : w.session.released.filterMap ofEffect? = [.disconnect g] := by
        simp [Session.released, hg, ofEffect?]
      rw [hcalls]
      exact ⟨h.orderly.concat hallowed, by rw [live_concat]; exact if_pos hallowed⟩

/-- A step that makes no call and keeps the link of the session. -/
theorem Tied.uncalled (h : w.Tied) {t : Session} {es : List Effect} (hsound : t.Sound)
    (hlink : t.link? = w.session.link?) (hcalls : es.filterMap ofEffect? = []) :
    Tied ⟨t, w.calls ++ es.filterMap ofEffect?⟩ := by
  rw [hcalls, List.append_nil]
  exact ⟨hsound, h.orderly, h.live_eq.trans hlink.symm⟩

theorem Tied.departure (h : w.Tied) {t : Session} {es : List Effect}
    (hd : Session.Departure w.session t es) :
    Tied ⟨t, w.calls ++ es.filterMap ofEffect?⟩ := by
  obtain ⟨horderly, hlive⟩ := h.release
  have hsound := hd.sound h.sound
  cases hd with
  | asked id changed live =>
      have hcalls : (w.session.released ++
          [Effect.connect (w.session.lastGeneration + 1) id]).filterMap ofEffect? =
          w.session.released.filterMap ofEffect? ++ [.connect (w.session.lastGeneration + 1) id] := by
        simp [ofEffect?]
      rw [hcalls, ← List.append_assoc]
      exact ⟨hsound, horderly.concat hlive, live_concat _ _⟩
  | left channel parks => exact ⟨hsound, horderly, hlive⟩
  | cleared nowhere => exact h.uncalled hsound rfl rfl

theorem Tied.outcome (h : w.Tied) {t : Session} {es : List Effect}
    (ho : Session.Outcome w.session t es) :
    Tied ⟨t, w.calls ++ es.filterMap ofEffect?⟩ := by
  have hsound := ho.sound h.sound
  cases ho with
  | departed hd => exact h.departure hd
  | same | listed | heard | ended => exact h.uncalled hsound rfl rfl
  | opened connecting =>
      refine h.uncalled hsound rfl ?_
      cases hactive : w.session.active <;> simp [ofEffect?]
  | sent g owned content =>
      have hallowed := h.live_of_owned owned
      exact ⟨hsound, h.orderly.concat hallowed, (live_concat _ _).trans h.live_eq⟩

theorem Tied.take (h : w.Tied) (x : Session.Step) : (w.take x).Tied :=
  h.outcome (w.session.step_outcome x)

theorem Tied.takeAll (h : w.Tied) (steps : List Session.Step) : (w.takeAll steps).Tied := by
  induction steps generalizing w with
  | nil => exact h
  | cons x more ih => exact ih (h.take x)

/-! ## The numbers of the connections -/

/-- The numbers of the connections opened so far increase, and the session owns the last or none. -/
def Numbered (w : Wire) : Prop := w.session.Numbered w.asked

theorem Numbered.take (h : w.Numbered) (x : Session.Step) : (w.take x).Numbered := by
  have hnumbered := (w.session.step_outcome x).numbered h
  unfold Numbered Wire.asked Wire.take
  rw [List.filterMap_append, connects_ofEffects]
  exact hnumbered

def Released (w : Wire) (g : Nat) : Prop :=
  g ∈ w.asked.map Prod.fst ∧ w.session.generation ≠ some g

theorem Released.take {g : Nat} (hn : w.Numbered) (h : w.Released g) (x : Session.Step) :
    (w.take x).Released g := by
  obtain ⟨hmem, hne⟩ := h
  obtain ⟨link, hlink, rfl⟩ := List.mem_map.mp hmem
  constructor
  · unfold Wire.asked Wire.take
    rw [List.filterMap_append, List.map_append]
    exact List.mem_append_left _ hmem
  · intro howned
    exact hne ((w.session.step_outcome x).owned_before hn hlink howned)

end Wire

end ChatTerminal
