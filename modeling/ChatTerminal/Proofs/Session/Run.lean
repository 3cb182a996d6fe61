import ChatTerminal.Session
import Mathlib.Data.List.Basic
/-!
# Runs of a session

A session starts on the landing page or nowhere, and is then given one step after another.  What
a step can do is said once, in `Outcome`; that every session of a run is `Sound`, and that links
are numbered upwards, follows from it by induction over the run.
-/

namespace ChatTerminal.Session

/-- What a session may be given: an input, or the order to leave. -/
inductive Step where
  | input (i : Input)
  | reset
deriving Repr, DecidableEq

def step (s : Session) : Step → Session × List Effect
  | .input i => s.apply i
  | .reset => s.reset

/-- The step neither reports of a link nor sends anything. -/
def Step.Steers : Step → Prop
  | .input (.link _) | .input (.send _) => False
  | _ => True

def after (s : Session) (steps : List Step) : Session :=
  steps.foldl (fun s x => (s.step x).1) s

def effects (s : Session) : List Step → List Effect
  | [] => []
  | x :: more => (s.step x).2 ++ effects (s.step x).1 more

/-- How a run may start. -/
inductive Origin where
  | nowhere
  | home
  | continuing (previous : Session)
deriving Repr, DecidableEq

def Origin.session : Origin → Session
  | .nowhere => {}
  | .home => .home
  | .continuing previous => .continuing previous

@[simp] theorem after_nil (s : Session) : s.after [] = s := rfl

@[simp] theorem after_cons (s : Session) (x : Step) (more : List Step) :
    s.after (x :: more) = (s.step x).1.after more := rfl

theorem after_append (s : Session) (first more : List Step) :
    s.after (first ++ more) = (s.after first).after more := by
  rw [after, List.foldl_append]
  rfl

@[simp] theorem after_concat (s : Session) (past : List Step) (x : Step) :
    s.after (past ++ [x]) = ((s.after past).step x).1 := by
  rw [after_append]
  rfl

theorem effects_append (s : Session) (first more : List Step) :
    s.effects (first ++ more) = s.effects first ++ (s.after first).effects more := by
  induction first generalizing s with
  | nil => rfl
  | cons x first ih =>
      simp only [List.cons_append, effects, after_cons]
      rw [ih, List.append_assoc]

@[simp] theorem effects_concat (s : Session) (past : List Step) (x : Step) :
    s.effects (past ++ [x]) = s.effects past ++ ((s.after past).step x).2 := by
  rw [effects_append]
  simp [effects]

/-! ## What a step can do -/

def released (s : Session) : List Effect := s.generation.toList.map Effect.disconnect

def asking (s : Session) (id : Nat) : Session :=
  { active := some id
    state := .connecting
    generation := some (s.lastGeneration + 1)
    lastGeneration := s.lastGeneration + 1 }

/-- A session without a link, its links numbered as far as those of `s`. -/
def parked (s : Session) (channel : Option Nat) : Session :=
  { active := channel, lastGeneration := s.lastGeneration }

theorem select_self (s : Session) : s.select s.active = (s, []) := by
  simp [select]

theorem select_live {s : Session} {id : Nat} (hne : some id ≠ s.active) (hlive : id ≠ homeId) :
    s.select (some id) =
      (s.asking id, s.released ++ [.connect (s.lastGeneration + 1) id]) := by
  simp [select, isLive, hne, hlive, asking, released]

theorem select_parked {s : Session} {channel : Option Nat} (hne : channel ≠ s.active)
    (hlive : isLive channel = false) :
    s.select channel = (s.parked channel, s.released) := by
  cases channel with
  | none => simp [select, hne, parked, released]
  | some id => simp [select, hne, hlive, parked, released]

theorem active_select (s : Session) (channel : Option Nat) :
    (s.select channel).1.active = channel := by
  by_cases hself : channel = s.active
  · rw [hself, select_self]
  · cases hlive : isLive channel with
    | false =>
        rw [select_parked hself hlive]
        rfl
    | true =>
        cases channel with
        | none => cases hlive
        | some id =>
            rw [select_live hself (by simpa [isLive] using hlive)]
            rfl

/-- Another channel than the one on display, or none at all, is shown from scratch. -/
theorem select_next {s : Session} {channel : Option Nat} (hne : channel ≠ s.active)
    (hlive : ∀ id, channel = some id → id ≠ homeId) :
    (s.select channel).1.messages = [] ∧ (s.select channel).1.members = [] ∧
      (s.select channel).2 =
        s.released ++ channel.toList.map (.connect (s.lastGeneration + 1)) := by
  cases channel with
  | none =>
      rw [select_parked hne rfl]
      exact ⟨rfl, rfl, (List.append_nil _).symm⟩
  | some id =>
      rw [select_live hne (hlive id rfl)]
      exact ⟨rfl, rfl, rfl⟩

theorem reset_of_active_none {s : Session} (h : s.active = none) :
    s.reset = ({ s with messages := [], members := [] }, []) := by
  have hself : s.select none = (s, []) := by
    rw [← h]
    exact s.select_self
  simp [reset, hself]

theorem reset_of_active_some {s : Session} (h : s.active ≠ none) :
    s.reset = (s.parked none, s.released) := by
  have hselect : s.select none = (s.parked none, s.released) := select_parked h.symm rfl
  simp [reset, hselect, parked]

theorem onEvent_of_ne {s : Session} {e : Link.Event} (h : s.generation ≠ some e.generation) :
    s.onEvent e = (s, []) := by
  simp [onEvent, h]

/-- A reset, or the selection of another channel than the active one. -/
def leaves (s : Session) : Step → Bool
  | .input (.select channel) => channel != s.active
  | .reset => true
  | _ => false

inductive Departure (s : Session) : Session → List Effect → Prop where
  | asked (id : Nat) (changed : some id ≠ s.active) (live : id ≠ homeId) :
      Departure s (s.asking id) (s.released ++ [.connect (s.lastGeneration + 1) id])
  | left (channel : Option Nat) (parks : isLive channel = false) :
      Departure s (s.parked channel) s.released
  | cleared (nowhere : s.active = none) :
      Departure s { s with messages := [], members := [] } []

inductive Outcome (s : Session) : Session → List Effect → Prop where
  | same : Outcome s s []
  | departed {t : Session} {es : List Effect} (h : Departure s t es) : Outcome s t es
  | listed (members : List Member) : Outcome s { s with members := members } []
  | opened (connecting : s.state = .connecting) :
      Outcome s { s with state := .open } (s.active.toList.map Effect.fetchMembers)
  | heard (isOpen : s.state = .open) (m : Message) :
      Outcome s { s with messages := s.messages ++ [m] } []
  | ended (g : Nat) (owned : s.generation = some g) (text : String) :
      Outcome s { s with state := .closed } [.notify text]
  | sent (g : Nat) (owned : s.generation = some g) (content : String) :
      Outcome s s [.send g content]

theorem select_departure {s : Session} {channel : Option Nat} (hne : channel ≠ s.active) :
    Departure s (s.select channel).1 (s.select channel).2 := by
  cases hlive : isLive channel with
  | false =>
      rw [select_parked hne hlive]
      exact .left channel hlive
  | true =>
      obtain ⟨id, rfl⟩ : ∃ id, channel = some id := by
        cases channel <;> simp_all [isLive]
      have hid : id ≠ homeId := by simpa [isLive] using hlive
      rw [select_live hne hid]
      exact .asked id hne hid

theorem reset_departure (s : Session) : Departure s s.reset.1 s.reset.2 := by
  by_cases h : s.active = none
  · rw [reset_of_active_none h]
    exact .cleared h
  · rw [reset_of_active_some h]
    exact .left none rfl

theorem departure_of_leaves {s : Session} {x : Step} (h : s.leaves x = true) :
    Departure s (s.step x).1 (s.step x).2 := by
  cases x with
  | reset => exact s.reset_departure
  | input i =>
      cases i with
      | select channel => exact select_departure (by simpa [leaves] using h)
      | link | send | roster | seed => simp [leaves] at h

/-- A step that is no event and does not leave changes nothing but the members. -/
theorem step_of_stays {s : Session} {x : Step} (h : s.leaves x = false)
    (hevent : ∀ e, x ≠ .input (.link e)) :
    ∃ members, (s.step x).1 = { s with members := members } := by
  cases x with
  | reset => simp [leaves] at h
  | input i =>
      cases i with
      | link e => exact absurd rfl (hevent e)
      | send typed => exact ⟨s.members, rfl⟩
      | seed members => exact ⟨members, rfl⟩
      | select channel =>
          have hself : channel = s.active := by simpa [leaves] using h
          simp only [step, apply, hself, select_self]
          exact ⟨s.members, rfl⟩
      | roster channel members =>
          simp only [step, apply]
          split
          · exact ⟨members.getD [], rfl⟩
          · exact ⟨s.members, rfl⟩

theorem select_outcome (s : Session) (channel : Option Nat) :
    Outcome s (s.select channel).1 (s.select channel).2 := by
  by_cases hself : channel = s.active
  · rw [hself, select_self]
    exact .same
  · exact .departed (select_departure hself)

theorem closeWith_outcome {s : Session} {g : Nat} (howned : s.generation = some g)
    (text : String) : Outcome s (s.closeWith text).1 (s.closeWith text).2 := by
  unfold closeWith
  split
  · exact .same
  · exact .ended g howned text

theorem onEvent_outcome (s : Session) (e : Link.Event) :
    Outcome s (s.onEvent e).1 (s.onEvent e).2 := by
  by_cases howned : s.generation = some e.generation
  · unfold onEvent
    rw [if_neg (by simpa using howned)]
    cases e.report with
    | opened =>
        dsimp only
        split
        · exact .opened ‹_›
        · exact .same
    | frame text arrived =>
        dsimp only
        split
        · exact .heard (by simpa [isOpen] using ‹s.isOpen = true›) _
        · exact .same
    | failed reason => exact closeWith_outcome howned _
    | closed => exact closeWith_outcome howned _
  · rw [onEvent_of_ne howned]
    exact .same

theorem send_outcome (s : Session) (typed : String) : Outcome s s (s.send typed) := by
  unfold send
  dsimp only
  split
  · exact .same
  · cases hg : s.generation with
    | none => exact .same
    | some g => exact .sent g hg _

theorem step_outcome (s : Session) (x : Step) : Outcome s (s.step x).1 (s.step x).2 := by
  cases x with
  | reset => exact .departed s.reset_departure
  | input i =>
      cases i with
      | select channel => exact s.select_outcome channel
      | link e => exact s.onEvent_outcome e
      | send typed =>
          have hsent := s.send_outcome typed
          simpa only [step, apply] using hsent
      | roster channel members =>
          simp only [step, apply]
          split
          · exact .listed _
          · exact .same
      | seed members => exact .listed members

/-! ## What is sent -/

theorem Step.Steers.not_event {x : Step} (h : x.Steers) (e : Link.Event) :
    x ≠ .input (.link e) := by
  rintro rfl
  exact h

theorem Step.Steers.not_send {x : Step} (h : x.Steers) (typed : String) :
    x ≠ .input (.send typed) := by
  rintro rfl
  exact h

theorem Departure.unsent {s t : Session} {es : List Effect} (h : Departure s t es) (g : Nat)
    (content : String) : .send g content ∉ es := by
  cases h <;> cases hg : s.generation <;> simp [released, hg]

theorem onEvent_unsent (s : Session) (e : Link.Event) (g : Nat) (content : String) :
    .send g content ∉ (s.onEvent e).2 := by
  unfold onEvent closeWith
  split
  · exact List.not_mem_nil
  · split <;> split <;> simp

theorem step_unsent (s : Session) {x : Step} (hx : ∀ typed, x ≠ .input (.send typed)) (g : Nat)
    (content : String) : .send g content ∉ (s.step x).2 := by
  cases x with
  | reset => exact s.reset_departure.unsent g content
  | input i =>
      cases i with
      | send typed => exact absurd rfl (hx typed)
      | link e => exact s.onEvent_unsent e g content
      | seed members => exact List.not_mem_nil
      | roster channel members =>
          simp only [step, apply]
          split <;> exact List.not_mem_nil
      | select channel =>
          by_cases hself : channel = s.active
          · simp [step, apply, hself, select_self]
          · exact (select_departure hself).unsent g content

end ChatTerminal.Session
