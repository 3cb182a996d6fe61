import ChatTerminal.Proofs.Session.Invariant
import Mathlib.Data.List.DropRight
/-!
# The history of a session

A run is looked back on as a list of visits: each step together with the session that it was given
to.  What a link reported decides the state of the session that owns it.
-/

namespace ChatTerminal

namespace Link

def Report.ends : Report → Bool
  | .failed _ | .closed => true
  | _ => false

def stateOf (reports : List Report) : State :=
  if reports.any Report.ends then .closed
  else if .opened ∈ reports then .open
  else .connecting

theorem stateOf_eq_open_iff (reports : List Report) :
    stateOf reports = .open ↔ .opened ∈ reports ∧ ∀ r ∈ reports, r.ends = false := by
  unfold stateOf
  split <;> rename_i hends
  · obtain ⟨r, hr, hend⟩ := List.any_eq_true.mp hends
    simp only [reduceCtorEq, false_iff, not_and]
    intro _ hall
    simp [hall r hr] at hend
  · split <;> simp_all

theorem stateOf_eq_closed_iff (reports : List Report) :
    stateOf reports = .closed ↔ ∃ r ∈ reports, r.ends = true := by
  unfold stateOf
  split <;> rename_i hends
  · simpa using hends
  · split <;> simp_all

theorem stateOf_eq_connecting_iff (reports : List Report) :
    stateOf reports = .connecting ↔ ∀ r ∈ reports, r ≠ .opened ∧ r.ends = false := by
  unfold stateOf
  split <;> rename_i hends
  · obtain ⟨r, hr, hend⟩ := List.any_eq_true.mp hends
    simp only [reduceCtorEq, false_iff]
    intro hall
    simp [(hall r hr).2] at hend
  · split <;> rename_i hopened
    · simp only [reduceCtorEq, false_iff]
      intro hall
      exact (hall _ hopened).1 rfl
    · simp only [true_iff]
      intro r hr
      refine ⟨fun heq => hopened (heq ▸ hr), ?_⟩
      simpa using fun hend => hends (List.any_eq_true.mpr ⟨r, hr, hend⟩)

end Link

namespace Session

open Link

structure Visit where
  before : Session
  step : Step
deriving Repr, DecidableEq

def visits (s : Session) : List Step → List Visit
  | [] => []
  | x :: more => ⟨s, x⟩ :: visits (s.step x).1 more

theorem visits_append (s : Session) (first more : List Step) :
    s.visits (first ++ more) = s.visits first ++ (s.after first).visits more := by
  induction first generalizing s with
  | nil => rfl
  | cons x first ih =>
      simp only [List.cons_append, visits, after_cons]
      rw [ih]

@[simp] theorem visits_concat (s : Session) (past : List Step) (x : Step) :
    s.visits (past ++ [x]) = s.visits past ++ [⟨s.after past, x⟩] := by
  rw [visits_append]
  rfl

namespace Visit

def effects (v : Visit) : List Effect := (v.before.step v.step).2

def report? (v : Visit) (g : Nat) : Option Report :=
  match v.step with
  | .input (.link e) => if e.generation = g then some e.report else none
  | _ => none

@[simp] theorem report?_link (s : Session) (e : Event) (g : Nat) :
    report? ⟨s, .input (.link e)⟩ g = if e.generation = g then some e.report else none := rfl

theorem report?_of_not_event {s : Session} {x : Step} (h : ∀ e, x ≠ .input (.link e)) (g : Nat) :
    report? ⟨s, x⟩ g = none := by
  cases x with
  | reset => rfl
  | input i =>
      cases i with
      | link e => exact absurd rfl (h e)
      | select | send | roster | seed => rfl

theorem eq_of_report? {v : Visit} {g : Nat} {r : Report} (h : v.report? g = some r) :
    v.step = .input (.link ⟨g, r⟩) := by
  obtain ⟨s, x⟩ := v
  cases x with
  | reset => simp [report?] at h
  | input i =>
      cases i with
      | link e =>
          obtain ⟨rfl, rfl⟩ : e.generation = g ∧ e.report = r := by simpa using h
          rfl
      | select | send | roster | seed => simp [report?] at h

end Visit

/-! ## The link that a session owns -/

theorem state_onEvent {s : Session} {e : Event} {reports : List Report}
    (howned : s.generation = some e.generation) (hstate : s.state = stateOf reports) :
    (s.onEvent e).1.state = stateOf (reports ++ [e.report]) := by
  unfold onEvent
  rw [if_neg (by simpa using howned)]
  cases hr : e.report with
  | opened =>
      dsimp only
      split <;> rename_i hconnecting
      · rw [hstate, stateOf_eq_connecting_iff] at hconnecting
        symm
        rw [stateOf_eq_open_iff]
        refine ⟨by simp, fun r hmem => ?_⟩
        rcases List.mem_append.mp hmem with hold | hnew
        · exact (hconnecting r hold).2
        · rw [List.mem_singleton.mp hnew]
          rfl
      · rw [hstate] at hconnecting ⊢
        simp only [stateOf] at hconnecting ⊢
        by_cases hends : reports.any Report.ends <;> simp_all [Report.ends]
  | frame text arrived =>
      dsimp only
      have hsame : stateOf (reports ++ [.frame text arrived]) = stateOf reports := by
        simp [stateOf, Report.ends]
      split <;> simp [hstate, hsame]
  | failed reason =>
      have hclosed : stateOf (reports ++ [.failed reason]) = .closed := by
        simp [stateOf, Report.ends]
      dsimp only
      unfold closeWith
      split <;> simp_all
  | closed =>
      have hclosed : stateOf (reports ++ [.closed]) = .closed := by
        simp [stateOf, Report.ends]
      dsimp only
      unfold closeWith
      split <;> simp_all

theorem onEvent_keeps (s : Session) (e : Event) :
    (s.onEvent e).1.active = s.active ∧ (s.onEvent e).1.generation = s.generation ∧
      (s.onEvent e).1.lastGeneration = s.lastGeneration ∧
      (s.onEvent e).1.members = s.members := by
  unfold onEvent closeWith
  split
  · exact ⟨rfl, rfl, rfl, rfl⟩
  · split <;> split <;> exact ⟨rfl, rfl, rfl, rfl⟩

end Session

end ChatTerminal
