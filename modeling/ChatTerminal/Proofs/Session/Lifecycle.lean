import ChatTerminal.Proofs.Session.History
/-!
# The life of a link

A session hears the reports of a link while it owns the link.  They decide its state, so the first
opening of a link fetches the members of its channel, its first end shows a notice, and nothing
it reports after that has an effect.
-/

namespace ChatTerminal

def Effect.fetch? : Effect → Option Nat
  | .fetchMembers channel => some channel
  | _ => none

def Effect.notice? : Effect → Option String
  | .notify text => some text
  | _ => none

theorem Effect.mem_fetches {es : List Effect} {id : Nat} :
    id ∈ es.filterMap Effect.fetch? ↔ .fetchMembers id ∈ es := by
  rw [List.mem_filterMap]
  constructor
  · rintro ⟨e, he, hid⟩
    cases e <;> simp_all [Effect.fetch?]
  · exact fun h => ⟨_, h, rfl⟩

theorem Effect.mem_notices {es : List Effect} {text : String} :
    text ∈ es.filterMap Effect.notice? ↔ .notify text ∈ es := by
  rw [List.mem_filterMap]
  constructor
  · rintro ⟨e, he, htext⟩
    cases e <;> simp_all [Effect.notice?]
  · exact fun h => ⟨_, h, rfl⟩

namespace Session

open Link

/-- The step that gives a session a report of the link with a number. -/
abbrev reporting (g : Nat) (r : Report) : Step := .input (.link ⟨g, r⟩)

def Visit.heard? (v : Visit) (g : Nat) : Option Report :=
  if v.before.generation = some g then v.report? g else none

def heard (s : Session) (g : Nat) (steps : List Step) : List Report :=
  (s.visits steps).filterMap (·.heard? g)

def caused (s : Session) (g : Nat) (steps : List Step) : List Effect :=
  (s.visits steps).flatMap fun v => if (v.report? g).isSome then v.effects else []

@[simp] theorem heard_concat (s : Session) (g : Nat) (past : List Step) (x : Step) :
    s.heard g (past ++ [x]) = s.heard g past ++ (Visit.heard? ⟨s.after past, x⟩ g).toList := by
  rw [heard, visits_concat, List.filterMap_append]
  cases h : Visit.heard? ⟨s.after past, x⟩ g <;> simp [h, heard]

@[simp] theorem caused_concat (s : Session) (g : Nat) (past : List Step) (x : Step) :
    s.caused g (past ++ [x]) = s.caused g past ++
      if (Visit.report? ⟨s.after past, x⟩ g).isSome then ((s.after past).step x).2 else [] := by
  rw [caused, visits_concat, List.flatMap_append, List.flatMap_singleton]
  rfl

/-! ## What one event does -/

theorem fetch_mem_onEvent (s : Session) (g : Nat) (r : Report) (id : Nat) :
    .fetchMembers id ∈ (s.onEvent ⟨g, r⟩).2 ↔
      s.generation = some g ∧ r = .opened ∧ s.state = .connecting ∧ s.active = some id := by
  by_cases howned : s.generation = some g
  · unfold onEvent closeWith
    rw [if_neg (by simpa using howned)]
    cases r with
    | opened => by_cases hstate : s.state = .connecting <;> simp [hstate, howned]
    | frame text arrived => dsimp only; split <;> simp
    | failed reason => dsimp only; split <;> simp
    | closed => dsimp only; split <;> simp
  · simp [onEvent_of_ne (s := s) (e := ⟨g, r⟩) howned, howned]

theorem notify_mem_onEvent (s : Session) (g : Nat) (r : Report) :
    (∃ text, .notify text ∈ (s.onEvent ⟨g, r⟩).2) ↔
      s.generation = some g ∧ r.ends = true ∧ s.state ≠ .closed := by
  by_cases howned : s.generation = some g
  · unfold onEvent closeWith
    rw [if_neg (by simpa using howned)]
    cases r with
    | opened => dsimp only; split <;> simp [Report.ends]
    | frame text arrived => dsimp only; split <;> simp [Report.ends]
    | failed reason => by_cases hstate : s.state = .closed <;> simp [hstate, howned, Report.ends]
    | closed => by_cases hstate : s.state = .closed <;> simp [hstate, howned, Report.ends]
  · simp [onEvent_of_ne (s := s) (e := ⟨g, r⟩) howned, howned]

theorem length_onEvent_le (s : Session) (e : Event) : (s.onEvent e).2.length ≤ 1 := by
  unfold onEvent closeWith
  split
  · simp
  · cases e.report with
    | opened => cases s.active <;> dsimp only <;> split <;> simp
    | frame text arrived => dsimp only; split <;> simp
    | failed reason => dsimp only; split <;> simp
    | closed => dsimp only; split <;> simp

theorem onEvent_of_closed {s : Session} (h : s.state = .closed) (e : Event) :
    s.onEvent e = (s, []) := by
  by_cases howned : s.generation = some e.generation
  · unfold onEvent closeWith isOpen
    rw [if_neg (by simpa using howned)]
    cases e.report <;> simp [h]
  · exact onEvent_of_ne howned

/-! ## What a session hears of its link -/

/-- What a session heard of the link it owns is the state of the link, and it heard nothing yet of
a link that is still to be asked for. -/
structure Hears (s : Session) (reports : Nat → List Report) : Prop where
  state : ∀ g, s.generation = some g → s.state = stateOf (reports g)
  unheard : ∀ g, s.lastGeneration < g → reports g = []

variable {s t : Session} {reports : Nat → List Report}

theorem Departure.hears {es : List Effect} (h : Departure s t es) (hs : s.Hears reports) :
    t.Hears reports := by
  cases h with
  | asked id changed live =>
      constructor
      · intro g howned
        obtain rfl : s.lastGeneration + 1 = g := by simpa [asking] using howned
        rw [hs.unheard _ (Nat.lt_succ_self _)]
        rfl
      · intro g hlt
        exact hs.unheard g (Nat.lt_of_succ_lt hlt)
  | left channel parks => exact ⟨by simp [parked], hs.unheard⟩
  | cleared nowhere => exact ⟨hs.state, hs.unheard⟩

/-- A step that is no event changes nothing of what a session hears of its link. -/
theorem Hears.step (hs : s.Hears reports) {x : Step} (hevent : ∀ e, x ≠ .input (.link e)) :
    (s.step x).1.Hears reports := by
  cases hleaves : s.leaves x with
  | true => exact (departure_of_leaves hleaves).hears hs
  | false =>
      obtain ⟨members, hstep⟩ := step_of_stays hleaves hevent
      rw [hstep]
      exact ⟨hs.state, hs.unheard⟩

theorem Hears.onEvent (hsound : s.Sound) (hs : s.Hears reports) (e : Event) :
    (s.onEvent e).1.Hears fun g =>
      reports g ++ (Visit.heard? ⟨s, .input (.link e)⟩ g).toList := by
  obtain ⟨-, hgeneration, hlast, -⟩ := s.onEvent_keeps e
  constructor
  · intro g howned
    rw [hgeneration] at howned
    by_cases heq : e.generation = g
    · subst heq
      rw [state_onEvent howned (hs.state _ howned)]
      simp [Visit.heard?, howned]
    · have hne : s.generation ≠ some e.generation := by
        rw [howned]
        simpa using Ne.symm heq
      rw [onEvent_of_ne hne, hs.state g howned]
      simp [Visit.heard?, heq]
  · intro g hlt
    rw [hlast] at hlt
    have hne : s.generation ≠ some g := fun howned => by
      have := hsound.owned_last g howned
      omega
    simp [Visit.heard?, hne, hs.unheard g hlt]

theorem hears_after (o : Origin) (steps : List Step) :
    (o.session.after steps).Hears fun g => o.session.heard g steps := by
  induction steps using List.reverseRecOn with
  | nil =>
      constructor
      · intro g howned
        cases o <;> simp [Origin.session, Session.home, Session.continuing] at howned
      · intro g _
        rfl
  | append_singleton past x ih =>
      simp only [after_concat, heard_concat]
      -- Only an event is heard, and only an event changes the state without leaving.
      by_cases hevent : ∃ e, x = .input (.link e)
      · obtain ⟨e, rfl⟩ := hevent
        exact ih.onEvent (o.sound.after past) e
      · have hnone : ∀ g, Visit.heard? ⟨o.session.after past, x⟩ g = none := fun g => by
          simp [Visit.heard?, Visit.report?_of_not_event (not_exists.mp hevent)]
        simp only [hnone, Option.toList_none, List.append_nil]
        exact ih.step (not_exists.mp hevent)

/-! ## What the events of a link cause -/

theorem mem_heard {s : Session} {g : Nat} {r : Report} {past later : List Step}
    (howned : (s.after past).generation = some g) :
    r ∈ s.heard g (past ++ reporting g r :: later) := by
  rw [heard, visits_append, List.filterMap_append]
  apply List.mem_append_right
  apply List.mem_filterMap.mpr
  refine ⟨⟨s.after past, reporting g r⟩, by simp [visits], ?_⟩
  simp [Visit.heard?, howned]

theorem mem_caused {s : Session} {g : Nat} {effect : Effect} {steps : List Step}
    (h : effect ∈ s.caused g steps) :
    ∃ past r later, steps = past ++ reporting g r :: later ∧
      effect ∈ ((s.after past).onEvent ⟨g, r⟩).2 := by
  induction steps using List.reverseRecOn with
  | nil => simp [caused, visits] at h
  | append_singleton past x ih =>
      rw [caused_concat] at h
      rcases List.mem_append.mp h with hold | hnew
      · obtain ⟨before, r, later, rfl, hmem⟩ := ih hold
        exact ⟨before, r, later ++ [x], by simp, hmem⟩
      · cases hreport : Visit.report? ⟨s.after past, x⟩ g with
        | none => simp [hreport] at hnew
        | some r =>
            have hx : x = reporting g r := Visit.eq_of_report? hreport
            subst hx
            have hmem : effect ∈ ((s.after past).step (reporting g r)).2 := by
              simpa [hreport] using hnew
            exact ⟨past, r, [], rfl, hmem⟩

/-- Effects of a kind that no earlier event of the link caused come once at most. -/
theorem length_caused_le {α : Type} {kind : Effect → Option α} {s : Session} {g : Nat}
    (hfirst : ∀ past r, ((s.after past).onEvent ⟨g, r⟩).2.filterMap kind ≠ [] →
      (s.caused g past).filterMap kind = [])
    (steps : List Step) : ((s.caused g steps).filterMap kind).length ≤ 1 := by
  induction steps using List.reverseRecOn with
  | nil => simp [caused, visits]
  | append_singleton past x ih =>
      rw [caused_concat, List.filterMap_append]
      cases hreport : Visit.report? ⟨s.after past, x⟩ g with
      | none => simpa using ih
      | some r =>
          have hx : x = reporting g r := Visit.eq_of_report? hreport
          subst hx
          rw [Option.isSome_some, if_pos rfl]
          by_cases hnew : ((s.after past).onEvent ⟨g, r⟩).2.filterMap kind = []
          · simpa [step, apply, hnew] using ih
          · rw [hfirst past r hnew, List.nil_append]
            exact (List.length_filterMap_le _ _).trans (length_onEvent_le _ _)

section Asked

variable {o : Origin} {g channel : Nat} {r : Report} {past later steps : List Step}

theorem active_of_asked (hasked : (g, channel) ∈ o.session.connects (past ++ later))
    (howned : (o.session.after past).generation = some g) :
    (o.session.after past).active = some channel := by
  obtain ⟨id, hactive, hlast⟩ := (o.numbered.after past).owned g howned
  have hid : (g, id) ∈ o.session.connects (past ++ later) := by
    rw [connects_append]
    exact List.mem_append_left _ (List.mem_of_getLast? hlast)
  rw [hactive, (o.numbered.after (past ++ later)).channel_unique hid hasked]

theorem fetch_mem_iff (past : List Step) (g id : Nat) (r : Report) :
    .fetchMembers id ∈ ((o.session.after past).onEvent ⟨g, r⟩).2 ↔
      (o.session.after past).active = some id ∧ (o.session.after past).generation = some g ∧
        r = .opened ∧ ∀ q ∈ o.session.heard g past, q ≠ .opened ∧ q.ends = false := by
  rw [fetch_mem_onEvent]
  constructor
  · rintro ⟨howned, hr, hstate, hactive⟩
    rw [(hears_after o past).state g howned] at hstate
    exact ⟨hactive, howned, hr, (stateOf_eq_connecting_iff _).mp hstate⟩
  · rintro ⟨hactive, howned, hr, hall⟩
    refine ⟨howned, hr, ?_, hactive⟩
    rw [(hears_after o past).state g howned]
    exact (stateOf_eq_connecting_iff _).mpr hall

theorem notify_mem_iff (past : List Step) (g : Nat) (r : Report) :
    (∃ text, .notify text ∈ ((o.session.after past).onEvent ⟨g, r⟩).2) ↔
      (o.session.after past).generation = some g ∧ r.ends = true ∧
        ∀ q ∈ o.session.heard g past, q.ends = false := by
  rw [notify_mem_onEvent]
  refine and_congr_right fun howned => and_congr_right fun _ => ?_
  rw [(hears_after o past).state g howned, Ne, stateOf_eq_closed_iff]
  simp

theorem length_fetches_le (o : Origin) (g : Nat) (steps : List Step) :
    ((o.session.caused g steps).filterMap Effect.fetch?).length ≤ 1 := by
  refine length_caused_le (fun past r hnew => ?_) steps
  obtain ⟨id, hid⟩ := List.exists_mem_of_ne_nil _ hnew
  obtain ⟨-, -, -, hall⟩ := (fetch_mem_iff past g id r).mp (Effect.mem_fetches.mp hid)
  by_contra hold
  obtain ⟨id', hid'⟩ := List.exists_mem_of_ne_nil _ hold
  obtain ⟨before, q, later, rfl, hmem⟩ := mem_caused (Effect.mem_fetches.mp hid')
  obtain ⟨-, howned, rfl, -⟩ := (fetch_mem_iff before g id' q).mp hmem
  exact (hall _ (mem_heard howned)).1 rfl

theorem length_notices_le (o : Origin) (g : Nat) (steps : List Step) :
    ((o.session.caused g steps).filterMap Effect.notice?).length ≤ 1 := by
  refine length_caused_le (fun past r hnew => ?_) steps
  obtain ⟨text, htext⟩ := List.exists_mem_of_ne_nil _ hnew
  obtain ⟨-, -, hall⟩ := (notify_mem_iff past g r).mp ⟨text, Effect.mem_notices.mp htext⟩
  by_contra hold
  obtain ⟨text', htext'⟩ := List.exists_mem_of_ne_nil _ hold
  obtain ⟨before, q, later, rfl, hmem⟩ := mem_caused (Effect.mem_notices.mp htext')
  obtain ⟨howned, hends, -⟩ := (notify_mem_iff before g q).mp ⟨text', hmem⟩
  simp [hall q (mem_heard howned)] at hends

theorem fetches_eq (hasked : (g, channel) ∈ o.session.connects steps) :
    (o.session.caused g steps).filterMap Effect.fetch? = [] ∨
      (o.session.caused g steps).filterMap Effect.fetch? = [channel] := by
  have hle := length_fetches_le o g steps
  cases hfetches : (o.session.caused g steps).filterMap Effect.fetch? with
  | nil => exact .inl rfl
  | cons id more =>
      right
      have hid : id ∈ (o.session.caused g steps).filterMap Effect.fetch? := by simp [hfetches]
      obtain ⟨past, r, later, rfl, hmem⟩ := mem_caused (Effect.mem_fetches.mp hid)
      obtain ⟨hactive, howned, -⟩ := (fetch_mem_iff past g id r).mp hmem
      rw [active_of_asked hasked howned] at hactive
      obtain rfl := Option.some.inj hactive
      rw [hfetches, List.length_cons] at hle
      rw [List.length_eq_zero_iff.mp (by omega : more.length = 0)]

theorem onEvent_of_heard_end {q : Report} (hq : q ∈ o.session.heard g past)
    (hends : q.ends = true) (r : Report) :
    (o.session.after past).onEvent ⟨g, r⟩ = (o.session.after past, []) := by
  by_cases howned : (o.session.after past).generation = some g
  · apply onEvent_of_closed
    rw [(hears_after o past).state g howned]
    exact (stateOf_eq_closed_iff _).mpr ⟨q, hq, hends⟩
  · exact onEvent_of_ne howned

end Asked

/-- What the events of a link, asked for for a channel, cause during a run. -/
structure Story (o : Origin) (steps : List Step) (g channel : Nat) : Prop where
  fetches : (o.session.caused g steps).filterMap Effect.fetch? = [] ∨
    (o.session.caused g steps).filterMap Effect.fetch? = [channel]
  notices : ((o.session.caused g steps).filterMap Effect.notice?).length ≤ 1
  /-- Members are fetched at the first opening, unless the link ended before. -/
  fetch_iff : ∀ past r later, steps = past ++ reporting g r :: later → ∀ id,
    .fetchMembers id ∈ ((o.session.after past).onEvent ⟨g, r⟩).2 ↔
      id = channel ∧ (o.session.after past).generation = some g ∧ r = .opened ∧
        ∀ q ∈ o.session.heard g past, q ≠ .opened ∧ q.ends = false
  /-- No opening and no end came before that, heard or not, since the link was asked for. -/
  fetch_first : ∀ past q between later id,
    steps = past ++ reporting g q :: between ++ reporting g .opened :: later →
    (g, channel) ∈ o.session.connects past →
    .fetchMembers id ∈
      ((o.session.after (past ++ reporting g q :: between)).onEvent ⟨g, .opened⟩).2 →
    q ≠ .opened ∧ q.ends = false
  /-- A notice is shown at the first end. -/
  notify_iff : ∀ past r later, steps = past ++ reporting g r :: later →
    ((∃ text, .notify text ∈ ((o.session.after past).onEvent ⟨g, r⟩).2) ↔
      (o.session.after past).generation = some g ∧ r.ends = true ∧
        ∀ q ∈ o.session.heard g past, q.ends = false)
  /-- After the notice the link has no say. -/
  silent : ∀ past r between r' later,
    steps = past ++ reporting g r :: between ++ reporting g r' :: later →
    (∃ text, .notify text ∈ ((o.session.after past).onEvent ⟨g, r⟩).2) →
    (o.session.after (past ++ reporting g r :: between)).onEvent ⟨g, r'⟩ =
      (o.session.after (past ++ reporting g r :: between), [])

theorem story_of_asked (o : Origin) (steps : List Step) {g channel : Nat}
    (hasked : (g, channel) ∈ o.session.connects steps) : Story o steps g channel where
  fetches := fetches_eq hasked
  notices := length_notices_le o g steps
  fetch_iff past r later hsteps id := by
    subst hsteps
    rw [fetch_mem_iff]
    refine and_congr_left fun ⟨howned, _⟩ => ?_
    rw [active_of_asked hasked howned, Option.some.injEq]
    exact eq_comm
  fetch_first past q between later id _ hbefore hfetch := by
    obtain ⟨-, howned, -, hall⟩ := (fetch_mem_iff _ g id .opened).mp hfetch
    exact hall q (mem_heard (owned_since_asked hbefore howned))
  notify_iff past r later _ := notify_mem_iff past g r
  silent past r between r' later _ hnotice := by
    obtain ⟨howned, hends, -⟩ := (notify_mem_iff past g r).mp hnotice
    exact onEvent_of_heard_end (mem_heard howned) hends r'

theorem Departure.silent {s t : Session} {es : List Effect} (h : Departure s t es)
    (text : String) : .notify text ∉ es := by
  cases h <;> cases hg : s.generation <;> simp [released, hg]

/-- Throughout a run, a session is idle exactly while no live channel is active, and exactly while
it owns no link; an owned link is the last one asked for; nothing was said before a link opens.
The events of every link asked for fetch its channel's members once at most, at its first opening
and before its end, and show one notice at most, at its first end; letting a link go shows none. -/
theorem links_live_once (o : Origin) (steps : List Step) :
    let s := o.session.after steps
    (s.state = .idle ↔ s.active = none ∨ s.active = some homeId) ∧
      (s.active = none ∨ s.active = some homeId ↔ s.generation = none) ∧
      (∀ g, s.generation = some g →
        ∃ channel, (o.session.connects steps).getLast? = some (g, channel)) ∧
      (s.state = .idle ∨ s.state = .connecting → s.messages = []) ∧
      (∀ g channel, (g, channel) ∈ o.session.connects steps → Story o steps g channel) ∧
      ∀ past x later, steps = past ++ x :: later →
        (x = .reset ∨ ∃ channel, x = .input (.select channel)) →
        ∀ text, .notify text ∉ ((o.session.after past).step x).2 := by
  have hsound := o.sound.after steps
  refine ⟨?_, hsound.parked_iff, ?_, hsound.unspoken, fun g channel => story_of_asked o steps, ?_⟩
  · rw [hsound.idle_iff, hsound.parked_iff]
  · intro g howned
    obtain ⟨id, -, hlast⟩ := (o.numbered.after steps).owned g howned
    exact ⟨id, hlast⟩
  · rintro past x later - (rfl | ⟨channel, rfl⟩) text
    · exact (reset_departure _).silent text
    · by_cases hself : channel = (o.session.after past).active
      · simp [step, apply, hself, select_self]
      · exact (select_departure hself).silent text

end Session

end ChatTerminal
