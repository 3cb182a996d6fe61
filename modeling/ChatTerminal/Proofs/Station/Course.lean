import ChatTerminal.Proofs.Station.Confined
/-!
# What a run is made of

Whatever the user does and whatever the links report, what happens to a station happens one moment
at a time: a request is made, or two at once; the client changes; a link is called; the session is
kept for the next run or forgotten; the clock shows another second, none before the clock's origin.
A course is a row of such moments, and every turn and every start of a run is one.
-/

namespace ChatTerminal.Station

/-- One thing that happens to a station. -/
inductive Moment (server : Server) (s : Station) : Station → Prop where
  | asks (c : Call) : Moment server s (s.ask server c).1
  | asksBoth (a b : Call) : Moment server s (s.askBoth server a b).1
  | shows (change : Client → Client) : Moment server s (s.onClient change)
  | calls (c : LinkCall) : Moment server s (s.call c)
  | remembers : Moment server s s.remember
  | forgets : Moment server s s.forget
  | waits (now : Int) (h : 0 ≤ now) : Moment server s { s with now := now }

abbrev Course (server : Server) : Station → Station → Prop := Relation.ReflTransGen (Moment server)

/-- A course with the requests made on it, each with the second at which it is made. -/
inductive Records (server : Server) (s : Station) : List (Int × Request) → Station → Prop where
  | nothing : Records server s [] s
  | moment {log : List (Int × Request)} {t u : Station} {asked : List Request}
      (h : Records server s log t) (hmoment : Moment server t u)
      (hasked : u.requests = t.requests ++ asked) :
      Records server s (log ++ asked.map ((t.now, ·))) u

variable {server : Server} {may : Call → Prop} {α : Type} {part : Client → α} {s t : Station}

theorem map_snd_stamped (now : Int) (asked : List Request) :
    (asked.map ((now, ·))).map Prod.snd = asked := by
  simp [Function.comp_def]

theorem exists_asked_ask (server : Server) (s : Station) (c : Call) :
    ∃ asked, (s.ask server c).1.requests = s.requests ++ asked := by
  unfold ask
  split
  · exact ⟨_, rfl⟩
  · exact ⟨[], (List.append_nil _).symm⟩

theorem Moment.exists_asked (h : Moment server s t) : ∃ asked, t.requests = s.requests ++ asked := by
  have hnone : s.requests = s.requests ++ [] := (List.append_nil _).symm
  cases h with
  | asks c => exact exists_asked_ask server s c
  | asksBoth a b =>
      obtain ⟨asked, hasked⟩ := exists_asked_ask server s a
      unfold askBoth
      generalize s.ask server a = answer at hasked ⊢
      obtain ⟨t, first⟩ := answer
      dsimp only at hasked ⊢
      split
      · exact ⟨asked ++ [_], by simp only [exchange, hasked, List.append_assoc]; rfl⟩
      · exact ⟨asked, hasked⟩
  | remembers =>
      refine ⟨[], ?_⟩
      unfold remember
      split <;> exact hnone
  | shows | calls | forgets | waits => exact ⟨[], hnone⟩

/-- Every course can be told with its requests. -/
theorem Course.exists_records (hst : Course server s t) : ∃ log, Records server s log t := by
  induction hst with
  | refl => exact ⟨[], .nothing⟩
  | tail _ hmoment ih =>
      obtain ⟨log, hlog⟩ := ih
      obtain ⟨asked, hasked⟩ := hmoment.exists_asked
      exact ⟨_, hlog.moment hmoment hasked⟩

theorem Confined.course (h : Confined server may part s t) : Course server s t := by
  refine Relation.ReflTransGen.mono (fun v w hmoment => ?_) s t h
  cases hmoment with
  | asks c _ => exact .asks c
  | asksBoth a b _ _ => exact .asksBoth a b
  | shows change _ => exact .shows change
  | calls c => exact .calls c
  | remembers => exact .remembers
  | forgets => exact .forgets

theorem ask_course (server : Server) (s : Station) (c : Call) :
    Course server s (s.ask server c).1 :=
  .single (.asks c)

theorem signOut_course (server : Server) (s : Station) : Course server s (s.signOut server) := by
  have hout : Confined server (fun _ => True) (fun _ => ()) s (s.signOut server) :=
    signOut_confined server s trivial
  exact hout.course

theorem deleteAccount_course (server : Server) (s : Station) :
    Course server s (s.deleteAccount server).1 := by
  have hdelete : Confined server (fun _ => True) (fun _ => ()) s (s.deleteAccount server).1 :=
    deleteAccount_confined server s (fun _ _ _ => trivial) trivial
  exact hdelete.course

theorem Deed.course (h : Deed server s t) : Course server s t := by
  have hdeed : Confined server (fun _ => True) (fun _ => ()) s t :=
    h.confined (fun _ _ => trivial) (fun _ _ => trivial) fun _ _ _ => trivial
  exact hdeed.course

theorem turns_course (server : Server) (s : Station) (turns : List Turn) :
    Course server s (s.afterTurns server turns) := by
  induction turns generalizing s with
  | nil => exact .refl
  | cons turn more ih => exact (turn_deed server s turn).course.trans (ih _)

theorem start_course (server : Server) (bypass : Bool) (s : Station) :
    Course server s (s.start server bypass).2 := by
  have hstart : Confined server (fun _ => True) (fun _ => ()) s (s.start server bypass).2 :=
    start_confined server bypass s fun _ _ => trivial
  exact hstart.course

end ChatTerminal.Station
