import ChatTerminal.Proofs.Station.Deletion
import ChatTerminal.Proofs.Station.Sidebar
/-!
# Channels that stay

Along a run the directory lists each id once, and off the chat page it lists none.  A channel that
has come in is still there after any turn, under its name and with the number of its owner, unless
the server took its deletion in that turn or the user left the chat page.
-/

namespace ChatTerminal

namespace Station

variable {server : Server} {s t : Station} {c : Channel}

/-! ## The invariant -/

structure Stocked (s : Station) : Prop where
  tidy : s.client.directory.Tidy
  apart : s.client.page ≠ .chat → s.client.directory = .empty

theorem stocked_of_empty (hempty : s.client.directory = .empty) : s.Stocked :=
  ⟨hempty ▸ Directory.tidy_empty, fun _ => hempty⟩

theorem Stocked.of_grows (h : s.Stocked) (hpage : t.client.page = s.client.page)
    (hgrows : s.client.directory.Grows t.client.directory)
    (hempty : s.client.page ≠ .chat → s.client.directory = .empty →
      t.client.directory = .empty) : t.Stocked := by
  refine ⟨hgrows.tidy h.tidy, fun hapart => ?_⟩
  rw [hpage] at hapart
  exact hempty hapart (h.apart hapart)

theorem Opened.stocked {who : Identity} (h : Opened t who) : t.Stocked := by
  obtain ⟨d, hgrows, hsidebar⟩ := h
  have hdirectory : t.client.directory = d := directory_of_sidebar hsidebar
  have hpage : t.client.page = .chat := congrArg Sidebar.page hsidebar
  rw [← hdirectory] at hgrows
  exact ⟨hgrows.tidy Directory.tidy_empty, fun hapart => absurd hpage hapart⟩

theorem stocked_start (server : Server) (bypass : Bool) (hempty : s.client.directory = .empty) :
    (s.start server bypass).2.Stocked := by
  rcases start_opened server bypass hempty with ⟨who, hopened⟩ | ⟨-, hstill⟩
  · exact hopened.stocked
  · exact stocked_of_empty hstill

/-! ## Turns -/

structure Leaves (s t : Station) : Prop where
  from_chat : s.client.page = .chat
  to_signIn : t.client.page = .signIn
  unknown : t.client.identity = none

inductive Restocks (server : Server) (s t : Station) : Prop where
  | grown (hpage : t.client.page = s.client.page)
      (hgrows : s.client.directory.Grows t.client.directory)
      (hempty : s.client.page ≠ .chat → s.client.directory = .empty →
        t.client.directory = .empty)
  | dropped (onChat : t.client.page = .chat) (id : Nat) (hdrops : Drops server s t id)
      (h : t.client.directory = s.client.directory.erase id)
  | left (hpage : t.client.page = .signIn) (hidentity : t.client.identity = none)
      (hempty : t.client.directory = .empty)
  | entered (onSignIn : s.client.page = .signIn) (who : Identity) (h : Opened t who)

theorem Shift.restocks (h : Shift server s t) : Restocks server s t := by
  cases h with
  | kept hsidebar =>
      have hdirectory : t.client.directory = s.client.directory :=
        directory_of_sidebar hsidebar
      refine .grown (congrArg Sidebar.page hsidebar) ?_ fun _ hempty => hdirectory.trans hempty
      rw [hdirectory]
      exact .refl _
  | moved hsidebar _ =>
      have hdirectory : t.client.directory = s.client.directory :=
        directory_of_sidebar hsidebar
      refine .grown (congrArg Sidebar.page hsidebar) ?_ fun _ hempty => hdirectory.trans hempty
      rw [hdirectory]
      exact .refl _
  | arrived onChat harrives =>
      obtain ⟨d, channel, hgrows, hsidebar⟩ := harrives
      have hdirectory : t.client.directory = d := directory_of_sidebar hsidebar
      rw [← hdirectory] at hgrows
      exact .grown (congrArg Sidebar.page hsidebar) hgrows fun hapart => absurd onChat hapart
  | dropped onChat id channel hdrops hsidebar =>
      exact .dropped ((congrArg Sidebar.page hsidebar).trans onChat) id hdrops
        (directory_of_sidebar hsidebar)
  | renamed who hsidebar =>
      have hdirectory : t.client.directory =
          s.client.directory.renameOwner s.client.userName who.displayName :=
        directory_of_sidebar hsidebar
      have hgrows := s.client.directory.grows_renameOwner s.client.userName
        who.displayName_ne_empty
      rw [← hdirectory] at hgrows
      refine .grown (congrArg Sidebar.page hsidebar) hgrows fun _ hempty => ?_
      rw [hdirectory, hempty]
      rfl
  | left hsidebar =>
      exact .left (congrArg Sidebar.page hsidebar) (congrArg Sidebar.user hsidebar)
        (directory_of_sidebar hsidebar)
  | entered onSignIn who hopened => exact .entered onSignIn who hopened

theorem Stocked.of_restocks (h : s.Stocked) (hst : Restocks server s t) : t.Stocked := by
  cases hst with
  | grown hpage hgrows hempty => exact h.of_grows hpage hgrows hempty
  | dropped onChat id _ hdirectory =>
      refine ⟨?_, fun hapart => absurd onChat hapart⟩
      rw [hdirectory]
      exact h.tidy.erase id
  | left _ _ hempty => exact stocked_of_empty hempty
  | entered _ who hopened => exact hopened.stocked

theorem Stocked.turn (h : s.Stocked) (server : Server) (turn : Turn) :
    (s.afterTurn server turn).Stocked :=
  h.of_restocks (turn_shift server s turn).restocks

/-- A channel goes only with its deletion or with the user. -/
theorem Stocked.holds_turn (h : s.Stocked) (server : Server) (turn : Turn)
    (hc : s.client.directory.Holds c) :
    (s.afterTurn server turn).client.directory.Holds c ∨
      Drops server s (s.afterTurn server turn) c.id ∨ Leaves s (s.afterTurn server turn) := by
  have hturn := (turn_shift server s turn).restocks
  generalize s.afterTurn server turn = t at hturn ⊢
  have onChat : s.client.page = .chat := by
    by_contra hapart
    obtain ⟨held, hheld, -⟩ := hc
    rw [h.apart hapart] at hheld
    exact absurd hheld List.not_mem_nil
  cases hturn with
  | grown _ hgrows _ => exact .inl (hgrows.still_holds h.tidy hc)
  | dropped _ id hdrops hdirectory =>
      by_cases hid : c.id = id
      · exact .inr (.inl (hid ▸ hdrops))
      · obtain ⟨held, hheld, hcore⟩ := hc
        have hsame : held.id = c.id := congrArg Prod.fst hcore
        obtain ⟨still, hstill, hcore'⟩ := Directory.holds_erase hheld (hsame ▸ hid)
        rw [hdirectory]
        exact .inl ⟨still, hstill, hcore'.trans hcore⟩
  | left hpage hidentity _ => exact .inr (.inr ⟨onChat, hpage, hidentity⟩)
  | entered onSignIn _ _ => exact nomatch onSignIn.symm.trans onChat

/-! ## Runs -/

theorem Stocked.turns (h : s.Stocked) (server : Server) (turns : List Turn) :
    (s.afterTurns server turns).Stocked := by
  induction turns generalizing s with
  | nil => exact h
  | cons turn more ih => exact ih (h.turn server turn)

theorem Stocked.holds_turns (h : s.Stocked) (server : Server) (turns : List Turn)
    (hc : s.client.directory.Holds c) :
    (s.afterTurns server turns).client.directory.Holds c ∨
      ∃ before turn after, turns = before ++ turn :: after ∧
        (Drops server (s.afterTurns server before)
            ((s.afterTurns server before).afterTurn server turn) c.id ∨
          Leaves (s.afterTurns server before)
            ((s.afterTurns server before).afterTurn server turn)) := by
  induction turns generalizing s with
  | nil => exact .inl hc
  | cons turn more ih =>
      rcases h.holds_turn server turn hc with hstill | hgone
      · rcases ih (h.turn server turn) hstill with hlater | ⟨before, next, after, rfl, hgone⟩
        · exact .inl hlater
        · exact .inr ⟨turn :: before, next, after, rfl, hgone⟩
      · exact .inr ⟨[], turn, more, rfl, hgone⟩

/-- At every point of every run, whatever the server replies, the directory lists each id once and
no owner without a name; and a channel that was in the directory at any earlier point is in it now,
with the same name and the same number of its owner, unless at some point in between the server took
the deletion of that very channel or the user left the chat page. -/
theorem channels_stay (server : Server) (bypass : Bool) (agent : Agent) (kept : Option String)
    (now : Int) (turns : List Turn) :
    let first := (start server bypass { agent := agent, kept := kept, now := now }).2
    let s := first.afterTurns server turns
    s.client.directory.ids.Nodup ∧
    (∀ c ∈ s.client.directory.channels, c.ownerName ≠ some "") ∧
    ∀ earlier between, turns = earlier ++ between →
      ∀ c ∈ (first.afterTurns server earlier).client.directory.channels,
        (∃ held ∈ s.client.directory.channels,
          held.id = c.id ∧ held.name = c.name ∧ held.ownerId = c.ownerId) ∨
        ∃ before turn after, between = before ++ turn :: after ∧
          let u := first.afterTurns server (earlier ++ before)
          Drops server u (u.afterTurn server turn) c.id ∨ Leaves u (u.afterTurn server turn) := by
  intro first s
  have hfirst : first.Stocked := stocked_start server bypass rfl
  have hs : s.Stocked := hfirst.turns server turns
  refine ⟨hs.tidy.single, hs.tidy.attributed, ?_⟩
  rintro earlier between rfl c hc
  have hearlier : (first.afterTurns server earlier).Stocked := hfirst.turns server earlier
  rcases hearlier.holds_turns server between (Directory.holds_of_mem hc) with
    hheld | ⟨before, turn, after, rfl, hgone⟩
  · rw [← afterTurns_append] at hheld
    obtain ⟨held, hheld, hcore⟩ := hheld
    simp only [Channel.core, Prod.mk.injEq] at hcore
    exact .inl ⟨held, hheld, hcore⟩
  · rw [← afterTurns_append] at hgone
    exact .inr ⟨before, turn, after, rfl, hgone⟩

end Station

end ChatTerminal
