import ChatTerminal.Proofs.Station.Cursor
import ChatTerminal.Proofs.View.Sidebar
/-!
# The selected row on the screen

The sidebar shows a window of its rows that never leaves out the row of the cursor.  Its number in
the window is its number in the directory, so the channel that Enter opens and `d` deletes is that
of the row with the mark.
-/

namespace ChatTerminal.Station

variable {server : Server} {s : Station}

/-! ## The cursor of a run -/

/-- On the chat page the cursor is on a row of the sidebar. -/
def Placed (s : Station) : Prop :=
  s.client.page = .chat → s.client.cursor < s.client.rows

theorem Placed.turn (h : s.Placed) (server : Server) (turn : Turn) :
    (s.afterTurn server turn).Placed := by
  intro onChat
  have hbefore : s.client.page = .chat → s.client.cursor ≤ s.client.directory.size :=
    fun onChat => Nat.le_of_lt_succ (h onChat)
  exact Nat.lt_succ_of_le ((turn_shift server s turn).placed hbefore onChat)

theorem Placed.turns (h : s.Placed) (server : Server) (turns : List Turn) :
    (s.afterTurns server turns).Placed := by
  induction turns generalizing s with
  | nil => exact h
  | cons turn more ih => exact ih (h.turn server turn)

theorem placed_start (server : Server) (bypass : Bool) (hempty : s.client.directory = .empty) :
    (s.start server bypass).2.Placed := by
  intro onChat
  obtain ⟨_, _, _, hsidebar⟩ := start_display server hempty onChat
  exact Nat.lt_succ_of_le (placed_of_display hsidebar)

/-! ## What the keys make of the row -/

/-- The keys go to the sidebar: it is the panel in use, with no overlay and no prompt open. -/
structure SidebarListens (s : Station) : Prop where
  onChat : s.client.page = .chat
  closed : s.client.profile = none
  unasked : s.client.prompt = none
  panel : s.client.panel = .sidebar

/-- Enter opens the channel of the row of the cursor and `d` deletes it; on the landing page `d`
does nothing. -/
structure ActsOnRow (server : Server) (s : Station) : Prop where
  row : ∃ row, View.RowOf s.client s.client.cursor s.client.underCursor row
  enter : ∀ control, (s.afterTurn server (.key ⟨.enter, control⟩)).client.activeId =
    some s.client.underCursor
  home : s.client.underCursor = homeId →
    ∀ control, s.afterTurn server (.key ⟨.char 'd', control⟩) = s
  deletion : ∀ n, s.client.cursor = n + 1 → s.client.underCursor ≠ homeId → ∀ control,
    let f := Flow.deleteChannel s.client.underCursor
    let t := s.afterTurn server (.key ⟨.char 'd', control⟩)
    (f.TurnedDown s.client ∨ f.Fails server s) ∧ t.client.directory = s.client.directory ∨
      Drops server s t s.client.underCursor ∧
        t.client.directory.channels = s.client.directory.channels.eraseIdx n

theorem SidebarListens.press (h : s.SidebarListens) (server : Server) (k : Key) :
    s.press server k = s.pressOnSidebar server k.code := by
  simp only [Station.press, h.onChat, pressOnChat, h.closed, h.unasked, h.panel]

theorem SidebarListens.activeId_enter (h : s.SidebarListens) (server : Server) (control : Bool) :
    (s.afterTurn server (.key ⟨.enter, control⟩)).client.activeId = some s.client.underCursor := by
  have hselected := sidebar_select server (s.onClient Client.clearBanners)
    (some (s.onClient Client.clearBanners).client.underCursor)
  rw [afterTurn, h.press]
  exact congrArg Sidebar.active hselected

theorem SidebarListens.afterTurn_delete (h : s.SidebarListens) (server : Server) (control : Bool) :
    s.afterTurn server (.key ⟨.char 'd', control⟩) =
      if s.client.underCursor = homeId then s
      else s.deleteChannel server s.client.underCursor := by
  rw [afterTurn, h.press]
  rfl

/-- A deletion by the id of a row takes that row away, or it comes to nothing. -/
theorem deleteChannel_row (server : Server) {n id : Nat} (hsingle : s.client.directory.ids.Nodup)
    (hrow : s.client.directory.idAt? n = some id) :
    ((Flow.deleteChannel id).TurnedDown s.client ∨ (Flow.deleteChannel id).Fails server s) ∧
        (s.deleteChannel server id).client.directory = s.client.directory ∨
      Drops server s (s.deleteChannel server id) id ∧
        (s.deleteChannel server id).client.directory.channels =
          s.client.directory.channels.eraseIdx n := by
  by_cases hnothing :
      (Flow.deleteChannel id).TurnedDown s.client ∨ (Flow.deleteChannel id).Fails server s
  · have hkept := sidebar_follow_of_nothing hnothing
    exact .inl ⟨hnothing, directory_of_sidebar hkept⟩
  · rw [not_or] at hnothing
    obtain ⟨hdrops, channel, hsidebar⟩ := deleteChannel_arrives hnothing.1 hnothing.2
    have hdirectory : (s.deleteChannel server id).client.directory =
        s.client.directory.erase id := directory_of_sidebar hsidebar
    refine .inr ⟨hdrops, ?_⟩
    rw [hdirectory]
    exact Directory.channels_erase_of_idAt? hsingle hrow

theorem SidebarListens.actsOnRow (h : s.SidebarListens) (server : Server)
    (hsingle : s.client.directory.ids.Nodup)
    (hwithin : s.client.cursor < s.client.rows) : ActsOnRow server s := by
  obtain ⟨id, row, hrow⟩ := View.exists_rowOf hwithin
  obtain rfl : s.client.underCursor = id := hrow.underCursor
  refine ⟨⟨row, hrow⟩, h.activeId_enter server, fun hhome control => ?_, ?_⟩
  · rw [h.afterTurn_delete, if_pos hhome]
  · intro n hcursor hlive control
    rw [hcursor] at hrow
    dsimp only
    rw [h.afterTurn_delete, if_neg hlive]
    exact deleteChannel_row server hsingle hrow.idAt?

/-! ## Runs -/

/-- At every point of every run on the chat page the sidebar shows rows in order, as many as it has
room for, with that of the cursor among them; and the row with the mark is the one that Enter and
`d` act on. -/
theorem selected_row_shown (server : Server) (bypass : Bool) (agent : Agent) (kept : Option String)
    (now : Int) (turns : List Turn) :
    let s := (start server bypass { agent := agent, kept := kept, now := now }).2.afterTurns
      server turns
    s.client.page = .chat →
      (∀ k area, let list := (View.listArea area s.client).inner
        1 ≤ list.height → ∃ first, View.ShowsRows s.client list first
          (View.listFrame k area s.client) ((View.sidebar area s.client).over k)) ∧
      (s.SidebarListens → ActsOnRow server s) := by
  intro s onChat
  have hplaced : s.Placed := (placed_start server bypass rfl).turns server turns
  have hstocked : s.Stocked := (stocked_start server bypass rfl).turns server turns
  refine ⟨fun k area => ?_, fun hlistens => ?_⟩
  · intro list hroom
    exact ⟨_, View.showsRows_sidebar k hroom (hplaced onChat)⟩
  · exact hlistens.actsOnRow server hstocked.tidy.single (hplaced onChat)

/-- Two channels in a list of one line, with the cursor on the second of them. -/
theorem selected_row_shown_in_one_line :
    let listing : Reply :=
      .answered 200 "[\x7b\"id\":7,\"name\":\"den\"\x7d,\x7b\"id\":9,\"name\":\"hall\"\x7d]" []
    let server : Server := fun _ r => if r.method = .get then listing else .dropped
    let agent : Agent := ⟨"http://[::1]", { scheme := "http".toList }, {}⟩
    let turns : List Turn := [.key ⟨.down, false⟩, .key ⟨.down, false⟩]
    let s := afterTurns server (start server true { agent := agent }).2 turns
    let area : Screen.Area := ⟨0, 0, 20, 3⟩
    let list := (View.listArea area s.client).inner
    let shown := (View.sidebar area s.client).over (.blank 20 3)
    s.client.page = .chat ∧ list.height = 1 ∧ s.client.cursor = 2 ∧
      (∀ k, View.ShowsRows s.client list 2 (View.listFrame k area s.client)
        ((View.sidebar area s.client).over k)) ∧
      shown.symbol? 1 1 = some ['▸'] ∧
      (∀ j c, "unknown@hall".toList[j]? = some c → shown.symbol? (3 + j) 1 = some [c]) ∧
      (s.afterTurn server (.key ⟨.enter, false⟩)).client.activeId = some 9 := by
  intro listing server agent turns
  have hrun := selected_row_shown server true agent none 0 turns
  dsimp only at hrun ⊢
  generalize hlast : afterTurns server (start server true { agent := agent }).2 turns = s at hrun ⊢
  have onChat : s.client.page = .chat := by
    rw [← hlast]
    decide +kernel
  have hlist : (View.listArea ⟨0, 0, 20, 3⟩ s.client).inner = ⟨1, 1, 18, 1⟩ := by
    rw [← hlast]
    decide +kernel
  have hcursor : s.client.cursor = 2 ∧ s.client.underCursor = 9 ∧ s.client.rows = 3 := by
    rw [← hlast]
    decide +kernel
  have hpanel : s.client.profile = none ∧ s.client.prompt = none ∧ s.client.panel = .sidebar := by
    rw [← hlast]
    decide +kernel
  have hlabel : s.client.directory.channels[1]? = some ⟨9, "hall", 0, none⟩ := by
    rw [← hlast]
    decide +kernel
  obtain ⟨hshows, hacts⟩ := hrun onChat
  rw [hlist]
  have hrows : ∀ k, View.ShowsRows s.client ⟨1, 1, 18, 1⟩ 2 (View.listFrame k ⟨0, 0, 20, 3⟩ s.client)
      ((View.sidebar ⟨0, 0, 20, 3⟩ s.client).over k) := by
    intro k
    obtain ⟨first, hfirst⟩ := hshows k ⟨0, 0, 20, 3⟩ (by rw [hlist])
    rw [hlist] at hfirst
    obtain ⟨habove, hbelow⟩ := hfirst.cursor
    rw [hcursor.1, hcursor.2.2] at hbelow
    rw [hcursor.1] at habove
    change 2 < first + 1 at hbelow
    obtain rfl : first = 2 := by omega
    exact hfirst
  obtain ⟨id, row, hrow, -, -, hreads, -⟩ := (hrows (.blank 20 3)).row 0 (by
    rw [hcursor.2.2]
    decide)
  have hname : row.label = "unknown@hall" ∧ row.owned = false := by
    generalize hnumber : 2 + 0 = n at hrow
    cases hrow with
    | landing => cases hnumber
    | channel hk =>
        obtain rfl := Nat.succ.inj hnumber
        obtain rfl := Option.some.inj (hlabel.symm.trans hk)
        exact ⟨rfl, rfl⟩
  -- The cells are there in the frame of the list.
  have hcells : ∀ x < 20, ((View.listFrame (.blank 20 3) ⟨0, 0, 20, 3⟩ s.client).symbol?
      x 1).isSome := by
    rw [← hlast]
    decide +kernel
  refine ⟨onChat, rfl, hcursor.1, hrows, ?_, fun j c hj => ?_, ?_⟩
  · have hmark := hreads.mark_eq (by decide) (hcells 1 (by decide))
    rw [if_pos ⟨hcursor.1.symm, hpanel.2.2⟩] at hmark
    exact hmark
  · have hin : j < 12 := (List.getElem?_eq_some_iff.mp hj).1
    have hvisible : Screen.visible "unknown@hall" = "unknown@hall".toList.map fun c => [c] := by
      decide +kernel
    obtain ⟨label, current, owned⟩ := row
    obtain ⟨rfl, rfl⟩ := hname
    have hsymbol : (Screen.visible "unknown@hall")[j]? = some [c] := by
      rw [hvisible, List.getElem?_map, hj, Option.map_some]
    have hnarrow : ∀ s ∈ Screen.visible "unknown@hall", Text.columns s = 1 := by decide +kernel
    have hwide : 0 < Text.columns "unknown@hall".toList := by decide +kernel
    have hroom : 3 + j < 19 := by omega
    exact hreads.letter_eq rfl hnarrow hwide hsymbol hroom (hcells (3 + j) (by omega))
  · rw [(hacts ⟨onChat, hpanel.1, hpanel.2.1, hpanel.2.2⟩).enter, hcursor.2.1]

end ChatTerminal.Station
