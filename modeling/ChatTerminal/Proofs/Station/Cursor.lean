import ChatTerminal.Proofs.Client.Rows
import ChatTerminal.Proofs.Station.Coherence
import ChatTerminal.Proofs.Station.Holdings
/-!
# The sidebar and the channel on display

The cursor is a row of a list that loads put in another order, deletions shorten and new channels
lengthen, while what is deleted and what is opened is the channel under the cursor.  Whatever
changes the list or the channel on display also puts the cursor on the row of that channel.
-/

namespace ChatTerminal.Station

variable {server : Server} {base : String} {s t : Station}

/-! ## The invariant -/

/-- What is on display is in order, the directory is tidy, and on the chat page the cursor is on a
row. -/
structure Aligned (base : String) (s : Station) : Prop where
  coherent : s.Coherent base
  stocked : s.Stocked
  placed : s.client.page = .chat → s.client.cursor ≤ s.client.directory.size

theorem Aligned.pointed (h : s.Aligned base) (onChat : s.client.page = .chat) :
    s.client.Pointed :=
  Client.pointed_of_within (h.placed onChat) h.stocked.tidy.single h.coherent.client.fits.numbered
    h.coherent.client.fits.displayed

/-- Where the cursor has gone to the row of the channel on display, it stands for that channel. -/
theorem Coherent.onRow (h : t.Coherent base) {b : Sidebar} {d : Directory} {channel : Option Nat}
    (hsidebar : t.client.sidebar = b.display d channel) : t.client.OnRow := by
  have hdirectory : t.client.directory = d := directory_of_sidebar hsidebar
  have hactive : t.client.activeId = channel := congrArg Sidebar.active hsidebar
  have hcursor : t.client.cursor = Client.rowOf d channel := congrArg Sidebar.cursor hsidebar
  rw [← hdirectory, ← hactive] at hcursor
  exact Client.onRow_of_rowOf hcursor h.client.fits.displayed

theorem placed_of_display {b : Sidebar} {d : Directory} {channel : Option Nat}
    (hsidebar : t.client.sidebar = b.display d channel) :
    t.client.cursor ≤ t.client.directory.size := by
  have hdirectory : t.client.directory = d := directory_of_sidebar hsidebar
  have hcursor : t.client.cursor = Client.rowOf d channel := congrArg Sidebar.cursor hsidebar
  rw [hcursor, hdirectory]
  exact Client.rowOf_le_size d channel

/-- The landing page is on row 0. -/
theorem Opened.display {who : Identity} (h : Opened t who) :
    ∃ d, t.client.sidebar = t.client.sidebar.display d (some homeId) := by
  obtain ⟨d, -, hsidebar⟩ := h
  refine ⟨d, ?_⟩
  rw [hsidebar]
  rfl

/-- A turn that changes the listed channels or the one on display puts the cursor on its row. -/
theorem Shift.display_or_steady (hst : Shift server s t) (onChat : t.client.page = .chat) :
    (∃ (b : Sidebar) (d : Directory) (channel : Option Nat),
      t.client.sidebar = b.display d channel) ∨
    s.client.page = .chat ∧ t.client.activeId = s.client.activeId ∧
      t.client.directory.ids = s.client.directory.ids ∧
      (s.client.cursor ≤ s.client.directory.size → t.client.cursor ≤ s.client.directory.size) := by
  cases hst with
  | kept hsidebar =>
      have hpage : t.client.page = s.client.page := congrArg Sidebar.page hsidebar
      have hcursor : t.client.cursor = s.client.cursor := congrArg Sidebar.cursor hsidebar
      exact .inr ⟨hpage ▸ onChat, congrArg Sidebar.active hsidebar,
        congrArg (·.directory.ids) hsidebar, hcursor.trans_le⟩
  | moved hsidebar hwithin =>
      have hpage : t.client.page = s.client.page := congrArg Sidebar.page hsidebar
      exact .inr ⟨hpage ▸ onChat, congrArg Sidebar.active hsidebar,
        congrArg (·.directory.ids) hsidebar, hwithin⟩
  | arrived _ harrives =>
      obtain ⟨d, channel, -, hsidebar⟩ := harrives
      exact .inl ⟨_, d, channel, hsidebar⟩
  | dropped _ _ channel _ hsidebar => exact .inl ⟨_, _, channel, hsidebar⟩
  | renamed who hsidebar =>
      have hpage : t.client.page = s.client.page := congrArg Sidebar.page hsidebar
      have hcursor : t.client.cursor = s.client.cursor := congrArg Sidebar.cursor hsidebar
      have hids : t.client.directory.ids = _ := congrArg (·.directory.ids) hsidebar
      exact .inr ⟨hpage ▸ onChat, congrArg Sidebar.active hsidebar,
        hids.trans (Directory.ids_renameOwner _ _ _), hcursor.trans_le⟩
  | left hsidebar =>
      have hpage : t.client.page = .signIn := congrArg Sidebar.page hsidebar
      exact nomatch hpage.symm.trans onChat
  | entered _ who hopened =>
      obtain ⟨d, hsidebar⟩ := hopened.display
      exact .inl ⟨_, d, _, hsidebar⟩

theorem Shift.placed (hst : Shift server s t)
    (h : s.client.page = .chat → s.client.cursor ≤ s.client.directory.size)
    (onChat : t.client.page = .chat) : t.client.cursor ≤ t.client.directory.size := by
  rcases hst.display_or_steady onChat with ⟨b, d, channel, hsidebar⟩ | ⟨hpage, -, hids, hwithin⟩
  · exact placed_of_display hsidebar
  · have hsize : t.client.directory.size = s.client.directory.size := by
      rw [Directory.size_eq, Directory.size_eq, hids]
    rw [hsize]
    exact hwithin (h hpage)

theorem Aligned.turn (h : s.Aligned base) (hserver : server.Numbers base) (turn : Turn) :
    (s.afterTurn server turn).Aligned base :=
  ⟨h.coherent.deed hserver (turn_deed server s turn), h.stocked.turn server turn,
    (turn_shift server s turn).placed h.placed⟩

theorem Aligned.turns (h : s.Aligned base) (hserver : server.Numbers base) (turns : List Turn) :
    (s.afterTurns server turns).Aligned base := by
  induction turns generalizing s with
  | nil => exact h
  | cons turn more ih => exact ih (h.turn hserver turn)

/-! ## What puts the cursor on its row -/

/-- A load, a creation, a joining or a deletion that comes to something, or a selection. -/
inductive Settles (server : Server) (s : Station) : Station → Prop where
  | loaded (hanswered : ¬ Flow.loadChannels.Fails server s) :
      Settles server s (s.loadChannels server)
  | created (haccepted : ¬ Flow.createChannel.TurnedDown s.client)
      (hanswered : ¬ Flow.createChannel.Fails server s) :
      Settles server s (s.createChannel server)
  | joined (haccepted : ¬ Flow.joinChannel.TurnedDown s.client)
      (hanswered : ¬ Flow.joinChannel.Fails server s) : Settles server s (s.joinChannel server)
  | deleted (id : Nat) (haccepted : ¬ (Flow.deleteChannel id).TurnedDown s.client)
      (hanswered : ¬ (Flow.deleteChannel id).Fails server s) :
      Settles server s (s.deleteChannel server id)
  | selected (channel : Option Nat)
      (hlisted : ∀ id, channel = some id → id ≠ homeId → id ∈ s.client.directory.ids) :
      Settles server s (s.select server channel)
  | openedUnderCursor :
      Settles server s ((s.onClient Client.clearBanners).perform server Client.openUnderCursor)
  | openedNewest (h : s.client.directory.channels ≠ []) :
      Settles server s (s.perform server Client.openNewest)

theorem Settles.display (h : Settles server s t) :
    ∃ d channel, t.client.sidebar = s.client.sidebar.display d channel := by
  cases h with
  | loaded hanswered =>
      obtain ⟨d, -, hsidebar⟩ := loadChannels_arrives hanswered
      exact ⟨d, _, hsidebar⟩
  | created haccepted hanswered =>
      obtain ⟨d, channel, -, hsidebar⟩ := arrives_createChannel haccepted hanswered
      exact ⟨d, channel, hsidebar⟩
  | joined haccepted hanswered =>
      obtain ⟨d, channel, -, hsidebar⟩ := arrives_joinChannel haccepted hanswered
      exact ⟨d, channel, hsidebar⟩
  | deleted id haccepted hanswered =>
      obtain ⟨-, channel, hsidebar⟩ := deleteChannel_arrives haccepted hanswered
      exact ⟨_, channel, hsidebar⟩
  | selected channel _ => exact ⟨_, channel, sidebar_select server s channel⟩
  | openedUnderCursor =>
      have hsidebar := sidebar_select server (s.onClient Client.clearBanners)
        (some (s.onClient Client.clearBanners).client.underCursor)
      exact ⟨_, _, hsidebar⟩
  | openedNewest hlisted =>
      obtain ⟨d, channel, -, hsidebar⟩ := arrives_openNewest server hlisted
      exact ⟨d, channel, hsidebar⟩

theorem Coherent.settles (h : s.Coherent base) (hserver : server.Numbers base)
    (onChat : s.client.page = .chat) (hst : Settles server s t) : t.Coherent base := by
  cases hst with
  | loaded _ => exact h.loadChannels hserver onChat
  | created _ _ => exact h.createChannel hserver onChat
  | joined _ _ => exact h.joinChannel hserver onChat
  | deleted id _ _ => exact h.deleteChannel hserver onChat id
  | selected channel hlisted => exact h.select hserver onChat hlisted
  | openedUnderCursor => exact h.deed hserver (.openUnderCursor onChat)
  | openedNewest _ => exact h.deed hserver (.newest onChat)

theorem start_display (server : Server) {bypass : Bool} (hempty : s.client.directory = .empty)
    (onChat : (s.start server bypass).2.client.page = .chat) :
    ∃ (b : Sidebar) (d : Directory) (channel : Option Nat),
      (s.start server bypass).2.client.sidebar = b.display d channel := by
  rcases start_opened server bypass hempty with ⟨who, hopened⟩ | ⟨hpage, -⟩
  · obtain ⟨d, hsidebar⟩ := hopened.display
    exact ⟨_, d, _, hsidebar⟩
  · exact nomatch hpage.symm.trans onChat

theorem aligned_start (hserver : server.Numbers base) (bypass : Bool) {agent : Agent}
    (hbase : agent.base = base) (kept : Option String) (now : Int) :
    (start server bypass { agent := agent, kept := kept, now := now }).2.Aligned base := by
  refine ⟨coherent_start hserver bypass hbase kept now, stocked_start server bypass rfl, ?_⟩
  intro onChat
  obtain ⟨_, _, _, hsidebar⟩ := start_display server rfl onChat
  exact placed_of_display hsidebar

/-- Below a base where the server names no channel with the id of the landing page, the cursor of
the chat page is on a row at every point of every run, a row below the landing page stands for its
channel, and one row is marked; a load, a creation, a joining or a deletion that comes to something
and a selection put the cursor on the row of the channel on display, and so does any turn that
opens the chat page or changes the listed channels or the one on display. -/
theorem cursor_agrees (server : Server) (bypass : Bool) (agent : Agent) (kept : Option String)
    (now : Int) (turns : List Turn) (hserver : server.Numbers agent.base) :
    let first := (start server bypass { agent := agent, kept := kept, now := now }).2
    let s := first.afterTurns server turns
    (first.client.page = .chat → first.client.OnRow) ∧
    (s.client.page = .chat → s.client.Pointed) ∧
    (∀ t, s.client.page = .chat → Settles server s t → t.client.OnRow) ∧
    ∀ turn, let t := s.afterTurn server turn
      t.client.page = .chat → t.client.OnRow ∨ s.client.page = .chat ∧
        t.client.activeId = s.client.activeId ∧
        t.client.directory.ids = s.client.directory.ids := by
  intro first s
  have hfirst : first.Aligned agent.base := aligned_start hserver bypass rfl kept now
  have hs : s.Aligned agent.base := hfirst.turns hserver turns
  refine ⟨fun onChat => ?_, hs.pointed, fun t onChat hst => ?_, ?_⟩
  · obtain ⟨_, _, _, hsidebar⟩ := start_display server rfl onChat
    exact hfirst.coherent.onRow hsidebar
  · obtain ⟨_, _, hsidebar⟩ := hst.display
    exact (hs.coherent.settles hserver onChat hst).onRow hsidebar
  · intro turn t onChat
    have ht : t.Aligned agent.base := hs.turn hserver turn
    rcases (turn_shift server s turn).display_or_steady onChat with
      ⟨_, _, _, hsidebar⟩ | ⟨hpage, hactive, hids, -⟩
    · exact .inl (ht.coherent.onRow hsidebar)
    · exact .inr ⟨hpage, hactive, hids⟩

/-- A server that lists two channels; the second is opened and the list is loaded again. -/
theorem cursor_agrees_with_two_channels :
    let listing : Reply :=
      .answered 200 "[\x7b\"id\":7,\"name\":\"den\"\x7d,\x7b\"id\":9,\"name\":\"hall\"\x7d]" []
    let server : Server := fun _ r => if r.method = .get then listing else .dropped
    let agent : Agent := ⟨"http://[::1]", { scheme := "http".toList }, {}⟩
    let turns : List Turn := [.key ⟨.down, false⟩, .key ⟨.down, false⟩, .key ⟨.enter, false⟩]
    let s := afterTurns server (start server true { agent := agent }).2 turns
    server.Numbers agent.base ∧ s.client.page = .chat ∧ s.client.cursor = 2 ∧ s.client.Pointed ∧
      (s.loadChannels server).client.OnRow := by
  intro listing server agent turns
  have hlisted : listing.value? (Json.Tree.list ChannelRecord.ofTree?) =
      .ok [⟨7, "den", 0, none, none⟩, ⟨9, "hall", 0, none, none⟩] := rfl
  have hsearched : listing.value? ChannelRecord.ofTree? = .error .undecodable := rfl
  have hserver : server.Numbers agent.base := by
    intro past a now c u _ _
    dsimp only [server]
    split
    · refine c.numbers_of_read (fun record h => nomatch hsearched.symm.trans h) fun records h => ?_
      obtain rfl := Except.ok.inj (hlisted.symm.trans h)
      decide
    · exact c.numbers_dropped
  have hrun := cursor_agrees server true agent none 0 turns hserver
  dsimp only at hrun
  generalize hlast : afterTurns server (start server true { agent := agent }).2 turns = s at hrun ⊢
  obtain ⟨-, hpointed, hsettles, -⟩ := hrun
  have onChat : s.client.page = .chat := by
    rw [← hlast]
    decide +kernel
  have hcursor : s.client.cursor = 2 := by
    rw [← hlast]
    decide +kernel
  have hreplies : (s.askBoth server .ownedChannels .joinedChannels).2 = (listing, listing) := by
    rw [← hlast]
    decide +kernel
  have hloads : ¬ Flow.loadChannels.Fails server s := by
    unfold Flow.Fails
    dsimp only
    rw [hreplies, Reply.fails_iff, hlisted]
    simp
  exact ⟨hserver, onChat, hcursor, hpointed onChat, hsettles _ onChat (.loaded hloads)⟩

end ChatTerminal.Station
