import ChatTerminal.Proofs.Client.Merging
import ChatTerminal.Proofs.Station.Upkeep
/-!
# Loading the channels

A load whose two listings are fetched merges them into the directory and puts the cursor on the row
of the channel on display; where nothing is on display the landing page comes.  All else stays as it
is, and the same listings change nothing a second time.
-/

namespace ChatTerminal

namespace Client

theorem select_select (c : Client) (channel : Option Nat) :
    ((c.select channel).1.select channel).1 = (c.select channel).1 := by
  have hagain := select_activeId (c.select channel).1
  rw [activeId_select] at hagain
  rw [hagain]
  rfl

end Client

namespace Station

variable {server : Server} {s t : Station} {owned joined : List ChannelRecord}

theorem directory_loadChannels (h : Fetches server s owned joined) :
    (s.loadChannels server).client.directory =
      s.client.directory.merge (ownedOf owned s.client.userName) (joinedOf joined) := by
  rw [(loadChannels_of_fetches h).1]
  rfl

theorem activeId_loadChannels (h : Fetches server s owned joined) :
    (s.loadChannels server).client.activeId = some (s.client.activeId.getD homeId) := by
  rw [(loadChannels_of_fetches h).1, Client.activeId_select]

/-- While a channel is on display, or the landing page, a load reaches the directory and the cursor
and nothing else. -/
theorem client_loadChannels (h : Fetches server s owned joined)
    (hactive : s.client.activeId ≠ none) : (s.loadChannels server).client =
      let d := s.client.directory.merge (ownedOf owned s.client.userName) (joinedOf joined)
      { s.client with directory := d, cursor := Client.rowOf d s.client.activeId } := by
  have hsame : (s.client.restocked owned joined).activeId = s.client.activeId := rfl
  obtain ⟨id, hid⟩ := Option.ne_none_iff_exists'.mp hactive
  have hselected :
      some (s.client.activeId.getD homeId) = (s.client.restocked owned joined).activeId := by
    rw [hsame, hid]
    rfl
  rw [(loadChannels_of_fetches h).1, hselected, Client.select_activeId]
  rfl

/-- The same listings change nothing a second time. -/
theorem loadChannels_again {server' : Server} (hsingle : s.client.directory.ids.Nodup)
    (h : Fetches server s owned joined)
    (hagain : Fetches server' (s.loadChannels server) owned joined) :
    ((s.loadChannels server).loadChannels server').client = (s.loadChannels server).client ∧
      ((s.loadChannels server).loadChannels server').linkCalls =
        (s.loadChannels server).linkCalls := by
  have hactive := activeId_loadChannels h
  have hclient := (loadChannels_of_fetches h).1
  have hdirectory := directory_loadChannels h
  obtain ⟨hsecond, hcalls⟩ := loadChannels_of_fetches hagain
  generalize s.loadChannels server = t at *
  have huser : t.client.userName = s.client.userName := by
    rw [hclient]
    rfl
  have hsame : t.client.restocked owned joined = t.client := by
    have hmerged := Directory.merge_again hsingle owned joined s.client.userName
    rw [← hdirectory, ← huser] at hmerged
    unfold Client.restocked
    rw [hmerged]
  refine ⟨?_, hcalls (by rw [hactive]; exact Option.some_ne_none _)⟩
  rw [hsecond, hsame, hactive, Option.getD_some, hclient, Client.select_select]

/-- A load whose listings are fetched merges them into the directory, whatever they list how often
and under which owner.  It changes nothing else but the row of the cursor, and makes no call of the
links, if a channel is on display or the landing page; if nothing is, the landing page comes.  The
same listings change nothing a second time. -/
theorem load_is_exact (hsingle : s.client.directory.ids.Nodup)
    (h : Fetches server s owned joined) :
    let t := s.loadChannels server
    s.client.directory.Merged owned joined s.client.userName t.client.directory ∧
    (s.client.activeId ≠ none → t.linkCalls = s.linkCalls ∧
      t.client = { s.client with
        directory := t.client.directory
        cursor := Client.rowOf t.client.directory s.client.activeId }) ∧
    (s.client.activeId = none → t.client.activeId = some homeId) ∧
    ∀ server', Fetches server' t owned joined →
      (t.loadChannels server').client = t.client ∧
        (t.loadChannels server').linkCalls = t.linkCalls := by
  intro t
  have hdirectory := directory_loadChannels h
  refine ⟨?_, fun hactive => ⟨(loadChannels_of_fetches h).2 hactive, ?_⟩, fun hnowhere => ?_,
    fun server' hagain => loadChannels_again hsingle h hagain⟩
  · rw [hdirectory]
    exact Directory.merged_merge hsingle owned joined s.client.userName
  · rw [hdirectory]
    exact client_loadChannels h hactive
  · rw [activeId_loadChannels h, hnowhere]
    rfl

/-- One's own listing has a channel twice; the other one has it as well, and one that is held. -/
theorem load_is_exact_with_overlaps :
    let own : Reply := .answered 200 ("[\x7b\"id\":7,\"name\":\"den\"\x7d," ++
      "\x7b\"id\":3,\"name\":\"hut\"\x7d,\x7b\"id\":7,\"name\":\"lair\"\x7d]") []
    let other : Reply := .answered 200 ("[\x7b\"id\":7,\"name\":\"cave\"," ++
      "\"ownerName\":\"eve\"\x7d,\x7b\"id\":9,\"name\":\"lobby\"\x7d]") []
    let server : Server := fun _ r => if r.target = "/api/channels" then own else other
    let agent : Agent := ⟨"http://[::1]", { scheme := "http".toList }, {}⟩
    let s : Station := { client := { directory := ⟨[⟨9, "hall", 0, some "bob"⟩]⟩ }, agent := agent }
    s.client.directory.ids.Nodup ∧ (s.loadChannels server).client.directory.ids = [7, 3, 9] ∧
      ((s.loadChannels server).loadChannels server).client = (s.loadChannels server).client := by
  intro own other server agent s
  generalize howned : [(⟨7, "den", 0, none, none⟩ : ChannelRecord), ⟨3, "hut", 0, none, none⟩,
    ⟨7, "lair", 0, none, none⟩] = owned
  generalize hjoined : [(⟨7, "cave", 0, none, some "eve"⟩ : ChannelRecord),
    ⟨9, "lobby", 0, none, none⟩] = joined
  have hown : own.value? (Json.Tree.list ChannelRecord.ofTree?) = .ok owned := howned ▸ rfl
  have hother : other.value? (Json.Tree.list ChannelRecord.ofTree?) = .ok joined := hjoined ▸ rfl
  have hreplies : (s.askBoth server .ownedChannels .joinedChannels).2 = (own, other) := by
    decide +kernel
  have hreplies' : ((s.loadChannels server).askBoth server .ownedChannels .joinedChannels).2 =
      (own, other) := by
    decide +kernel
  have hfetched : Fetches server s owned joined := by
    constructor
    · rw [hreplies]
      exact hown
    · rw [hreplies]
      exact hother
  have hfetched' : Fetches server (s.loadChannels server) owned joined := by
    constructor
    · rw [hreplies']
      exact hown
    · rw [hreplies']
      exact hother
  have hsingle : s.client.directory.ids.Nodup := by decide
  obtain ⟨hmerged, -, -, hagain⟩ := load_is_exact hsingle hfetched
  refine ⟨hsingle, hmerged.ids.trans ?_, (hagain server hfetched').1⟩
  rw [← howned, ← hjoined]
  decide +kernel

end Station

end ChatTerminal
