import ChatTerminal.Proofs.Client.Merging
import ChatTerminal.Proofs.Client.Rows
import ChatTerminal.Proofs.Station.Banners
import ChatTerminal.Proofs.Station.Deletion
import ChatTerminal.Proofs.Station.Remembered
/-!
# Creating and joining a channel

Both flows end alike.  The channel has one place in the directory, the one it had or else the last,
and is on display with the members that the flow knows of it.  Only where another channel was on
display is a link let go and a new one asked for.
-/

namespace ChatTerminal

namespace Directory

variable {d : Directory} {c : Channel}

theorem insertNew_of_listed (h : c.id ∈ d.ids) : d.insertNew c = d := by
  rw [insertNew, contains, if_pos (get?_isSome_iff.mpr h)]

theorem channels_insertNew_of_unlisted (h : c.id ∉ d.ids) :
    (d.insertNew c).channels = d.channels ++ [c] := by
  rw [insertNew, contains, get?_eq_none h]
  rfl

theorem nodup_insertNew (hsingle : d.ids.Nodup) (c : Channel) : (d.insertNew c).ids.Nodup := by
  by_cases h : c.id ∈ d.ids
  · rwa [insertNew_of_listed h]
  · have hids : (d.insertNew c).ids = d.ids ++ [c.id] := by
      rw [ids, channels_insertNew_of_unlisted h, List.map_append]
      rfl
    rw [hids, ← List.concat_eq_append]
    exact hsingle.concat h

end Directory

namespace Station

variable {server : Server} {base : String} {s t : Station} {channel : Channel}
  {members : List Member} {text : String}

/-! ## Where a channel is admitted -/

/-- Another channel gives way: its link is let go, one for the channel is asked for, and nothing is
shown yet. -/
structure Replaces (s t : Station) (id : Nat) : Prop where
  calls : ∃ g, t.client.session.generation = some g ∧ t.linkCalls =
    s.linkCalls ++ (s.client.session.generation.toList.map .disconnect ++ [.connect g id])
  messages : t.client.session.messages = []

/-- The channel is in the directory, on display, and the one that the cursor is on. -/
structure Admitted (s t : Station) (channel : Channel) (members : List Member) (text : String) :
    Prop where
  once : t.client.directory.ids.count channel.id = 1
  held : channel.id ∈ s.client.directory.ids → t.client.directory = s.client.directory
  added : channel.id ∉ s.client.directory.ids →
    t.client.directory.channels = s.client.directory.channels ++ [channel]
  shown : t.client.activeId = some channel.id
  cursor : t.client.Follows
  prompt : t.client.prompt = none
  banner : t.client.banners? .sidebar = some ⟨"", text⟩
  otherBanners : ∀ scope, scope ≠ .sidebar → t.client.banners? scope = s.client.banners? scope
  replaced : s.client.activeId ≠ some channel.id → Replaces s t channel.id
  stayed : s.client.activeId = some channel.id →
    t.linkCalls = s.linkCalls ∧ t.client.session.messages = s.client.session.messages
  members : t.client.session.members = members

theorem replaces_of_select {id : Nat} (hlive : id ≠ homeId) (hother : s.client.activeId ≠ some id)
    (hsession : ∃ roster, t.client.session =
      { (s.client.session.select (some id)).1 with members := roster })
    (hcalls : t.linkCalls = s.linkCalls ++
      (s.client.session.select (some id)).2.filterMap LinkCall.ofEffect?) : Replaces s t id := by
  obtain ⟨roster, hsession⟩ := hsession
  rw [Session.select_live (Ne.symm hother) hlive] at hsession hcalls
  refine ⟨⟨s.client.session.lastGeneration + 1, ?_, ?_⟩, ?_⟩
  · simp [hsession, Session.asking]
  · rw [hcalls, Session.released]
    cases s.client.session.generation <;> rfl
  · simp [hsession, Session.asking]

theorem admitted_of_client (hsingle : s.client.directory.ids.Nodup) (hlive : channel.id ≠ homeId)
    (hclient : ∃ name, t.client =
      { s.client.admitted channel members text with newChannelName := name })
    (hcalls : t.linkCalls = s.linkCalls ++
      (s.client.session.select (some channel.id)).2.filterMap LinkCall.ofEffect?) :
    Admitted s t channel members text := by
  obtain ⟨name, hclient⟩ := hclient
  have hdirectory : t.client.directory = s.client.directory.insertNew channel := by
    rw [hclient]
    rfl
  have hsession : t.client.session =
      { (s.client.session.select (some channel.id)).1 with members := members } := by
    rw [hclient]
    rfl
  have hactive : t.client.activeId = some channel.id := by
    rw [Client.activeId, hsession]
    exact s.client.session.active_select (some channel.id)
  have hlisted : channel.id ∈ t.client.directory.ids := by
    rw [hdirectory, Directory.mem_ids_insertNew]
    exact .inr rfl
  have hcursor : t.client.cursor = Client.rowOf t.client.directory t.client.activeId := by
    rw [hactive, hclient]
    rfl
  refine ⟨?_, fun hheld => ?_, fun hnew => ?_, hactive, ?_, ?_, ?_, fun scope hscope => ?_,
    fun hother => ?_, fun hsame => ?_, ?_⟩
  · rw [hdirectory] at hlisted ⊢
    exact List.count_eq_one_of_mem (Directory.nodup_insertNew hsingle channel) hlisted
  · rw [hdirectory, Directory.insertNew_of_listed hheld]
  · rw [hdirectory, Directory.channels_insertNew_of_unlisted hnew]
  · refine Client.follows_of_rowOf hcursor fun id hid _ => ?_
    rw [hactive] at hid
    exact Option.some.inj hid ▸ hlisted
  · rw [hclient]
    rfl
  · rw [hclient]
    rfl
  · rw [hclient]
    cases scope with
    | sidebar => exact absurd rfl hscope
    | signIn | overlay => rfl
  · exact replaces_of_select hlive hother ⟨members, hsession⟩ hcalls
  · have hself : s.client.session.select (some channel.id) = (s.client.session, []) :=
      hsame ▸ s.client.session.select_self
    rw [hself] at hsession hcalls
    refine ⟨hcalls.trans (List.append_nil _), ?_⟩
    rw [hsession]
  · rw [hsession]

/-! ## The roster of a channel that was joined -/

theorem agent_joining (server : Server) (s : Station) (search : Search) (id : Nat) :
    ∃ jar, (s.joining server search id).agent = { s.agent with jar := jar } := by
  obtain ⟨_, hfound⟩ := agent_ask server s (.searchChannel search.query)
  obtain ⟨jar, hjoined⟩ := agent_ask server (s.ask server (.searchChannel search.query)).1
    (.joinChannel id)
  refine ⟨jar, ?_⟩
  rw [joining, hjoined, hfound]

/-- Below a base that is accepted, the last request of a join is the one for the roster. -/
theorem Joins.asks_roster {search : Search} {record : ChannelRecord} {fresh : Agent}
    (h : Joins server s search record) (hbase : Agent.ofBase s.agent.base = .ok fresh) :
    let u := s.joining server search record.id
    ∃ a, u.agent.urlOf? (.members record.id) = some a ∧ (s.joinChannel server).requests =
      u.requests ++ [u.agent.requestTo u.now (.members record.id) a] := by
  intro u
  obtain ⟨v, hfound⟩ := urlOf?_of_value h.found
  obtain ⟨-, hbelow⟩ := Agent.urlOf?_of_asked hbase rfl hfound
  obtain ⟨a, hlisted, -⟩ := hbelow (.members record.id)
  obtain ⟨jar, hagent⟩ := agent_joining server s search record.id
  have hsame : u.agent.urlOf? (.members record.id) = s.agent.urlOf? (.members record.id) := by
    apply Agent.urlOf?_of_base
    rw [hagent]
  refine ⟨a, hsame.trans hlisted, ?_⟩
  rw [(joinChannel_of_joins h).2.2, requests_ask, hsame, hlisted]
  rfl

/-! ## What it comes to -/

/-- Where the directory lists each channel once, a channel that the server created for the user, or
let the user join, is admitted with what the flow knows of it: a new one is owned by the user and
has the user for its only member, a joined one has the owner that the record tells of, or else the
one that was typed, and the members in the roster that is asked for last. -/
theorem channel_admitted (server : Server) (s : Station)
    (hsingle : s.client.directory.ids.Nodup) :
    (∀ record, Creates server s record → record.id ≠ homeId →
      Admitted s (s.createChannel server)
        ⟨record.id, record.name, record.ownerId, some s.client.userName⟩
        [⟨0, s.client.userName⟩] Channels.created) ∧
    ∀ search record, Joins server s search record → record.id ≠ homeId →
      let u := s.joining server search record.id
      (∃ channel, record.Describes (some search.owner) channel ∧
        Admitted s (s.joinChannel server) channel (u.roster server record.id) Channels.joined) ∧
      ∀ fresh, Agent.ofBase s.agent.base = .ok fresh →
        ∃ a, u.agent.urlOf? (.members record.id) = some a ∧ (s.joinChannel server).requests =
          u.requests ++ [u.agent.requestTo u.now (.members record.id) a] := by
  refine ⟨fun record hcreates hlive => ?_, fun search record hjoins hlive => ⟨?_, ?_⟩⟩
  · obtain ⟨hclient, hcalls⟩ := createChannel_of_creates hcreates
    exact admitted_of_client hsingle hlive ⟨_, hclient⟩ hcalls
  · obtain ⟨hclient, hcalls, -⟩ := joinChannel_of_joins hjoins
    refine ⟨record.toChannel (some search.owner), record.describes_toChannel _, ?_⟩
    exact admitted_of_client hsingle hlive ⟨s.client.newChannelName, hclient⟩ hcalls
  · exact fun fresh hbase => hjoins.asks_roster hbase

/-- A user who has a channel of another owner open creates one, and joins the open one again. -/
theorem channel_admitted_beside_den :
    let hall : Reply := .answered 201 "\x7b\"id\":9,\"name\":\"hall\"\x7d" []
    let den : Reply := .answered 200 "\x7b\"id\":7,\"name\":\"den\"\x7d" []
    let roster : Reply := .answered 200 "[\x7b\"id\":1,\"name\":\"ann\"\x7d]" []
    let server : Server := fun _ r =>
      if r.target = "/api/channels" then hall
      else if r.target = "/api/channels/7/members" then roster else den
    let client : Client := {
      directory := ⟨[⟨7, "den", 1, some "ann"⟩]⟩
      session := { active := some 7, state := .open, generation := some 3, lastGeneration := 3 }
      newChannelName := { value := "hall" }
      searchQuery := { value := "ann@den" } }
    let agent : Agent := ⟨"http://[::1]", { scheme := "http".toList }, {}⟩
    let s : Station := { agent := agent, client := client }
    s.client.directory.ids.Nodup ∧
      Admitted s (s.createChannel server) ⟨9, "hall", 0, some "User"⟩ [⟨0, "User"⟩]
        Channels.created ∧
      (∃ channel, (ChannelRecord.mk 7 "den" 0 none none).Describes (some "ann") channel ∧
        Admitted s (s.joinChannel server) channel [⟨1, "ann"⟩] Channels.joined) ∧
      ∃ r, (s.joinChannel server).requests =
        (s.joining server ⟨"ann", "den"⟩ 7).requests ++ [r] := by
  intro hall den roster server client agent s
  have hsingle : s.client.directory.ids.Nodup := by decide
  have hhall : hall.value? ChannelRecord.ofTree? = .ok ⟨9, "hall", 0, none, none⟩ := rfl
  have hden : den.value? ChannelRecord.ofTree? = .ok ⟨7, "den", 0, none, none⟩ := rfl
  have hann : roster.value? (Json.Tree.list Member.ofTree?) = .ok [⟨1, "ann"⟩] := rfl
  have hcreated : (s.ask server (.createChannel "hall")).2 = hall := by decide +kernel
  have hfound : (s.ask server (.searchChannel (Search.mk "ann" "den").query)).2 = den := by
    decide +kernel
  have hjoined : ((s.ask server (.searchChannel (Search.mk "ann" "den").query)).1.ask server
      (.joinChannel 7)).2 = den := by decide +kernel
  have hlisted : ((s.joining server ⟨"ann", "den"⟩ 7).ask server (.members 7)).2 = roster := by
    decide +kernel
  have hcreates : Creates server s ⟨9, "hall", 0, none, none⟩ :=
    ⟨"hall", by decide +kernel, by rw [hcreated, hhall]⟩
  have hjoins : Joins server s ⟨"ann", "den"⟩ ⟨7, "den", 0, none, none⟩ := by
    refine ⟨by cbv, ?_, ⟨7, "den", 0, none, none⟩, ?_⟩
    · rw [hfound, hden]
    · rw [hjoined, hden]
  have hroster : (s.joining server ⟨"ann", "den"⟩ 7).roster server 7 = [⟨1, "ann"⟩] := by
    rw [Station.roster, hlisted, hann]
    rfl
  obtain ⟨hcreate, hjoin⟩ := channel_admitted server s hsingle
  obtain ⟨⟨channel, hchannel, hadmitted⟩, hasks⟩ := hjoin _ _ hjoins (by decide)
  obtain ⟨a, -, hrequests⟩ := hasks _ Agent.ofBase_localHost
  exact ⟨hsingle, hcreate _ hcreates (by decide), ⟨channel, hchannel, hroster ▸ hadmitted⟩, _,
    hrequests⟩

end Station

end ChatTerminal
