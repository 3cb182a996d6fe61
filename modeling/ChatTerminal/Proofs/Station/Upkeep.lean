import ChatTerminal.Proofs.Station.Coherence
import ChatTerminal.Proofs.Station.Failures
import ChatTerminal.Proofs.Station.Talks
/-!
# What the flows around the channels come to

Once the server has answered, every one of them comes to one selection, on a client with another
directory: a load selects what is on display already, or else the landing page, a deletion what is
left to be shown, and a channel that was created or joined is selected itself.  What is proved of
the flows is proved of that selection.
-/

namespace ChatTerminal

namespace Client

/-- The channel on display, selected once more, moves the cursor only. -/
theorem select_activeId (c : Client) :
    c.select c.activeId = ({ c with cursor := rowOf c.directory c.activeId }, []) := by
  have hself : c.session.select c.activeId = (c.session, []) := c.session.select_self
  unfold select
  rw [Session.apply, hself, activeId, if_pos rfl]

def restocked (c : Client) (owned joined : List ChannelRecord) : Client :=
  { c with directory := c.directory.merge (ownedOf owned c.userName) (joinedOf joined) }

def without (c : Client) (id : Nat) : Client := { c with directory := c.directory.erase id }

def successor? (c : Client) (id : Nat) : Option Nat :=
  if c.activeId = some id then (c.directory.erase id).fallback? else c.activeId

/-- The client with a channel listed and on display, its members told and the prompt closed. -/
def admitted (c : Client) (channel : Channel) (members : List Member) (text : String) : Client :=
  let shown :=
    ({ c with directory := c.directory.insertNew channel }.select (some channel.id)).1
  { shown with
    session := { shown.session with members := members }
    prompt := none }.showMessage text

end Client

namespace Station

variable {server : Server} {s t : Station} {owned joined : List ChannelRecord} {id : Nat}

/-! ## Loading -/

/-- Both listings are fetched, and these are the channels in them. -/
structure Fetches (server : Server) (s : Station) (owned joined : List ChannelRecord) : Prop where
  first : (s.askBoth server .ownedChannels .joinedChannels).2.1.value?
    (Json.Tree.list ChannelRecord.ofTree?) = .ok owned
  second : (s.askBoth server .ownedChannels .joinedChannels).2.2.value?
    (Json.Tree.list ChannelRecord.ofTree?) = .ok joined

theorem loadChannels_of_fetches (h : Fetches server s owned joined) :
    (s.loadChannels server).client =
      ((s.client.restocked owned joined).select (some (s.client.activeId.getD homeId))).1 ∧
    (s.client.activeId ≠ none → (s.loadChannels server).linkCalls = s.linkCalls) := by
  have hclient := client_askBoth server s .ownedChannels .joinedChannels
  have hcalls := linkCalls_askBoth server s .ownedChannels .joinedChannels
  obtain ⟨hfirst, hsecond⟩ := h
  unfold loadChannels
  generalize s.askBoth server .ownedChannels .joinedChannels = answer at *
  obtain ⟨t, first, second⟩ := answer
  dsimp only at hfirst hsecond hclient hcalls ⊢
  rw [hfirst, hsecond, ← hclient, ← hcalls]
  dsimp only
  generalize hrestocked : t.onClient (fun c => { c with
    directory := c.directory.merge (ownedOf owned t.client.userName) (joinedOf joined) }) = u
  have hu : u.client = t.client.restocked owned joined := hrestocked ▸ rfl
  have hactive : t.client.activeId = u.client.activeId := hu ▸ rfl
  rw [← hu, hactive]
  split
  · rename_i hnowhere
    rw [hnowhere]
    exact ⟨client_select server u _, fun hsome => absurd rfl hsome⟩
  · rename_i id hshown
    have hfollow : u.followRow.client = (u.client.select u.client.activeId).1 := rfl
    have hcalls' : u.linkCalls = t.linkCalls := hrestocked ▸ rfl
    rw [hfollow, hshown]
    exact ⟨rfl, fun _ => hcalls'⟩

theorem fetches_of_not_fails (h : ¬ Flow.loadChannels.Fails server s) :
    ∃ owned joined, Fetches server s owned joined := by
  unfold Flow.Fails at h
  generalize hreplies : s.askBoth server .ownedChannels .joinedChannels = replies at h
  obtain ⟨t, first, second⟩ := replies
  dsimp only at h
  rw [not_or] at h
  obtain ⟨owned, howned⟩ := exists_value_of_not_fails h.1
  obtain ⟨joined, hjoined⟩ := exists_value_of_not_fails h.2
  refine ⟨owned, joined, ?_, ?_⟩
  · rw [hreplies]
    exact howned
  · rw [hreplies]
    exact hjoined

/-! ## Creating and joining -/

/-- The server creates the channel named in the prompt, and describes it so. -/
def Creates (server : Server) (s : Station) (record : ChannelRecord) : Prop :=
  ∃ name, channelName s.client.newChannelName.value = .ok name ∧
    (s.ask server (.createChannel name)).2.value? ChannelRecord.ofTree? = .ok record

def joining (server : Server) (s : Station) (search : Search) (id : Nat) : Station :=
  ((s.ask server (.searchChannel search.query)).1.ask server (.joinChannel id)).1

/-- The server finds the channel in the prompt, describes it so, and lets the user join it. -/
structure Joins (server : Server) (s : Station) (search : Search) (record : ChannelRecord) :
    Prop where
  typed : Search.parse s.client.searchQuery.value = .ok search
  found : (s.ask server (.searchChannel search.query)).2.value? ChannelRecord.ofTree? = .ok record
  joined : ∃ answer, ((s.ask server (.searchChannel search.query)).1.ask server
    (.joinChannel record.id)).2.value? ChannelRecord.ofTree? = .ok answer

def roster (server : Server) (s : Station) (channel : Nat) : List Member :=
  ((s.ask server (.members channel)).2.value? (Json.Tree.list Member.ofTree?)).toOption.getD []

theorem roster_onClient (server : Server) (s : Station) (change : Client → Client) (channel : Nat) :
    (s.onClient change).roster server channel = s.roster server channel := by
  unfold roster
  rw [ask_onClient]

theorem exists_creates (haccepted : ¬ Flow.createChannel.TurnedDown s.client)
    (hanswered : ¬ Flow.createChannel.Fails server s) : ∃ record, Creates server s record := by
  cases hname : channelName s.client.newChannelName.value with
  | error r => exact absurd ⟨r, hname⟩ haccepted
  | ok name =>
      obtain ⟨record, hrecord⟩ :=
        exists_value_of_not_fails fun hreply => hanswered ⟨name, hname, hreply⟩
      exact ⟨record, name, hname, hrecord⟩

theorem exists_joins (haccepted : ¬ Flow.joinChannel.TurnedDown s.client)
    (hanswered : ¬ Flow.joinChannel.Fails server s) :
    ∃ search record, Joins server s search record := by
  cases hsearch : Search.parse s.client.searchQuery.value with
  | error r => exact absurd ⟨r, hsearch⟩ haccepted
  | ok search =>
      have hreplies := fun hreply => hanswered ⟨search, hsearch, hreply⟩
      obtain ⟨hfound, hjoin⟩ := not_or.mp hreplies
      obtain ⟨record, hrecord⟩ := exists_value_of_not_fails hfound
      have hjoined := exists_value_of_not_fails fun hreply => hjoin ⟨record, hrecord, hreply⟩
      exact ⟨search, record, hsearch, hrecord, hjoined⟩

/-- A channel that was created is selected, with the user as its only member. -/
theorem createChannel_of_creates {record : ChannelRecord} (h : Creates server s record) :
    let channel : Channel := ⟨record.id, record.name, record.ownerId, some s.client.userName⟩
    (s.createChannel server).client =
      { s.client.admitted channel [⟨0, s.client.userName⟩] Channels.created with
        newChannelName := s.client.newChannelName.clear } ∧
    (s.createChannel server).linkCalls = s.linkCalls ++
      (s.client.session.select (some record.id)).2.filterMap LinkCall.ofEffect? := by
  obtain ⟨name, hname, hrecord⟩ := h
  have hclient := client_ask server s (.createChannel name)
  have hcalls := linkCalls_ask server s (.createChannel name)
  unfold createChannel
  rw [hname]
  dsimp only
  rw [ask_onClient]
  generalize s.ask server (.createChannel name) = answer at hrecord hclient hcalls ⊢
  obtain ⟨t, reply⟩ := answer
  dsimp only at hrecord hclient hcalls ⊢
  rw [hrecord, ← hclient, ← hcalls]
  dsimp only
  rw [select_eq]
  exact ⟨rfl, rfl⟩

theorem ask_select (server : Server) (s : Station) (channel : Option Nat) (c : Call) :
    ((s.select server channel).ask server c).2 = (s.ask server c).2 ∧
      ((s.select server channel).ask server c).1.requests = (s.ask server c).1.requests := by
  rw [select_eq]
  unfold ask
  dsimp only
  split <;> exact ⟨rfl, rfl⟩

theorem client_fetchMembers (server : Server) (s : Station) (channel : Nat) :
    (s.fetchMembers server channel).client = (s.client.feed (.roster channel
      ((s.ask server (.members channel)).2.value? (Json.Tree.list Member.ofTree?)).toOption)).1 ∧
    (s.fetchMembers server channel).linkCalls = s.linkCalls ∧
    (s.fetchMembers server channel).requests = (s.ask server (.members channel)).1.requests := by
  have hclient := client_ask server s (.members channel)
  have hcalls := linkCalls_ask server s (.members channel)
  unfold fetchMembers
  generalize s.ask server (.members channel) = answer at hclient hcalls ⊢
  obtain ⟨t, reply⟩ := answer
  dsimp only at hclient hcalls ⊢
  rw [← hclient]
  exact ⟨rfl, hcalls, rfl⟩

/-- A channel is selected, and its members are those in the roster that is asked for next. -/
theorem perform_select_fetch (server : Server) (s : Station) (channel : Nat) :
    let shown := (s.client.select (some channel)).1
    let t := s.perform server fun c =>
      let (c, effects) := c.select (some channel)
      (c, effects ++ [.fetchMembers channel])
    t.client =
      { shown with session := { shown.session with members := s.roster server channel } } ∧
    t.linkCalls = s.linkCalls ++
      (s.client.session.select (some channel)).2.filterMap LinkCall.ofEffect? ∧
    t.requests = (s.ask server (.members channel)).1.requests := by
  intro shown t
  have ht : t = (s.select server (some channel)).fetchMembers server channel := by
    simp only [t, select, perform, carryOutAll, List.foldl_append]
    rfl
  obtain ⟨hclient, hcalls, hrequests⟩ :=
    client_fetchMembers server (s.select server (some channel)) channel
  obtain ⟨hreply, hasked⟩ := ask_select server s (some channel) (.members channel)
  have hactive : shown.session.active = some channel := s.client.activeId_select (some channel)
  rw [ht]
  refine ⟨?_, ?_, hrequests.trans hasked⟩
  · rw [hclient, hreply, client_select]
    simp only [Client.feed, Session.apply]
    rw [if_pos hactive]
    rfl
  · rw [hcalls, select_eq]

/-- A channel that was joined is selected, with the members that the server lists. -/
theorem joinChannel_of_joins {search : Search} {record : ChannelRecord}
    (h : Joins server s search record) :
    let u := s.joining server search record.id
    (s.joinChannel server).client =
      s.client.admitted (record.toChannel (some search.owner)) (u.roster server record.id)
        Channels.joined ∧
    (s.joinChannel server).linkCalls = s.linkCalls ++
      (s.client.session.select (some record.id)).2.filterMap LinkCall.ofEffect? ∧
    (s.joinChannel server).requests = (u.ask server (.members record.id)).1.requests := by
  obtain ⟨hsearch, hrecord, answer, hanswer⟩ := h
  have hfound := client_ask server s (.searchChannel search.query)
  have hcalls := linkCalls_ask server s (.searchChannel search.query)
  unfold joinChannel joining
  rw [hsearch]
  dsimp only
  rw [ask_onClient]
  generalize s.ask server (.searchChannel search.query) = found at *
  obtain ⟨t, found⟩ := found
  dsimp only at hrecord hanswer hfound hcalls ⊢
  have hjoined := client_ask server t (.joinChannel record.id)
  have hcalls' := linkCalls_ask server t (.joinChannel record.id)
  have hid : (record.toChannel (some search.owner)).id = record.id := rfl
  rw [hrecord]
  dsimp only
  rw [ask_onClient, hid]
  generalize t.ask server (.joinChannel record.id) = reply at *
  obtain ⟨u, reply⟩ := reply
  dsimp only at hanswer hjoined hcalls' ⊢
  rw [hanswer, ← hfound, ← hcalls, ← hjoined, ← hcalls']
  dsimp only
  generalize hlisted : (u.onClient Client.clearBanners).onClient _ = v
  have hroster : v.roster server record.id = u.roster server record.id := by
    rw [← hlisted, roster_onClient, roster_onClient]
  obtain ⟨hclient, hmade, hrequests⟩ := perform_select_fetch server v record.id
  generalize v.perform server _ = w at hclient hmade hrequests ⊢
  refine ⟨?_, ?_, ?_⟩
  · change { w.client with prompt := none }.showMessage Channels.joined = _
    rw [hclient, hroster, ← hlisted]
    rfl
  · refine hmade.trans ?_
    rw [← hlisted]
    rfl
  · refine hrequests.trans ?_
    rw [← hlisted, ask_onClient, ask_onClient, onClient, onClient]

/-! ## Deleting -/

def dropChannel (server : Server) (s : Station) (id : Nat) : Station :=
  let s := s.onClient (·.clearBanners.without id)
  let s := if s.client.activeId = some id then s.select server s.client.directory.fallback?
    else s.followRow
  s.onClient (·.showMessage Channels.deleted)

theorem deleteChannel_of_not_owned (server : Server)
    (h : (s.client.directory.get? id).any (·.isOwnedBy s.client.userName) = false) :
    s.deleteChannel server id = s.onClient (·.showError Channels.notOwned) := by
  have hcleared : ((s.onClient Client.clearBanners).client.directory.get? id).any
      (·.isOwnedBy (s.onClient Client.clearBanners).client.userName) = false := h
  unfold deleteChannel
  dsimp only
  rw [hcleared]
  rfl

theorem deleteChannel_of_owned (server : Server)
    (h : (s.client.directory.get? id).any (·.isOwnedBy s.client.userName) = true) :
    s.deleteChannel server id =
      let (t, reply) := s.ask server (.deleteChannel id)
      match reply.content? with
      | .error _ => t.onClient (·.showError Channels.deleteFailed)
      | .ok _ => t.dropChannel server id := by
  have hcleared : ((s.onClient Client.clearBanners).client.directory.get? id).any
      (·.isOwnedBy (s.onClient Client.clearBanners).client.userName) = true := h
  unfold deleteChannel
  dsimp only
  rw [hcleared, ask_onClient]
  generalize s.ask server (.deleteChannel id) = answer
  obtain ⟨t, reply⟩ := answer
  dsimp only
  rw [if_neg (by decide)]
  cases reply.content? with
  | error e => rfl
  | ok content => rfl

/-- The successor is selected, whether it is on display already or not. -/
theorem dropChannel_selects (server : Server) (s : Station) (id : Nat) :
    (s.dropChannel server id).client =
      ((s.client.clearBanners.without id).select (s.client.successor? id)).1.showMessage
        Channels.deleted ∧
    (s.dropChannel server id).linkCalls = s.linkCalls ++
      (s.client.session.select (s.client.successor? id)).2.filterMap LinkCall.ofEffect? := by
  unfold dropChannel Client.successor?
  dsimp only
  generalize hwithout : s.onClient (·.clearBanners.without id) = u
  have hclient : u.client = s.client.clearBanners.without id := hwithout ▸ rfl
  have hcalls : u.linkCalls = s.linkCalls := hwithout ▸ rfl
  have hactive : u.client.activeId = s.client.activeId := hclient ▸ rfl
  have hfallback : u.client.directory = s.client.directory.erase id := hclient ▸ rfl
  have hsession : u.client.session = s.client.session := hclient ▸ rfl
  rw [hactive, ← hclient, ← hcalls, ← hsession, ← hfallback]
  split
  · have hselect := carryOutAll_calls server
      { u with client := (u.client.select u.client.directory.fallback?).1 }
      (select_calls u.client.session u.client.directory.fallback?)
    obtain ⟨hselected, hcalled⟩ := hselect
    exact ⟨congrArg (·.showMessage Channels.deleted) hselected, hcalled⟩
  · have hself : u.client.session.select s.client.activeId = (u.client.session, []) := by
      rw [← hactive]
      exact u.client.session.select_self
    refine ⟨?_, ?_⟩
    · rw [← hactive]
      rfl
    · rw [hself, List.filterMap_nil, List.append_nil]
      rfl

end Station

end ChatTerminal
