import ChatTerminal.Proofs.Agent.CallAddress
import ChatTerminal.Proofs.Client.Merging
import ChatTerminal.Proofs.Station.Cursor
import ChatTerminal.Proofs.Station.Unasked
/-!
# Deleting a channel

A channel can be deleted by its owner, with one request.  What the server took is dropped from the
directory.  If it was on display, its link is released and the first channel that is left takes its
place; else nothing happens to what is on display, and the cursor stays with it.
-/

namespace ChatTerminal

/-! ## Directories -/

namespace Directory

variable {d : Directory} {id : Nat}

/-- Where each id stands once, a channel that is taken away leaves all others. -/
theorem channels_erase (hsingle : d.ids.Nodup) (id : Nat) :
    (d.erase id).channels = d.channels.filter (·.id ≠ id) := by
  unfold erase
  obtain ⟨held⟩ := d
  dsimp only
  induction held with
  | nil => rfl
  | cons first more ih =>
      obtain ⟨hnew, hmore⟩ := List.nodup_cons.mp hsingle
      by_cases hfirst : first.id = id
      · have hkept : more.filter (·.id ≠ id) = more := by
          refine List.filter_eq_self.mpr fun c hc => ?_
          have hother : c.id ≠ id :=
            fun hid => hnew (List.mem_map.mpr ⟨c, hc, hid.trans hfirst.symm⟩)
          simpa using hother
        rw [List.eraseP_cons_of_pos (by simpa using hfirst),
          List.filter_cons_of_neg (by simpa using hfirst), hkept]
      · rw [List.eraseP_cons_of_neg (by simpa using hfirst),
          List.filter_cons_of_pos (by simpa using hfirst), ih hmore]

end Directory

namespace Client

variable {c : Client} {id : Nat}

def Owns (c : Client) (id : Nat) : Prop :=
  ∃ channel ∈ c.directory.channels, channel.id = id ∧ channel.ownerName = some c.userName

theorem owns_iff (hsingle : c.directory.ids.Nodup) :
    (c.directory.get? id).any (·.isOwnedBy c.userName) = true ↔ c.Owns id := by
  rw [Option.any_eq_true]
  unfold Owns
  constructor
  · rintro ⟨channel, hget, howned⟩
    obtain ⟨hchannel, hid⟩ := (Directory.get?_eq_some hsingle).mp hget
    exact ⟨channel, hchannel, hid, beq_iff_eq.mp howned⟩
  · rintro ⟨channel, hchannel, hid, howned⟩
    exact ⟨channel, (Directory.get?_eq_some hsingle).mpr ⟨hchannel, hid⟩, beq_iff_eq.mpr howned⟩

end Client

namespace Station

variable {server : Server} {base : String} {s t : Station} {id : Nat}

/-! ## What is on display -/

/-- The first channel that is left has taken the place of the one on display: the link of the one is
released, a link for the other is asked for if there is one, and nothing is shown yet. -/
structure Succeeds (s t : Station) : Prop where
  shown : t.client.activeId = (t.client.directory.channels.head?).map (·.id)
  calls : ∃ g, s.client.session.generation = some g ∧ t.linkCalls = s.linkCalls ++
    .disconnect g :: t.client.activeId.toList.map (.connect (s.client.session.lastGeneration + 1))
  messages : t.client.session.messages = []
  members : t.client.session.members = []

theorem client_dropChannel (server : Server) (s : Station) (id : Nat) :
    (s.dropChannel server id).client.directory = s.client.directory.erase id ∧
    (s.dropChannel server id).client.activeId = s.client.successor? id ∧
    (s.dropChannel server id).client.session =
      (s.client.session.select (s.client.successor? id)).1 ∧
    (s.dropChannel server id).client.cursor =
      Client.rowOf (s.client.directory.erase id) (s.client.successor? id) := by
  have hactive := Client.activeId_select (s.client.clearBanners.without id) (s.client.successor? id)
  rw [(dropChannel_selects server s id).1]
  exact ⟨rfl, hactive, rfl, rfl⟩

theorem not_mem_ids_erase {d : Directory} (hsingle : d.ids.Nodup) (id : Nat) :
    id ∉ (d.erase id).ids := by
  rw [Directory.mem_ids, Directory.channels_erase hsingle]
  rintro ⟨c, hc, hid⟩
  simpa [hid] using (List.mem_filter.mp hc).2

/-- The successor is listed, unless it is the landing page. -/
theorem Aligned.successor_listed (h : s.Aligned base) (id : Nat) :
    ∀ next, s.client.successor? id = some next → next ≠ homeId →
      next ∈ (s.client.directory.erase id).ids := by
  intro next hnext hlive
  unfold Client.successor? at hnext
  split at hnext
  · exact Directory.mem_ids_of_idAt? hnext
  · rename_i hhidden
    have hlisted := h.coherent.client.fits.displayed next hnext hlive
    refine Directory.mem_ids_erase_of_ne (fun hgone => hhidden ?_) hlisted
    rw [hnext, hgone]

theorem Aligned.follows_dropChannel (h : s.Aligned base) (server : Server) (id : Nat) :
    (s.dropChannel server id).client.Follows := by
  obtain ⟨hdirectory, hactive, -, hcursor⟩ := client_dropChannel server s id
  refine Client.follows_of_rowOf ?_ ?_
  · rw [hcursor, hdirectory, hactive]
  · rw [hdirectory, hactive]
    exact h.successor_listed id

theorem Aligned.succeeds (h : s.Aligned base) (server : Server)
    (hlisted : id ∈ s.client.directory.ids) (hshown : s.client.activeId = some id) :
    Succeeds s (s.dropChannel server id) := by
  obtain ⟨hdirectory, hactive, hsession, -⟩ := client_dropChannel server s id
  have hcalls := (dropChannel_selects server s id).2
  have hnumbered := h.coherent.client.fits.numbered
  have hsuccessor : s.client.successor? id = (s.client.directory.erase id).fallback? := by
    rw [Client.successor?, if_pos hshown]
  have hnext : ∀ next, s.client.successor? id = some next → next ≠ id ∧ next ≠ homeId := by
    intro next hnext
    rw [hsuccessor] at hnext
    have hleft : next ∈ (s.client.directory.erase id).ids := Directory.mem_ids_of_idAt? hnext
    refine ⟨?_, ?_⟩
    · rintro rfl
      exact not_mem_ids_erase h.stocked.tidy.single next hleft
    · rintro rfl
      exact hnumbered (Directory.mem_ids_of_erase hleft)
  have hchanged : s.client.successor? id ≠ s.client.session.active := by
    intro hsame
    exact (hnext id (hsame.trans hshown)).1 rfl
  have hlive : id ≠ homeId := by
    rintro rfl
    exact hnumbered hlisted
  obtain ⟨g, hg⟩ := Option.ne_none_iff_exists'.mp
    (h.coherent.client.fits.sound.owned_of_active hshown hlive)
  obtain ⟨hmessages, hmembers, heffects⟩ :=
    Session.select_next hchanged fun next hsome => (hnext next hsome).2
  refine ⟨?_, ⟨g, hg, ?_⟩, ?_, ?_⟩
  · rw [hactive, hsuccessor, hdirectory, List.head?_eq_getElem?]
    rfl
  · rw [hcalls, heffects, hactive, Session.released, hg]
    cases s.client.successor? id <;> rfl
  · rw [hsession, hmessages]
  · rw [hsession, hmembers]

theorem dropChannel_of_hidden (server : Server) (hhidden : s.client.activeId ≠ some id) :
    (s.dropChannel server id).client.session = s.client.session ∧
      (s.dropChannel server id).linkCalls = s.linkCalls := by
  obtain ⟨-, -, hsession, -⟩ := client_dropChannel server s id
  have hcalls := (dropChannel_selects server s id).2
  have hself : s.client.session.select (s.client.successor? id) = (s.client.session, []) := by
    rw [Client.successor?, if_neg hhidden]
    exact s.client.session.select_self
  rw [hself] at hsession hcalls
  exact ⟨hsession, hcalls.trans (List.append_nil _)⟩

/-! ## The request -/

/-- A request that deletes a channel, below a base.  Where the base serves paths, it is asked for
below the path of the base. -/
structure DeletesChannel (base : String) (fresh : Agent) (id : Nat) (r : Request) : Prop where
  method : r.method = .delete
  body : r.body = none
  address : ∃ u, Web.Url.parse (addressOf base ("/api/channels/" ++ toString id)) = .ok u ∧
    r.target = String.ofList u.target
  target : Agent.Addressable base fresh → Agent.Serves base fresh →
    r.target = addressOf fresh.mount ("/api/channels/" ++ toString id)

theorem deletesChannel_requestTo {a fresh : Agent} {u : Web.Url}
    (hu : a.urlOf? (.deleteChannel id) = some u) (now : Int) :
    DeletesChannel a.base fresh id (a.requestTo now (.deleteChannel id) u) where
  method := rfl
  body := rfl
  address := ⟨u, (Agent.urlOf?_eq_some.mp hu).1, rfl⟩
  target := by
    intro hbase hserves
    obtain ⟨v, hv, htarget⟩ := hbase.target hserves now (.deleteChannel id)
    obtain rfl := Option.some.inj (hu.symm.trans hv)
    exact htarget

/-! ## What it comes to -/

/-- The deletion of a channel that is not on display leaves what is on display alone; the one of the
channel on display puts the first one that is left in its place. -/
structure Dropped (s t : Station) (id : Nat) : Prop where
  channels : t.client.directory.channels = s.client.directory.channels.filter (·.id ≠ id)
  cursor : t.client.Follows
  shown : s.client.activeId = some id → Succeeds s t
  hidden : s.client.activeId ≠ some id →
    t.client.session = s.client.session ∧ t.linkCalls = s.linkCalls

theorem Aligned.dropped_dropChannel (h : s.Aligned base) (server : Server)
    (hlisted : id ∈ s.client.directory.ids) : Dropped s (s.dropChannel server id) id where
  channels := by
    rw [(client_dropChannel server s id).1]
    exact Directory.channels_erase h.stocked.tidy.single id
  cursor := h.follows_dropChannel server id
  shown := h.succeeds server hlisted
  hidden := dropChannel_of_hidden server

theorem exists_ask (server : Server) (s : Station) (c : Call) : ∃ jar requests,
    (s.ask server c).1 =
      { s with agent := { s.agent with jar := jar }, requests := requests } := by
  unfold ask
  split
  · rename_i u _
    unfold exchange
    cases server s.requests (s.agent.requestTo s.now c u) with
    | dropped => exact ⟨_, _, rfl⟩
    | answered status body cookies => exact ⟨_, _, rfl⟩
  · exact ⟨_, _, rfl⟩

theorem Aligned.dropped (h : s.Aligned base) (server : Server) (howned : s.client.Owns id)
    {content : String} (htaken : (s.ask server (.deleteChannel id)).2.content? = .ok content) :
    Dropped s (s.deleteChannel server id) id := by
  have hlisted : id ∈ s.client.directory.ids := by
    obtain ⟨channel, hchannel, hid, -⟩ := howned
    exact Directory.mem_ids.mpr ⟨channel, hchannel, hid⟩
  obtain ⟨jar, requests, hasked⟩ := exists_ask server s (.deleteChannel id)
  rw [deleteChannel_of_owned server ((Client.owns_iff h.stocked.tidy.single).mpr howned)]
  generalize s.ask server (.deleteChannel id) = answer at hasked htaken ⊢
  obtain ⟨t, reply⟩ := answer
  dsimp only at hasked htaken ⊢
  rw [htaken, hasked]
  have haligned : Aligned base
      { s with agent := { s.agent with jar := jar }, requests := requests } :=
    ⟨⟨h.coherent.base, h.coherent.client⟩, ⟨h.stocked.tidy, h.stocked.apart⟩, h.placed⟩
  obtain ⟨hchannels, hcursor, hshown, hhidden⟩ := haligned.dropped_dropChannel server hlisted
  refine ⟨hchannels, hcursor, fun hactive => ?_, hhidden⟩
  obtain ⟨hnext, hcalls, hmessages, hmembers⟩ := hshown hactive
  exact ⟨hnext, hcalls, hmessages, hmembers⟩

/-- On every run below a base where the server names no channel with the id of the landing page, the
deletion of a channel makes one request if the user owns the channel, and none if not.  Once the
server takes it the directory has all other channels in their order, and the cursor is on the row of
what is on display.  A channel on display gives way to the first one that is left, its link to a new
one; what else is on display stays with its messages, its members and its link. -/
theorem channel_deletion (server : Server) (bypass : Bool) {agent fresh : Agent}
    (hbase : Agent.ofBase agent.base = .ok fresh) (hserver : server.Numbers agent.base)
    (kept : Option String) (now : Int) (turns : List Turn) (deleting : Server) (id : Nat) :
    let s := afterTurns server
      (start server bypass { agent := agent, kept := kept, now := now }).2 turns
    let t := s.deleteChannel deleting id
    (s.client.Owns id → ∃ u, s.agent.urlOf? (.deleteChannel id) = some u ∧
      DeletesChannel agent.base fresh id (s.agent.requestTo s.now (.deleteChannel id) u) ∧
      t.requests = s.requests ++ [s.agent.requestTo s.now (.deleteChannel id) u]) ∧
    (¬ s.client.Owns id → t.requests = s.requests) ∧
    ∀ content, s.client.Owns id →
      (s.ask deleting (.deleteChannel id)).2.content? = .ok content → Dropped s t id := by
  intro s t
  have hs : s.Aligned agent.base :=
    (aligned_start hserver bypass rfl kept now).turns hserver turns
  have howns : (s.client.directory.get? id).any (·.isOwnedBy s.client.userName) = true ↔
      s.client.Owns id := Client.owns_iff hs.stocked.tidy.single
  refine ⟨fun howned => ?_, fun hnot => ?_, fun content howned htaken =>
    hs.dropped deleting howned htaken⟩
  · have hlisted : s.client.directory ≠ .empty := by
      obtain ⟨channel, hchannel, -⟩ := howned
      intro hempty
      rw [hempty] at hchannel
      exact absurd hchannel List.not_mem_nil
    obtain ⟨u, hu⟩ :=
      exists_urlOf?_of_listed hbase server bypass kept now turns hlisted (.deleteChannel id)
    have hasked : s.agent.urlOf? (.deleteChannel id) = some u :=
      (Agent.urlOf?_of_base hs.coherent.base _).trans hu
    refine ⟨u, hasked, hs.coherent.base ▸ deletesChannel_requestTo hasked s.now, ?_⟩
    have hrequests := requests_deleteChannel deleting (howns.mpr howned)
    rw [requests_ask, hasked] at hrequests
    exact hrequests
  · have hrefused : t = s.onClient (·.showError Channels.notOwned) :=
      deleteChannel_of_not_owned deleting (eq_false_of_ne_true fun h => hnot (howns.mp h))
    rw [hrefused]
    rfl

/-- A user with two channels deletes the one that is open. -/
theorem channel_deletion_of_shown :
    let listing : Reply :=
      .answered 200 "[\x7b\"id\":7,\"name\":\"den\"\x7d,\x7b\"id\":9,\"name\":\"hall\"\x7d]" []
    let server : Server := fun _ r =>
      if r.target = "/api/channels" then listing else .answered 200 "[]" []
    let deleting : Server := fun _ _ => .answered 204 "" []
    let agent : Agent := ⟨"http://[::1]", { scheme := "http".toList }, {}⟩
    let turns : List Turn := [.key ⟨.down, false⟩, .key ⟨.enter, false⟩]
    let s := afterTurns server (start server true { agent := agent }).2 turns
    server.Numbers agent.base ∧ s.client.activeId = some 7 ∧
      (∃ r, r.method = .delete ∧ r.target = "/api/channels/7" ∧
        (s.deleteChannel deleting 7).requests = s.requests ++ [r]) ∧
      Dropped s (s.deleteChannel deleting 7) 7 := by
  intro listing server deleting agent turns
  have hlisted : listing.value? (Json.Tree.list ChannelRecord.ofTree?) =
      .ok [⟨7, "den", 0, none, none⟩, ⟨9, "hall", 0, none, none⟩] := rfl
  have hsearched : listing.value? ChannelRecord.ofTree? = .error .undecodable := rfl
  have hnone : (Reply.answered 200 "[]" []).value? (Json.Tree.list ChannelRecord.ofTree?) =
      .ok [] := rfl
  have hnothing : (Reply.answered 200 "[]" []).value? ChannelRecord.ofTree? =
      .error .undecodable := rfl
  have hserver : server.Numbers agent.base := by
    intro past a now c u _ _
    dsimp only [server]
    split
    · refine c.numbers_of_read (fun record h => nomatch hsearched.symm.trans h) fun records h => ?_
      obtain rfl := Except.ok.inj (hlisted.symm.trans h)
      decide
    · refine c.numbers_of_read (fun record h => nomatch hnothing.symm.trans h) fun records h => ?_
      obtain rfl := Except.ok.inj (hnone.symm.trans h)
      exact nofun
  have hbase : Agent.ofBase agent.base = .ok _ := Agent.ofBase_localHost
  have hrun := channel_deletion server true hbase hserver none 0 turns deleting 7
  dsimp only at hrun
  generalize hlast : afterTurns server (start server true { agent := agent }).2 turns = s at hrun ⊢
  have hactive : s.client.activeId = some 7 := by
    rw [← hlast]
    decide +kernel
  have hchannels : s.client.directory.channels =
      [⟨7, "den", 0, some "Dev_User"⟩, ⟨9, "hall", 0, some "Dev_User"⟩] := by
    rw [← hlast]
    decide +kernel
  have huser : s.client.userName = "Dev_User" := by
    rw [← hlast]
    decide +kernel
  have howned : s.client.Owns 7 :=
    ⟨⟨7, "den", 0, some "Dev_User"⟩, by rw [hchannels]; exact List.mem_cons_self, rfl,
      congrArg some huser.symm⟩
  have htaken : (s.ask deleting (.deleteChannel 7)).2.content? = .ok "" := by
    have hreply : (s.ask deleting (.deleteChannel 7)).2 = .answered 204 "" [] := by
      rw [← hlast]
      decide +kernel
    rw [hreply]
    rfl
  obtain ⟨hasked, -, hdropped⟩ := hrun
  obtain ⟨u, -, hdeletes, hrequests⟩ := hasked howned
  have htarget := hdeletes.target ⟨hbase, rfl, rfl⟩ ⟨.inl rfl, takesPaths_localHost⟩
  exact ⟨hserver, hactive, ⟨_, hdeletes.method, htarget.trans (by decide +kernel), hrequests⟩,
    hdropped "" howned htaken⟩

end Station

end ChatTerminal
