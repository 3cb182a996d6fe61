import ChatTerminal.Proofs.Client.Newest
import ChatTerminal.Proofs.Links.Wire
import ChatTerminal.Station.Run
/-!
# What the flows of a station do to its wire

A flow is quiet if it leaves the wire alone, and talks if all it does to the wire is to give the
session steps and to make their calls.  It steers if none of the steps reports of a link or sends
anything.  These compose, so each flow is gone through once.  Only signing out and opening the
chat page do anything else.
-/

namespace ChatTerminal.Station

open LinkCall

def wire (s : Station) : Wire := ⟨s.client.session, s.linkCalls⟩

structure Quiet (s t : Station) : Prop where
  page : t.client.page = s.client.page
  wire : t.wire = s.wire

/-- The page stays, and the session is given steps whose calls are made. -/
structure Talks (s t : Station) : Prop where
  page : t.client.page = s.client.page
  wire : ∃ steps, t.wire = s.wire.takeAll steps

/-- The page stays, and the session is given steps that steer. -/
structure Steers (s t : Station) : Prop where
  page : t.client.page = s.client.page
  wire : ∃ steps, (∀ x ∈ steps, x.Steers) ∧ t.wire = s.wire.takeAll steps

variable {server : Server} {s t u : Station}

theorem Quiet.refl (s : Station) : Quiet s s := ⟨rfl, rfl⟩

theorem Quiet.trans (hst : Quiet s t) (htu : Quiet t u) : Quiet s u :=
  ⟨htu.page.trans hst.page, htu.wire.trans hst.wire⟩

theorem Quiet.steers (h : Quiet s t) : Steers s t := ⟨h.page, [], List.forall_mem_nil _, h.wire⟩

theorem Steers.talks (h : Steers s t) : Talks s t := by
  obtain ⟨hpage, steps, -, hwire⟩ := h
  exact ⟨hpage, steps, hwire⟩

theorem Steers.trans (hst : Steers s t) (htu : Steers t u) : Steers s u := by
  obtain ⟨hpage, first, hsteer, hfirst⟩ := hst
  obtain ⟨hpage', more, hsteer', hmore⟩ := htu
  refine ⟨hpage'.trans hpage, first ++ more, List.forall_mem_append.mpr ⟨hsteer, hsteer'⟩, ?_⟩
  rw [hmore, hfirst, Wire.takeAll_append]

theorem Steers.quiet (hst : Steers s t) (htu : Quiet t u) : Steers s u := hst.trans htu.steers

/-! ## Requests and changes of the client -/

theorem quiet_exchange (server : Server) (s : Station) (a : Web.Url) (r : Request) :
    Quiet s (s.exchange server a r).1 := ⟨rfl, rfl⟩

theorem quiet_ask (server : Server) (s : Station) (c : Call) : Quiet s (s.ask server c).1 := by
  unfold ask
  split
  · exact quiet_exchange server s _ _
  · exact .refl s

theorem quiet_askBoth (server : Server) (s : Station) (a b : Call) :
    Quiet s (s.askBoth server a b).1 := by
  have hask := quiet_ask server s a
  unfold askBoth
  generalize s.ask server a = answer at hask ⊢
  obtain ⟨t, reply⟩ := answer
  dsimp only at hask ⊢
  split
  · exact hask.trans (quiet_exchange server t _ _)
  · exact hask

theorem quiet_onClient (s : Station) {change : Client → Client}
    (hpage : (change s.client).page = s.client.page)
    (hsession : (change s.client).session = s.client.session) : Quiet s (s.onClient change) :=
  ⟨hpage, by simp [wire, onClient, hsession]⟩

theorem quiet_onSignIn (s : Station) (change : SignIn → SignIn) : Quiet s (s.onSignIn change) :=
  ⟨rfl, rfl⟩

theorem quiet_onProfile (s : Station) (change : Profile → Profile) :
    Quiet s (s.onProfile change) := ⟨rfl, rfl⟩

theorem quiet_remember (s : Station) : Quiet s s.remember := by
  unfold remember
  split <;> exact ⟨rfl, rfl⟩

theorem quiet_forget (s : Station) : Quiet s s.forget := ⟨rfl, rfl⟩

/-! ## Effects -/

theorem apply_roster_effects (s : Session) (channel : Nat) (members : Option (List Member)) :
    (s.apply (.roster channel members)).2 = [] := by
  unfold Session.apply
  dsimp only
  split <;> rfl

theorem feed_wire {s : Station} {i : Session.Input} (h : (s.client.session.apply i).2 = []) :
    (s.feed i).1.wire = s.wire.take (.input i) := by
  simp [feed, Client.feed, wire, Wire.take, Session.step, h]

theorem fetchMembers_wire (server : Server) (s : Station) (channel : Nat) :
    (s.fetchMembers server channel).client.page = s.client.page ∧
      ∃ members, (s.fetchMembers server channel).wire =
        s.wire.take (.input (.roster channel members)) := by
  have hquiet := quiet_ask server s (.members channel)
  unfold fetchMembers
  generalize s.ask server (.members channel) = answer at hquiet ⊢
  obtain ⟨t, reply⟩ := answer
  dsimp only at hquiet ⊢
  refine ⟨hquiet.page, (reply.value? (Json.Tree.list Member.ofTree?)).toOption, ?_⟩
  rw [← hquiet.wire]
  exact feed_wire (apply_roster_effects _ channel _)

/-- A roster makes no call, so it may be given before or after other calls. -/
theorem take_roster_append (w : Wire) (calls : List LinkCall) (channel : Nat)
    (members : Option (List Member)) :
    Wire.take ⟨w.session, w.calls ++ calls⟩ (.input (.roster channel members)) =
      ⟨(w.take (.input (.roster channel members))).session,
        (w.take (.input (.roster channel members))).calls ++ calls⟩ := by
  simp [Wire.take, Session.step, apply_roster_effects]

/-- Carrying effects out makes their calls; the rosters that are fetched on the way come last. -/
theorem carryOutAll_wire (server : Server) (s : Station) (effects : List Effect) :
    (s.carryOutAll server effects).client.page = s.client.page ∧
      ∃ rosters, (∀ x ∈ rosters, x.Steers) ∧ (s.carryOutAll server effects).wire =
        Wire.takeAll ⟨s.wire.session, s.wire.calls ++ effects.filterMap ofEffect?⟩ rosters := by
  induction effects generalizing s with
  | nil => exact ⟨rfl, [], List.forall_mem_nil _, by simp [carryOutAll, Wire.takeAll]⟩
  | cons e effects ih =>
      obtain ⟨hpage, rosters, hsteer, hwire⟩ := ih (s.carryOut server e)
      rw [show s.carryOutAll server (e :: effects) =
        (s.carryOut server e).carryOutAll server effects from rfl]
      cases e with
      | connect g channel =>
          exact ⟨hpage, rosters, hsteer, by simpa [carryOut, call, ofEffect?, wire] using hwire⟩
      | disconnect g =>
          exact ⟨hpage, rosters, hsteer, by simpa [carryOut, call, ofEffect?, wire] using hwire⟩
      | send g content =>
          exact ⟨hpage, rosters, hsteer, by simpa [carryOut, call, ofEffect?, wire] using hwire⟩
      | notify text => exact ⟨hpage, rosters, hsteer, hwire⟩
      | fetchMembers channel =>
          obtain ⟨hfetch, members, hroster⟩ := fetchMembers_wire server s channel
          rw [show s.carryOut server (.fetchMembers channel) = s.fetchMembers server channel
            from rfl] at hpage hwire ⊢
          refine ⟨hpage.trans hfetch, .input (.roster channel members) :: rosters, ?_, ?_⟩
          · exact List.forall_mem_cons.mpr ⟨trivial, hsteer⟩
          rw [hwire, hroster, ← take_roster_append]
          rfl

/-- Effects that are all calls add them to the record and do nothing else. -/
theorem carryOutAll_eq (server : Server) (s : Station) {effects : List Effect}
    (h : ∀ e ∈ effects, (ofEffect? e).isSome) : s.carryOutAll server effects =
      { s with linkCalls := s.linkCalls ++ effects.filterMap ofEffect? } := by
  induction effects generalizing s with
  | nil => simp [carryOutAll]
  | cons e effects ih =>
      have hrest := ih (s.carryOut server e) fun e he => h e (by simp [he])
      rw [show s.carryOutAll server (e :: effects) =
        (s.carryOut server e).carryOutAll server effects from rfl, hrest]
      have hsome := h e (by simp)
      cases e with
      | connect g channel => simp [carryOut, call, ofEffect?]
      | disconnect g => simp [carryOut, call, ofEffect?]
      | send g content => simp [carryOut, call, ofEffect?]
      | notify text => simp [ofEffect?] at hsome
      | fetchMembers channel => simp [ofEffect?] at hsome

/-- Effects that are all calls leave the session alone. -/
theorem carryOutAll_calls (server : Server) (s : Station) {effects : List Effect}
    (h : ∀ e ∈ effects, (ofEffect? e).isSome) :
    (s.carryOutAll server effects).client = s.client ∧
      (s.carryOutAll server effects).linkCalls = s.linkCalls ++ effects.filterMap ofEffect? := by
  rw [carryOutAll_eq server s h]
  exact ⟨rfl, rfl⟩

theorem perform_eq (server : Server) (s : Station) (change : Client → Client × List Effect) :
    s.perform server change =
      carryOutAll server { s with client := (change s.client).1 } (change s.client).2 := rfl

section Perform

variable {change : Client → Client × List Effect} (x : Session.Step)
  (hpage : (change s.client).1.page = s.client.page)
  (hsession : (change s.client).1.session = (s.client.session.step x).1)
  (hcalls : (change s.client).2.filterMap ofEffect? =
    (s.client.session.step x).2.filterMap ofEffect?)

include hpage hsession hcalls

/-- A change of the client that gives its session a step, carried out.  Rosters may follow. -/
theorem perform_wire (server : Server) :
    (s.perform server change).client.page = s.client.page ∧
      ∃ rosters, (∀ x ∈ rosters, x.Steers) ∧
        (s.perform server change).wire = (s.wire.take x).takeAll rosters := by
  rw [perform_eq]
  obtain ⟨hcarried, rosters, hsteer, hwire⟩ :=
    carryOutAll_wire server { s with client := (change s.client).1 } (change s.client).2
  refine ⟨hcarried.trans hpage, rosters, hsteer, ?_⟩
  rw [hwire, hcalls]
  simp [wire, Wire.take, hsession]

theorem perform_talks (server : Server) : Talks s (s.perform server change) := by
  obtain ⟨hpage', rosters, -, hwire⟩ := perform_wire x hpage hsession hcalls server
  exact ⟨hpage', x :: rosters, hwire⟩

theorem perform_steers (server : Server) (hx : x.Steers) :
    Steers s (s.perform server change) := by
  obtain ⟨hpage', rosters, hsteer, hwire⟩ := perform_wire x hpage hsession hcalls server
  exact ⟨hpage', x :: rosters, List.forall_mem_cons.mpr ⟨hx, hsteer⟩, hwire⟩

end Perform

theorem select_steers (server : Server) (s : Station) (channel : Option Nat) :
    Steers s (s.select server channel) :=
  perform_steers (.input (.select channel)) rfl rfl rfl server trivial

theorem onLink_wire (server : Server) (s : Station) (e : Link.Event) :
    (s.onLink server e).client.page = s.client.page ∧
      ∃ rosters, (∀ x ∈ rosters, x.Steers) ∧
        (s.onLink server e).wire = (s.wire.take (.input (.link e))).takeAll rosters :=
  perform_wire (.input (.link e)) rfl rfl rfl server

theorem onLink_talks (server : Server) (s : Station) (e : Link.Event) :
    Talks s (s.onLink server e) :=
  perform_talks (.input (.link e)) rfl rfl rfl server

theorem sendDraft_calls (c : Client) : ∀ e ∈ c.sendDraft.2, (ofEffect? e).isSome := by
  simp only [Client.sendDraft, Client.feed, Session.apply, Session.send]
  split
  · exact List.forall_mem_nil _
  · intro e he
    obtain ⟨g, -, rfl⟩ := List.mem_map.mp he
    rfl

theorem sendDraft_talks (server : Server) (s : Station) : Talks s (s.sendDraft server) := by
  refine perform_talks (.input (.send s.client.draft.value)) ?_ ?_ ?_ server
  · unfold Client.sendDraft
    dsimp only
    split <;> rfl
  · unfold Client.sendDraft
    dsimp only
    split <;> rfl
  · rfl

theorem openUnderCursor_steers (server : Server) (s : Station) :
    Steers s (s.perform server Client.openUnderCursor) :=
  perform_steers (.input (.select (some s.client.underCursor))) rfl rfl rfl server trivial

theorem openNewest_steers (server : Server) (s : Station) :
    Steers s (s.perform server Client.openNewest) := by
  by_cases hempty : s.client.directory.channels = []
  · have hnone := Client.openNewest_of_empty hempty
    rw [show s.perform server Client.openNewest = s by simp [perform, hnone, carryOutAll]]
    exact (Quiet.refl s).steers
  · obtain ⟨id, -, hopened⟩ := Client.exists_openNewest hempty
    refine perform_steers (.input (.select (some id))) ?_ ?_ ?_ server trivial <;>
      rw [hopened] <;> rfl

theorem quiet_followRow (s : Station) : Quiet s s.followRow := by
  apply quiet_onClient
  · rfl
  · simp [Client.select, Session.apply, Client.activeId, Session.select_self]

theorem seed_steers (s : Station) (members : List Member) :
    Steers s (s.feed (.seed members)).1 := by
  refine ⟨rfl, [.input (.seed members)], ?_, feed_wire rfl⟩
  exact List.forall_mem_singleton.mpr trivial

theorem leave_steers (server : Server) (s : Station) : Steers s (s.leave server) :=
  perform_steers .reset rfl rfl rfl server trivial

/-! ## The flows around the user -/

theorem quiet_signIn (server : Server) (s : Station) : Quiet s (s.signIn server).1 := by
  have hwait := quiet_onSignIn s fun f => { f.clearBanners with loading := true }
  unfold signIn
  generalize s.onSignIn (fun f => { f.clearBanners with loading := true }) = waiting at hwait ⊢
  have hask := hwait.trans (quiet_ask server waiting (.login waiting.client.signIn.loginRequest))
  dsimp only
  generalize ask server waiting _ = answer at hask ⊢
  obtain ⟨t, reply⟩ := answer
  dsimp only at hask ⊢
  have hdone := hask.trans (quiet_onSignIn t fun f => { f with loading := false })
  split
  · exact hdone.trans (quiet_onSignIn _ _)
  · split
    · exact hdone.trans (quiet_onSignIn _ _)
    · exact hdone.trans (quiet_onSignIn _ _)

theorem quiet_register (server : Server) (s : Station) : Quiet s (s.register server) := by
  have hclear := quiet_onSignIn s SignIn.clearBanners
  unfold register
  generalize s.onSignIn SignIn.clearBanners = cleared at hclear ⊢
  dsimp only
  split
  · exact hclear.trans (quiet_onSignIn _ _)
  · rename_i account _
    have hwait := hclear.trans (quiet_onSignIn cleared fun f => { f with loading := true })
    generalize cleared.onSignIn (fun f => { f with loading := true }) = waiting at hwait ⊢
    have hask := hwait.trans (quiet_ask server waiting (.register account))
    generalize ask server waiting (.register account) = answer at hask ⊢
    obtain ⟨t, reply⟩ := answer
    dsimp only at hask ⊢
    have hdone := hask.trans (quiet_onSignIn t fun f => { f with loading := false })
    split
    · exact hdone.trans (quiet_onSignIn _ _)
    · exact hdone.trans (quiet_onSignIn _ _)

theorem quiet_openProfile (server : Server) (s : Station) : Quiet s (s.openProfile server) := by
  have hopen : Quiet s (s.onClient Client.openProfile) := quiet_onClient s rfl rfl
  unfold openProfile
  generalize s.onClient Client.openProfile = opened at hopen ⊢
  have hask := hopen.trans (quiet_ask server opened .me)
  generalize ask server opened .me = answer at hask ⊢
  obtain ⟨t, reply⟩ := answer
  dsimp only at hask ⊢
  have hdone := hask.trans (quiet_onProfile t fun p => { p with loading := false })
  split
  · exact hdone.trans (quiet_onProfile _ _)
  · exact hdone.trans (quiet_onProfile _ _)

theorem quiet_saveProfile (server : Server) (s : Station) : Quiet s (s.saveProfile server).1 := by
  unfold saveProfile
  split
  · exact .refl s
  · split
    · exact quiet_onProfile _ _
    · rename_i p _ _ update _
      have hwait := quiet_onProfile s fun p => { p.clearBanners with loading := true }
      dsimp only
      generalize s.onProfile (fun p => { p.clearBanners with loading := true }) = waiting at hwait ⊢
      have hask := hwait.trans (quiet_ask server waiting (.updateMe update))
      generalize ask server waiting (.updateMe update) = answer at hask ⊢
      obtain ⟨t, reply⟩ := answer
      dsimp only at hask ⊢
      have hdone := hask.trans (quiet_onProfile t fun p => { p with loading := false })
      split
      · exact hdone.trans ⟨rfl, rfl⟩
      · exact hdone.trans (quiet_onProfile _ _)

theorem quiet_saveAndRemember (server : Server) (s : Station) :
    Quiet s (s.saveAndRemember server) := by
  have hsave := quiet_saveProfile server s
  unfold saveAndRemember
  generalize s.saveProfile server = answer at hsave ⊢
  obtain ⟨t, saved⟩ := answer
  cases saved with
  | true => exact hsave.trans (quiet_remember t)
  | false => exact hsave

/-! ## The flows around the channels -/

theorem loadChannels_steers (server : Server) (s : Station) : Steers s (s.loadChannels server) := by
  have hask := quiet_askBoth server s .ownedChannels .joinedChannels
  unfold loadChannels
  generalize s.askBoth server .ownedChannels .joinedChannels = answer at hask ⊢
  obtain ⟨t, owned, joined⟩ := answer
  dsimp only at hask ⊢
  split
  · have hmerge : ∀ change : Client → Directory,
        Quiet s (t.onClient fun c => { c with directory := change c }) :=
      fun change => hask.trans (quiet_onClient t rfl rfl)
    split
    · exact (hmerge _).steers.trans (select_steers server _ _)
    · exact ((hmerge _).trans (quiet_followRow _)).steers
  · exact (hask.trans (quiet_onClient t rfl rfl)).steers

theorem createChannel_steers (server : Server) (s : Station) :
    Steers s (s.createChannel server) := by
  unfold createChannel
  split
  · exact (quiet_onClient s rfl rfl).steers
  · rename_i name _
    have hclear : Quiet s (s.onClient Client.clearBanners) := quiet_onClient s rfl rfl
    generalize s.onClient Client.clearBanners = cleared at hclear ⊢
    have hask := hclear.trans (quiet_ask server cleared (.createChannel name))
    generalize ask server cleared (.createChannel name) = answer at hask ⊢
    obtain ⟨t, reply⟩ := answer
    dsimp only at hask ⊢
    split
    · exact (hask.trans (quiet_onClient t rfl rfl)).steers
    · rename_i record _
      generalize hinserted : t.onClient (fun c => { c with
        directory := c.directory.insertNew { record.toChannel (some s.client.userName) with
          ownerName := some s.client.userName } }) = inserted
      have hinsert : Quiet s inserted := hinserted ▸ hask.trans (quiet_onClient t rfl rfl)
      have hselect := hinsert.steers.trans (select_steers server inserted
        (some (record.toChannel (some s.client.userName)).id))
      generalize select server inserted _ = selected at hselect ⊢
      have hseed := hselect.trans (seed_steers selected [⟨0, s.client.userName⟩])
      exact hseed.quiet (quiet_onClient _ rfl rfl)

theorem joinChannel_steers (server : Server) (s : Station) : Steers s (s.joinChannel server) := by
  unfold joinChannel
  split
  · exact (quiet_onClient s rfl rfl).steers
  · rename_i search _
    have hclear : Quiet s (s.onClient Client.clearBanners) := quiet_onClient s rfl rfl
    generalize s.onClient Client.clearBanners = cleared at hclear ⊢
    have hfind := hclear.trans (quiet_ask server cleared (.searchChannel search.query))
    generalize ask server cleared (.searchChannel search.query) = found at hfind ⊢
    obtain ⟨t, reply⟩ := found
    dsimp only at hfind ⊢
    split
    · exact (hfind.trans (quiet_onClient t rfl rfl)).steers
    · rename_i record _
      generalize record.toChannel (some search.owner) = channel
      have hjoin := hfind.trans (quiet_ask server t (.joinChannel channel.id))
      generalize ask server t (.joinChannel channel.id) = answer at hjoin ⊢
      obtain ⟨u, reply'⟩ := answer
      dsimp only at hjoin ⊢
      split
      · exact (hjoin.trans (quiet_onClient u rfl rfl)).steers
      · have hinsert : Quiet s (u.onClient fun c =>
            { c with directory := c.directory.insertNew channel }) :=
          hjoin.trans (quiet_onClient u rfl rfl)
        generalize u.onClient (fun c => { c with directory := c.directory.insertNew channel }) =
          inserted at hinsert ⊢
        refine (hinsert.steers.trans ?_).quiet (quiet_onClient _ rfl rfl)
        refine perform_steers (.input (.select (some channel.id))) rfl rfl ?_ server trivial
        simp [Client.select, Session.step, ofEffect?]

theorem deleteChannel_steers (server : Server) (s : Station) (id : Nat) :
    Steers s (s.deleteChannel server id) := by
  have hclear : Quiet s (s.onClient Client.clearBanners) := quiet_onClient s rfl rfl
  unfold deleteChannel
  generalize s.onClient Client.clearBanners = cleared at hclear ⊢
  dsimp only
  split
  · exact (hclear.trans (quiet_onClient cleared rfl rfl)).steers
  · have hask := hclear.trans (quiet_ask server cleared (.deleteChannel id))
    generalize ask server cleared (.deleteChannel id) = answer at hask ⊢
    obtain ⟨t, reply⟩ := answer
    dsimp only at hask ⊢
    split
    · exact (hask.trans (quiet_onClient t rfl rfl)).steers
    · have herase : Quiet s (t.onClient fun c => { c with directory := c.directory.erase id }) :=
        hask.trans (quiet_onClient t rfl rfl)
      generalize t.onClient (fun c => { c with directory := c.directory.erase id }) = erased
        at herase ⊢
      split
      · exact (herase.steers.trans (select_steers server erased _)).quiet (quiet_onClient _ rfl rfl)
      · exact ((herase.trans (quiet_followRow erased)).trans (quiet_onClient _ rfl rfl)).steers

end ChatTerminal.Station
