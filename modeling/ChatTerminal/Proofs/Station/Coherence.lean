import ChatTerminal.Proofs.Station.Deeds
import ChatTerminal.Proofs.Station.Outcomes
/-!
# What is on display is in order

If the server gives no channel the id of the landing page, the parts of the client agree after
every turn of every run, whatever else the server answers.
-/

namespace ChatTerminal

/-! ## Servers -/

/-- A reply to a call names no channel with the id of the landing page. -/
def Call.Numbers : Call → Reply → Prop
  | .createChannel _, r | .searchChannel _, r =>
    ∀ record, r.value? ChannelRecord.ofTree? = .ok record → record.id ≠ homeId
  | .ownedChannels, r | .joinedChannels, r =>
    ∀ records, r.value? (Json.Tree.list ChannelRecord.ofTree?) = .ok records →
      ∀ record ∈ records, record.id ≠ homeId
  | _, _ => True

/-- To the calls of agents below a base the server names no channel with the id of the landing
page. -/
def Server.Numbers (server : Server) (base : String) : Prop :=
  ∀ (past : List Request) (a : Agent) (now : Int) (c : Call) (u : Web.Url), a.base = base →
    a.urlOf? c = some u → c.Numbers (server past (a.requestTo now c u))

theorem Call.numbers_dropped (c : Call) : c.Numbers .dropped := by
  unfold Numbers
  split
  · exact fun record h => nomatch h
  · exact fun record h => nomatch h
  · exact fun records h => nomatch h
  · exact fun records h => nomatch h
  · trivial

theorem Call.numbers_of_read {r : Reply}
    (hone : ∀ record, r.value? ChannelRecord.ofTree? = .ok record → record.id ≠ homeId)
    (hmany : ∀ records, r.value? (Json.Tree.list ChannelRecord.ofTree?) = .ok records →
      ∀ record ∈ records, record.id ≠ homeId) (c : Call) : c.Numbers r := by
  unfold Numbers
  split
  · exact hone
  · exact hone
  · exact hmany
  · exact hmany
  · trivial

theorem homeId_not_mem_of_numbers {records : List ChannelRecord}
    (h : ∀ record ∈ records, record.id ≠ homeId) : homeId ∉ records.map (·.id) := by
  intro hmem
  obtain ⟨record, hrecord, hid⟩ := List.mem_map.mp hmem
  exact h record hrecord hid

@[simp] theorem Agent.base_receive (a : Agent) (now : Int) (u : Web.Url) (r : Reply) :
    (a.receive now u r).base = a.base := by
  cases r <;> rfl

/-- The address of a call hangs on the base of the agent alone. -/
theorem Agent.urlOf?_of_base {a b : Agent} (h : b.base = a.base) (c : Call) :
    b.urlOf? c = a.urlOf? c := by
  rw [urlOf?, h, urlOf?]

namespace Station

/-! ## The invariant -/

/-- The agent asks below a base, and the parts of the client agree. -/
structure Coherent (base : String) (s : Station) : Prop where
  base : s.agent.base = base
  client : s.client.Coherent

variable {server : Server} {base : String} {s t : Station}

theorem Coherent.onClient (h : s.Coherent base) {change : Client → Client}
    (hclient : (change s.client).Coherent) : (s.onClient change).Coherent base :=
  ⟨h.base, hclient⟩

theorem Coherent.onSignIn (h : s.Coherent base) {change : SignIn → SignIn}
    (hrest : ∀ f, f.Rested → (change f).Rested) : (s.onSignIn change).Coherent base :=
  h.onClient (h.client.onSignIn hrest)

theorem Coherent.onProfile (h : s.Coherent base) {change : Profile → Profile}
    (hrest : ∀ p, p.Rested → (change p).Rested) : (s.onProfile change).Coherent base :=
  h.onClient (h.client.onProfile hrest)

theorem Coherent.exchange (h : s.Coherent base) (u : Web.Url) (r : Request) :
    (s.exchange server u r).1.Coherent base :=
  ⟨(Agent.base_receive _ _ _ _).trans h.base, h.client⟩

theorem Coherent.ask (h : s.Coherent base) (hserver : server.Numbers base) (c : Call) :
    (s.ask server c).1.Coherent base ∧ c.Numbers (s.ask server c).2 := by
  unfold Station.ask
  split
  · rename_i u hu
    exact ⟨h.exchange u _, hserver s.requests s.agent s.now c u h.base hu⟩
  · exact ⟨h, c.numbers_dropped⟩

theorem Coherent.askBoth (h : s.Coherent base) (hserver : server.Numbers base) (a b : Call) :
    (s.askBoth server a b).1.Coherent base ∧ a.Numbers (s.askBoth server a b).2.1 ∧
      b.Numbers (s.askBoth server a b).2.2 := by
  have hask := h.ask hserver a
  unfold Station.askBoth
  generalize s.ask server a = answer at hask ⊢
  obtain ⟨t, first⟩ := answer
  obtain ⟨ht, hfirst⟩ := hask
  dsimp only at ht hfirst ⊢
  split
  · rename_i u hu
    exact ⟨ht.exchange u _, hfirst, hserver t.requests s.agent t.now b u h.base hu⟩
  · exact ⟨ht, hfirst, b.numbers_dropped⟩

theorem Coherent.forget (h : s.Coherent base) : s.forget.Coherent base := ⟨h.base, h.client⟩

theorem Coherent.remember (h : s.Coherent base) : s.remember.Coherent base := by
  unfold Station.remember
  split
  · exact ⟨h.base, h.client⟩
  · exact h

/-! ## Effects -/

theorem fst_feed (s : Station) (i : Session.Input) :
    (s.feed i).1 = s.onClient fun c => (c.feed i).1 := rfl

theorem Coherent.carryOut (h : s.Coherent base) (hserver : server.Numbers base) {e : Effect}
    (hlive : ∀ channel, e = .fetchMembers channel → channel ≠ homeId) :
    (s.carryOut server e).Coherent base := by
  cases e with
  | connect g channel => exact ⟨h.base, h.client⟩
  | disconnect g => exact ⟨h.base, h.client⟩
  | send g content => exact ⟨h.base, h.client⟩
  | notify text => exact ⟨h.base, h.client.showError text⟩
  | fetchMembers channel =>
      have hask := (h.ask hserver (.members channel)).1
      rw [show s.carryOut server (.fetchMembers channel) = s.fetchMembers server channel from rfl]
      unfold fetchMembers
      generalize s.ask server (.members channel) = answer at hask ⊢
      obtain ⟨t, reply⟩ := answer
      dsimp only at hask ⊢
      rw [fst_feed]
      exact ⟨hask.base, hask.client.roster (hlive channel rfl) _⟩

theorem Coherent.carryOutAll (h : s.Coherent base) (hserver : server.Numbers base)
    {effects : List Effect}
    (hlive : ∀ channel, .fetchMembers channel ∈ effects → channel ≠ homeId) :
    (s.carryOutAll server effects).Coherent base := by
  induction effects generalizing s with
  | nil => exact h
  | cons e effects ih =>
      have hfirst : (s.carryOut server e).Coherent base :=
        h.carryOut hserver fun channel he => hlive channel (he ▸ List.mem_cons_self)
      exact ih hfirst fun channel he => hlive channel (List.mem_cons_of_mem e he)

theorem coherent_perform (hbase : s.agent.base = base) (hserver : server.Numbers base)
    {change : Client → Client × List Effect} (hclient : (change s.client).1.Coherent)
    (hlive : ∀ channel, .fetchMembers channel ∈ (change s.client).2 → channel ≠ homeId) :
    (s.perform server change).Coherent base := by
  have hchanged : Coherent base { s with client := (change s.client).1 } := ⟨hbase, hclient⟩
  exact hchanged.carryOutAll hserver hlive

/-! ## Selections -/

/-- All that a selection asks for are calls of the links. -/
theorem select_calls (s : Session) (channel : Option Nat) :
    ∀ e ∈ (s.select channel).2, (LinkCall.ofEffect? e).isSome := by
  intro e he
  by_cases hself : channel = s.active
  · simp [hself, Session.select_self] at he
  · have hdeparture := Session.select_departure hself
    generalize s.select channel = selected at he hdeparture
    obtain ⟨t, effects⟩ := selected
    cases hdeparture with
    | asked id changed live =>
        rcases List.mem_append.mp he with hreleased | hconnect
        · obtain ⟨g, -, rfl⟩ := List.mem_map.mp hreleased
          rfl
        · rw [List.mem_singleton.mp hconnect]
          rfl
    | left channel parks =>
        obtain ⟨g, -, rfl⟩ := List.mem_map.mp he
        rfl
    | cleared nowhere => cases he

theorem openNewest_calls (c : Client) : ∀ e ∈ c.openNewest.2, (LinkCall.ofEffect? e).isSome := by
  unfold Client.openNewest
  split
  · exact select_calls c.session _
  · exact nofun

theorem fetches_of_calls {effects : List Effect}
    (hcalls : ∀ e ∈ effects, (LinkCall.ofEffect? e).isSome) (channel : Nat) :
    .fetchMembers channel ∉ effects := fun he => nomatch hcalls _ he

/-- A selection moves the client and makes the calls of the links that its session asks for. -/
theorem select_eq (server : Server) (s : Station) (channel : Option Nat) :
    s.select server channel = { s with
      client := (s.client.select channel).1
      linkCalls := s.linkCalls ++
        (s.client.session.select channel).2.filterMap LinkCall.ofEffect? } :=
  carryOutAll_eq server { s with client := (s.client.select channel).1 }
    (select_calls s.client.session channel)

theorem client_select (server : Server) (s : Station) (channel : Option Nat) :
    (s.select server channel).client = (s.client.select channel).1 := by
  rw [select_eq]

theorem coherent_select (hbase : s.agent.base = base) (hserver : server.Numbers base)
    {channel : Option Nat} (hclient : (s.client.select channel).1.Coherent) :
    (s.select server channel).Coherent base :=
  coherent_perform hbase hserver hclient fun _ he =>
    absurd he (fetches_of_calls (select_calls s.client.session channel) _)

theorem Coherent.select (h : s.Coherent base) (hserver : server.Numbers base)
    (onChat : s.client.page = .chat) {channel : Option Nat}
    (hlisted : ∀ id, channel = some id → id ≠ homeId → id ∈ s.client.directory.ids) :
    (s.select server channel).Coherent base :=
  coherent_select h.base hserver (h.client.select onChat hlisted)

theorem Coherent.followRow (h : s.Coherent base) (onChat : s.client.page = .chat) :
    s.followRow.Coherent base :=
  h.onClient (h.client.select onChat h.client.fits.displayed)

/-! ## The flows around the user -/

theorem Coherent.signIn (h : s.Coherent base) (hserver : server.Numbers base) :
    (s.signIn server).1.Coherent base := by
  have hask := (h.ask hserver (.login s.client.signIn.loginRequest)).1
  rw [signIn_eq]
  generalize s.ask server (.login s.client.signIn.loginRequest) = answer at hask ⊢
  obtain ⟨t, reply⟩ := answer
  dsimp only at hask ⊢
  split
  · exact hask.onSignIn fun f _ => ⟨rfl, .inr rfl⟩
  · split
    · exact hask.onSignIn fun f _ => ⟨rfl, .inl rfl⟩
    · exact hask.onSignIn fun f _ => ⟨rfl, .inr rfl⟩

theorem Coherent.register (h : s.Coherent base) (hserver : server.Numbers base) :
    (s.register server).Coherent base := by
  rw [register_eq]
  split
  · exact h.onSignIn fun f hf => ⟨hf.loading, .inr rfl⟩
  · rename_i account _
    have hask := (h.ask hserver (.register account)).1
    generalize s.ask server (.register account) = answer at hask ⊢
    obtain ⟨t, reply⟩ := answer
    dsimp only at hask ⊢
    split
    · exact hask.onSignIn fun f _ => ⟨rfl, .inl rfl⟩
    · exact hask.onSignIn fun f _ => ⟨rfl, .inr rfl⟩

theorem Coherent.openProfile (h : s.Coherent base) (hserver : server.Numbers base)
    (onChat : s.client.page = .chat) (unasked : s.client.prompt = none) :
    (s.openProfile server).Coherent base := by
  have hask := (h.ask hserver .me).1
  have hclient := client_ask server s .me
  rw [openProfile_eq]
  generalize s.ask server .me = answer at hask hclient ⊢
  obtain ⟨t, reply⟩ := answer
  dsimp only at hask hclient ⊢
  rw [← hclient] at onChat unasked
  split
  · refine hask.onClient (hask.client.setProfile onChat (.inl unasked) fun p hp => ?_)
    exact Option.some.inj hp ▸ ⟨rfl, .inl rfl⟩
  · refine hask.onClient (hask.client.setProfile onChat (.inl unasked) fun p hp => ?_)
    exact Option.some.inj hp ▸ ⟨rfl, .inr rfl⟩

theorem Coherent.saveProfile (h : s.Coherent base) (hserver : server.Numbers base) :
    (s.saveProfile server).1.Coherent base := by
  cases hopen : s.client.profile with
  | none =>
      rw [saveProfile_of_none server hopen]
      exact h
  | some p =>
      rw [saveProfile_eq server hopen]
      split
      · exact h.onProfile fun p hp => ⟨hp.loading, .inr rfl⟩
      · rename_i update _
        have hask := (h.ask hserver (.updateMe update)).1
        have hclient := client_ask server s (.updateMe update)
        generalize s.ask server (.updateMe update) = answer at hask hclient ⊢
        obtain ⟨t, reply⟩ := answer
        dsimp only at hask hclient ⊢
        rw [← hclient] at hopen
        obtain ⟨onChat, hprompt⟩ := hask.client.of_overlay hopen
        split <;> dsimp only
        · rename_i answer _
          have hsaved : { t.client with
              profile := some (p.settled.saved update answer) }.Coherent :=
            hask.client.setProfile onChat (.inl hprompt) fun q hq =>
              Option.some.inj hq ▸ ⟨rfl, .inl rfl⟩
          exact ⟨hask.base, hsaved.adopt onChat _⟩
        · exact hask.onProfile fun p _ => ⟨rfl, .inr rfl⟩

theorem Coherent.saveAndRemember (h : s.Coherent base) (hserver : server.Numbers base) :
    (s.saveAndRemember server).Coherent base := by
  have hsave := h.saveProfile hserver
  unfold Station.saveAndRemember
  generalize s.saveProfile server = answer at hsave ⊢
  obtain ⟨t, saved⟩ := answer
  cases saved with
  | true => exact hsave.remember
  | false => exact hsave

theorem Coherent.signOut (h : s.Coherent base) (hserver : server.Numbers base)
    (unasked : s.client.prompt = none) : (s.signOut server).Coherent base := by
  have hask := (h.ask hserver .logout).1
  have hclient := client_ask server s .logout
  unfold Station.signOut
  generalize s.ask server .logout = answer at hask hclient ⊢
  obtain ⟨t, reply⟩ := answer
  dsimp only at hask hclient ⊢
  rw [← hclient] at unasked
  refine coherent_perform hask.base hserver (Client.coherent_signOut hask.client unasked)
    fun channel he => ?_
  exact absurd he (fetches_of_calls (reset_calls t.client.session) channel)

theorem Coherent.deleteAccount (h : s.Coherent base) (hserver : server.Numbers base) :
    (s.deleteAccount server).1.Coherent base := by
  cases hopen : s.client.profile with
  | none =>
      rw [deleteAccount_of_none server hopen]
      exact h
  | some p =>
      rw [deleteAccount_eq server hopen]
      split
      · have hask := (h.ask hserver .deleteMe).1
        have hclient := client_ask server s .deleteMe
        generalize s.ask server .deleteMe = answer at hask hclient ⊢
        obtain ⟨t, reply⟩ := answer
        dsimp only at hask hclient ⊢
        rw [← hclient] at hopen
        have hsettled : (t.onProfile fun p => { p.settled with armed := false }).Coherent base :=
          hask.onProfile fun p _ => ⟨rfl, .inl rfl⟩
        split <;> dsimp only
        · exact hsettled.signOut hserver (hask.client.of_overlay hopen).2
        · exact hask.onProfile fun p _ => ⟨rfl, .inr rfl⟩
      · exact h.onProfile fun p hp => ⟨hp.loading, .inr rfl⟩

/-! ## The flows around the channels -/

theorem Coherent.loadChannels (h : s.Coherent base) (hserver : server.Numbers base)
    (onChat : s.client.page = .chat) : (s.loadChannels server).Coherent base := by
  have hask := h.askBoth hserver .ownedChannels .joinedChannels
  have hclient := client_askBoth server s .ownedChannels .joinedChannels
  unfold Station.loadChannels
  generalize s.askBoth server .ownedChannels .joinedChannels = answer at hask hclient ⊢
  obtain ⟨t, owned, joined⟩ := answer
  obtain ⟨ht, hownedReply, hjoinedReply⟩ := hask
  dsimp only at ht hownedReply hjoinedReply hclient ⊢
  rw [← hclient] at onChat
  split
  · rename_i owned joined howned hjoined
    generalize hmerge : t.onClient (fun c => { c with
      directory := c.directory.merge (ownedOf owned s.client.userName) (joinedOf joined) }) = u
    have hu : u.Coherent base := by
      rw [← hmerge]
      refine ⟨ht.base, ht.client.setDirectory onChat (fun id hid => ?_) ?_⟩
      · rw [Directory.mem_ids_merge]
        exact .inr (.inr hid)
      · rw [Directory.mem_ids_merge, Directory.map_id_ownedOf,
          Directory.map_id_joinedOf]
        rintro (hmem | hmem | hmem)
        · exact homeId_not_mem_of_numbers (hownedReply _ howned) hmem
        · exact homeId_not_mem_of_numbers (hjoinedReply _ hjoined) hmem
        · exact ht.client.fits.numbered hmem
    have hpage : u.client.page = .chat := hmerge ▸ onChat
    split
    · exact hu.select hserver hpage fun id hid hlive => absurd (Option.some.inj hid).symm hlive
    · exact hu.followRow hpage
  · exact ⟨ht.base, ht.client.showError _⟩

theorem Coherent.insertNew (h : s.Coherent base) (onChat : s.client.page = .chat) {channel : Channel}
    (hlive : channel.id ≠ homeId) :
    (s.onClient fun c => { c with directory := c.directory.insertNew channel }).Coherent base := by
  refine ⟨h.base, h.client.setDirectory onChat (fun id hid => ?_) ?_⟩
  · rw [Directory.mem_ids_insertNew]
    exact .inl hid
  · rw [Directory.mem_ids_insertNew]
    rintro (hmem | hmem)
    · exact h.client.fits.numbered hmem
    · exact hlive hmem.symm

theorem insertNew_listed (s : Station) (channel : Channel) :
    channel.id ∈ (s.onClient fun c =>
      { c with directory := c.directory.insertNew channel }).client.directory.ids :=
  (Directory.mem_ids_insertNew _ _).mpr (.inr rfl)

theorem Coherent.createChannel (h : s.Coherent base) (hserver : server.Numbers base)
    (onChat : s.client.page = .chat) : (s.createChannel server).Coherent base := by
  unfold Station.createChannel
  split
  · exact ⟨h.base, h.client.showError _⟩
  · rename_i name _
    rw [ask_onClient]
    have hask := h.ask hserver (.createChannel name)
    have hclient := client_ask server s (.createChannel name)
    generalize s.ask server (.createChannel name) = answer at hask hclient ⊢
    obtain ⟨t, reply⟩ := answer
    obtain ⟨ht, hreply⟩ := hask
    dsimp only at ht hreply hclient ⊢
    rw [← hclient] at onChat
    have hcleared : (t.onClient Client.clearBanners).Coherent base := ⟨ht.base, ht.client.clearBanners⟩
    split
    · exact ⟨ht.base, hcleared.client.showError _⟩
    · rename_i record hrecord
      generalize hchannel : { record.toChannel (some s.client.userName) with
        ownerName := some s.client.userName } = channel
      have hid : (record.toChannel (some s.client.userName)).id = channel.id := hchannel ▸ rfl
      have hlive : channel.id ≠ homeId := hid ▸ hreply record hrecord
      rw [hid, fst_feed]
      have hinsert := hcleared.insertNew onChat hlive
      have hlisted := insertNew_listed (t.onClient Client.clearBanners) channel
      generalize hinserted : (t.onClient Client.clearBanners).onClient (fun c =>
        { c with directory := c.directory.insertNew channel }) = u at hinsert hlisted ⊢
      have hpage : u.client.page = .chat := hinserted ▸ onChat
      have hselect : (u.select server (some channel.id)).Coherent base :=
        hinsert.select hserver hpage fun id hid _ => Option.some.inj hid ▸ hlisted
      have hactive : (u.select server (some channel.id)).client.session.active = some channel.id := by
        rw [client_select]
        exact Session.active_select _ _
      generalize u.select server (some channel.id) = v at hselect hactive ⊢
      have hseed := hselect.client.seed hactive hlive [⟨0, s.client.userName⟩]
      generalize hseeded : (v.client.feed (.seed [⟨0, s.client.userName⟩])).1 = c at hseed
      have hcleared : { c with newChannelName := c.newChannelName.clear, prompt := none }.Coherent :=
        hseed.closePrompt.of_core rfl
      rw [← hseeded] at hcleared
      exact ⟨hselect.base, hcleared.showMessage _⟩

theorem Coherent.joinChannel (h : s.Coherent base) (hserver : server.Numbers base)
    (onChat : s.client.page = .chat) : (s.joinChannel server).Coherent base := by
  unfold Station.joinChannel
  split
  · exact ⟨h.base, h.client.showError _⟩
  · rename_i search _
    rw [ask_onClient]
    have hfind := h.ask hserver (.searchChannel search.query)
    have hclient := client_ask server s (.searchChannel search.query)
    generalize s.ask server (.searchChannel search.query) = found at hfind hclient ⊢
    obtain ⟨t, reply⟩ := found
    obtain ⟨ht, hreply⟩ := hfind
    dsimp only at ht hreply hclient ⊢
    rw [← hclient] at onChat
    split
    · exact ⟨ht.base, ht.client.clearBanners.showError _⟩
    · rename_i record hrecord
      have hlive : (record.toChannel (some search.owner)).id ≠ homeId := hreply record hrecord
      generalize record.toChannel (some search.owner) = channel at hlive ⊢
      rw [ask_onClient]
      have hjoin := (ht.ask hserver (.joinChannel channel.id)).1
      have hjoined := client_ask server t (.joinChannel channel.id)
      generalize t.ask server (.joinChannel channel.id) = answer at hjoin hjoined ⊢
      obtain ⟨u, reply'⟩ := answer
      dsimp only at hjoin hjoined ⊢
      rw [← hjoined] at onChat
      have hcleared : (u.onClient Client.clearBanners).Coherent base :=
        ⟨hjoin.base, hjoin.client.clearBanners⟩
      split
      · exact ⟨hjoin.base, hcleared.client.showError _⟩
      · have hinsert := hcleared.insertNew onChat hlive
        have hlisted := insertNew_listed (u.onClient Client.clearBanners) channel
        generalize hinserted : (u.onClient Client.clearBanners).onClient (fun c =>
          { c with directory := c.directory.insertNew channel }) = v at hinsert hlisted ⊢
        have hpage : v.client.page = .chat := hinserted ▸ onChat
        have hselect : (v.client.select (some channel.id)).1.Coherent :=
          hinsert.client.select hpage fun id hid _ => Option.some.inj hid ▸ hlisted
        have hmoved : (v.perform server fun c =>
            ((c.select (some channel.id)).1,
              (c.select (some channel.id)).2 ++ [.fetchMembers channel.id])).Coherent base := by
          refine coherent_perform hinsert.base hserver hselect fun id he => ?_
          rcases List.mem_append.mp he with hcall | hfetch
          · exact absurd hcall (fetches_of_calls (select_calls v.client.session _) id)
          · obtain rfl : id = channel.id := by simpa using hfetch
            exact hlive
        exact ⟨hmoved.base, hmoved.client.closePrompt.showMessage _⟩

theorem Coherent.deleteChannel (h : s.Coherent base) (hserver : server.Numbers base)
    (onChat : s.client.page = .chat) (id : Nat) : (s.deleteChannel server id).Coherent base := by
  have hcleared : (s.onClient Client.clearBanners).Coherent base := ⟨h.base, h.client.clearBanners⟩
  unfold Station.deleteChannel
  dsimp only
  split
  · exact ⟨h.base, hcleared.client.showError _⟩
  · have hask := (hcleared.ask hserver (.deleteChannel id)).1
    have hclient := client_ask server (s.onClient Client.clearBanners) (.deleteChannel id)
    generalize (s.onClient Client.clearBanners).ask server (.deleteChannel id) = answer
      at hask hclient ⊢
    obtain ⟨t, reply⟩ := answer
    dsimp only at hask hclient ⊢
    have hpage : t.client.page = .chat := by
      rw [hclient]
      exact onChat
    have hnumbered : homeId ∉ (t.client.directory.erase id).ids := fun hmem =>
      hask.client.fits.numbered (Directory.mem_ids_of_erase hmem)
    split
    · exact ⟨hask.base, hask.client.showError _⟩
    · generalize herased : t.onClient (fun c => { c with directory := c.directory.erase id }) = u
      have hbase : u.agent.base = base := herased ▸ hask.base
      split
      · have hfallback : (u.client.select u.client.directory.fallback?).1.Coherent := by
          rw [← herased]
          exact Client.coherent_select_of hask.client hpage hnumbered fun first hfirst _ =>
            Directory.mem_ids_of_idAt? hfirst
        have hselect := coherent_select hbase hserver hfallback
        exact ⟨hselect.base, hselect.client.showMessage _⟩
      · rename_i hactive
        have hrow : (u.client.select u.client.activeId).1.Coherent := by
          rw [← herased] at hactive ⊢
          exact Client.coherent_select_of hask.client hpage hnumbered fun shown hshown hlive =>
            Directory.mem_ids_erase_of_ne (fun heq => hactive (heq ▸ hshown))
              (hask.client.fits.displayed shown hshown hlive)
        exact ⟨hbase, hrow.showMessage _⟩

/-! ## Turns -/

theorem Coherent.enterChat (h : s.Coherent base) (hserver : server.Numbers base) (who : Identity) :
    (s.enterChat server who).Coherent base :=
  Coherent.loadChannels ⟨h.base, Client.coherent_enterChat h.client who⟩ hserver rfl

theorem Coherent.submit (h : s.Coherent base) (hserver : server.Numbers base) :
    (s.submit server).Coherent base := by
  unfold Station.submit
  split
  · exact h.register hserver
  · have hsign := h.signIn hserver
    generalize s.signIn server = answer at hsign ⊢
    obtain ⟨t, who⟩ := answer
    cases who with
    | none => exact hsign
    | some who => exact hsign.remember.enterChat hserver who

theorem Coherent.onLink (h : s.Coherent base) (hserver : server.Numbers base) (e : Link.Event) :
    (s.onLink server e).Coherent base :=
  coherent_perform h.base hserver (h.client.onEvent e) fun _ he =>
    h.client.fits.sound.fetches_live he

theorem Coherent.sendDraft (h : s.Coherent base) (hserver : server.Numbers base) :
    (s.sendDraft server).Coherent base := by
  refine coherent_perform h.base hserver h.client.sendDraft fun channel he => ?_
  exact absurd he (fetches_of_calls (sendDraft_calls s.client) channel)

theorem Coherent.deed (h : s.Coherent base) (hserver : server.Numbers base)
    (hdeed : Deed server s t) : t.Coherent base := by
  cases hdeed with
  | rest => exact h
  | link e => exact h.onLink hserver e
  | fill hrest _ => exact h.onSignIn hrest
  | submit onSignIn => exact h.submit hserver
  | fillOverlay hrest _ => exact h.onProfile hrest
  | closeOverlay => exact ⟨h.base, h.client.closeOverlay⟩
  | save => exact (h.onProfile fun p hp => hp.cancelDelete).saveAndRemember hserver
  | signOut overlay => exact (h.signOut hserver (h.client.single.resolve_right overlay)).forget
  | undeleted _ => exact h.deleteAccount hserver
  | deleted _ => exact (h.deleteAccount hserver).forget
  | closePrompt => exact ⟨h.base, h.client.closePrompt⟩
  | createChannel onChat => exact h.createChannel hserver onChat
  | joinChannel onChat => exact h.joinChannel hserver onChat
  | browse hcore _ => exact ⟨h.base, h.client.of_core (hcore s.client)⟩
  | ask onChat closed prompt => exact ⟨h.base, h.client.ask onChat closed prompt⟩
  | openProfile onChat unasked => exact h.openProfile hserver onChat unasked
  | home onChat =>
      exact h.select hserver onChat fun id hid hlive => absurd (Option.some.inj hid).symm hlive
  | newest onChat =>
      exact coherent_perform h.base hserver (h.client.openNewest onChat) fun channel he =>
        absurd he (fetches_of_calls (openNewest_calls s.client) channel)
  | load onChat => exact h.loadChannels hserver onChat
  | openUnderCursor onChat =>
      have hcleared := h.client.clearBanners
      exact coherent_select (s := s.onClient Client.clearBanners) h.base hserver
        (hcleared.openUnderCursor onChat)
  | delete onChat id => exact h.deleteChannel hserver onChat id
  | send => exact h.sendDraft hserver

theorem Coherent.turns (h : s.Coherent base) (hserver : server.Numbers base) (turns : List Turn) :
    (s.afterTurns server turns).Coherent base := by
  induction turns generalizing s with
  | nil => exact h
  | cons turn more ih => exact ih (h.deed hserver (turn_deed server s turn))

/-! ## Runs -/

theorem Coherent.resolveIdentity (h : s.Coherent base) (hserver : server.Numbers base)
    (bypass : Bool) :
    (s.resolveIdentity server bypass).1.Coherent base ∧
      (s.resolveIdentity server bypass).1.client = s.client := by
  have hask := (h.ask hserver .me).1
  have hclient := client_ask server s .me
  unfold Station.resolveIdentity
  split
  · exact ⟨h, rfl⟩
  · generalize s.ask server .me = answer at hask hclient ⊢
    exact ⟨hask, hclient⟩

theorem coherent_start (hserver : server.Numbers base) (bypass : Bool) {agent : Agent}
    (hbase : agent.base = base) (kept : Option String) (now : Int) :
    (start server bypass { agent := agent, kept := kept, now := now }).2.Coherent base := by
  have hfirst : (showLoading { agent := agent, kept := kept, now := now } checking).Coherent base :=
    ⟨hbase, Client.coherent_fresh.showLoading nofun checking⟩
  have hresolve := hfirst.resolveIdentity hserver bypass
  unfold start
  dsimp only
  generalize hloading : showLoading _ checking = loading at hresolve ⊢
  have hpage : loading.client.page ≠ .chat := by
    rw [← hloading]
    exact nofun
  generalize loading.resolveIdentity server bypass = answer at hresolve ⊢
  obtain ⟨t, who⟩ := answer
  obtain ⟨ht, hclient⟩ := hresolve
  dsimp only at ht hclient ⊢
  rw [← hclient] at hpage
  cases who with
  | none => exact ⟨ht.base, ht.client.showSignIn hpage⟩
  | some who =>
      have hshown : (t.showLoading loadingChannels).Coherent base :=
        ⟨ht.base, ht.client.showLoading hpage _⟩
      have hentered := hshown.enterChat hserver who
      dsimp only
      exact hentered

/-- Below a base where the server names no channel with the id of the landing page, what is on
display is in order after every turn of every run. -/
theorem display_in_order (server : Server) (bypass : Bool) (agent : Agent) (kept : Option String)
    (now : Int) (turns : List Turn) (hserver : server.Numbers agent.base) :
    (afterTurns server
      (start server bypass { agent := agent, kept := kept, now := now }).2 turns).client.InOrder :=
  ((coherent_start hserver bypass rfl kept now).turns hserver turns).client.inOrder

/-- A server that lists one channel and drops whatever is not a question. -/
theorem display_in_order_with_one_channel :
    let server : Server := fun _ r =>
      if r.method = .get then .answered 200 "[\x7b\"id\":7,\"name\":\"den\"\x7d]" [] else .dropped
    let agent : Agent := ⟨"http://[::1]", { scheme := "http".toList }, {}⟩
    let turns : List Turn := [.key ⟨.down, false⟩, .key ⟨.enter, false⟩, .link ⟨1, .opened⟩]
    server.Numbers agent.base ∧
      (afterTurns server (start server true { agent := agent }).2 turns).client.InOrder := by
  intro server agent turns
  have hlisted : (Reply.answered 200 "[\x7b\"id\":7,\"name\":\"den\"\x7d]" []).value?
      (Json.Tree.list ChannelRecord.ofTree?) = .ok [⟨7, "den", 0, none, none⟩] := rfl
  have hsearched : (Reply.answered 200 "[\x7b\"id\":7,\"name\":\"den\"\x7d]" []).value?
      ChannelRecord.ofTree? = .error .undecodable := rfl
  have hserver : server.Numbers agent.base := by
    intro past a now c u _ _
    cases c with
    | createChannel name =>
        intro record h
        cases h
    | searchChannel query =>
        intro record h
        cases hsearched.symm.trans h
    | ownedChannels | joinedChannels =>
        intro records h record hrecord
        obtain rfl : [⟨7, "den", 0, none, none⟩] = records :=
          Except.ok.inj (hlisted.symm.trans h)
        rw [List.mem_singleton.mp hrecord]
        decide
    | _ => trivial
  exact ⟨hserver, display_in_order server true agent none 0 turns hserver⟩

end Station

end ChatTerminal
