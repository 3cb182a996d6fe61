import ChatTerminal.Proofs.Agent.CallAddress
import ChatTerminal.Proofs.Station.Admission
/-!
# Looking up a channel

What is typed is asked for as it is, once it is trimmed: the query of the request is read as that
text, whatever characters are in it.  The channel that is found is the one that is joined.
-/

namespace ChatTerminal

open Text Web

/-! ## What is turned down -/

/-- The text has no at sign, or nothing before its first one, or nothing after that. -/
def Search.Malformed (t : List Char) : Prop :=
  '@' ∉ t ∨ t.head? = some '@' ∨ ∃ owner, '@' ∉ owner ∧ t = owner ++ ['@']

theorem Text.splitAtFirst_eq_none {mark : Char} {s : List Char} (h : splitAtFirst mark s = none) :
    mark ∉ s := by
  unfold splitAtFirst at h
  split at h
  · rename_i hnil
    intro hmark
    simpa using List.dropWhile_eq_nil_iff.mp hnil mark hmark
  · cases h

/-- A text that is taken is asked for as it was typed, but for the blanks around it. -/
theorem Search.parse_cases (typed : String) :
    Malformed (trim typed).toList ∧ parse typed = .error .badSearch ∨
      ¬ Malformed (trim typed).toList ∧
        ∃ search, parse typed = .ok search ∧ search.query = trim typed := by
  unfold parse
  cases hsplit : splitAtFirst '@' (trim typed).toList with
  | none => exact .inl ⟨.inl (splitAtFirst_eq_none hsplit), rfl⟩
  | some parts =>
      obtain ⟨owner, channel⟩ := parts
      obtain ⟨hwhole, howner⟩ := splitAtFirst_eq_some hsplit
      dsimp only
      by_cases hempty : owner = [] ∨ channel = []
      · refine .inl ⟨.inr ?_, by simpa [or_iff_not_imp_left] using hempty⟩
        obtain rfl | rfl := hempty
        · exact .inl (by simp [hwhole])
        · exact .inr ⟨owner, howner, hwhole⟩
      · rw [not_or] at hempty
        refine .inr ⟨?_, ⟨String.ofList owner, String.ofList channel⟩, ?_, ?_⟩
        · rintro (hnone | hhead | ⟨front, hfront, hlast⟩)
          · exact hnone (by simp [hwhole])
          · obtain ⟨c, more, rfl⟩ := List.exists_cons_of_ne_nil hempty.1
            rw [hwhole] at hhead
            exact howner (by simp [Option.some.inj hhead])
          · rw [hlast, splitAtFirst_append hfront] at hsplit
            exact hempty.2 (Prod.mk.inj (Option.some.inj hsplit)).2.symm
        · simp [hempty]
        · refine String.toList_inj.mp ?_
          simp [query, hwhole]

namespace Station

variable {server : Server} {s : Station} {search : Search} {fresh : Agent}

/-! ## Requests -/

/-- A request that looks a text up: its query is read as one pair, with the text as it is. -/
structure LooksUp (mount t : String) (r : Request) : Prop where
  method : r.method = .get
  body : r.body = none
  query : ∃ q, splitAtFirst '?' r.target.toList =
      some ((addressOf mount "/api/channels/search").toList, q) ∧ '#' ∉ q ∧
    Form.pairs q = [("query".toList, t.toList)]

structure JoinsChannel (mount : String) (id : Nat) (r : Request) : Prop where
  method : r.method = .post
  target : r.target = addressOf mount ("/api/channels/" ++ toString id ++ "/join")

theorem exists_asked (h : Agent.Addressable s.agent.base fresh) (hserves : Agent.Serves s.agent.base fresh)
    (server : Server) (c : Call) :
    ∃ r, r.method = c.method ∧ r.body = c.body ∧ r.target = addressOf fresh.mount c.path ∧
      (s.ask server c).2 = server s.requests r ∧
      (s.ask server c).1.requests = s.requests ++ [r] ∧
      (s.ask server c).1.agent.base = s.agent.base := by
  obtain ⟨u, hu, htarget⟩ := h.target hserves s.now c
  obtain ⟨jar, hagent⟩ := agent_ask server s c
  refine ⟨s.agent.requestTo s.now c u, rfl, rfl, htarget, ?_, ?_, ?_⟩
  · rw [ask, hu]
    rfl
  · rw [requests_ask, hu]
    rfl
  · rw [hagent]

theorem toList_path_search (t : String) : (Call.searchChannel t).path.toList =
    "/api/channels/search".toList ++ '?' :: searchQuery t := by
  dsimp only [Call.path, searchQuery]
  rw [String.toList_append, String.toList_ofList]
  generalize Form.encode t.toList = encoded
  simp

theorem looksUp_of_asked {r : Request} {t : String} (h : Agent.Addressable s.agent.base fresh)
    (hhttp : Url.IsHttpScheme fresh.url.scheme)
    (hmethod : r.method = (Call.searchChannel t).method)
    (hbody : r.body = (Call.searchChannel t).body)
    (htarget : r.target = addressOf fresh.mount (Call.searchChannel t).path) :
    LooksUp fresh.mount t r where
  method := hmethod
  body := hbody
  query := by
    obtain ⟨hfree, hmount⟩ := h.toList_addressOf hhttp
    have hnone : '?' ∉ fresh.url.root ++ "/api/channels/search".toList := by
      rw [List.mem_append, not_or]
      exact ⟨hfree, by decide⟩
    have hquery : searchQuery t = Form.encode "query".toList ++ '=' :: Form.encode t.toList := by
      have hname : Form.encode "query".toList = "query".toList := by decide
      rw [hname]
      rfl
    refine ⟨searchQuery t, ?_, fun hnumber => ?_, ?_⟩
    · rw [htarget, hmount, hmount, toList_path_search, ← List.append_assoc,
        splitAtFirst_append hnone]
    · obtain hwrites | heq := (plain_search t).query _ rfl '#' hnumber
      · exact hwrites.ne (by decide) (by decide) (by decide) rfl
      · exact absurd heq (by decide)
    · rw [hquery, Form.pairs_encode]

/-- Below a base that serves no paths a look-up goes elsewhere. -/
theorem not_looksUp_of_astray (h : Agent.Addressable s.agent.base fresh)
    (hastray : ¬ Agent.Serves s.agent.base fresh) {t : String} {u : Url}
    (hu : s.agent.urlOf? (.searchChannel t) = some u) :
    ¬ LooksUp fresh.mount t (s.agent.requestTo s.now (.searchChannel t) u) := by
  rintro ⟨-, -, q, hsplit, -, -⟩
  obtain ⟨front, hfree, hother, htarget⟩ := h.astray hastray s.now hu
  have hnone : '?' ∉ front ++ "/api/channels/search".toList := by
    rw [List.mem_append, not_or]
    exact ⟨hfree, by decide⟩
  rw [htarget, toList_path_search, ← List.append_assoc, splitAtFirst_append hnone,
    (h.toList_addressOf (h.http hu)).2] at hsplit
  exact hother (List.append_cancel_right (Prod.mk.inj (Option.some.inj hsplit)).1)

/-! ## The flow -/

theorem requests_of_unfound {e : Failure}
    (htyped : Search.parse s.client.searchQuery.value = .ok search)
    (hfound : (s.ask server (.searchChannel search.query)).2.value? ChannelRecord.ofTree? =
      .error e) :
    (s.joinChannel server).requests = (s.ask server (.searchChannel search.query)).1.requests := by
  unfold joinChannel
  rw [htyped]
  dsimp only
  rw [ask_onClient]
  generalize s.ask server (.searchChannel search.query) = answer at hfound ⊢
  obtain ⟨t, reply⟩ := answer
  dsimp only at hfound ⊢
  rw [hfound]
  rfl

theorem requests_of_unjoined {e : Failure} {record : ChannelRecord}
    (htyped : Search.parse s.client.searchQuery.value = .ok search)
    (hfound : (s.ask server (.searchChannel search.query)).2.value? ChannelRecord.ofTree? =
      .ok record)
    (hjoined : ((s.ask server (.searchChannel search.query)).1.ask server
      (.joinChannel record.id)).2.value? ChannelRecord.ofTree? = .error e) :
    (s.joinChannel server).requests = (s.joining server search record.id).requests := by
  have hid : (record.toChannel (some search.owner)).id = record.id := rfl
  unfold joinChannel joining
  rw [htyped]
  dsimp only
  rw [ask_onClient]
  generalize s.ask server (.searchChannel search.query) = answer at hfound hjoined ⊢
  obtain ⟨t, reply⟩ := answer
  dsimp only at hfound hjoined ⊢
  rw [hfound]
  dsimp only
  rw [ask_onClient, hid]
  generalize t.ask server (.joinChannel record.id) = answer at hjoined ⊢
  obtain ⟨u, reply⟩ := answer
  dsimp only at hjoined ⊢
  rw [hjoined]
  rfl

/-- Whether the user may join the channel or not, what is asked after that changes nothing. -/
theorem requests_of_found {record : ChannelRecord} (h : Agent.Addressable s.agent.base fresh)
    (htyped : Search.parse s.client.searchQuery.value = .ok search)
    (hfound : (s.ask server (.searchChannel search.query)).2.value? ChannelRecord.ofTree? =
      .ok record) : ∃ more, (∀ r ∈ more, r.method = .get) ∧
    (s.joinChannel server).requests = (s.joining server search record.id).requests ++ more := by
  cases hjoined : ((s.ask server (.searchChannel search.query)).1.ask server
      (.joinChannel record.id)).2.value? ChannelRecord.ofTree? with
  | error e =>
      refine ⟨[], List.forall_mem_nil _, ?_⟩
      rw [requests_of_unjoined htyped hfound hjoined, List.append_nil]
  | ok answer =>
      have hjoins : Joins server s search record := ⟨htyped, hfound, answer, hjoined⟩
      obtain ⟨a, -, hrequests⟩ := hjoins.asks_roster h.accepted
      exact ⟨_, by simp [Agent.requestTo, Call.method], hrequests⟩

theorem requests_starts (h : Agent.Addressable s.agent.base fresh) (server : Server)
    (htyped : Search.parse s.client.searchQuery.value = .ok search) :
    ∃ later, (s.joinChannel server).requests =
      (s.ask server (.searchChannel search.query)).1.requests ++ later := by
  cases hfound : (s.ask server (.searchChannel search.query)).2.value? ChannelRecord.ofTree? with
  | error e => exact ⟨[], by rw [requests_of_unfound htyped hfound, List.append_nil]⟩
  | ok record =>
      obtain ⟨later, -, hall⟩ := requests_of_found h htyped hfound
      rw [hall, joining, requests_ask, List.append_assoc]
      exact ⟨_, rfl⟩

theorem exists_looked_up (h : Agent.Addressable s.agent.base fresh)
    (hserves : Agent.Serves s.agent.base fresh) (server : Server)
    (htyped : Search.parse s.client.searchQuery.value = .ok search) :
    let requests := (s.joinChannel server).requests
    ∃ first, LooksUp fresh.mount search.query first ∧
      (∀ e, (server s.requests first).value? ChannelRecord.ofTree? = .error e →
        requests = s.requests ++ [first]) ∧
      ∀ record, (server s.requests first).value? ChannelRecord.ofTree? = .ok record →
        ∃ join more, JoinsChannel fresh.mount record.id join ∧ (∀ r ∈ more, r.method = .get) ∧
          requests = s.requests ++ first :: join :: more := by
  intro requests
  obtain ⟨first, hmethod, hbody, htarget, hreply, hrequests, hsame⟩ :=
    exists_asked h hserves server (.searchChannel search.query)
  refine ⟨first, looksUp_of_asked h hserves.http hmethod hbody htarget, fun e he => ?_, fun record hrecord => ?_⟩
  · rw [← hreply] at he
    exact (requests_of_unfound htyped he).trans hrequests
  · rw [← hreply] at hrecord
    obtain ⟨more, hmore, hall⟩ := requests_of_found h htyped hrecord
    rw [← hsame] at h hserves
    obtain ⟨join, hmethod, -, htarget, -, hjoin, -⟩ :=
      exists_asked h hserves server (.joinChannel record.id)
    refine ⟨join, more, ⟨hmethod, htarget⟩, hmore, hall.trans ?_⟩
    rw [joining, hjoin, hrequests]
    simp

/-- Whatever is asked first below a base that serves no paths, it is no look-up. -/
theorem not_looksUp_first (h : Agent.Addressable s.agent.base fresh)
    (hastray : ¬ Agent.Serves s.agent.base fresh) (server : Server)
    (htyped : Search.parse s.client.searchQuery.value = .ok search) {first : Request}
    {more : List Request} (hfirst : (s.joinChannel server).requests = s.requests ++ first :: more) :
    ¬ LooksUp fresh.mount search.query first := by
  cases hu : s.agent.urlOf? (.searchChannel search.query) with
  | none =>
      have hunasked : s.ask server (.searchChannel search.query) = (s, .dropped) := by
        unfold ask
        rw [hu]
      have hfailed : (s.ask server (.searchChannel search.query)).2.value? ChannelRecord.ofTree? =
          .error .unreachable := by
        rw [hunasked]
        rfl
      have hsame := hfirst.symm.trans (requests_of_unfound htyped hfailed)
      rw [hunasked] at hsame
      simp at hsame
  | some u =>
      obtain ⟨later, hasked⟩ := requests_starts h server htyped
      rw [hfirst, requests_ask, hu, List.append_assoc] at hasked
      obtain ⟨rfl, -⟩ := List.cons.inj (List.append_cancel_left hasked)
      exact not_looksUp_of_astray h hastray hu

/-! ## What it comes to -/

/-- A text that is malformed is not asked for.  Any other is looked up, character by character, below
a base that serves paths: if a channel is found the user joins it, and no other; if none is found
nothing more is asked.  Below any other base nothing is looked up. -/
theorem lookup_asked (server : Server) (s : Station) {fresh : Agent}
    (hbase : Agent.Addressable s.agent.base fresh) :
    let t := trim s.client.searchQuery.value
    let requests := (s.joinChannel server).requests
    (Search.Malformed t.toList → requests = s.requests) ∧
    (¬ Search.Malformed t.toList → Agent.Serves s.agent.base fresh → requests ≠ s.requests ∧
      ∃ first, LooksUp fresh.mount t first ∧
        (∀ e, (server s.requests first).value? ChannelRecord.ofTree? = .error e →
          requests = s.requests ++ [first]) ∧
        ∀ record, (server s.requests first).value? ChannelRecord.ofTree? = .ok record →
          ∃ join more, JoinsChannel fresh.mount record.id join ∧ (∀ r ∈ more, r.method = .get) ∧
            requests = s.requests ++ first :: join :: more) ∧
    (¬ Search.Malformed t.toList → ¬ Agent.Serves s.agent.base fresh →
      ∀ first more, requests = s.requests ++ first :: more → ¬ LooksUp fresh.mount t first) := by
  intro t requests
  obtain ⟨hmalformed, hrefused⟩ | ⟨hformed, search, htyped, hsearch⟩ :=
    Search.parse_cases s.client.searchQuery.value
  · refine ⟨fun _ => ?_, fun hnot => absurd hmalformed hnot, fun hnot => absurd hmalformed hnot⟩
    simp only [requests, joinChannel, hrefused]
    rfl
  · simp only [t, ← hsearch]
    refine ⟨fun hnot => absurd (hsearch ▸ hnot) hformed, fun _ hserves => ?_,
      fun _ hastray _ _ hfirst => not_looksUp_first hbase hastray server htyped hfirst⟩
    obtain ⟨first, hlooksUp, hunfound, hfound⟩ := exists_looked_up hbase hserves server htyped
    refine ⟨fun hsilent => ?_, first, hlooksUp, hunfound, hfound⟩
    cases hvalue : (server s.requests first).value? ChannelRecord.ofTree? with
    | error e => simpa using hsilent.symm.trans (hunfound e hvalue)
    | ok record =>
        obtain ⟨join, more, -, -, hall⟩ := hfound record hvalue
        simpa using hsilent.symm.trans hall

/-- A text with every mark of a query in it, and blanks around it. -/
theorem lookup_asked_with_marks :
    let server : Server := fun _ _ => .answered 200 "\x7b\"id\":7,\"name\":\"den\"\x7d" []
    let agent : Agent := ⟨"http://[::1]", { scheme := "http".toList }, {}⟩
    let s : Station :=
      { agent := agent, client := { searchQuery := { value := " ann@a&b=c%d+e #?/é@x " } } }
    ∃ first join more, LooksUp "/" "ann@a&b=c%d+e #?/é@x" first ∧ JoinsChannel "/" 7 join ∧
      (s.joinChannel server).requests = first :: join :: more := by
  intro server agent s
  have hbase : Agent.Addressable s.agent.base _ :=
    ⟨Agent.ofBase_localHost, rfl, rfl⟩
  have htext : trim s.client.searchQuery.value = "ann@a&b=c%d+e #?/é@x" := by decide +kernel
  have htyped : (Search.parse s.client.searchQuery.value).isOk = true := by decide +kernel
  have hformed : ¬ Search.Malformed (trim s.client.searchQuery.value).toList := by
    obtain ⟨-, hrefused⟩ | ⟨hformed, -⟩ := Search.parse_cases s.client.searchQuery.value
    · rw [hrefused] at htyped
      cases htyped
    · exact hformed
  obtain ⟨-, first, hlooksUp, -, hfound⟩ := (lookup_asked server s hbase).2.1 hformed ⟨.inl rfl, takesPaths_localHost⟩
  obtain ⟨join, more, hjoin, -, hrequests⟩ := hfound ⟨7, "den", 0, none, none⟩ rfl
  exact ⟨first, join, more, htext ▸ hlooksUp, hjoin, hrequests⟩

/-- Below a base that ends in a control character nothing is asked for, although the base is taken
and the text is well formed. -/
theorem nothing_asked_below_control :
    let server : Server := fun _ _ => .answered 200 "\x7b\"id\":7,\"name\":\"den\"\x7d" []
    let s : Station := { agent := ⟨"http://[::1]\x01", { scheme := "http".toList }, {}⟩
                         client := { searchQuery := { value := "ann@den" } } }
    (∃ fresh, Agent.Addressable s.agent.base fresh) ∧
      ¬ Search.Malformed (trim s.client.searchQuery.value).toList ∧
      (s.joinChannel server).requests = [] := by
  intro server s
  have hread : (Agent.ofBase "http://[::1]\x01").toOption.map (fun fresh =>
      (fresh.url.query, fresh.url.fragment)) = some (none, none) := by
    decide +kernel
  refine ⟨?_, ?_, by decide +kernel⟩
  · obtain ⟨fresh, hfresh, hparts⟩ := Option.map_eq_some_iff.mp hread
    simp only [Prod.mk.injEq] at hparts
    obtain ⟨hquery, hfragment⟩ := hparts
    cases hbase : Agent.ofBase "http://[::1]\x01" with
    | error e =>
        rw [hbase] at hfresh
        cases hfresh
    | ok a =>
        rw [hbase] at hfresh
        obtain rfl := Option.some.inj hfresh
        exact ⟨a, hbase, hquery, hfragment⟩
  · rintro (hnone | hhead | ⟨owner, -, hlast⟩)
    · exact hnone (by decide +kernel)
    · exact absurd hhead (by decide +kernel)
    · have hn : (trim s.client.searchQuery.value).toList.getLast? = some 'n' := by decide +kernel
      rw [hlast, List.getLast?_concat] at hn
      exact absurd hn (by decide)

end Station

end ChatTerminal
