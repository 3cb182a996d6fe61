import ChatTerminal.Proofs.Agent.Credentials
import ChatTerminal.Proofs.Web.Address
import ChatTerminal.Settings
/-!
# A session that is carried from one run to the next

A token that an agent knows came out of a header, and nothing in it ends a value, a pair or a line.
That is all it takes to go on: the file that keeps it gives it back, the text that seeds a new jar
is read as a cookie with it, and every address of the interface is sent that cookie.  The addresses
of all calls have the host of the base, once one of them can be asked at all.
-/

namespace ChatTerminal

open Text Web

/-! ## Addresses of calls -/

theorem Call.head?_path (c : Call) : c.path.toList.head? = some '/' := by
  have happend : ∀ s t : String, s.toList.head? = some '/' → (s ++ t).toList.head? = some '/' := by
    intro s t h
    rw [String.toList_append, List.head?_append, h]
    rfl
  cases c with
  | deleteChannel id => exact happend _ _ (by decide)
  | searchChannel query => exact happend _ _ (by decide)
  | joinChannel id => exact happend _ _ (happend _ _ (by decide))
  | members id => exact happend _ _ (happend _ _ (by decide))
  | me | updateMe | deleteMe | login | register | logout | ownedChannels | joinedChannels
  | createChannel =>
      dsimp only [Call.path]
      decide

theorem toList_addressOf {base : String} (hbase : base.toList ≠ []) (path : String) :
    (addressOf base path).toList =
      (if base.toList.getLast? = some '/' then base.toList.dropLast else base.toList) ++
        path.toList := by
  have hempty : ¬ base.isEmpty := by
    intro h
    rw [String.isEmpty_iff.mp h] at hbase
    exact hbase rfl
  unfold addressOf
  rw [if_neg hempty, String.toList_append]
  split
  · rename_i hlast
    rw [if_pos hlast, String.toList_ofList]
  · rename_i hlast
    rw [if_neg fun h => hlast h]

theorem toList_ne_nil {base : String} {w : Url} (h : Url.parse base = .ok w) :
    base.toList ≠ [] := by
  intro hnil
  unfold Url.parse at h
  rw [hnil] at h
  cases h

/-- The text of a base and the addresses of all paths below it start alike, up to blanks at the end
of the base. -/
theorem cleaned_addressOf {base : String} (hbase : base.toList ≠ []) :
    ∃ front blanks, (∀ c ∈ blanks, IsLow c) ∧
      ((∀ c, base.toList.getLast? = some c → ¬ IsLow c) → blanks = []) ∧
      (Url.cleaned base.toList = front ∨ Url.cleaned base.toList = front ++ ['/']) ∧
      ∀ path : String, path.toList.head? = some '/' → ∃ more,
        Url.cleaned (addressOf base path).toList = front ++ (blanks ++ '/' :: more) := by
  by_cases hlast : base.toList.getLast? = some '/'
  · obtain ⟨s, hs⟩ := List.getLast?_eq_some_iff.mp hlast
    obtain ⟨blanks, hblanks, -, hcleaned⟩ := Url.cleaned_append_slash s
    refine ⟨Url.cleaned s ++ blanks, [], nofun, fun _ => rfl, .inr ?_, fun path hpath => ?_⟩
    · obtain ⟨more, hmore, hself⟩ := hcleaned []
      rw [hs, hself, hmore rfl, List.append_assoc]
    · obtain ⟨rest, hrest⟩ := List.head?_eq_some_iff.mp hpath
      obtain ⟨more, -, haddress⟩ := hcleaned rest
      refine ⟨more, ?_⟩
      rw [toList_addressOf hbase, if_pos hlast, hs, List.dropLast_concat, hrest, haddress,
        List.append_assoc, List.nil_append]
  · obtain ⟨blanks, hblanks, hnone, hcleaned⟩ := Url.cleaned_append_slash base.toList
    refine ⟨Url.cleaned base.toList, blanks, hblanks, hnone, .inl rfl, fun path hpath => ?_⟩
    obtain ⟨rest, hrest⟩ := List.head?_eq_some_iff.mp hpath
    obtain ⟨more, -, haddress⟩ := hcleaned rest
    refine ⟨more, ?_⟩
    rw [toList_addressOf hbase, if_neg hlast, hrest, haddress]

theorem scheme_addressOf {base path : String} {w u : Url} (hparse : Url.parse base = .ok w)
    (hpath : path.toList.head? = some '/') (haddress : Url.parse (addressOf base path) = .ok u) :
    u.scheme = w.scheme := by
  obtain ⟨authority, hfront⟩ := Url.front?_of_parse hparse
  obtain ⟨authority', hfront'⟩ := Url.front?_of_parse haddress
  obtain ⟨front, blanks, hblanks, -, htext, hbelow⟩ := cleaned_addressOf (toList_ne_nil hparse)
  obtain ⟨more, hmore⟩ := hbelow path hpath
  rw [hmore] at hfront'
  exact Url.scheme_below hblanks htext hfront hfront'

/-- All addresses below a base of a special scheme have its scheme and one authority: that of the
base, and the blanks that end the base. -/
theorem front?_addressOf {base : String} {w : Url} (hparse : Url.parse base = .ok w)
    (hspecial : Url.kindOf w.scheme = .special) : ∃ authority ends v rest,
      Url.parseAuthority { scheme := w.scheme } true authority = .ok v ∧
      w = v.withRest true rest ∧ (∀ c ∈ ends, IsLow c) ∧
      ((∀ c, base.toList.getLast? = some c → ¬ IsLow c) → ends = []) ∧
      ∀ path : String, path.toList.head? = some '/' →
        Url.front? (Url.cleaned (addressOf base path).toList) =
          some (w.scheme, authority ++ ends) := by
  obtain ⟨authority, hfront⟩ := Url.front?_of_parse hparse
  obtain ⟨front, blanks, hblanks, hnone, htext, hbelow⟩ := cleaned_addressOf (toList_ne_nil hparse)
  obtain ⟨rest, hread⟩ := Url.parse_special hfront hspecial
  rw [hparse] at hread
  obtain ⟨v, hv, hurl⟩ := Url.map_eq_ok hread.symm
  obtain ⟨hauthority, -⟩ := Url.parseAuthority_special hv
  obtain ⟨ends, hends, hshared⟩ := Url.front?_below hblanks htext hfront hauthority
  refine ⟨authority, ends, v, rest, hv, hurl.symm, ?_, fun hlast => ?_, fun path hpath => ?_⟩
  · rcases hends with rfl | rfl
    · exact nofun
    · exact hblanks
  · rcases hends with rfl | rfl
    · rfl
    · exact hnone hlast
  · obtain ⟨more, hmore⟩ := hbelow path hpath
    rw [hmore]
    exact hshared more

namespace Agent

variable {a fresh : Agent} {base token : String} {now : Int} {u : Url} {host : Host}

theorem ofBase_eq_ok (h : ofBase base = .ok fresh) :
    fresh.base = base ∧ Url.parse base = .ok fresh.url ∧ fresh.jar = {} := by
  unfold ofBase at h
  split at h
  · rename_i u hparse
    rw [← Except.ok.inj h]
    exact ⟨rfl, hparse, rfl⟩
  · cases h

theorem urlOf?_eq_some {c : Call} : a.urlOf? c = some u ↔
    Url.parse (addressOf a.base c.path) = .ok u ∧
      (u.scheme = "http".toList ∨ u.scheme = "https".toList) := by
  unfold urlOf?
  split
  · rename_i v hparse
    rw [hparse, Except.ok.injEq]
    simp only [Option.ite_none_right_eq_some, Option.some.injEq, Bool.or_eq_true, beq_iff_eq]
    constructor
    · rintro ⟨hscheme, rfl⟩
      exact ⟨rfl, hscheme⟩
    · rintro ⟨rfl, hscheme⟩
      exact ⟨hscheme, rfl⟩
  · rename_i e hparse
    simp [hparse]

/-- If one call can be asked, every call can: at the host of the base, below its root. -/
theorem urlOf?_of_asked (hbase : ofBase base = .ok fresh) (ha : a.base = base) {asked : Call}
    (hasked : a.urlOf? asked = some u) :
    fresh.url.Rooted ∧
      ∀ c, ∃ v, a.urlOf? c = some v ∧ v.host = fresh.url.host ∧ v.Rooted := by
  obtain ⟨-, hparse, -⟩ := ofBase_eq_ok hbase
  obtain ⟨haddress, hhttp⟩ := urlOf?_eq_some.mp hasked
  rw [ha] at haddress
  have hscheme : u.scheme = fresh.url.scheme := scheme_addressOf hparse asked.head?_path haddress
  rw [hscheme] at hhttp
  have hspecial : Url.kindOf fresh.url.scheme = .special := by
    rcases hhttp with h | h <;> rw [h] <;> decide
  obtain ⟨authority, ends, v, rest, hv, hurl, hends, -, hfront⟩ := front?_addressOf hparse hspecial
  -- The call that was asked has an authority without a blank at its end, so all have.
  have hnone : ends = [] := by
    obtain ⟨rest', hread⟩ := Url.parse_special (hfront _ asked.head?_path) hspecial
    rw [haddress] at hread
    obtain ⟨v', hv', -⟩ := Url.map_eq_ok hread.symm
    by_contra hsome
    have hlast := List.getLast?_eq_some_getLast hsome
    refine (Url.parseAuthority_special hv').2 _ ?_ (hends _ (List.mem_of_getLast? hlast))
    rw [List.getLast?_append, hlast, Option.some_or]
  refine ⟨hurl ▸ Url.rooted_withRest v rest, fun c => ?_⟩
  obtain ⟨rest', hread⟩ := Url.parse_special (hfront _ c.head?_path) hspecial
  rw [hnone, List.append_nil, hv] at hread
  refine ⟨v.withRest true rest', urlOf?_eq_some.mpr ⟨ha ▸ hread, ?_⟩, ?_,
    Url.rooted_withRest v rest'⟩
  · obtain ⟨-, -, -, -, -, -, -, hvscheme⟩ := Url.parseAuthority_eq_ok hv
    rw [← hvscheme] at hhttp
    exact hhttp
  · rw [hurl]
    rfl

/-! ## Tokens that can be carried -/

structure Carried (token : String) : Prop where
  legible : Legible sessionCookie.toList token.toList
  nonempty : token.toList ≠ []
  ascii : ∀ c ∈ token.toList, isAscii c = true
  sendable : ∀ c ∈ token.toList, CookieJar.isSendable c = true

/-- A session that an agent knows is the value of a cookie for its base. -/
theorem exists_cookie_of_token? (hjar : a.jar.Received) (h : a.token? now = some token) :
    token.toList ≠ [] ∧ ∃ header c, a.cookieHeader? now = some header ∧
      c ∈ a.jar.cookiesFor now a.url ∧ c.IsSession ∧ c.value = token.toList := by
  obtain ⟨header, hheader, htoken⟩ := Option.bind_eq_some_iff.mp h
  have hplain := (Option.filter_eq_some_iff.mp hheader).1
  rw [tokenIn?_eq, CookieJar.headerPairs_header? hjar hplain] at htoken
  split at htoken
  · rename_i name value hfound
    split at htoken
    · cases htoken
    · rename_i hsome
      obtain rfl := Option.some.inj htoken
      obtain ⟨c, hc, hpair⟩ := List.mem_map.mp (List.mem_of_find?_eq_some hfound)
      obtain ⟨rfl, rfl⟩ := Prod.mk.inj hpair
      refine ⟨by simpa using hsome, header, c, hheader, hc, ?_, by simp⟩
      simpa [Cookie.IsSession] using List.find?_some hfound
  · cases htoken

/-- A session that an agent knows can be carried on, and the base is a place it is sent to. -/
theorem carried_of_token? (hjar : a.jar.Received) (h : a.token? now = some token) :
    Carried token ∧ ∃ host, a.url.host = some host := by
  obtain ⟨hne, header, c, hheader, hc, hsession, hvalue⟩ := exists_cookie_of_token? hjar h
  obtain ⟨hplain, hascii⟩ := Option.filter_eq_some_iff.mp hheader
  obtain ⟨htext, -, hsendable⟩ := CookieJar.header?_eq_some.mp hplain
  have hmem : ∀ d ∈ token.toList, d ∈ header.toList := by
    intro d hd
    rw [htext]
    refine mem_flatten_intersperse (List.mem_map_of_mem hc) ?_
    rw [hvalue]
    exact List.mem_append_right _ (List.mem_cons_of_mem _ hd)
  obtain ⟨hheld, hfor⟩ := List.mem_filter.mp (List.mem_mergeSort.mp hc)
  refine ⟨⟨?_, hne, fun d hd => List.all_eq_true.mp hascii d (hmem d hd),
    fun d hd => hsendable d (hmem d hd)⟩, ?_⟩
  · rw [← hvalue, ← hsession]
    exact hjar.legible hheld
  · cases hhost : a.url.host with
    | none => simp [Cookie.isFor, hhost] at hfor
    | some host => exact ⟨host, rfl⟩

theorem Carried.keptToken? (h : Carried token) : keptToken? (some token) = some token := by
  have htrim : trim token = token := by
    rw [trim, stripBoth_of_trimmed h.legible.valueTrimmed, String.ofList_toList]
  have hsome : token.isEmpty = false := by
    rw [← Bool.not_eq_true, String.isEmpty_iff]
    rintro rfl
    exact h.nonempty rfl
  rw [ChatTerminal.keptToken?, Option.map_some, htrim]
  simp [hsome]

def revival (domain token : List Char) : Cookie :=
  { name := sessionCookie.toList, value := token, domain := domain, hostOnly := true, path := ['/'],
    secure := false, httpOnly := false, expires := none }

theorem Carried.revived (h : Carried token) (u : Url) (now : Int) :
    (SetCookie.parse (sessionCookie ++ "=" ++ token ++ "; Path=/")).bind (·.received? now u) =
      (u.host.bind Host.ownDomain?).map (revival · token.toList) := by
  have hparse : SetCookie.parse (sessionCookie ++ "=" ++ token ++ "; Path=/") = some
      { name := sessionCookie.toList, value := token.toList, path := some ['/'] } := by
    have htext : (sessionCookie ++ "=" ++ token ++ "; Path=/").toList =
        (sessionCookie.toList ++ '=' :: token.toList) ++ ';' :: " Path=/".toList := by
      simp
    have hpath : ∀ c : SetCookie,
        c.withAttribute " Path=/".toList = { c with path := some ['/'] } :=
      fun _ => rfl
    have hrest : pieces (· == ';') " Path=/".toList = [" Path=/".toList] := by decide
    unfold SetCookie.parse
    rw [htext, pieces_append_mark h.legible.uncut (by decide), hrest]
    dsimp only
    rw [splitAtFirst_append h.legible.unequal]
    dsimp only
    rw [stripBoth_of_trimmed h.legible.trimmed, stripBoth_of_trimmed h.legible.valueTrimmed,
      if_neg (by simpa using h.legible.named), List.foldl_cons, hpath]
    rfl
  rw [hparse, Option.bind_some]
  cases hhost : u.host with
  | none => simp [SetCookie.received?, hhost]
  | some host =>
      cases hown : host.ownDomain? with
      | none => simp [SetCookie.received?, SetCookie.scope?, hhost, hown]
      | some domain =>
          simp [SetCookie.received?, SetCookie.scope?, SetCookie.ending?, hhost, hown, revival]

theorem Carried.cookies_seed (h : Carried token) (hempty : a.jar = {})
    (hhost : a.url.host = some host) (hown : host.ownDomain? = some host.text) (now : Int) :
    (a.seed now token).jar.cookies = [revival host.text token.toList] := by
  have hrevived := h.revived a.url now
  rw [hhost, Option.bind_some, hown, Option.map_some] at hrevived
  unfold seed CookieJar.receive
  rw [hrevived, hempty]
  rfl

theorem Carried.header? (h : Carried token) {jar : CookieJar}
    (hjar : jar.cookies = [revival host.text token.toList]) (hhost : u.host = some host)
    (hrooted : u.Rooted) (now : Int) :
    jar.header? now u = some (sessionCookie ++ "=" ++ token) := by
  obtain ⟨⟨segments, hsegments⟩, hslash⟩ := hrooted
  obtain ⟨path, hpath⟩ := List.head?_eq_some_iff.mp hslash
  have hfor : (revival host.text token.toList).isFor u = true := by
    simp [Cookie.isFor, pathCovers, hhost, hsegments, hpath, revival]
  have hcookies : jar.cookiesFor now u = [revival host.text token.toList] := by
    unfold CookieJar.cookiesFor
    rw [hjar, List.filter_cons_of_pos (by rw [hfor]; rfl), List.filter_nil,
      List.mergeSort_singleton]
  have htext : (sessionCookie ++ "=" ++ token).toList =
      sessionCookie.toList ++ '=' :: token.toList := by
    simp
  rw [CookieJar.header?_eq_some, hcookies, htext]
  refine ⟨by simp [revival], by simp, fun d hd => ?_⟩
  rcases List.mem_append.mp hd with hd | hd
  · exact List.all_eq_true.mp
      (by decide : sessionCookie.toList.all CookieJar.isSendable = true) d hd
  · rcases List.mem_cons.mp hd with rfl | hd
    · decide
    · exact h.sendable d hd

theorem Carried.tokenIn? (h : Carried token) :
    tokenIn? (sessionCookie ++ "=" ++ token) = some token := by
  have hpairs : CookieJar.headerPairs (sessionCookie ++ "=" ++ token) =
      [(sessionCookie.toList, token.toList)] := by
    have htext : (sessionCookie ++ "=" ++ token).toList =
        sessionCookie.toList ++ '=' :: token.toList := by
      simp
    rw [CookieJar.headerPairs, htext, pieces_of_unmarked h.legible.uncut, List.filterMap_cons_some
      (CookieJar.pairOf?_legible h.legible)]
    rfl
  rw [tokenIn?_eq, hpairs, List.find?_cons_of_pos (by simp)]
  simp [h.nonempty]

/-- An agent to which the token is brought back knows it and sends it with every call. -/
theorem Carried.again (h : Carried token) (hbase : ofBase base = .ok fresh) {asked : Call}
    (hasked : fresh.urlOf? asked = some u) (hhost : fresh.url.host = some host)
    (hown : host.ownDomain? = some host.text) (seeded later : Int) :
    (fresh.seed seeded token).token? later = some token ∧
      ∀ c, ∃ v, (fresh.seed seeded token).urlOf? c = some v ∧
        (fresh.seed seeded token).jar.header? later v = some (sessionCookie ++ "=" ++ token) := by
  obtain ⟨hsame, -, hempty⟩ := ofBase_eq_ok hbase
  have hcookies := h.cookies_seed hempty hhost hown seeded
  obtain ⟨hrooted, hcalls⟩ := urlOf?_of_asked hbase hsame hasked
  constructor
  · have hheader := h.header? hcookies hhost hrooted later
    have hascii : (sessionCookie ++ "=" ++ token).toList.all isAscii = true := by
      rw [String.toList_append, List.all_append, Bool.and_eq_true]
      exact ⟨by decide, List.all_eq_true.mpr h.ascii⟩
    rw [Agent.token?, cookieHeader?, show (fresh.seed seeded token).url = fresh.url from rfl,
      hheader, Option.filter_some, if_pos hascii, Option.bind_some, h.tokenIn?]
  · intro c
    obtain ⟨v, hv, hvhost, hvrooted⟩ := hcalls c
    exact ⟨v, hv, h.header? hcookies (hvhost.trans hhost) hvrooted later⟩

end Agent

end ChatTerminal
