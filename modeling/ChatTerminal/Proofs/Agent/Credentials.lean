import ChatTerminal.Agent
import ChatTerminal.Proofs.Web.Jar
/-!
# Where an agent holds its session

A session is a cookie of one name in the agent's jar.  Only a reply that sets a cookie of that name
brings one, a header carries one only if the jar holds one, and forgetting takes away those of the
agent's own host and of the path of all pages.
-/

namespace ChatTerminal

open Text Web

def Web.Cookie.IsSession (c : Cookie) : Prop := c.name = Agent.sessionCookie.toList

instance (c : Cookie) : Decidable c.IsSession := inferInstanceAs (Decidable (_ = _))

def CarriesSession (header : Option String) : Prop :=
  ∃ text, header = some text ∧ Agent.sessionCookie.toList ∈ (CookieJar.headerPairs text).map Prod.fst

/-- A reply that sets a cookie under the name of the session, one that has not ended when the reply
arrives. -/
def Reply.Grants (now : Int) : Reply → Prop
  | .dropped => False
  | .answered _ _ cookies => ∃ text ∈ cookies, ∃ c, SetCookie.parse text = some c ∧
      c.name = Agent.sessionCookie.toList ∧ ∀ ending, c.ending? now = some ending → now < ending

/-- Cookies that are to live for no second are no grant. -/
theorem Reply.not_grants {now : Int} (hnow : 0 ≤ now) {status : Nat} {body : String}
    {texts : List String} (h : ∀ text ∈ texts, ∀ c ∈ SetCookie.parse text, c.maxAge = some 0) :
    ¬ (Reply.answered status body texts).Grants now := by
  rintro ⟨text, htext, c, hparse, -, hlives⟩
  have hends : c.ending? now = some 0 := by simp [SetCookie.ending?, h text htext c hparse]
  exact Int.not_lt.mpr hnow (hlives 0 hends)

namespace Agent

def SignedOff (a : Agent) : Prop := ∀ c ∈ a.jar.cookies, ¬ c.IsSession

variable {a : Agent} {now : Int} {u : Url}

/-! ## Headers -/

theorem SignedOff.header? (h : a.SignedOff) (hjar : a.jar.Received) (now : Int) (u : Url) :
    ¬ CarriesSession (a.jar.header? now u) := by
  rintro ⟨text, htext, hmem⟩
  rw [CookieJar.headerPairs_header? hjar htext, List.map_map] at hmem
  obtain ⟨c, hc, hname⟩ := List.mem_map.mp hmem
  exact h c (List.mem_filter.mp (List.mem_mergeSort.mp hc)).1 hname

theorem SignedOff.cookieHeader? (h : a.SignedOff) (hjar : a.jar.Received) (now : Int) :
    ¬ CarriesSession (a.cookieHeader? now) := by
  rintro ⟨text, htext, hmem⟩
  obtain ⟨hheader, -⟩ := Option.filter_eq_some_iff.mp htext
  exact h.header? hjar now a.url ⟨text, hheader, hmem⟩

theorem tokenIn?_eq (header : String) :
    tokenIn? header =
      match (CookieJar.headerPairs header).find? fun (name, _) => name == sessionCookie.toList with
      | some (_, value) => if value.isEmpty then none else some (String.ofList value)
      | none => none := rfl

theorem SignedOff.token? (h : a.SignedOff) (hjar : a.jar.Received) (now : Int) :
    a.token? now = none := by
  unfold Agent.token?
  cases hheader : a.cookieHeader? now with
  | none => rfl
  | some text =>
      have hnone : ((CookieJar.headerPairs text).find? fun (name, _) =>
          name == sessionCookie.toList) = none := by
        rw [List.find?_eq_none]
        rintro ⟨name, value⟩ hpair hname
        refine h.cookieHeader? hjar now ⟨text, hheader, ?_⟩
        exact List.mem_map.mpr ⟨(name, value), hpair, by simpa using hname⟩
      rw [Option.bind_some, tokenIn?_eq, hnone]

/-! ## Replies -/

theorem mem_receive_all {jar : CookieJar} {texts : List String} {k : Cookie}
    (h : k ∈ (texts.foldl (fun jar text => jar.receive now u text) jar).cookies) :
    k ∈ jar.cookies ∨ ∃ text ∈ texts,
      (SetCookie.parse text).bind (·.received? now u) = some k ∧ k.isExpired now = false := by
  induction texts generalizing jar with
  | nil => exact .inl h
  | cons text more ih =>
      rcases ih h with hfirst | ⟨later, hlater, harrived⟩
      · rcases CookieJar.mem_receive hfirst with hheld | harrived
        · exact .inl hheld
        · exact .inr ⟨text, List.mem_cons_self, harrived⟩
      · exact .inr ⟨later, List.mem_cons_of_mem _ hlater, harrived⟩

theorem received_receive (h : a.jar.Received) (now : Int) (u : Url) (r : Reply) :
    (a.receive now u r).jar.Received := by
  cases r with
  | dropped => exact h
  | answered status body texts =>
      intro k hk
      rcases mem_receive_all hk with hheld | ⟨text, -, harrived, -⟩
      · exact h k hheld
      · exact ⟨now, u, text, harrived⟩

theorem SignedOff.receive (h : a.SignedOff) {r : Reply} (hgrants : ¬ r.Grants now) (u : Url) :
    (a.receive now u r).SignedOff := by
  cases r with
  | dropped => exact h
  | answered status body texts =>
      intro k hk hsession
      rcases mem_receive_all hk with hheld | ⟨text, htext, harrived, halive⟩
      · exact h k hheld hsession
      · obtain ⟨c, hparse, hname, -, -, hending⟩ := CookieJar.of_arrived harrived
        refine hgrants ⟨text, htext, c, hparse, hname ▸ hsession, fun ending hends => ?_⟩
        rw [← hending] at hends
        simpa [Cookie.isExpired, hends] using halive

/-! ## Forgetting -/

/-- What forgetting reaches: the cookies of the agent's own host that are for all its pages, where
that host is asked over a scheme that may take them away. -/
structure Reaches (a : Agent) (c : Cookie) : Prop where
  http : a.url.isHttp = true
  host : a.url.host.bind Host.ownDomain? = some c.domain
  path : c.path = ['/']

instance (a : Agent) (c : Cookie) : Decidable (a.Reaches c) :=
  decidable_of_iff
    (a.url.isHttp = true ∧ a.url.host.bind Host.ownDomain? = some c.domain ∧ c.path = ['/'])
    ⟨fun ⟨http, host, path⟩ => ⟨http, host, path⟩, fun h => ⟨h.http, h.host, h.path⟩⟩

def farewell (domain : List Char) : Cookie :=
  { name := sessionCookie.toList, value := [], domain := domain, hostOnly := true, path := ['/'],
    secure := false, httpOnly := false, expires := some 0 }

theorem farewell_received (u : Url) (now : Int) :
    (SetCookie.parse (sessionCookie ++ "=; Max-Age=0; Path=/")).bind (·.received? now u) =
      (u.host.bind Host.ownDomain?).map farewell := by
  have hparse : SetCookie.parse (sessionCookie ++ "=; Max-Age=0; Path=/") = some
      { name := sessionCookie.toList, value := [], path := some ['/'], maxAge := some 0 } := by
    decide +kernel
  rw [hparse, Option.bind_some]
  cases hhost : u.host with
  | none => simp [SetCookie.received?, hhost]
  | some host =>
      cases hown : host.ownDomain? with
      | none => simp [SetCookie.received?, SetCookie.scope?, hhost, hown]
      | some domain =>
          simp [SetCookie.received?, SetCookie.scope?, SetCookie.ending?, hhost, hown, farewell]

/-- Forgetting takes away the sessions it reaches and nothing else. -/
theorem mem_forget (hhttp : a.url.isHttp = true) (hnow : 0 ≤ now) {k : Cookie} :
    k ∈ (a.forget now).jar.cookies ↔ k ∈ a.jar.cookies ∧ ¬ (k.IsSession ∧ a.Reaches k) := by
  have harrived := farewell_received a.url now
  cases hown : a.url.host.bind Host.ownDomain? with
  | none =>
      rw [hown] at harrived
      have hsame : (a.forget now).jar = a.jar := by
        unfold forget CookieJar.receive
        rw [harrived]
        rfl
      rw [hsame]
      refine ⟨fun hk => ⟨hk, fun hreached => ?_⟩, And.left⟩
      exact nomatch hown.symm.trans hreached.2.host
  | some domain =>
      rw [hown] at harrived
      have hexpired : (farewell domain).isExpired now = true := by
        simpa [Cookie.isExpired, farewell] using hnow
      rw [show (k ∈ (a.forget now).jar.cookies ↔ _) = (k ∈ (a.jar.receive now a.url
        (sessionCookie ++ "=; Max-Age=0; Path=/")).cookies ↔ _) from rfl,
        CookieJar.mem_receive_of_expired harrived hexpired hhttp]
      refine and_congr_right fun _ => ?_
      rw [← Bool.not_eq_true, not_iff_not]
      simp only [Cookie.sameKey, farewell, Bool.and_eq_true, beq_iff_eq]
      constructor
      · rintro ⟨⟨hdomain, hpath⟩, hname⟩
        exact ⟨hname, hhttp, hdomain ▸ hown, hpath⟩
      · rintro ⟨hname, hreached⟩
        have hdomain : some domain = some k.domain := hown.symm.trans hreached.host
        exact ⟨⟨(Option.some.inj hdomain).symm, hreached.path⟩, hname⟩

theorem signedOff_forget (hnow : 0 ≤ now)
    (hreached : ∀ c ∈ a.jar.cookies, c.IsSession → a.Reaches c) : (a.forget now).SignedOff := by
  intro k hk hsession
  have hkeeps : k ∈ a.jar.cookies := by
    refine CookieJar.mem_of_receive_expired (fun c hc => ?_) hk
    rw [farewell_received] at hc
    obtain ⟨domain, -, rfl⟩ := Option.map_eq_some_iff.mp hc
    simpa [Cookie.isExpired, farewell] using hnow
  have hreach := hreached k hkeeps hsession
  exact ((mem_forget hreach.http hnow).mp hk).2 ⟨hsession, hreach⟩

/-- The local host, where nothing has been received yet. -/
theorem ofBase_localHost : ofBase "http://[::1]" =
    .ok ⟨"http://[::1]", { scheme := "http".toList
                           host := some (.ipv6 [0, 0, 0, 0, 0, 0, 0, 1])
                           path := .segments [[]] }, {}⟩ := by
  have hparse : (Url.parse "http://[::1]").toOption =
      some { scheme := "http".toList
             host := some (.ipv6 [0, 0, 0, 0, 0, 0, 0, 1])
             path := .segments [[]] } := by
    decide +kernel
  unfold ofBase
  generalize Url.parse "http://[::1]" = parsed at hparse ⊢
  cases parsed with
  | error e => cases hparse
  | ok u => rw [Option.some.inj hparse]

theorem received_ofBase {base : String} (h : ofBase base = .ok a) : a.jar.Received := by
  unfold ofBase at h
  split at h
  · rw [← Except.ok.inj h]
    exact CookieJar.received_empty
  · cases h

theorem received_seed (h : a.jar.Received) (now : Int) (token : String) :
    (a.seed now token).jar.Received :=
  h.receive now a.url _

theorem received_forget (h : a.jar.Received) (now : Int) : (a.forget now).jar.Received :=
  h.receive now a.url _

end Agent

end ChatTerminal
