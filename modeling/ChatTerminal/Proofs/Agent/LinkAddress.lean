import ChatTerminal.Proofs.Agent.Restart
/-!
# Addresses of links

The address of a link is made from the text of the base, by its first letters; the address of a call
is read by the rules for addresses.  The two agree where the base starts with `http` letter by
letter: what follows goes into both addresses, and the scheme tells nothing else than itself.  A
base that is read as one of `http` although it is written otherwise, in capitals or behind a blank,
never gets the scheme of links.
-/

namespace ChatTerminal

open Text Web

namespace Web.Url

variable {u v : Url} {s a b rest scheme authority : List Char}

def linkScheme (scheme : List Char) : List Char :=
  if scheme = "https".toList then "wss".toList else "ws".toList

def asLink (u : Url) : Url := { u with scheme := linkScheme u.scheme }

def IsHttpScheme (scheme : List Char) : Prop := scheme = "http".toList ∨ scheme = "https".toList

/-- An address leads a link to the server, and to the place there, to which another leads a call. -/
structure IsLinkOf (v u : Url) : Prop where
  scheme : u.scheme = "http".toList ∧ v.scheme = "ws".toList ∨
    u.scheme = "https".toList ∧ v.scheme = "wss".toList
  host : v.host = u.host
  port : v.effectivePort? = u.effectivePort?
  path : v.path = u.path

theorem IsHttpScheme.special (h : IsHttpScheme scheme) : kindOf scheme = .special := by
  rcases h with rfl | rfl <;> decide

theorem IsHttpScheme.link_special (h : IsHttpScheme scheme) :
    kindOf (linkScheme scheme) = .special := by
  rcases h with rfl | rfl <;> decide

/-- Links have the ports of calls. -/
theorem IsHttpScheme.defaultPort? (h : IsHttpScheme scheme) :
    defaultPort? (linkScheme scheme) = defaultPort? scheme := by
  rcases h with rfl | rfl <;> decide

theorem isLinkOf_asLink (h : IsHttpScheme u.scheme) : u.asLink.IsLinkOf u where
  scheme := by
    rcases h with h | h
    · exact .inl ⟨h, congrArg linkScheme h⟩
    · exact .inr ⟨h, congrArg linkScheme h⟩
  host := rfl
  port := by
    unfold effectivePort? asLink
    rw [h.defaultPort?]
  path := rfl

/-! ## The rest of an address under another scheme -/

theorem parsePort_linkScheme (h : IsHttpScheme scheme) (digits : List Char) :
    parsePort (linkScheme scheme) digits = parsePort scheme digits := by
  unfold parsePort
  rw [h.defaultPort?]

theorem parseAuthority_linkScheme (h : IsHttpScheme scheme) (authority : List Char) :
    parseAuthority { scheme := linkScheme scheme } true authority =
      (parseAuthority { scheme := scheme } true authority).map asLink := by
  unfold parseAuthority
  dsimp only
  generalize splitHost false _ = cut
  obtain ⟨hostText, after⟩ := cut
  dsimp only
  split
  · rfl
  · rw [if_pos rfl]
    cases Host.parse hostText with
    | error e => rfl
    | ok host =>
        cases after with
        | nil => rfl
        | cons mark digits =>
            simp only [parsePort_linkScheme h]
            cases parsePort scheme digits <;> rfl

theorem afterSlashes_linkScheme (h : IsHttpScheme scheme) (s : List Char) :
    afterSlashes (linkScheme scheme) true s = (afterSlashes scheme true s).map asLink := by
  unfold afterSlashes
  dsimp only
  rw [parseAuthority_linkScheme h]
  cases parseAuthority { scheme := scheme } true (s.takeWhile (! endsAuthority true ·)) <;> rfl

/-! ## The first letters -/

structure Leads (s : List Char) : Prop where
  plain : ∀ c ∈ s, isSchemeChar c = true
  head : s.head?.map Char.isAlpha = some true

theorem Leads.not_low (h : Leads a) {c : Char} (hc : c ∈ a) : ¬ IsLow c := by
  intro hlow
  have hnot := hlow.induct (P := fun c => isSchemeChar c = false) (by decide)
  exact nomatch hnot.symm.trans (h.plain c hc)

/-- What is left of a text behind letters that an address can start with. -/
def cleanedBehind (s : List Char) : List Char :=
  (stripEnd (·.toNat ≤ 0x20) s).filter fun c => c != '\t' && c != '\n' && c != '\r'

theorem Leads.cleaned_append (h : Leads a) (s : List Char) :
    cleaned (a ++ s) = a ++ cleanedBehind s := by
  have hkept := filter_of_not_low fun c hc => h.not_low hc
  rcases List.eq_nil_or_concat' a with rfl | ⟨front, mark, rfl⟩
  · exact nomatch h.head
  · have hmark : decide (mark.toNat ≤ 0x20) = false := decide_eq_false (h.not_low (by simp))
    have hfront : front.dropWhile (·.toNat ≤ 0x20) = front := by
      rw [List.dropWhile_eq_self_iff]
      intro hpos
      simpa [IsLow] using h.not_low (List.mem_append_left _ (List.getElem_mem hpos))
    unfold cleaned
    rw [List.append_assoc, List.singleton_append, stripBoth_append_mark hmark, hfront,
      ← List.singleton_append, ← List.append_assoc, List.filter_append, hkept]
    rfl

theorem Leads.splitScheme?_eq_some (h : Leads a) :
    splitScheme? (a ++ s) = some (scheme, rest) ↔ s.dropWhile isSchemeChar = ':' :: rest ∧
      asciiLower a ++ asciiLower (s.takeWhile isSchemeChar) = scheme := by
  have hhead : (a ++ s).head?.map Char.isAlpha = some true := by
    cases a with
    | nil => exact nomatch h.head
    | cons c a => exact h.head
  have hlower : asciiLower (a ++ s.takeWhile isSchemeChar) =
      asciiLower a ++ asciiLower (s.takeWhile isSchemeChar) := List.map_append
  unfold splitScheme?
  rw [List.dropWhile_append_of_pos h.plain, List.takeWhile_append_of_pos h.plain, hhead, hlower]
  split
  · rename_i after hdrop
    rw [if_pos rfl, Option.some.injEq, Prod.mk.injEq, hdrop, List.cons.injEq]
    tauto
  · rename_i hnone
    simp only [reduceCtorEq, false_iff, not_and]
    exact fun hdrop => absurd hdrop (hnone rest)

theorem leads_http : Leads "http".toList := ⟨List.all_eq_true.mp (by decide), by decide⟩

theorem leads_ws : Leads "ws".toList := ⟨List.all_eq_true.mp (by decide), by decide⟩

/-- With `ws` for `http` at its front, an address of a server is read as the one for links. -/
theorem parse_lead {call link : String} (hcall : call.toList = "http".toList ++ s)
    (hlink : link.toList = "ws".toList ++ s) (hhttp : IsHttpScheme scheme)
    (hfront : front? (cleaned call.toList) = some (scheme, authority)) :
    parse link = (parse call).map asLink := by
  obtain ⟨rest, hsplit, -⟩ := front?_eq_some hfront
  have hcallCleaned := leads_http.cleaned_append s
  have hlinkCleaned := leads_ws.cleaned_append s
  rw [← hcall] at hcallCleaned
  rw [← hlink] at hlinkCleaned
  rw [hcallCleaned] at hsplit
  obtain ⟨hdrop, hscheme⟩ := leads_http.splitScheme?_eq_some.mp hsplit
  -- The letters behind the lead tell the two schemes apart.
  have hlinkScheme : asciiLower "ws".toList ++
      asciiLower ((cleanedBehind s).takeWhile isSchemeChar) = linkScheme scheme := by
    generalize asciiLower ((cleanedBehind s).takeWhile isSchemeChar) = more at hscheme ⊢
    rcases hhttp with rfl | rfl
    · have hmore : "http".toList ++ more = "http".toList ++ [] := hscheme
      obtain rfl := List.append_cancel_left hmore
      rfl
    · have hmore : "http".toList ++ more = "http".toList ++ ['s'] := hscheme
      obtain rfl := List.append_cancel_left hmore
      rfl
  have hlinkSplit := leads_ws.splitScheme?_eq_some.mpr ⟨hdrop, hlinkScheme⟩
  unfold parse
  rw [hcallCleaned, hlinkCleaned, hsplit, hlinkSplit]
  dsimp only
  rw [hhttp.special, hhttp.link_special]
  exact afterSlashes_linkScheme hhttp _

end Web.Url

/-! ## Addresses below a base -/

variable {base path : String} {w : Url}

/-- Text without a slash that starts a base and a path starts the base. -/
theorem prefix_append_slash {lead s more : List Char} (h : '/' ∉ lead) :
    lead <+: s ++ '/' :: more ↔ lead <+: s := by
  constructor
  · intro hlead
    rcases List.prefix_or_prefix_of_prefix hlead (List.prefix_append s _) with hshort | hlong
    · exact hshort
    · obtain ⟨after, rfl⟩ := hlong
      cases after with
      | nil => simp
      | cons c after =>
          have htail := (List.prefix_append_right_inj s).mp hlead
          obtain rfl := (List.cons_prefix_cons.mp htail).1
          exact absurd (by simp) h
  · exact fun hlead => hlead.trans (List.prefix_append s _)

theorem prefix_addressOf {lead : List Char} (hbase : base.toList ≠ [])
    (hpath : path.toList.head? = some '/') (hlead : '/' ∉ lead) :
    lead <+: (addressOf base path).toList ↔ lead <+: base.toList := by
  obtain ⟨more, hmore⟩ := List.head?_eq_some_iff.mp hpath
  rw [toList_addressOf hbase, hmore, prefix_append_slash hlead]
  split
  · rename_i hlast
    obtain ⟨s, hs⟩ := List.getLast?_eq_some_iff.mp hlast
    rw [hs, List.dropLast_concat, prefix_append_slash hlead]
  · rfl

theorem toList_linkAddressOf {s : List Char}
    (h : (addressOf base path).toList = "http".toList ++ s) :
    (linkAddressOf base path).toList = "ws".toList ++ s := by
  unfold linkAddressOf
  dsimp only
  rw [h, dropLead?_append]
  exact (String.toList_append ..).trans (congrArg _ (String.toList_ofList ..))

/-- Where the base starts with `http`, the link leads where the call does. -/
theorem parse_linkAddressOf (hparse : Url.parse base = .ok w) (hhttp : Url.IsHttpScheme w.scheme)
    (hfront : "http".toList <+: base.toList) (hpath : path.toList.head? = some '/') :
    Url.parse (linkAddressOf base path) = (Url.parse (addressOf base path)).map Url.asLink := by
  obtain ⟨s, hs⟩ := (prefix_addressOf (toList_ne_nil hparse) hpath (by decide)).mpr hfront
  obtain ⟨authority, ends, -, -, -, -, -, -, hbelow⟩ := front?_addressOf hparse hhttp.special
  exact Url.parse_lead hs.symm (toList_linkAddressOf hs.symm) hhttp (hbelow path hpath)

theorem linkAddressOf_of_not_prefix (hbase : base.toList ≠ [])
    (hpath : path.toList.head? = some '/') (hfront : ¬ "http".toList <+: base.toList) :
    linkAddressOf base path = addressOf base path := by
  unfold linkAddressOf
  dsimp only
  split
  · rename_i rest hrest
    have hprefix : "http".toList <+: (addressOf base path).toList :=
      ⟨rest, (dropLead?_eq_some hrest).symm⟩
    exact absurd ((prefix_addressOf hbase hpath (by decide)).mp hprefix) hfront
  · rfl

/-- A base that does not end with a blank is the front of an address with every path. -/
theorem exists_parse_addressOf (hparse : Url.parse base = .ok w)
    (hhttp : Url.IsHttpScheme w.scheme) (hlast : ∀ c, base.toList.getLast? = some c → ¬ IsLow c)
    (hpath : path.toList.head? = some '/') : ∃ u, Url.parse (addressOf base path) = .ok u := by
  obtain ⟨authority, ends, v, -, hv, -, -, hnone, hbelow⟩ := front?_addressOf hparse hhttp.special
  obtain ⟨rest, hread⟩ := Url.parse_special (hbelow path hpath) hhttp.special
  rw [hnone hlast, List.append_nil, hv] at hread
  exact ⟨_, hread⟩

namespace Agent

variable {fresh : Agent}

/-- Links and calls go to one server, and to one place there, if the base starts with `http` letter
by letter.  Any other base of such a scheme gives links the address of a call. -/
theorem links_follow_calls (hbase : ofBase base = .ok fresh)
    (hhttp : Url.IsHttpScheme fresh.url.scheme) (hpath : path.toList.head? = some '/') :
    ("http".toList <+: base.toList →
      ((∀ c, base.toList.getLast? = some c → ¬ IsLow c) →
        ∃ u, Url.parse (addressOf base path) = .ok u) ∧
      ∀ u, Url.parse (addressOf base path) = .ok u → u.scheme = fresh.url.scheme ∧
        ∃ v, Url.parse (linkAddressOf base path) = .ok v ∧ v.IsLinkOf u) ∧
    (¬ "http".toList <+: base.toList → linkAddressOf base path = addressOf base path) ∧
    ∀ a : Agent, a.base = base → ∀ now origin channel,
      (a.linkRequest now origin channel).address =
        linkAddressOf base ("/ws/" ++ toString channel) := by
  obtain ⟨-, hparse, -⟩ := ofBase_eq_ok hbase
  refine ⟨fun hfront => ⟨fun hlast => exists_parse_addressOf hparse hhttp hlast hpath,
    fun u hu => ?_⟩, linkAddressOf_of_not_prefix (toList_ne_nil hparse) hpath, ?_⟩
  · have hscheme := scheme_addressOf hparse hpath hu
    refine ⟨hscheme, u.asLink, ?_, Url.isLinkOf_asLink (hscheme ▸ hhttp)⟩
    rw [parse_linkAddressOf hparse hhttp hfront hpath, hu]
    rfl
  · rintro a rfl now origin channel
    rfl

theorem links_follow_calls_to_local_host : ∃ u v,
    Url.parse (addressOf "http://[::1]" "/ws/7") = .ok u ∧
      Url.parse (linkAddressOf "http://[::1]" "/ws/7") = .ok v ∧ v.IsLinkOf u := by
  have hpath : "/ws/7".toList.head? = some '/' := by decide
  obtain ⟨hlinks, -⟩ := links_follow_calls ofBase_localHost (.inl rfl) hpath
  obtain ⟨hasked, hfollows⟩ := hlinks (by decide)
  have hlast : ∀ c, "http://[::1]".toList.getLast? = some c → ¬ IsLow c := by
    intro c hc
    rw [← Option.some.inj hc]
    unfold IsLow
    decide
  obtain ⟨u, hu⟩ := hasked hlast
  obtain ⟨-, v, hv, hlink⟩ := hfollows u hu
  exact ⟨u, v, hu, hv, hlink⟩

/-- A base in capitals is one of `http`, and its links are not for links. -/
theorem links_of_capitals : ∃ fresh, ofBase "HTTP://[::1]" = .ok fresh ∧
    Url.IsHttpScheme fresh.url.scheme ∧ ¬ ∃ u v,
      Url.parse (addressOf "HTTP://[::1]" "/ws/7") = .ok u ∧
        Url.parse (linkAddressOf "HTTP://[::1]" "/ws/7") = .ok v ∧ v.IsLinkOf u := by
  have hbase : (ofBase "HTTP://[::1]").toOption.map (·.url.scheme) = some "http".toList := by
    decide +kernel
  have hlink : (Url.parse (linkAddressOf "HTTP://[::1]" "/ws/7")).toOption.map (·.scheme) =
      some "http".toList := by
    decide +kernel
  cases hfresh : ofBase "HTTP://[::1]" with
  | error e =>
      rw [hfresh] at hbase
      cases hbase
  | ok fresh =>
      rw [hfresh] at hbase
      refine ⟨fresh, rfl, .inl (Option.some.inj hbase), ?_⟩
      rintro ⟨u, v, -, hv, hlinkOf⟩
      rw [hv] at hlink
      have hscheme : v.scheme = "http".toList := Option.some.inj hlink
      rcases hlinkOf.scheme with ⟨-, hws⟩ | ⟨-, hwss⟩
      · exact absurd (hscheme.symm.trans hws) (by decide)
      · exact absurd (hscheme.symm.trans hwss) (by decide)

end Agent

end ChatTerminal
