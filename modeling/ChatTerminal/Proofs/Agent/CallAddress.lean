import ChatTerminal.Proofs.Agent.LinkAddress
import ChatTerminal.Proofs.Web.Below
/-!
# Addresses of calls

The paths of calls are plain, and so are their queries.  Below a base without a query or a fragment
of its own a call goes where it says: to its path, behind the path of the base.
-/

namespace ChatTerminal

open Text Web

/-! ## Paths of calls -/

theorem Web.Url.word_toString (id : Nat) : Url.Word (toString id).toList := by
  intro c hc
  have hdigit : c.isDigit = true := by
    refine Nat.isDigit_of_mem_toDigits (b := 10) (n := id) (by decide) (by decide) ?_
    simpa using hc
  simp [Char.isAlphanum, hdigit]

theorem Web.Url.exists_fixed {path : List Char} (words : List (List Char))
    (hpath : path = words.flatMap ('/' :: ·)) (hne : words ≠ [])
    (hwords : words.all (·.all Char.isAlphanum) = true) :
    ∃ words query, path = Url.spelled words query ∧ Url.Plain words query := by
  refine ⟨words, none, by simp [hpath, Url.spelled], hne, fun w hw => ?_, nofun⟩
  exact List.all_eq_true.mp (List.all_eq_true.mp hwords w hw)

theorem Web.Url.exists_around {path : List Char} (front : List (List Char)) (id : Nat)
    (back : List (List Char))
    (hpath : path = (front ++ (toString id).toList :: back).flatMap ('/' :: ·))
    (hwords : (front ++ back).all (·.all Char.isAlphanum) = true) :
    ∃ words query, path = Url.spelled words query ∧ Url.Plain words query := by
  refine ⟨front ++ (toString id).toList :: back, none, by simp [hpath, Url.spelled], by simp,
    fun w hw => ?_, nofun⟩
  have hfixed : ∀ w ∈ front ++ back, Word w := fun w hw =>
    List.all_eq_true.mp (List.all_eq_true.mp hwords w hw)
  rw [List.mem_append, List.mem_cons] at hw
  obtain hw | rfl | hw := hw
  · exact hfixed w (List.mem_append_left _ hw)
  · exact word_toString id
  · exact hfixed w (List.mem_append_right _ hw)

def searchQuery (text : String) : List Char := "query=".toList ++ Form.encode text.toList

theorem plain_search (text : String) :
    Url.Plain ["api".toList, "channels".toList, "search".toList] (some (searchQuery text)) where
  nonempty := by simp
  words w hw := by
    have hwords : ["api".toList, "channels".toList, "search".toList].all
        (·.all Char.isAlphanum) = true := by decide
    exact List.all_eq_true.mp (List.all_eq_true.mp hwords w hw)
  query q hq c hc := by
    obtain rfl := Option.some.inj hq
    obtain hc | hc := List.mem_append.mp hc
    · have hquery : "query=".toList.all (fun d => Form.isPlain d || d == '=') = true := by decide
      have hplain := List.all_eq_true.mp hquery c hc
      rw [Bool.or_eq_true, beq_iff_eq] at hplain
      exact hplain.imp_left .inl
    · exact .inl (Form.writes_of_mem_encode hc)

/-- The path of a call is made of plain segments; only a look-up adds a query. -/
theorem Call.exists_spelled (c : Call) :
    ∃ words query, c.path.toList = Url.spelled words query ∧ Url.Plain words query := by
  cases c with
  | me | updateMe | deleteMe =>
      refine Url.exists_fixed ["api".toList, "me".toList] ?_ (by simp) (by decide)
      dsimp only [Call.path]
      decide
  | login =>
      refine Url.exists_fixed ["api".toList, "login".toList] ?_ (by simp) (by decide)
      dsimp only [Call.path]
      decide
  | register =>
      refine Url.exists_fixed ["api".toList, "register".toList] ?_ (by simp) (by decide)
      dsimp only [Call.path]
      decide
  | logout =>
      exact Url.exists_fixed ["api".toList, "logout".toList] (by decide) (by simp) (by decide)
  | ownedChannels | createChannel =>
      refine Url.exists_fixed ["api".toList, "channels".toList] ?_ (by simp) (by decide)
      dsimp only [Call.path]
      decide
  | joinedChannels =>
      exact Url.exists_fixed ["api".toList, "channels".toList, "joined".toList] (by decide)
        (by simp) (by decide)
  | deleteChannel id =>
      refine Url.exists_around ["api".toList, "channels".toList] id [] ?_ (by decide)
      dsimp only [Call.path]
      rw [String.toList_append]
      generalize (toString id).toList = digits
      simp
  | searchChannel text =>
      refine ⟨_, _, ?_, plain_search text⟩
      dsimp only [Call.path, searchQuery]
      rw [String.toList_append, String.toList_ofList]
      generalize Form.encode text.toList = encoded
      simp [Url.spelled]
  | joinChannel id =>
      refine Url.exists_around ["api".toList, "channels".toList] id ["join".toList] ?_ (by decide)
      dsimp only [Call.path]
      rw [String.toList_append, String.toList_append]
      generalize (toString id).toList = digits
      simp
  | members id =>
      refine Url.exists_around ["api".toList, "channels".toList] id ["members".toList] ?_
        (by decide)
      dsimp only [Call.path]
      rw [String.toList_append, String.toList_append]
      generalize (toString id).toList = digits
      simp

/-! ## Below a base -/

/-- A path can stand right behind the text of a base: the text ends in a slash, or what is kept of
it ends in no blank, no control character and no slash of either kind. -/
def TakesPaths (base : String) : Prop :=
  base.toList.getLast? = some '/' ∨
    ∀ c, (Url.kept base.toList).getLast? = some c → ¬ IsLow c ∧ Url.isSlash true c = false

theorem takesPaths_localHost : TakesPaths "http://[::1]" := by
  refine .inr fun c hc => ?_
  obtain rfl := Option.some.inj hc
  unfold IsLow
  decide

theorem Web.Url.Plain.not_low {words : List (List Char)} {query : Option (List Char)}
    (h : Url.Plain words query) : ∀ c ∈ Url.spelled words query, ¬ IsLow c := by
  have hvisible : ∀ c, Form.Writes c → ¬ IsLow c := by
    intro c hc hlow
    have hbounds := hc.visible
    unfold IsLow at hlow
    omega
  intro c hc
  obtain hc | hc := List.mem_append.mp hc
  · obtain ⟨w, hw, hc⟩ := List.mem_flatMap.mp hc
    obtain rfl | hc := List.mem_cons.mp hc
    · unfold IsLow
      decide
    · exact hvisible c (.inl ((h.words w hw).isPlain hc))
  · cases query with
    | none => cases hc
    | some q =>
        obtain rfl | hc := List.mem_cons.mp hc
        · unfold IsLow
          decide
        · obtain hwrites | rfl := h.query q rfl c hc
          · exact hvisible c hwrites
          · unfold IsLow
            decide

theorem Web.Url.Plain.head? {words : List (List Char)} {query : Option (List Char)}
    (h : Url.Plain words query) : (Url.spelled words query).head? = some '/' := by
  obtain ⟨word, words, rfl⟩ := List.exists_cons_of_ne_nil h.nonempty
  rfl

/-- Behind a base that does not end in a slash a path comes behind the blanks at the end. -/
theorem cleaned_addressOf_append {base path : String} (hbase : base.toList ≠ [])
    (hslash : base.toList.getLast? ≠ some '/') (hpath : path.toList.head? = some '/')
    (hlow : ∀ c ∈ path.toList, ¬ IsLow c) : ∃ lead blanks, (∀ c ∈ blanks, IsLow c) ∧
      Url.kept base.toList = lead ++ (Url.cleaned base.toList ++ blanks) ∧
      Url.cleaned (addressOf base path).toList =
        Url.cleaned base.toList ++ (blanks ++ path.toList) := by
  obtain ⟨more, hmore⟩ := List.head?_eq_some_iff.mp hpath
  obtain ⟨lead, blanks, hblanks, hkept, happend⟩ := Url.exists_cleaned_append base.toList
  rw [hmore] at hlow
  refine ⟨lead, blanks, hblanks, hkept, ?_⟩
  rw [toList_addressOf hbase, if_neg hslash, hmore]
  exact happend '/' more (hlow '/' List.mem_cons_self) fun c hc => hlow c (List.mem_cons_of_mem _ hc)

/-- The address of a path starts as the base does, without the slash that ends it. -/
theorem exists_front_addressOf {base path : String} (htakes : TakesPaths base)
    (hbase : base.toList ≠ []) (hpath : path.toList.head? = some '/')
    (hlow : ∀ c ∈ path.toList, ¬ IsLow c) :
    ∃ front, Url.cleaned (addressOf base path).toList = front ++ path.toList ∧
      (Url.cleaned base.toList = front ++ ['/'] ∨ Url.cleaned base.toList = front ∧
        ∀ c, front.getLast? = some c → Url.isSlash true c = false) := by
  by_cases hslash : base.toList.getLast? = some '/'
  · obtain ⟨s, hs⟩ := List.getLast?_eq_some_iff.mp hslash
    obtain ⟨more, hmore⟩ := List.head?_eq_some_iff.mp hpath
    have hmark : ¬ IsLow '/' := hlow '/' (by simp [hmore])
    have hrest : ∀ c ∈ more, ¬ IsLow c := fun c hc => hlow c (by simp [hmore, hc])
    rw [toList_addressOf hbase, if_pos hslash, hs, List.dropLast_concat, hmore]
    exact ⟨_, Url.cleaned_append_mark hmark hrest,
      .inl (Url.cleaned_append_mark hmark (List.forall_mem_nil _))⟩
  · have hends := htakes.resolve_left hslash
    obtain ⟨lead, blanks, hblanks, hkept, haddress⟩ :=
      cleaned_addressOf_append hbase hslash hpath hlow
    rw [hkept] at hends
    have hnone : blanks = [] := by
      by_contra hsome
      have hlast := List.getLast?_eq_some_getLast hsome
      refine (hends (blanks.getLast hsome) ?_).1 (hblanks _ (List.getLast_mem hsome))
      rw [List.getLast?_append, List.getLast?_append, hlast, Option.some_or, Option.some_or]
    subst hnone
    refine ⟨_, haddress, .inr ⟨rfl, fun c hc => (hends c ?_).2⟩⟩
    rw [List.append_nil, List.getLast?_append, hc, Option.some_or]

/-- The address of a path and the address of its base part only behind the authority: there the path
stands in the place of the slash, or of the nothing, that the base ends in. -/
theorem exists_withRest_addressOf {base path : String} {w : Url} (hparse : Url.parse base = .ok w)
    (hspecial : Url.kindOf w.scheme = .special) (htakes : TakesPaths base)
    (hpath : path.toList.head? = some '/') (hlow : ∀ c ∈ path.toList, ¬ IsLow c) :
    ∃ (v : Url) (after rest : List Char), w = v.withRest true rest ∧ v.scheme = w.scheme ∧
      Url.parse (addressOf base path) = .ok (v.withRest true (after ++ path.toList)) ∧
      (rest = after ++ ['/'] ∨ rest = after ∧
        ∀ c, after.getLast? = some c → Url.isSlash true c = false) := by
  obtain ⟨more, hmore⟩ := List.head?_eq_some_iff.mp hpath
  obtain ⟨authority, hfront⟩ := Url.front?_of_parse hparse
  obtain ⟨rest, hbehind, hread⟩ := Url.parse_behind hfront hspecial
  obtain ⟨v, hv, hw⟩ := Url.map_eq_ok (hread.symm.trans hparse)
  have hauthority := (Url.parseAuthority_special hv).1
  obtain ⟨-, -, -, -, -, -, -, hscheme⟩ := Url.parseAuthority_eq_ok hv
  obtain ⟨text, haddress, htext⟩ :=
    exists_front_addressOf htakes (toList_ne_nil hparse) hpath hlow
  have hsame : Url.front? text = some (w.scheme, authority) := by
    obtain hbase | ⟨hbase, -⟩ := htext
    · exact Url.front?_of_slash (hbase ▸ hfront) hauthority
    · exact hbase ▸ hfront
  obtain ⟨after, hafter⟩ := Url.exists_behind? hsame
  have hlong : Url.front? (text ++ path.toList) = some (w.scheme, authority) := by
    have hblanks : ∀ c ∈ ([] : List Char), IsLow c := List.forall_mem_nil _
    obtain ⟨ends, hends', hshared⟩ := Url.front?_append hsame hauthority hblanks
    obtain rfl : ends = [] := hends'.elim id id
    simpa [hmore] using hshared more
  obtain ⟨rest', hbehind', hread'⟩ := Url.parse_behind (haddress ▸ hlong) hspecial
  rw [haddress, hmore, Url.behind?_append hsame hauthority hafter more, ← hmore] at hbehind'
  obtain rfl := Option.some.inj hbehind'
  rw [hv] at hread'
  refine ⟨v, after, rest, hw.symm, hscheme, hread', ?_⟩
  obtain hbase | ⟨hbase, hlast⟩ := htext
  · rw [hbase, Url.behind?_append hsame hauthority hafter []] at hbehind
    exact .inl (Option.some.inj hbehind).symm
  · rw [hbase, hafter] at hbehind
    refine .inr ⟨(Option.some.inj hbehind).symm, fun c hc => hlast c ?_⟩
    obtain ⟨front, hsuffix⟩ := Url.front_behind?_suffix hsame hafter
    rw [← hsuffix, ← List.append_assoc, List.getLast?_append, hc, Option.some_or]

/-- Below a base without a query and a fragment of its own, a plain path leads to the target that is
the path below the path of the base. -/
theorem target_addressOf {base path : String} {w : Url} {words : List (List Char)}
    {query : Option (List Char)} (hparse : Url.parse base = .ok w)
    (hspecial : Url.kindOf w.scheme = .special) (hquery : w.query = none)
    (hfragment : w.fragment = none) (htakes : TakesPaths base)
    (hpath : path.toList = Url.spelled words query) (hplain : Url.Plain words query) :
    ∃ u, Url.parse (addressOf base path) = .ok u ∧ u.scheme = w.scheme ∧
      u.target = (addressOf (String.ofList w.pathText) path).toList := by
  obtain ⟨v, after, rest, rfl, hscheme, haddress, hrest⟩ := exists_withRest_addressOf hparse hspecial
    htakes (hpath ▸ hplain.head?) (hpath ▸ hplain.not_low)
  have hunmarked : Url.Unmarked after := by
    have hall : Url.Unmarked rest := Url.unmarked_of_withRest hquery hfragment
    obtain rfl | ⟨rfl, -⟩ := hrest
    · exact fun c hc => hall c (List.mem_append_left _ hc)
    · exact hall
  refine ⟨_, haddress, hscheme, ?_⟩
  have hbelow := Url.pathText_withRest v hunmarked hrest
  rw [hpath, Url.target_withRest hunmarked hplain]
  generalize (Url.merged (Url.segmentsBehind after)).flatMap ('/' :: ·) = front at hbelow ⊢
  have hne : (String.ofList (v.withRest true rest).pathText).toList ≠ [] := by
    rw [String.toList_ofList]
    obtain hslash | ⟨hself, hfrontNe, -⟩ := hbelow
    · simp [hslash]
    · exact hself ▸ hfrontNe
  rw [toList_addressOf hne, String.toList_ofList, hpath]
  obtain hslash | ⟨hself, -, hlast⟩ := hbelow
  · rw [hslash, if_pos List.getLast?_concat, List.dropLast_concat]
  · rw [hself, if_neg hlast]

/-- Behind any other base a path comes behind something more than the base: a slash or the blanks that
end it. -/
theorem exists_withRest_astray {base path : String} {w u : Url} (hparse : Url.parse base = .ok w)
    (hspecial : Url.kindOf w.scheme = .special) (hastray : ¬ TakesPaths base)
    (hpath : path.toList.head? = some '/') (hlow : ∀ c ∈ path.toList, ¬ IsLow c)
    (hu : Url.parse (addressOf base path) = .ok u) :
    ∃ (v v' : Url) (rest blanks : List Char), w = v.withRest true rest ∧
      u = v'.withRest true (rest ++ blanks ++ path.toList) ∧ rest ≠ [] ∧ (∀ c ∈ blanks, IsLow c) ∧
      (blanks = [] → ∃ before mark, rest = before ++ [mark] ∧ Url.isSlash true mark = true) := by
  have hbase := toList_ne_nil hparse
  obtain ⟨hslash, hends⟩ := not_or.mp hastray
  push Not at hends
  obtain ⟨c, hlast, hbad⟩ := hends
  obtain ⟨lead, blanks, hblanks, hkept, haddress⟩ :=
    cleaned_addressOf_append hbase hslash hpath hlow
  obtain ⟨more, hmore⟩ := List.head?_eq_some_iff.mp hpath
  obtain ⟨authority, hfront⟩ := Url.front?_of_parse hparse
  obtain ⟨rest, hbehind, hread⟩ := Url.parse_behind hfront hspecial
  obtain ⟨v, hv, rfl⟩ := Url.map_eq_ok (hread.symm.trans hparse)
  have hauthority := (Url.parseAuthority_special hv).1
  obtain ⟨hlongFront, hlongBehind⟩ := Url.front_behind?_append hfront hauthority hbehind hblanks more
  rw [← hmore, ← haddress] at hlongFront hlongBehind
  obtain ⟨rest', hbehind', hread'⟩ := Url.parse_behind hlongFront hspecial
  obtain ⟨v', hv', rfl⟩ := Url.map_eq_ok (hread'.symm.trans hu)
  obtain rfl := Option.some.inj (hlongBehind.symm.trans hbehind')
  by_cases hnone : blanks = []
  · subst hnone
    have hsome : Url.cleaned base.toList ≠ [] := by
      intro hnil
      rw [hnil] at hfront
      cases hfront
    have hback := List.getLast?_eq_some_getLast hsome
    rw [hkept, List.append_nil, List.getLast?_append, hback, Option.some_or] at hlast
    rw [hlast] at hback
    have hmark : Url.isSlash true c = true := by
      simpa using hbad (Url.not_low_of_cleaned hback)
    obtain ⟨before, rfl⟩ := Url.behind?_ends hfront hauthority hbehind hback hmark
    refine ⟨v, v', _, [], rfl, ?_, by simp, List.forall_mem_nil _, fun _ => ⟨before, c, rfl, hmark⟩⟩
    rw [ite_self, List.nil_append, List.append_nil]
  · have hbare : rest ≠ [] := by
      rintro rfl
      -- The blanks end the authority, and then it is none.
      rw [if_pos rfl] at hv'
      have hblank := List.getLast?_eq_some_getLast hnone
      refine absurd (hblanks _ (List.getLast_mem hnone)) ((Url.parseAuthority_special hv').2 _ ?_)
      rw [List.getLast?_append, hblank, Option.some_or]
    refine ⟨v, v', rest, blanks, rfl, ?_, hbare, hblanks, fun hnil => absurd hnil hnone⟩
    rw [if_neg hbare, List.append_assoc]

/-- Below any other base a path leads to no target, or to one that is not that path below the path of
the base: it has a slash too many, or the blanks that end the base. -/
theorem astray_addressOf {base path : String} {w u : Url} {words : List (List Char)}
    {query : Option (List Char)} (hparse : Url.parse base = .ok w)
    (hspecial : Url.kindOf w.scheme = .special) (hquery : w.query = none)
    (hfragment : w.fragment = none) (hastray : ¬ TakesPaths base)
    (hpath : path.toList = Url.spelled words query) (hplain : Url.Plain words query)
    (hu : Url.parse (addressOf base path) = .ok u) : ∃ front, '?' ∉ front ∧ front ≠ w.root ∧
      u.target = front ++ path.toList := by
  obtain ⟨v, v', rest, blanks, rfl, rfl, hbare, hblanks, hmarked⟩ := exists_withRest_astray hparse
    hspecial hastray (hpath ▸ hplain.head?) (hpath ▸ hplain.not_low) hu
  have hunmarked : Url.Unmarked rest := Url.unmarked_of_withRest hquery hfragment
  have hall : Url.Unmarked (rest ++ blanks) := by
    intro d hd
    obtain hd | hd := List.mem_append.mp hd
    · exact hunmarked d hd
    · exact ⟨(hblanks d hd).ne (by decide), (hblanks d hd).ne (by decide)⟩
  refine ⟨_, Url.not_mem_merged hall, fun heq => ?_, by rw [hpath, Url.target_withRest hall hplain]⟩
  by_cases hnone : blanks = []
  · obtain ⟨before, mark, rfl, hmark⟩ := hmarked hnone
    have hbefore : Url.Unmarked before := fun d hd => hunmarked d (List.mem_append_left _ hd)
    rw [hnone, List.append_nil] at heq
    exact Url.root_ne_merged v hbefore hmark heq
  · have hlonger := Url.length_pathText_lt v hunmarked hbare hblanks hnone
    rw [heq] at hlonger
    exact Nat.not_lt_of_le (Url.length_root_le _) hlonger

namespace Agent

variable {a fresh : Agent}

/-- A base that is taken, without a query or a fragment of its own. -/
structure Addressable (base : String) (fresh : Agent) : Prop where
  accepted : ofBase base = .ok fresh
  query : fresh.url.query = none
  fragment : fresh.url.fragment = none

/-- Each call leads to its own path below the base, over HTTP. -/
structure Serves (base : String) (fresh : Agent) : Prop where
  http : Url.IsHttpScheme fresh.url.scheme
  takes : TakesPaths base

def mount (fresh : Agent) : String := String.ofList fresh.url.pathText

theorem Addressable.target (h : Addressable a.base fresh) (hserves : Serves a.base fresh)
    (now : Int) (c : Call) :
    ∃ u, a.urlOf? c = some u ∧ (a.requestTo now c u).target = addressOf fresh.mount c.path := by
  obtain ⟨-, hparse, -⟩ := ofBase_eq_ok h.accepted
  obtain ⟨words, query, hpath, hplain⟩ := c.exists_spelled
  obtain ⟨u, hu, hscheme, htarget⟩ := target_addressOf hparse hserves.http.special h.query
    h.fragment hserves.takes hpath hplain
  refine ⟨u, urlOf?_eq_some.mpr ⟨hu, hscheme ▸ hserves.http⟩, ?_⟩
  rw [requestTo, htarget, String.ofList_toList]
  rfl

theorem Addressable.http (h : Addressable a.base fresh) {c : Call} {u : Url}
    (hu : a.urlOf? c = some u) : Url.IsHttpScheme fresh.url.scheme := by
  obtain ⟨-, hparse, -⟩ := ofBase_eq_ok h.accepted
  obtain ⟨words, query, hpath, hplain⟩ := c.exists_spelled
  obtain ⟨hread, hhttp⟩ := urlOf?_eq_some.mp hu
  exact scheme_addressOf hparse (hpath ▸ hplain.head?) hread ▸ hhttp

/-- The path of the base stands in front of a path below it. -/
theorem Addressable.toList_addressOf (h : Addressable a.base fresh)
    (hhttp : Url.IsHttpScheme fresh.url.scheme) : '?' ∉ fresh.url.root ∧
    ∀ path, (addressOf fresh.mount path).toList = fresh.url.root ++ path.toList := by
  obtain ⟨-, hparse, -⟩ := ofBase_eq_ok h.accepted
  obtain ⟨authority, hfront⟩ := Url.front?_of_parse hparse
  obtain ⟨rest, hread⟩ := Url.parse_special hfront hhttp.special
  obtain ⟨v, -, hv⟩ := Url.map_eq_ok (hread.symm.trans hparse)
  have hfree : '?' ∉ fresh.url.pathText := hv ▸ Url.not_mem_pathText v rest
  have hrooted : fresh.url.pathText.head? = some '/' := hv ▸ (Url.rooted_withRest v rest).2
  have hne : fresh.mount.toList ≠ [] := by
    intro hnil
    rw [mount, String.toList_ofList] at hnil
    rw [hnil] at hrooted
    cases hrooted
  constructor
  · unfold Url.root
    split
    · exact fun hmem => hfree (List.dropLast_subset _ hmem)
    · exact hfree
  · intro path
    rw [ChatTerminal.toList_addressOf hne, mount, String.toList_ofList]
    rfl

/-- Below any other base no request of a call goes to its path below the path of the base. -/
theorem Addressable.astray (h : Addressable a.base fresh) (hastray : ¬ Serves a.base fresh)
    (now : Int) {c : Call} {u : Url} (hu : a.urlOf? c = some u) : ∃ front, '?' ∉ front ∧
      front ≠ fresh.url.root ∧ (a.requestTo now c u).target.toList = front ++ c.path.toList := by
  obtain ⟨-, hparse, -⟩ := ofBase_eq_ok h.accepted
  obtain ⟨words, query, hpath, hplain⟩ := c.exists_spelled
  have hhttp := h.http hu
  obtain ⟨front, hfree, hother, htarget⟩ := astray_addressOf hparse hhttp.special h.query
    h.fragment (fun htakes => hastray ⟨hhttp, htakes⟩) hpath hplain (urlOf?_eq_some.mp hu).1
  exact ⟨front, hfree, hother, by rw [requestTo, String.toList_ofList, htarget]⟩

end Agent

end ChatTerminal
