import ChatTerminal.Proofs.Text.Pieces
import ChatTerminal.Web.Cookie
import Mathlib.Data.List.Basic
/-!
# What comes into a jar and what goes out of it

Every cookie of a jar was read from a text, so its name and its value are legible: written one
after another into a header, they are read back from it.
-/

namespace ChatTerminal.Web

open Text

/-! ## Legible cookies -/

/-- A name and a value as they are read from a text: trimmed, cut at no separator, and the name
not empty. -/
structure Legible (name value : List Char) : Prop where
  named : name ≠ []
  trimmed : Trimmed isBlank name
  unequal : '=' ∉ name
  whole : ';' ∉ name
  valueTrimmed : Trimmed isBlank value
  valueWhole : ';' ∉ value

theorem Legible.uncut {name value : List Char} (h : Legible name value) :
    ∀ d ∈ name ++ '=' :: value, (d == ';') = false := by
  intro d hd
  rw [beq_eq_false_iff_ne]
  rintro rfl
  rcases List.mem_append.mp hd with hd | hd
  · exact h.whole hd
  · rcases List.mem_cons.mp hd with hd | hd
    · exact absurd hd (by decide)
    · exact h.valueWhole hd

namespace SetCookie

@[simp] theorem name_withAttribute (c : SetCookie) (text : List Char) :
    (c.withAttribute text).name = c.name := by
  unfold withAttribute
  dsimp only
  repeat' split
  all_goals rfl

@[simp] theorem value_withAttribute (c : SetCookie) (text : List Char) :
    (c.withAttribute text).value = c.value := by
  unfold withAttribute
  dsimp only
  repeat' split
  all_goals rfl

theorem pair_foldl_withAttribute (attributes : List (List Char)) (c : SetCookie) :
    (attributes.foldl withAttribute c).name = c.name ∧
      (attributes.foldl withAttribute c).value = c.value := by
  induction attributes generalizing c with
  | nil => exact ⟨rfl, rfl⟩
  | cons text more ih =>
      obtain ⟨hname, hvalue⟩ := ih (c.withAttribute text)
      exact ⟨hname.trans (by simp), hvalue.trans (by simp)⟩

theorem legible_parse {text : String} {c : SetCookie} (h : parse text = some c) :
    Legible c.name c.value := by
  unfold parse at h
  split at h
  · cases h
  · rename_i pair attributes hpieces
    have hpair : ∀ d ∈ pair, (d == ';') = false :=
      unmarked_of_mem_pieces (hpieces ▸ List.mem_cons_self)
    split at h
    · cases h
    · rename_i name value hcut
      obtain ⟨rfl, hunequal⟩ := splitAtFirst_eq_some hcut
      dsimp only at h
      split at h
      · cases h
      · rename_i hnamed
        have hfold := pair_foldl_withAttribute attributes
          { name := stripBoth isBlank name, value := stripBoth isBlank value }
        rw [← Option.some.inj h, hfold.1, hfold.2]
        have hwhole : ∀ d ∈ name ++ '=' :: value, d ≠ ';' := fun d hd => by simpa using hpair d hd
        refine ⟨by simpa using hnamed, trimmed_stripBoth _ _,
          fun hmem => hunequal (mem_of_mem_stripBoth hmem), fun hmem => ?_, trimmed_stripBoth _ _,
          fun hmem => ?_⟩
        · exact hwhole ';' (List.mem_append_left _ (mem_of_mem_stripBoth hmem)) rfl
        · exact hwhole ';' (List.mem_append_right _
            (List.mem_cons_of_mem _ (mem_of_mem_stripBoth hmem))) rfl

theorem head?_directory (u : Url) : u.directory.head? = some '/' := by
  unfold Url.directory
  generalize u.pathText = path
  dsimp only
  generalize hup : (path.reverse.dropWhile (· ≠ '/')).reverse.dropLast = upToSlash
  split
  · rename_i hrooted
    simp only [Bool.and_eq_true, decide_eq_true_eq, Bool.not_eq_true',
      List.isEmpty_eq_false_iff] at hrooted
    have hprefix : upToSlash <+: path := by
      rw [← hup]
      refine (List.dropLast_prefix _).trans ?_
      have hsuffix := List.dropWhile_suffix (decide <| · ≠ '/') (l := path.reverse)
      simpa using List.reverse_prefix.mpr hsuffix
    obtain ⟨rest, hrest⟩ := hprefix
    obtain ⟨c, more, hcons⟩ := List.exists_cons_of_ne_nil hrooted.2
    rw [← hrooted.1, ← hrest, hcons]
    rfl
  · rfl

theorem received?_eq_some {c : SetCookie} {now : Int} {u : Url} {k : Cookie}
    (h : c.received? now u = some k) : k.name = c.name ∧ k.value = c.value ∧
      k.path.head? = some '/' ∧ k.expires = c.ending? now := by
  simp only [received?, Option.bind_eq_bind, Option.bind_eq_some_iff] at h
  obtain ⟨host, -, scope, -, h⟩ := h
  split at h
  · cases h
  · obtain rfl := Option.some.inj h
    refine ⟨rfl, rfl, ?_, rfl⟩
    dsimp only
    split
    · rfl
    · exact head?_directory u

end SetCookie

/-! ## Jars -/

namespace CookieJar

variable {jar : CookieJar} {now : Int} {u : Url} {text : String} {c k : Cookie}

theorem mem_put {held : List Cookie} (h : k ∈ put held c) : k = c ∨ k ∈ held := by
  induction held with
  | nil => exact .inl (List.mem_singleton.mp h)
  | cons first more ih =>
      unfold put at h
      split at h
      · rcases List.mem_cons.mp h with rfl | h
        · exact .inl rfl
        · exact .inr (List.mem_cons_of_mem _ h)
      · rcases List.mem_cons.mp h with rfl | h
        · exact .inr List.mem_cons_self
        · exact (ih h).imp_right (List.mem_cons_of_mem _)

/-- A cookie of the jar was there before, or has come with the text and not expired on the way. -/
theorem mem_receive (h : k ∈ (jar.receive now u text).cookies) : k ∈ jar.cookies ∨
    (SetCookie.parse text).bind (·.received? now u) = some k ∧ k.isExpired now = false := by
  unfold receive at h
  split at h
  · exact .inl h
  · rename_i c hc
    dsimp only at h
    split at h
    · exact .inl h
    · split at h
      · exact .inl ((List.mem_filter.mp h).1)
      · rename_i halive
        rcases mem_put h with rfl | h
        · exact .inr ⟨hc, eq_false_of_ne_true halive⟩
        · exact .inl h

/-- Every cookie of the jar has come with a text from an address. -/
def Received (jar : CookieJar) : Prop :=
  ∀ c ∈ jar.cookies, ∃ (now : Int) (u : Url) (text : String),
    (SetCookie.parse text).bind (·.received? now u) = some c

theorem received_empty : Received {} := nofun

theorem Received.receive (h : jar.Received) (now : Int) (u : Url) (text : String) :
    (jar.receive now u text).Received := by
  intro k hk
  rcases mem_receive hk with hheld | ⟨harrived, -⟩
  · exact h k hheld
  · exact ⟨now, u, text, harrived⟩

/-- A cookie that comes with a text has the name and the value read from it, and its end. -/
theorem of_arrived (h : (SetCookie.parse text).bind (·.received? now u) = some k) :
    ∃ c, SetCookie.parse text = some c ∧ k.name = c.name ∧ k.value = c.value ∧
      k.path.head? = some '/' ∧ k.expires = c.ending? now := by
  obtain ⟨c, hparse, hreceived⟩ := Option.bind_eq_some_iff.mp h
  exact ⟨c, hparse, SetCookie.received?_eq_some hreceived⟩

theorem Received.legible (h : jar.Received) (hc : c ∈ jar.cookies) : Legible c.name c.value := by
  obtain ⟨now, u, text, harrived⟩ := h c hc
  obtain ⟨set, hparse, hname, hvalue, -⟩ := of_arrived harrived
  rw [hname, hvalue]
  exact SetCookie.legible_parse hparse

theorem mem_of_receive_expired
    (hexpired : ∀ c, (SetCookie.parse text).bind (·.received? now u) = some c →
      c.isExpired now = true)
    (h : k ∈ (jar.receive now u text).cookies) : k ∈ jar.cookies := by
  unfold receive at h
  split at h
  · exact h
  · rename_i c hc
    dsimp only at h
    split at h
    · exact h
    · rw [if_pos (hexpired c hc)] at h
      exact (List.mem_filter.mp h).1

/-- A text whose cookie has expired takes away the cookie it would replace. -/
theorem mem_receive_of_expired
    (harrived : (SetCookie.parse text).bind (·.received? now u) = some c)
    (hexpired : c.isExpired now = true) (hhttp : u.isHttp = true) :
    k ∈ (jar.receive now u text).cookies ↔ k ∈ jar.cookies ∧ k.sameKey c = false := by
  unfold receive
  rw [harrived]
  simp [hhttp, hexpired, List.mem_filter]

/-! ## Headers -/

def pairOf? (part : List Char) : Option (List Char × List Char) :=
  splitAtFirst '=' (stripBoth isBlank part)

def headerPairs (header : String) : List (List Char × List Char) :=
  (pieces (· == ';') header.toList).filterMap pairOf?

theorem pairOf?_legible {name value : List Char} (h : Legible name value) :
    pairOf? (name ++ '=' :: value) = some (name, value) := by
  unfold pairOf?
  rw [stripBoth_of_trimmed (h.trimmed.append_mark h.valueTrimmed (by decide))]
  exact splitAtFirst_append h.unequal

/-- Pairs joined with a semicolon and a blank are cut apart again. -/
theorem pieces_joined {pair : List Char} {pairs : List (List Char)}
    (h : ∀ p ∈ pair :: pairs, ∀ d ∈ p, (d == ';') = false) :
    pieces (· == ';') (((pair :: pairs).intersperse "; ".toList).flatten) =
      pair :: pairs.map (' ' :: ·) := by
  induction pairs generalizing pair with
  | nil => simpa using pieces_of_unmarked (h pair List.mem_cons_self)
  | cons next more ih =>
      have hmore := ih fun p hp => h p (List.mem_cons_of_mem _ hp)
      have hblank : ((' ' : Char) == ';') = false := by decide
      obtain ⟨piece, rest, hrest, hcons⟩ := pieces_cons (p := (· == ';'))
        (s := (((next :: more).intersperse "; ".toList).flatten)) hblank
      rw [hmore] at hrest
      obtain ⟨rfl, rfl⟩ := List.cons.inj hrest
      rw [show ((pair :: next :: more).intersperse "; ".toList).flatten =
        pair ++ ';' :: ' ' :: ((next :: more).intersperse "; ".toList).flatten from rfl]
      rw [pieces_append_mark (h pair List.mem_cons_self) (by decide), hcons]
      rfl

def isSendable (c : Char) : Bool := !((c.toNat < 0x20 && c != '\t') || c.toNat == 0x7F)

/-- A header is the pairs of the cookies for the address, if there is something of them to send and
nothing of it cannot be sent. -/
theorem header?_eq_some {header : String} : jar.header? now u = some header ↔
    header.toList = (((jar.cookiesFor now u).map fun c => c.name ++ '=' :: c.value).intersperse
      "; ".toList).flatten ∧ header.toList ≠ [] ∧ ∀ d ∈ header.toList, isSendable d = true := by
  unfold header?
  dsimp only
  generalize (((jar.cookiesFor now u).map fun c => c.name ++ '=' :: c.value).intersperse
    "; ".toList).flatten = text
  have hunsendable : (text.any fun c => (decide (c.toNat < 0x20) && c != '\t') || c.toNat == 0x7F) =
      false ↔ ∀ d ∈ text, isSendable d = true := by
    simp only [List.any_eq_false, isSendable, Bool.not_eq_true, Bool.not_eq_true']
  constructor
  · intro h
    split at h
    · cases h
    · rename_i hkept
      rw [Bool.not_eq_true, Bool.or_eq_false_iff, hunsendable] at hkept
      rw [← Option.some.inj h, String.toList_ofList]
      exact ⟨rfl, by simpa using hkept.1, hkept.2⟩
  · rintro ⟨rfl, hne, hsendable⟩
    rw [if_neg (by rw [Bool.not_eq_true, Bool.or_eq_false_iff, hunsendable]; simp_all),
      String.ofList_toList]

/-- A header tells the cookies it was made of. -/
theorem headerPairs_header? (h : jar.Received) {header : String}
    (hheader : jar.header? now u = some header) :
    headerPairs header = (jar.cookiesFor now u).map fun c => (c.name, c.value) := by
  have hlegible : ∀ c ∈ jar.cookiesFor now u, Legible c.name c.value := by
    intro c hc
    exact h.legible (List.mem_filter.mp (List.mem_mergeSort.mp hc)).1
  obtain ⟨htext, hne, -⟩ := header?_eq_some.mp hheader
  rw [htext] at hne
  rw [headerPairs, htext]
  generalize jar.cookiesFor now u = cookies at hlegible hne ⊢
  cases cookies with
  | nil => exact absurd rfl hne
  | cons first more =>
      have huncut : ∀ p ∈ (first :: more).map (fun c => c.name ++ '=' :: c.value),
          ∀ d ∈ p, (d == ';') = false := by
        intro p hp
        obtain ⟨c, hc, rfl⟩ := List.mem_map.mp hp
        exact (hlegible c hc).uncut
      have hmore : ∀ c ∈ more,
          (pairOf? ∘ (' ' :: ·) ∘ fun c => c.name ++ '=' :: c.value) c =
            some (c.name, c.value) := by
        intro c hc
        have hblank : isBlank ' ' = true := by decide
        simpa only [Function.comp, pairOf?, stripBoth_cons hblank] using
          pairOf?_legible (hlegible c (List.mem_cons_of_mem _ hc))
      rw [List.map_cons] at huncut ⊢
      rw [pieces_joined huncut,
        List.filterMap_cons_some (pairOf?_legible (hlegible first List.mem_cons_self)),
        List.map_map, List.filterMap_map, List.map_cons,
        List.filterMap_eq_map_iff_forall_eq_some.mpr hmore]

end CookieJar

end ChatTerminal.Web
