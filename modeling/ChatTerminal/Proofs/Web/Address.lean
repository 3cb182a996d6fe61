import ChatTerminal.Proofs.Web.Domain
import ChatTerminal.Web.Url
import Mathlib.Data.List.Basic
/-!
# Addresses below a base

An address of a special scheme is its scheme, its authority and the rest.  A path below a base may
change the rest only: where the base ends in a space or a control character, the longer address
either has the authority of the base as well or has a blank at the end of its authority, and then it
is no address.
-/

namespace ChatTerminal.Web.Url

open Text

variable {c : Char} {s rest blanks authority scheme : List Char} {u v : Url}

/-! ## Cleaned texts -/

/-- What stands before a slash is cleaned as it is by itself, up to blanks at its end. -/
theorem cleaned_append_slash (s : List Char) : ∃ blanks, (∀ c ∈ blanks, IsLow c) ∧
    ((∀ c, s.getLast? = some c → ¬ IsLow c) → blanks = []) ∧
    ∀ rest, ∃ more, (rest = [] → more = []) ∧
      cleaned (s ++ '/' :: rest) = cleaned s ++ (blanks ++ '/' :: more) := by
  obtain ⟨blanks, hblanks, hsplit⟩ := exists_stripEnd_append (·.toNat ≤ 0x20)
    (s.dropWhile (·.toNat ≤ 0x20))
  refine ⟨blanks.filter fun c => c != '\t' && c != '\n' && c != '\r', fun c hc => ?_,
    fun hlast => ?_, fun rest => ⟨(stripEnd (·.toNat ≤ 0x20) rest).filter
      fun c => c != '\t' && c != '\n' && c != '\r', ?_, ?_⟩⟩
  · simpa [IsLow] using hblanks c (List.mem_filter.mp hc).1
  · suffices hnone : blanks = [] by rw [hnone, List.filter_nil]
    by_contra hsome
    have hback := List.getLast?_eq_some_getLast hsome
    have hs : s.getLast? = some (blanks.getLast hsome) := by
      rw [← List.takeWhile_append_dropWhile (p := (·.toNat ≤ 0x20)) (l := s), hsplit,
        List.getLast?_append, List.getLast?_append, hback, Option.some_or, Option.some_or]
    exact hlast _ hs (by simpa [IsLow] using hblanks _ (List.mem_of_getLast? hback))
  · rintro rfl
    rfl
  · unfold cleaned
    rw [stripBoth_append_mark (by decide), List.filter_append, hsplit, List.filter_append,
      List.append_assoc]
    rfl

theorem filter_of_not_low (h : ∀ c ∈ s, ¬ IsLow c) :
    s.filter (fun c => c != '\t' && c != '\n' && c != '\r') = s := by
  refine List.filter_eq_self.mpr fun c hc => ?_
  simp only [Bool.and_eq_true, bne_iff_ne]
  refine ⟨⟨?_, ?_⟩, ?_⟩
  all_goals
    rintro rfl
    exact h _ hc (by unfold IsLow; decide)

/-- Where nothing low follows, a character that is not low ends what is trimmed at the front. -/
theorem cleaned_append_mark (hc : ¬ IsLow c) (ht : ∀ d ∈ rest, ¬ IsLow d) :
    cleaned (s ++ c :: rest) = ((s.dropWhile (·.toNat ≤ 0x20)).filter
      fun d => d != '\t' && d != '\n' && d != '\r') ++ c :: rest := by
  have hmark : decide (c.toNat ≤ 0x20) = false := decide_eq_false hc
  have hend : stripEnd (·.toNat ≤ 0x20) rest = rest := by
    have hback : rest.reverse.dropWhile (·.toNat ≤ 0x20) = rest.reverse := by
      rw [List.dropWhile_eq_self_iff]
      intro hpos
      simpa [IsLow] using ht _ (List.mem_reverse.mp (List.getElem_mem hpos))
    rw [stripEnd, hback, List.reverse_reverse]
  have hrest : ∀ d ∈ c :: rest, ¬ IsLow d := List.forall_mem_cons.mpr ⟨hc, ht⟩
  rw [cleaned, stripBoth_append_mark hmark, hend, List.filter_append, filter_of_not_low hrest]

/-- What is kept of a text whatever stands around it. -/
def kept (s : List Char) : List Char := s.filter fun c => c != '\t' && c != '\n' && c != '\r'

theorem not_low_of_cleaned (h : (cleaned s).getLast? = some c) : ¬ IsLow c := by
  intro hlow
  have htrimmed := trimmed_stripBoth (·.toNat ≤ 0x20) s
  unfold cleaned at h
  rcases List.eq_nil_or_concat' (stripBoth (·.toNat ≤ 0x20) s) with hnil | ⟨front, d, hd⟩
  · rw [hnil] at h
    cases h
  · have hnot : ¬ IsLow d := by
      have hlast := htrimmed.last d (hd ▸ List.getLast?_concat)
      simpa [IsLow] using hlast
    rw [hd, List.filter_append, filter_of_not_low fun c hc => List.mem_singleton.mp hc ▸ hnot,
      List.getLast?_concat] at h
    exact hnot (Option.some.inj h ▸ hlow)

/-- Where something is added to a text, the blanks at its end are no longer at an end. -/
theorem exists_cleaned_append (s : List Char) : ∃ lead blanks, (∀ c ∈ blanks, IsLow c) ∧
    kept s = lead ++ (cleaned s ++ blanks) ∧
    ∀ mark rest, ¬ IsLow mark → (∀ c ∈ rest, ¬ IsLow c) →
      cleaned (s ++ mark :: rest) = cleaned s ++ (blanks ++ mark :: rest) := by
  obtain ⟨ends, hends, hsplit⟩ := exists_stripEnd_append (·.toNat ≤ 0x20)
    (s.dropWhile (·.toNat ≤ 0x20))
  have hkept : kept (s.dropWhile (·.toNat ≤ 0x20)) = cleaned s ++ kept ends := by
    rw [hsplit, kept, List.filter_append]
    rfl
  refine ⟨kept (s.takeWhile (·.toNat ≤ 0x20)), kept ends, fun c hc => ?_, ?_,
    fun mark rest hmark hrest => ?_⟩
  · simpa [IsLow] using hends c (List.mem_filter.mp hc).1
  · rw [← hkept, kept, kept, kept, ← List.filter_append, List.takeWhile_append_dropWhile]
  · rw [cleaned_append_mark hmark hrest, ← kept, hkept, List.append_assoc]

/-! ## Schemes and authorities -/

theorem splitScheme?_append {more : List Char}
    (hmore : ∀ c, more.head? = some c → isSchemeChar c = false ∧ c ≠ ':') (s : List Char) :
    splitScheme? (s ++ more) = (splitScheme? s).map fun p => (p.1, p.2 ++ more) := by
  unfold splitScheme?
  rw [List.dropWhile_append, List.takeWhile_append]
  cases hdrop : s.dropWhile isSchemeChar with
  | nil =>
      cases more with
      | nil => rfl
      | cons c more =>
          obtain ⟨hscheme, hcolon⟩ := hmore c rfl
          rw [List.isEmpty_nil, if_pos rfl, List.dropWhile_cons_of_neg (by simp [hscheme])]
          split
          · rename_i heq
            exact absurd (List.cons.inj heq).1 hcolon
          · rfl
  | cons d after =>
      have hcut : (s.takeWhile isSchemeChar).length ≠ s.length := by
        have hlength := congrArg List.length
          (List.takeWhile_append_dropWhile (p := isSchemeChar) (l := s))
        rw [List.length_append, hdrop, List.length_cons] at hlength
        omega
      have hhead : (s ++ more).head? = s.head? := by
        cases s with
        | nil => cases hdrop
        | cons => rfl
      rw [List.isEmpty_cons, if_neg (by decide), if_neg hcut, hhead, List.cons_append]
      by_cases hd : d = ':'
      · subst hd
        change (if _ then some _ else none) = Option.map _ (if _ then some _ else none)
        split <;> rfl
      · split
        · rename_i heq
          exact absurd (List.cons.inj heq).1 hd
        · split
          · rename_i heq
            exact absurd (List.cons.inj heq).1 hd
          · rfl

/-- The scheme of an address, and its authority if the scheme is special. -/
def front? (s : List Char) : Option (List Char × List Char) :=
  (splitScheme? s).map fun p =>
    (p.1, (p.2.dropWhile (isSlash true)).takeWhile (! endsAuthority true ·))

theorem front?_eq_some (h : front? s = some (scheme, authority)) :
    ∃ rest, splitScheme? s = some (scheme, rest) ∧
      (rest.dropWhile (isSlash true)).takeWhile (! endsAuthority true ·) = authority := by
  obtain ⟨⟨first, rest⟩, hsplit, hfront⟩ := Option.map_eq_some_iff.mp h
  obtain ⟨rfl, rfl⟩ := Prod.mk.inj hfront
  exact ⟨rest, hsplit, rfl⟩

theorem slash_ends (more : List Char) (c : Char) (hc : ('/' :: more).head? = some c) :
    isSchemeChar c = false ∧ c ≠ ':' :=
  Option.some.inj hc ▸ by decide

theorem blank_or_slash {more : List Char} (hblanks : ∀ c ∈ blanks, IsLow c) (c : Char)
    (hc : (blanks ++ '/' :: more).head? = some c) : isSchemeChar c = false ∧ c ≠ ':' := by
  cases blanks with
  | nil => exact slash_ends more c hc
  | cons d blanks =>
      have hlow : IsLow c := hblanks c (Option.some.inj hc ▸ List.mem_cons_self)
      exact hlow.induct (P := fun c => isSchemeChar c = false ∧ c ≠ ':') (by decide)

/-- What follows the authority of an address of a special scheme. -/
def behind? (s : List Char) : Option (List Char) :=
  (splitScheme? s).map fun p =>
    (p.2.dropWhile (isSlash true)).dropWhile (! endsAuthority true ·)

theorem exists_behind? (h : front? s = some (scheme, authority)) :
    ∃ rest, behind? s = some rest := by
  obtain ⟨rest, hsplit, -⟩ := front?_eq_some h
  exact ⟨_, by rw [behind?, hsplit]; rfl⟩

/-- Behind an address come blanks and a slash.  Where nothing follows the authority it goes on with
the blanks, and else they follow what is there already. -/
theorem front_behind?_append (h : front? s = some (scheme, authority)) (hauthority : authority ≠ [])
    (hrest : behind? s = some rest) (hblanks : ∀ c ∈ blanks, IsLow c) (more : List Char) :
    front? (s ++ (blanks ++ '/' :: more)) =
        some (scheme, authority ++ if rest = [] then blanks else []) ∧
      behind? (s ++ (blanks ++ '/' :: more)) =
        some (rest ++ ((if rest = [] then [] else blanks) ++ '/' :: more)) := by
  obtain ⟨after, hsplit, rfl⟩ := front?_eq_some h
  have hlong : splitScheme? (s ++ (blanks ++ '/' :: more)) =
      some (scheme, after ++ (blanks ++ '/' :: more)) := by
    rw [splitScheme?_append (blank_or_slash hblanks), hsplit, Option.map_some]
  have hbody : after.dropWhile (isSlash true) ≠ [] := by
    intro hnil
    rw [hnil] at hauthority
    exact hauthority rfl
  rw [behind?, hsplit] at hrest
  rw [front?, behind?, hlong]
  simp only [Option.map_some, Option.some.injEq, Prod.mk.injEq, true_and] at hrest ⊢
  rw [List.dropWhile_append, if_neg (by simpa using hbody), ← List.append_assoc,
    takeWhile_append_mark (by decide), dropWhile_append_mark (by decide), List.takeWhile_append,
    List.dropWhile_append, hrest]
  generalize after.dropWhile (isSlash true) = body at hrest
  have hpass : ∀ c ∈ blanks, (! endsAuthority true c) = true := fun c hc =>
    (hblanks c hc).induct (P := fun c => (! endsAuthority true c) = true) (by decide)
  have hwhole : rest = [] ↔ (body.takeWhile (! endsAuthority true ·)).length = body.length := by
    have hparts := congrArg List.length
      (List.takeWhile_append_dropWhile (p := (! endsAuthority true ·)) (l := body))
    rw [List.length_append, hrest] at hparts
    rw [← List.length_eq_zero_iff]
    omega
  by_cases hnil : rest = []
  · rw [if_pos (hwhole.mp hnil), if_pos hnil, if_pos hnil, if_pos (by simp [hnil]),
      List.takeWhile_eq_self_iff.mpr hpass, List.dropWhile_eq_nil_iff.mpr hpass,
      List.IsPrefix.eq_of_length (List.takeWhile_prefix _) (hwhole.mp hnil), hnil]
    exact ⟨rfl, rfl⟩
  · rw [if_neg (mt hwhole.mpr hnil), if_neg hnil, if_neg hnil, if_neg (by simpa using hnil),
      List.append_nil, List.append_assoc]
    exact ⟨rfl, rfl⟩

/-- The authority of an address ends before a slash, or goes on with the blanks before it. -/
theorem front?_append (h : front? s = some (scheme, authority)) (hauthority : authority ≠ [])
    (hblanks : ∀ c ∈ blanks, IsLow c) : ∃ ends, (ends = [] ∨ ends = blanks) ∧
      ∀ more, front? (s ++ (blanks ++ '/' :: more)) = some (scheme, authority ++ ends) := by
  obtain ⟨rest, hrest⟩ := exists_behind? h
  refine ⟨if rest = [] then blanks else [], ?_, fun more =>
    (front_behind?_append h hauthority hrest hblanks more).1⟩
  split
  · exact .inr rfl
  · exact .inl rfl

theorem front?_of_slash (h : front? (s ++ ['/']) = some (scheme, authority))
    (hauthority : authority ≠ []) : front? s = some (scheme, authority) := by
  unfold front? at h ⊢
  rw [splitScheme?_append (slash_ends [])] at h
  cases hsplit : splitScheme? s with
  | none =>
      rw [hsplit] at h
      cases h
  | some split =>
      obtain ⟨first, rest⟩ := split
      rw [hsplit, Option.map_some, Option.map_some] at h
      obtain ⟨rfl, hcut⟩ := Prod.mk.inj (Option.some.inj h)
      rw [List.dropWhile_append] at hcut
      split at hcut
      · exact absurd hcut.symm hauthority
      · rw [takeWhile_append_mark (by decide)] at hcut
        rw [Option.map_some, hcut]

/-- Behind a base come blanks that end it and the slash of a path. -/
theorem front?_below {front text : List Char} (hblanks : ∀ c ∈ blanks, IsLow c)
    (htext : text = front ∨ text = front ++ ['/']) (hfront : front? text = some (scheme, authority))
    (hauthority : authority ≠ []) : ∃ ends, (ends = [] ∨ ends = blanks) ∧
      ∀ more, front? (front ++ (blanks ++ '/' :: more)) = some (scheme, authority ++ ends) := by
  have hself : front? front = some (scheme, authority) := by
    rcases htext with rfl | rfl
    · exact hfront
    · exact front?_of_slash hfront hauthority
  exact front?_append hself hauthority hblanks

/-- An address ends with its authority and what follows that. -/
theorem front_behind?_suffix (h : front? s = some (scheme, authority)) (hrest : behind? s = some rest) :
    authority ++ rest <:+ s := by
  obtain ⟨after, hsplit, rfl⟩ := front?_eq_some h
  rw [behind?, hsplit] at hrest
  obtain rfl := Option.some.inj hrest
  have hafter : after <:+ s := by
    unfold splitScheme? at hsplit
    split at hsplit
    · rename_i tail htail
      split at hsplit
      · obtain ⟨-, rfl⟩ := Prod.mk.inj (Option.some.inj hsplit)
        exact (List.suffix_cons ':' tail).trans (htail ▸ List.dropWhile_suffix isSchemeChar)
      · cases hsplit
    · cases hsplit
  rw [List.takeWhile_append_dropWhile]
  exact (List.dropWhile_suffix _).trans hafter

theorem behind?_append (h : front? s = some (scheme, authority)) (hauthority : authority ≠ [])
    (hrest : behind? s = some rest) (more : List Char) :
    behind? (s ++ '/' :: more) = some (rest ++ '/' :: more) := by
  have hnone : ∀ c ∈ ([] : List Char), IsLow c := List.forall_mem_nil _
  simpa using (front_behind?_append h hauthority hrest hnone more).2

/-- An address that ends in a slash has it behind its authority. -/
theorem behind?_ends (h : front? s = some (scheme, authority)) (hauthority : authority ≠ [])
    (hrest : behind? s = some rest) (hlast : s.getLast? = some c) (hc : isSlash true c = true) :
    ∃ before, rest = before ++ [c] := by
  obtain ⟨lead, hs⟩ := front_behind?_suffix h hrest
  rcases List.eq_nil_or_concat' rest with rfl | ⟨before, d, rfl⟩
  · obtain ⟨after, -, hcut⟩ := front?_eq_some h
    rw [← hs, List.append_nil, List.getLast?_append,
      List.getLast?_eq_some_getLast hauthority, Option.some_or] at hlast
    have hmem : c ∈ authority := Option.some.inj hlast ▸ List.getLast_mem hauthority
    have hnot := List.mem_takeWhile_imp (hcut ▸ hmem)
    simp [endsAuthority, hc] at hnot
  · rw [← hs, ← List.append_assoc, ← List.append_assoc, List.getLast?_concat] at hlast
    exact ⟨before, by rw [Option.some.inj hlast]⟩

theorem scheme_below {front text more authority' scheme' : List Char}
    (hblanks : ∀ c ∈ blanks, IsLow c) (htext : text = front ∨ text = front ++ ['/'])
    (hfront : front? text = some (scheme, authority))
    (hbelow : front? (front ++ (blanks ++ '/' :: more)) = some (scheme', authority')) :
    scheme' = scheme := by
  have happend : ∀ more, (∀ c, more.head? = some c → isSchemeChar c = false ∧ c ≠ ':') →
      (front? (front ++ more)).map Prod.fst = (splitScheme? front).map Prod.fst := by
    intro more hmore
    rw [front?, splitScheme?_append hmore, Option.map_map, Option.map_map]
    rfl
  have hself : (front? text).map Prod.fst = (splitScheme? front).map Prod.fst := by
    rcases htext with rfl | rfl
    · rw [front?, Option.map_map]
      rfl
    · exact happend _ (slash_ends [])
  have hlong := happend (blanks ++ '/' :: more) (blank_or_slash hblanks)
  rw [hfront] at hself
  rw [hbelow, ← hself] at hlong
  exact Option.some.inj hlong

/-! ## Reading an address -/

theorem bind_eq_ok {ε α β : Type} {x : Except ε α} {f : α → Except ε β} {b : β}
    (h : x >>= f = .ok b) : ∃ a, x = .ok a ∧ f a = .ok b := by
  cases x with
  | error e => cases h
  | ok a => exact ⟨a, rfl, h⟩

theorem map_eq_ok {ε α β : Type} {x : Except ε α} {f : α → β} {b : β} (h : x.map f = .ok b) :
    ∃ a, x = .ok a ∧ f a = b := by
  cases x with
  | error e => cases h
  | ok a => exact ⟨a, rfl, Except.ok.inj h⟩

theorem parseAuthority_eq_ok {special : Bool} (h : parseAuthority u special authority = .ok v) :
    ∃ hostText after host,
      splitHost false (authority.reverse.takeWhile (· ≠ '@')).reverse = (hostText, after) ∧
      (if special then Host.parse hostText else Host.parseOpaque hostText) = .ok host ∧
      (∀ mark digits, after = mark :: digits → ∃ port, parsePort u.scheme digits = .ok port) ∧
      (hostText = [] → special = false) ∧
      v.scheme = u.scheme := by
  unfold parseAuthority at h
  dsimp only at h
  generalize splitHost false (authority.reverse.takeWhile (· ≠ '@')).reverse = cut at h ⊢
  obtain ⟨hostText, after⟩ := cut
  dsimp only at h
  split at h
  · cases h
  · rename_i hempty
    have hread : ∃ host, (if special then Host.parse hostText else Host.parseOpaque hostText) =
        .ok host ∧ v.scheme = u.scheme ∧
          ∀ mark digits, after = mark :: digits → ∃ port, parsePort u.scheme digits = .ok port := by
      cases special
      all_goals
        simp only [Bool.false_eq_true, if_true, if_false] at h ⊢
        obtain ⟨host, hhost, h⟩ := bind_eq_ok h
        refine ⟨host, hhost, ?_⟩
        split at h
        · exact ⟨Except.ok.inj h ▸ rfl, by simp⟩
        · obtain ⟨port, hport, h⟩ := bind_eq_ok h
          exact ⟨Except.ok.inj h ▸ rfl, fun _ _ heq => ⟨port, (List.cons.inj heq).2 ▸ hport⟩⟩
    obtain ⟨host, hhost, hscheme, hport⟩ := hread
    refine ⟨hostText, after, host, rfl, hhost, hport, ?_, hscheme⟩
    rintro rfl
    cases special with
    | false => rfl
    | true => simp at hempty

/-- A host ends where a port starts, with a colon. -/
theorem splitHost_eq {bracketed : Bool} {host after : List Char}
    (h : splitHost bracketed s = (host, after)) :
    s = host ++ after ∧ ∀ d, after.head? = some d → d = ':' := by
  induction s generalizing bracketed host with
  | nil =>
      obtain ⟨rfl, rfl⟩ := Prod.mk.inj h
      exact ⟨rfl, nofun⟩
  | cons c s ih =>
      unfold splitHost at h
      split at h
      · rename_i hcolon
        obtain ⟨rfl, rfl⟩ := Prod.mk.inj h
        rw [Bool.and_eq_true, decide_eq_true_eq] at hcolon
        exact ⟨rfl, fun d hd => Option.some.inj hd ▸ hcolon.1⟩
      · obtain ⟨rfl, rfl⟩ := Prod.mk.inj h
        obtain ⟨hs, hcolon⟩ := ih rfl
        exact ⟨congrArg (c :: ·) hs, hcolon⟩

/-- The authority of a special scheme is not empty and does not end with a blank. -/
theorem parseAuthority_special (h : parseAuthority u true authority = .ok v) :
    authority ≠ [] ∧ ∀ c, authority.getLast? = some c → ¬ IsLow c := by
  obtain ⟨hostText, after, host, hcut, hhost, hport, hempty, -⟩ := parseAuthority_eq_ok h
  rw [if_pos rfl] at hhost
  constructor
  · rintro rfl
    obtain ⟨rfl, -⟩ := Prod.mk.inj hcut
    exact nomatch hempty rfl
  · intro c hlast hlow
    have htail : (authority.reverse.takeWhile (· ≠ '@')).reverse.getLast? = some c := by
      rw [List.getLast?_reverse]
      cases hrev : authority.reverse with
      | nil => simp_all
      | cons d more =>
          rw [← List.head?_reverse, hrev] at hlast
          obtain rfl := Option.some.inj hlast
          rw [List.takeWhile_cons_of_pos (by simpa using hlow.ne (by decide))]
          rfl
    obtain ⟨hwhole, hcolon⟩ := splitHost_eq hcut
    rw [hwhole] at htail
    cases after with
    | nil =>
        rw [List.append_nil] at htail
        exact Host.parse_low hlow htail hhost
    | cons mark digits =>
        obtain ⟨port, hparse⟩ := hport mark digits rfl
        unfold parsePort at hparse
        split at hparse
        · rename_i hdigits
          rw [List.getLast?_append, List.getLast?_cons, Option.some_or] at htail
          cases hdigit : digits.getLast? with
          | none =>
              rw [hdigit, hcolon mark rfl] at htail
              exact hlow.ne (by decide) (Option.some.inj htail).symm
          | some d =>
              rw [hdigit] at htail
              obtain rfl : d = c := Option.some.inj htail
              have hisDigit := List.all_eq_true.mp hdigits d (List.mem_of_getLast? hdigit)
              exact nomatch hlow.not_isDigit.symm.trans hisDigit
        · cases hparse

theorem scheme_parseFile (h : parseFile s = .ok u) : u.scheme = "file".toList := by
  unfold parseFile at h
  dsimp only at h
  split at h
  · split at h
    · split at h
      · rw [← Except.ok.inj h]
      · split at h
        · rw [← Except.ok.inj h]
        · obtain ⟨host, -, h⟩ := bind_eq_ok h
          rw [← Except.ok.inj h]
    · rw [← Except.ok.inj h]
  · rw [← Except.ok.inj h]

theorem scheme_afterSlashes {special : Bool} (h : afterSlashes scheme special s = .ok u) :
    u.scheme = scheme := by
  obtain ⟨v, hv, h⟩ := bind_eq_ok h
  obtain ⟨-, -, -, -, -, -, -, hscheme⟩ := parseAuthority_eq_ok hv
  rw [← Except.ok.inj h]
  exact hscheme

theorem scheme_parseOther (h : parseOther scheme s = .ok u) : u.scheme = scheme := by
  unfold parseOther at h
  split at h
  · exact scheme_afterSlashes h
  · rw [← Except.ok.inj h]
    rfl
  · rw [← Except.ok.inj h]

theorem front?_of_parse {text : String} (h : parse text = .ok u) :
    ∃ authority, front? (cleaned text.toList) = some (u.scheme, authority) := by
  unfold parse at h
  split at h
  · cases h
  · rename_i scheme rest hsplit
    have hscheme : u.scheme = scheme := by
      split at h
      · rename_i hkind
        rw [scheme_parseFile h]
        unfold kindOf at hkind
        split at hkind
        · rename_i hfile
          exact hfile.symm
        · split at hkind <;> cases hkind
      · exact scheme_afterSlashes h
      · exact scheme_parseOther h
    exact ⟨_, by rw [front?, hsplit, hscheme]; rfl⟩

/-! ## Paths -/

def Rooted (u : Url) : Prop :=
  (∃ segments, u.path = .segments segments) ∧ u.pathText.head? = some '/'

theorem pushSegment_last_ne_nil (file : Bool) (path : List (List Char)) (segment : List Char) :
    pushSegment file path segment true ≠ [] := by
  unfold pushSegment
  dsimp only
  repeat' split
  all_goals simp_all

theorem pathOf_ne_nil (file : Bool) {segments : List (List Char)} (h : segments ≠ []) :
    pathOf file segments ≠ [] := by
  unfold pathOf
  rw [List.getLast?_eq_some_getLast h]
  exact pushSegment_last_ne_nil _ _ _

theorem rooted_withRest (u : Url) (rest : List Char) : (u.withRest true rest).Rooted := by
  refine ⟨⟨_, rfl⟩, ?_⟩
  have hpath : pathOf false (segmentsOf true (beforeQuery rest)) ≠ [] :=
    pathOf_ne_nil false (by simpa [segmentsOf] using pieces_ne_nil _ _)
  obtain ⟨segment, more, hcons⟩ := List.exists_cons_of_ne_nil hpath
  have hsegments : (u.withRest true rest).path = .segments (segment :: more) := by
    unfold withRest
    dsimp only
    rw [Bool.not_true, Bool.and_false, if_neg (by decide), hcons]
  unfold pathText
  rw [hsegments]
  rfl

/-- An address of a special scheme is read in three parts: its scheme, its authority, and what
follows. -/
theorem parse_behind {text : String}
    (hfront : front? (cleaned text.toList) = some (scheme, authority))
    (hspecial : kindOf scheme = .special) :
    ∃ rest, behind? (cleaned text.toList) = some rest ∧ parse text =
      (parseAuthority { scheme := scheme } true authority).map (·.withRest true rest) := by
  obtain ⟨rest, hsplit, rfl⟩ := front?_eq_some hfront
  refine ⟨(rest.dropWhile (isSlash true)).dropWhile (! endsAuthority true ·), ?_, ?_⟩
  · rw [behind?, hsplit]
    rfl
  · unfold parse
    rw [hsplit]
    dsimp only
    rw [hspecial]
    rfl

theorem parse_special {text : String}
    (hfront : front? (cleaned text.toList) = some (scheme, authority))
    (hspecial : kindOf scheme = .special) :
    ∃ rest, parse text =
      (parseAuthority { scheme := scheme } true authority).map (·.withRest true rest) := by
  obtain ⟨rest, -, hread⟩ := parse_behind hfront hspecial
  exact ⟨rest, hread⟩

end ChatTerminal.Web.Url
