import ChatTerminal.Proofs.Web.Address
import ChatTerminal.Proofs.Web.Form
import Mathlib.Data.List.Basic
/-!
# Targets below a base

A path of plain segments, with a query or without one, stands behind the path of the base as it was
written: the segments of the base may be merged with one another, and those of the path follow them.
-/

namespace ChatTerminal.Web

open Text

/-! ## Characters that are kept -/

variable {reserved : Char → Bool} {c : Char} {s t : List Char}

theorem percentEncode_of_kept (h : ∀ c ∈ s, c.toNat < 0x80 ∧ reserved c = false) :
    percentEncode reserved s = s := by
  induction s with
  | nil => rfl
  | cons c s ih =>
      obtain ⟨⟨hascii, hfree⟩, hmore⟩ := List.forall_mem_cons.mp h
      have hkept : (decide (0x80 ≤ c.toNat) || reserved c) = false := by
        simp [hfree, hascii]
      rw [percentEncode, List.flatMap_cons, hkept, ← percentEncode, ih hmore]
      rfl

theorem percentEncode_ne_nil (h : s ≠ []) : percentEncode reserved s ≠ [] := by
  obtain ⟨c, s, rfl⟩ := List.exists_cons_of_ne_nil h
  have hbytes : (charBytes c).flatMap percentByte ≠ [] := by
    unfold charBytes percentByte
    dsimp only
    repeat' split
    all_goals simp
  rw [percentEncode, List.flatMap_cons]
  split <;> simp [hbytes]

theorem not_mem_percentEncode {mark : Char} (hreserved : mark ∈ s → reserved mark = true)
    (hplain : Form.isPlain mark = false) (hpercent : mark ≠ '%') :
    mark ∉ percentEncode reserved s := by
  intro h
  obtain ⟨c, hmem, hc⟩ := List.mem_flatMap.mp h
  split at hc
  · obtain ⟨b, -, hb⟩ := List.mem_flatMap.mp hc
    simp only [percentByte, List.mem_cons, List.not_mem_nil, or_false] at hb
    obtain rfl | rfl | rfl := hb
    · exact hpercent rfl
    · exact absurd (Form.isPlain_hexUpper (d := b / 16 % 16) (by omega)) (by simp [hplain])
    · exact absurd (Form.isPlain_hexUpper (d := b % 16) (by omega)) (by simp [hplain])
  · rename_i hfree
    obtain rfl := List.mem_singleton.mp hc
    simp [hreserved hmem] at hfree

namespace Url

def Word (s : List Char) : Prop := ∀ c ∈ s, c.isAlphanum = true

theorem Word.isPlain (h : Word s) (hc : c ∈ s) : Form.isPlain c = true := by
  simp [Form.isPlain, h c hc]

theorem Word.ne (h : Word s) (hc : c ∈ s) {mark : Char} (hmark : mark.isAlphanum = false) :
    c ≠ mark := by
  rintro rfl
  simp [h c hc] at hmark

theorem Word.undivided (h : Word s) : ∀ c ∈ s, isSlash true c = false := by
  intro c hc
  have hslash : c ≠ '/' := h.ne hc (by decide)
  have hback : c ≠ '\\' := h.ne hc (by decide)
  simp [isSlash, hslash, hback]

theorem Word.reservedInPath (h : Word s) : ∀ c ∈ s, c.toNat < 0x80 ∧ reservedInPath c = false := by
  intro c hc
  obtain ⟨hlow, hhigh⟩ := Form.isPlain_visible (h.isPlain hc)
  have hcontrol : isControl c = false := by
    simp only [isControl, Bool.or_eq_false_iff, Bool.and_eq_false_iff, decide_eq_false_iff_not]
    omega
  have hmark : " \"#<>?^`\x7b\x7d".toList.contains c = false := by
    have hmarks : " \"#<>?^`\x7b\x7d".toList.all (!·.isAlphanum) = true := by decide
    rw [← Bool.not_eq_true, List.contains_iff_mem]
    intro hmem
    have hnot := List.all_eq_true.mp hmarks c hmem
    exact h.ne hc (by simpa using hnot) rfl
  exact ⟨by omega, by rw [Url.reservedInPath, hcontrol, hmark]; rfl⟩

theorem Word.undotted (h : Word s) : isDoubleDot s = false ∧ isSingleDot s = false := by
  cases s with
  | nil => exact ⟨rfl, rfl⟩
  | cons c s =>
      have hdot : c ≠ '.' := h.ne List.mem_cons_self (by decide)
      have hpercent : c ≠ '%' := h.ne List.mem_cons_self (by decide)
      have hself : Url.undotted (c :: s) = c :: s := by
        unfold Url.undotted
        split
        · exact absurd (List.cons.inj ‹_›).1 hpercent
        · exact absurd (List.cons.inj ‹_›).1 hdot
        · rfl
      simp [isDoubleDot, isSingleDot, hself, hdot]

/-! ## Segments -/

variable {before after word query : List Char} {words path : List (List Char)}

def segmentsBehind (s : List Char) : List (List Char) := if s = [] then [] else segmentsOf true s

/-- What becomes of some segments where more of them follow. -/
def merged (segments : List (List Char)) : List (List Char) :=
  segments.foldl (fun path s => pushSegment false path s false) []

theorem pieces_words (hword : Word word) (hwords : ∀ w ∈ words, Word w) :
    pieces (isSlash true) (word ++ words.flatMap ('/' :: ·)) = word :: words := by
  induction words generalizing word with
  | nil =>
      rw [List.flatMap_nil, List.append_nil]
      exact pieces_of_unmarked hword.undivided
  | cons next words ih =>
      obtain ⟨hnext, hmore⟩ := List.forall_mem_cons.mp hwords
      rw [List.flatMap_cons, List.cons_append, pieces_append_mark hword.undivided (by decide),
        ih hnext hmore]

theorem map_percentEncode_words (hwords : ∀ w ∈ words, Word w) :
    words.map (percentEncode reservedInPath) = words := by
  refine (List.map_congr_left fun w hw => ?_).trans (List.map_id words)
  exact percentEncode_of_kept (hwords w hw).reservedInPath

theorem segmentsOf_append (hwords : ∀ w ∈ words, Word w) (hne : words ≠ []) (before : List Char) :
    segmentsOf true (before ++ words.flatMap ('/' :: ·)) = segmentsBehind before ++ words := by
  obtain ⟨word, words, rfl⟩ := List.exists_cons_of_ne_nil hne
  obtain ⟨hword, hmore⟩ := List.forall_mem_cons.mp hwords
  have hpieces : ∀ s, pieces (isSlash true) (s ++ (word :: words).flatMap ('/' :: ·)) =
      pieces (isSlash true) s ++ (word :: words) := by
    intro s
    rw [List.flatMap_cons, List.cons_append, pieces_append (by decide), pieces_words hword hmore]
  have hself := map_percentEncode_words hwords
  unfold segmentsBehind segmentsOf
  cases before with
  | nil =>
      rw [List.nil_append, List.flatMap_cons, List.cons_append, if_pos rfl, List.nil_append]
      dsimp only
      rw [if_pos (by decide), pieces_words hword hmore, hself]
  | cons c before =>
      rw [if_neg (by simp), List.cons_append]
      dsimp only
      split
      · rw [hpieces, List.map_append, hself]
      · rw [← List.cons_append, hpieces, List.map_append, hself]

theorem pushSegment_word (hword : Word word) (path : List (List Char)) (last : Bool) :
    pushSegment false path word last = path ++ [word] := by
  obtain ⟨hdouble, hsingle⟩ := hword.undotted
  unfold pushSegment
  rw [hdouble, hsingle]
  simp only [Bool.false_eq_true, if_false, Bool.false_and]
  split <;> rfl

theorem foldl_words (hwords : ∀ w ∈ words, Word w) (path : List (List Char)) :
    words.foldl (fun path s => pushSegment false path s false) path = path ++ words := by
  induction words generalizing path with
  | nil => exact (List.append_nil path).symm
  | cons word words ih =>
      obtain ⟨hword, hmore⟩ := List.forall_mem_cons.mp hwords
      rw [List.foldl_cons, pushSegment_word hword, ih hmore, List.append_assoc]
      rfl

theorem pathOf_concat (segments : List (List Char)) (last : List Char) :
    pathOf false (segments ++ [last]) = pushSegment false (merged segments) last true := by
  unfold pathOf
  rw [List.dropLast_concat, List.getLast?_concat]
  rfl

theorem pathOf_append (hwords : ∀ w ∈ words, Word w) (hne : words ≠ [])
    (before : List (List Char)) : pathOf false (before ++ words) = merged before ++ words := by
  obtain ⟨front, last, rfl⟩ := List.eq_nil_or_concat' words |>.resolve_left hne
  have hfront : ∀ w ∈ front, Word w := fun w hw => hwords w (List.mem_append_left _ hw)
  have hlast : Word last := hwords last (by simp)
  rw [← List.append_assoc, pathOf_concat, pushSegment_word hlast, merged, List.foldl_append,
    foldl_words hfront, List.append_assoc]
  rfl

/-! ## Targets -/

def spelled (words : List (List Char)) (query : Option (List Char)) : List Char :=
  words.flatMap ('/' :: ·) ++ query.elim [] ('?' :: ·)

/-- Segments and a query that stand for themselves. -/
structure Plain (words : List (List Char)) (query : Option (List Char)) : Prop where
  nonempty : words ≠ []
  words : ∀ w ∈ words, Word w
  query : ∀ q, query = some q → ∀ c ∈ q, Form.Writes c ∨ c = '='

theorem target_eq {u : Url} (h : u.path = .segments words) : u.target = spelled words u.query := by
  unfold target pathText spelled
  rw [h]
  cases u.query <;> rfl

def Unmarked (s : List Char) : Prop := ∀ c ∈ s, c ≠ '?' ∧ c ≠ '#'

theorem Unmarked.beforeQuery_append (h : Unmarked s) (t : List Char) :
    beforeQuery (s ++ t) = s ++ beforeQuery t := by
  unfold beforeQuery
  rw [List.takeWhile_append_of_pos]
  simpa [Unmarked] using h

theorem Unmarked.fromQuery_append (h : Unmarked s) (t : List Char) :
    fromQuery (s ++ t) = fromQuery t := by
  unfold fromQuery
  rw [List.dropWhile_append_of_pos]
  simpa [Unmarked] using h

theorem Word.unmarked (h : Word s) : Unmarked s := fun _ hc =>
  ⟨h.ne hc (by decide), h.ne hc (by decide)⟩

theorem unmarked_words (hwords : ∀ w ∈ words, Word w) : Unmarked (words.flatMap ('/' :: ·)) := by
  intro c hc
  obtain ⟨w, hw, hc⟩ := List.mem_flatMap.mp hc
  obtain rfl | hc := List.mem_cons.mp hc
  · decide
  · exact (hwords w hw).unmarked c hc

theorem reservedInQuery_of_writes (h : Form.Writes c ∨ c = '=') :
    c.toNat < 0x80 ∧ reservedInQuery true c = false ∧ c ≠ '#' := by
  obtain h | rfl := h
  · obtain ⟨hlow, hhigh⟩ := h.visible
    have hcontrol : isControl c = false := by
      simp only [isControl, Bool.or_eq_false_iff, Bool.and_eq_false_iff, decide_eq_false_iff_not]
      omega
    have hmark : " \"#<>".toList.contains c = false := by
      have hmarks : " \"#<>".toList.all (fun mark => !Form.isPlain mark && mark != '+' &&
          mark != '%') = true := by decide
      rw [← Bool.not_eq_true, List.contains_iff_mem]
      intro hmem
      have hnot := List.all_eq_true.mp hmarks c hmem
      simp only [Bool.and_eq_true, Bool.not_eq_true', bne_iff_ne, ne_eq] at hnot
      exact h.ne hnot.1.1 hnot.1.2 hnot.2 rfl
    have hquote : c ≠ '\'' := h.ne (by decide) (by decide) (by decide)
    have hnumber : c ≠ '#' := h.ne (by decide) (by decide) (by decide)
    refine ⟨by omega, ?_, hnumber⟩
    rw [reservedInQuery, hcontrol, hmark]
    simpa using hquote
  · decide

theorem queryAndFragment_plain (hquery : ∀ c ∈ query, Form.Writes c ∨ c = '=') :
    queryAndFragment true ('?' :: query) = (some query, none) := by
  have hall : ∀ c ∈ '?' :: query, decide (c ≠ '#') = true := by
    simp only [List.forall_mem_cons, decide_eq_true_eq]
    exact ⟨by decide, fun c hc => (reservedInQuery_of_writes (hquery c hc)).2.2⟩
  have hkept : percentEncode (reservedInQuery true) query = query :=
    percentEncode_of_kept fun c hc =>
      have h := reservedInQuery_of_writes (hquery c hc)
      ⟨h.1, h.2.1⟩
  unfold queryAndFragment
  rw [List.takeWhile_eq_self_iff.mpr hall, List.dropWhile_eq_nil_iff.mpr hall]
  exact congrArg (fun q => (some q, none)) hkept

section WithRest

variable {query : Option (List Char)} (hbefore : Unmarked before) (hplain : Plain words query)
include hbefore hplain

theorem path_withRest (v : Url) : (v.withRest true (before ++ spelled words query)).path =
    .segments (merged (segmentsBehind before) ++ words) := by
  have htext : beforeQuery (before ++ spelled words query) =
      before ++ words.flatMap ('/' :: ·) := by
    rw [hbefore.beforeQuery_append, spelled, (unmarked_words hplain.words).beforeQuery_append]
    cases query <;> simp [beforeQuery]
  unfold withRest
  dsimp only
  rw [htext, segmentsOf_append hplain.words hplain.nonempty,
    pathOf_append hplain.words hplain.nonempty]
  simp

theorem query_withRest (v : Url) :
    (v.withRest true (before ++ spelled words query)).query = query := by
  unfold withRest
  dsimp only
  rw [hbefore.fromQuery_append, spelled, (unmarked_words hplain.words).fromQuery_append]
  cases query with
  | none => rfl
  | some q => exact congrArg Prod.fst (queryAndFragment_plain (hplain.query q rfl))

/-- Behind what follows an authority, a plain path is written as it is. -/
theorem target_withRest (v : Url) : (v.withRest true (before ++ spelled words query)).target =
    (merged (segmentsBehind before)).flatMap ('/' :: ·) ++ spelled words query := by
  rw [target_eq (path_withRest hbefore hplain v), query_withRest hbefore hplain, spelled, spelled,
    List.flatMap_append, List.append_assoc]

end WithRest

/-! ## The path of a base -/

theorem unmarked_of_withRest {v : Url} (hquery : (v.withRest true rest).query = none)
    (hfragment : (v.withRest true rest).fragment = none) : Unmarked rest := by
  unfold withRest at hquery hfragment
  dsimp only at hquery hfragment
  have hall : ∀ c ∈ rest, (c != '?' && c != '#') = true := by
    rw [← List.dropWhile_eq_nil_iff]
    by_contra hsome
    obtain ⟨c, more, hmore⟩ := List.exists_cons_of_ne_nil hsome
    have hmark := List.head?_dropWhile_not (fun c => c != '?' && c != '#') rest
    rw [hmore] at hmark
    rw [fromQuery, hmore] at hquery hfragment
    by_cases hnumber : c = '#'
    · subst hnumber
      simp [queryAndFragment] at hfragment
    · obtain rfl : c = '?' := by simpa [hnumber] using hmark
      simp [queryAndFragment] at hquery
  intro c hc
  simpa using hall c hc

theorem pushSegment_ends (path : List (List Char)) (s : List Char) :
    pushSegment false path s true = pushSegment false path s false ++ [[]] ∨
      ∀ last, pushSegment false path s last = path ++ [s] := by
  unfold pushSegment
  split
  · exact .inl rfl
  · split
    · exact .inl rfl
    · refine .inr fun _ => ?_
      simp only [Bool.false_and, Bool.false_eq_true, if_false]
      split <;> rfl

theorem pieces_ends {p : Char → Bool} (hlast : s.getLast? = some c) (hc : p c = false) :
    ∃ front last, pieces p s = front ++ [last] ∧ last ≠ [] := by
  induction s with
  | nil => cases hlast
  | cons d s ih =>
      cases s with
      | nil =>
          obtain rfl : d = c := Option.some.inj hlast
          exact ⟨[], [d], by simp [pieces, hc], by simp⟩
      | cons e s =>
          obtain ⟨front, last, hpieces, hne⟩ := ih (by simpa using hlast)
          cases hd : p d with
          | true => exact ⟨[] :: front, last, by rw [pieces_cons_mark hd, hpieces]; rfl, hne⟩
          | false =>
              obtain ⟨piece, more, hsome, hcons⟩ := pieces_cons (s := e :: s) hd
              rw [hpieces] at hsome
              rw [hcons]
              cases front with
              | nil =>
                  obtain ⟨rfl, rfl⟩ := List.cons.inj hsome
                  exact ⟨[], d :: last, rfl, by simp⟩
              | cons first front =>
                  obtain ⟨rfl, rfl⟩ := List.cons.inj hsome
                  exact ⟨(d :: first) :: front, last, rfl, hne⟩

theorem segmentsOf_ends (hlast : s.getLast? = some c) (hc : isSlash true c = false) :
    ∃ front last, segmentsOf true s = front ++ [last] ∧ last ≠ [] ∧ '/' ∉ last := by
  have hends : ∀ s : List Char, s.getLast? = some c → ∃ front last,
      (pieces (isSlash true) s).map (percentEncode reservedInPath) = front ++ [last] ∧
        last ≠ [] ∧ '/' ∉ last := by
    intro s hs
    obtain ⟨front, last, hpieces, hne⟩ := pieces_ends hs hc
    refine ⟨_, _, by rw [hpieces, List.map_append, List.map_singleton],
      percentEncode_ne_nil hne, ?_⟩
    apply not_mem_percentEncode
    · intro hmem
      have hslash := unmarked_of_mem_pieces (hpieces ▸ (by simp : last ∈ front ++ [last])) '/' hmem
      exact absurd hslash (by decide)
    · decide
    · decide
  unfold segmentsOf
  cases s with
  | nil => cases hlast
  | cons d s =>
      dsimp only
      split
      · rename_i hslash
        refine hends s ?_
        cases s with
        | nil =>
            obtain rfl : d = c := Option.some.inj hlast
            exact absurd hslash (by simp [hc])
        | cons e s => simpa using hlast
      · exact hends _ hlast

theorem segmentsOf_concat (hc : isSlash true c = true) (before : List Char) :
    segmentsOf true (before ++ [c]) = segmentsBehind before ++ [[]] := by
  have hpieces : ∀ s, pieces (isSlash true) (s ++ [c]) = pieces (isSlash true) s ++ [[]] :=
    fun s => pieces_append hc s []
  unfold segmentsBehind segmentsOf
  cases before with
  | nil =>
      rw [List.nil_append, if_pos rfl]
      dsimp only
      rw [if_pos hc]
      rfl
  | cons d before =>
      rw [if_neg (by simp), List.cons_append]
      dsimp only
      split
      · rw [hpieces, List.map_append]
        rfl
      · rw [← List.cons_append, hpieces, List.map_append]
        rfl

theorem pathText_of_slash (v : Url) (hafter : Unmarked after) (hc : isSlash true c = true) :
    (v.withRest true (after ++ [c])).pathText =
      (merged (segmentsBehind after)).flatMap ('/' :: ·) ++ ['/'] := by
  have htext : beforeQuery (after ++ [c]) = after ++ [c] := by
    have hmark : c ≠ '?' ∧ c ≠ '#' := by
      constructor
      all_goals
        rintro rfl
        exact absurd hc (by decide)
    rw [hafter.beforeQuery_append]
    simp [beforeQuery, hmark]
  have hpath : (v.withRest true (after ++ [c])).path =
      .segments (merged (segmentsBehind after) ++ [[]]) := by
    unfold withRest
    dsimp only
    rw [htext, segmentsOf_concat hc, pathOf_concat]
    simp [pushSegment, isDoubleDot, isSingleDot, undotted]
  unfold pathText
  rw [hpath]
  simp

/-- A base that ends in no slash.  Its path ends in one all the same where the last segment is a dot
or two, and the segment is the end of the path otherwise. -/
theorem pathText_of_no_slash (v : Url) (hrest : Unmarked rest) (hlast : rest.getLast? = some c)
    (hc : isSlash true c = false) :
    let front := (merged (segmentsBehind rest)).flatMap ('/' :: ·)
    (v.withRest true rest).pathText = front ++ ['/'] ∨
      (v.withRest true rest).pathText = front ∧ front ≠ [] ∧ front.getLast? ≠ some '/' := by
  intro front
  obtain ⟨segments, last, hsegments, hne, hfree⟩ := segmentsOf_ends hlast hc
  have hsome : rest ≠ [] := by
    rintro rfl
    cases hlast
  have htext : beforeQuery rest = rest := by
    simpa [beforeQuery] using hrest.beforeQuery_append []
  have hmerged : merged (segmentsBehind rest) = pushSegment false (merged segments) last false := by
    rw [segmentsBehind, if_neg hsome, hsegments, merged, List.foldl_append]
    rfl
  have hpath : (v.withRest true rest).path =
      .segments (pushSegment false (merged segments) last true) := by
    unfold withRest
    dsimp only
    rw [htext, hsegments, pathOf_concat]
    simp
  simp only [front, pathText, hpath, hmerged]
  obtain hmore | hself := pushSegment_ends (merged segments) last
  · rw [hmore]
    exact .inl (by simp)
  · rw [hself, hself]
    refine .inr ⟨rfl, by simp, fun hslash => hfree ?_⟩
    have hback : ((merged segments ++ [last]).flatMap ('/' :: ·)).getLast? = last.getLast? := by
      rw [List.flatMap_append, List.flatMap_singleton, List.getLast?_append, List.getLast?_cons,
        List.getLast?_eq_some_getLast hne]
      rfl
    exact List.mem_of_getLast? (hback.symm.trans hslash)

/-- What the path of a base comes to, without the slash that ends it. -/
theorem pathText_withRest (v : Url) (hafter : Unmarked after)
    (hrest : rest = after ++ ['/'] ∨ rest = after ∧
      ∀ c, after.getLast? = some c → isSlash true c = false) :
    let front := (merged (segmentsBehind after)).flatMap ('/' :: ·)
    (v.withRest true rest).pathText = front ++ ['/'] ∨
      (v.withRest true rest).pathText = front ∧ front ≠ [] ∧ front.getLast? ≠ some '/' := by
  intro front
  obtain rfl | ⟨rfl, hends⟩ := hrest
  · exact .inl (pathText_of_slash v hafter (by decide))
  · cases hlast : rest.getLast? with
    | none =>
        obtain rfl := List.getLast?_eq_none_iff.mp hlast
        exact .inl rfl
    | some c => exact pathText_of_no_slash v hafter hlast (hends c hlast)

/-! ## Bases that end in a slash of the other kind, or in blanks -/

def root (u : Url) : List Char :=
  if u.pathText.getLast? = some '/' then u.pathText.dropLast else u.pathText

theorem length_root_le (u : Url) : u.root.length ≤ u.pathText.length := by
  unfold root
  split
  · exact (List.dropLast_sublist _).length_le
  · exact Nat.le_refl _

/-- With a slash at its end the path of a base is longer than without. -/
theorem root_ne_merged (v : Url) (hafter : Unmarked after) (hc : isSlash true c = true) :
    (merged (segmentsBehind (after ++ [c]))).flatMap ('/' :: ·) ≠
      (v.withRest true (after ++ [c])).root := by
  have hmerged : merged (segmentsBehind (after ++ [c])) = merged (segmentsBehind after) ++ [[]] := by
    rw [segmentsBehind, if_neg (by simp), segmentsOf_concat hc, merged, List.foldl_append]
    rfl
  rw [root, pathText_of_slash v hafter hc, if_pos List.getLast?_concat, List.dropLast_concat,
    hmerged, List.flatMap_append]
  intro heq
  simpa using congrArg List.length heq

/-- A percent sign stays unless it is part of a dot. -/
theorem mem_undotted_append {x y : Char} (h : ¬ (x = '2' ∧ (y = 'e' ∨ y = 'E'))) (s : List Char) :
    '%' ∈ undotted (s ++ ['%', x, y]) := by
  generalize htext : s ++ ['%', x, y] = text
  have hmem : '%' ∈ text := by simp [← htext]
  fun_induction undotted text generalizing s with
  | case1 e rest hdot ih =>
      match s, htext with
      | [], htext =>
          obtain ⟨rfl, rfl, -⟩ : x = '2' ∧ y = e ∧ [] = rest := by simpa using htext
          exact absurd ⟨rfl, by simpa using hdot⟩ h
      | [_, _], htext =>
          obtain ⟨-, -, rfl, -⟩ : _ ∧ _ ∧ '%' = e ∧ [x, y] = rest := by simpa using htext
          exact absurd hdot (by decide)
      | _ :: _ :: _ :: more, htext =>
          obtain ⟨-, -, -, hmore⟩ : _ ∧ _ ∧ _ ∧ more ++ ['%', x, y] = rest := by simpa using htext
          exact List.mem_cons_of_mem _ (ih more hmore (by simp [← hmore]))
  | case2 => exact hmem
  | case3 rest ih =>
      cases s with
      | nil => simp at htext
      | cons c more =>
          have hmore := (List.cons.inj htext).2
          exact List.mem_cons_of_mem _ (ih more hmore (by simp [← hmore]))
  | case4 => exact hmem

theorem percentEncode_low (h : IsLow c) : percentEncode reservedInPath [c] = percentByte c.toNat ∧
    ¬ (hexUpper (c.toNat / 16 % 16) = '2' ∧
      (hexUpper (c.toNat % 16) = 'e' ∨ hexUpper (c.toNat % 16) = 'E')) :=
  h.induct (P := fun c => Web.percentEncode reservedInPath [c] = percentByte c.toNat ∧
    ¬ (hexUpper (c.toNat / 16 % 16) = '2' ∧
      (hexUpper (c.toNat % 16) = 'e' ∨ hexUpper (c.toNat % 16) = 'E'))) (by decide)

theorem percentEncode_append (s t : List Char) : percentEncode reserved (s ++ t) =
    percentEncode reserved s ++ percentEncode reserved t := List.flatMap_append

/-- A segment that ends in a low character is no dot and no two dots. -/
theorem pushSegment_of_low (hlow : IsLow c) (path : List (List Char)) (s : List Char) :
    pushSegment false path (s ++ percentEncode reservedInPath [c]) false =
      path ++ [s ++ percentEncode reservedInPath [c]] := by
  obtain ⟨hencode, hdot⟩ := percentEncode_low hlow
  rw [hencode, percentByte]
  have hmem := mem_undotted_append hdot s
  generalize s ++ ['%', hexUpper (c.toNat / 16 % 16), hexUpper (c.toNat % 16)] = segment at hmem ⊢
  have hdouble : isDoubleDot segment = false := by
    rw [isDoubleDot, beq_eq_false_iff_ne]
    intro hdots
    rw [hdots] at hmem
    exact absurd hmem (by decide)
  have hsingle : isSingleDot segment = false := by
    rw [isSingleDot, beq_eq_false_iff_ne]
    intro hdots
    rw [hdots] at hmem
    exact absurd hmem (by decide)
  unfold pushSegment
  rw [hdouble, hsingle]
  simp only [Bool.false_and, Bool.false_eq_true, if_false]
  split <;> rfl

theorem length_flatMap_concat (path : List (List Char)) (s : List Char) :
    ((path ++ [s]).flatMap ('/' :: ·)).length =
      (path.flatMap ('/' :: ·)).length + 1 + s.length := by
  rw [List.flatMap_append, List.flatMap_singleton, List.length_append, List.length_cons,
    Nat.add_assoc, Nat.add_comm 1]

/-- The path of a base is no longer than its segments as they are written. -/
theorem length_pushSegment_le (path : List (List Char)) (s : List Char) :
    ((pushSegment false path s true).flatMap ('/' :: ·)).length ≤
      (path.flatMap ('/' :: ·)).length + 1 + s.length := by
  have hshortened : ((shortened false path).flatMap ('/' :: ·)).length ≤
      (path.flatMap ('/' :: ·)).length := by
    unfold shortened
    split
    · exact Nat.zero_le _
    · obtain ⟨last, hlast⟩ := List.dropLast_prefix path
      have hparts := congrArg (fun l : List (List Char) => (l.flatMap ('/' :: ·)).length) hlast
      simp only [List.flatMap_append, List.length_append] at hparts
      omega
  unfold pushSegment
  split
  · rw [if_pos rfl, length_flatMap_concat, List.length_nil]
    omega
  · split
    · rw [if_pos rfl, length_flatMap_concat, List.length_nil]
      omega
    · simp only [Bool.false_and, Bool.false_eq_true, if_false]
      split <;> rw [length_flatMap_concat]

/-- Blanks behind some segments belong to the last one. -/
theorem segmentsOf_append_low {blanks : List Char} (hne : rest ≠ [])
    (hblanks : ∀ c ∈ blanks, IsLow c) : ∃ front last, segmentsOf true rest = front ++ [last] ∧
      segmentsOf true (rest ++ blanks) =
        front ++ [last ++ percentEncode reservedInPath blanks] := by
  have hundivided : ∀ c ∈ blanks, isSlash true c = false := fun c hc =>
    (hblanks c hc).induct (P := fun c => isSlash true c = false) (by decide)
  have hpieces : ∀ s, ∃ front last,
      (pieces (isSlash true) s).map (percentEncode reservedInPath) = front ++ [last] ∧
      (pieces (isSlash true) (s ++ blanks)).map (percentEncode reservedInPath) =
        front ++ [last ++ percentEncode reservedInPath blanks] := by
    intro s
    obtain ⟨front, last, hs⟩ :=
      (List.eq_nil_or_concat' (pieces (isSlash true) s)).resolve_left (pieces_ne_nil _ s)
    refine ⟨_, _, by rw [hs, List.map_append, List.map_singleton], ?_⟩
    rw [pieces_append_of_unmarked hs hundivided, List.map_append, List.map_singleton,
      percentEncode_append]
  obtain ⟨d, rest, rfl⟩ := List.exists_cons_of_ne_nil hne
  unfold segmentsOf
  rw [List.cons_append]
  dsimp only
  split
  · exact hpieces rest
  · exact hpieces (d :: rest)

/-- With blanks behind it the path of a base takes more room. -/
theorem length_pathText_lt (v : Url) (hrest : Unmarked rest) (hne : rest ≠ [])
    {blanks : List Char} (hblanks : ∀ c ∈ blanks, IsLow c) (hsome : blanks ≠ []) :
    (v.withRest true rest).pathText.length <
      ((merged (segmentsBehind (rest ++ blanks))).flatMap ('/' :: ·)).length := by
  obtain ⟨front, last, hsegments, hlong⟩ := segmentsOf_append_low hne hblanks
  have htext : beforeQuery rest = rest := by
    simpa [beforeQuery] using hrest.beforeQuery_append []
  have hpath : (v.withRest true rest).path =
      .segments (pushSegment false (merged front) last true) := by
    unfold withRest
    dsimp only
    rw [htext, hsegments, pathOf_concat]
    simp
  obtain ⟨more, c, rfl⟩ := (List.eq_nil_or_concat' blanks).resolve_left hsome
  have hmerged : merged (segmentsBehind (rest ++ (more ++ [c]))) =
      merged front ++ [last ++ percentEncode reservedInPath (more ++ [c])] := by
    rw [segmentsBehind, if_neg (by simp), hlong, merged, List.foldl_append, percentEncode_append,
      ← List.append_assoc]
    exact pushSegment_of_low (hblanks c (by simp)) _ _
  have hencoded : 0 < (percentEncode reservedInPath (more ++ [c])).length :=
    List.length_pos_iff.mpr (percentEncode_ne_nil hsome)
  have hbound := length_pushSegment_le (merged front) last
  rw [pathText, hpath, hmerged, length_flatMap_concat, List.length_append]
  exact Nat.lt_of_le_of_lt hbound (by omega)

/-! ## Where the query starts -/

theorem mem_pushSegment {file last : Bool} {x : List Char}
    (h : x ∈ pushSegment file path s last) (hfile : file = false) : x ∈ path ∨ x = s ∨ x = [] := by
  subst hfile
  have hshortened : ∀ y ∈ shortened false path, y ∈ path := by
    intro y hy
    unfold shortened at hy
    split at hy
    · simp at hy
    · exact List.dropLast_subset _ hy
  unfold pushSegment at h
  split at h
  · split at h
    · rw [List.mem_append, List.mem_singleton] at h
      exact h.imp (hshortened x) .inr
    · exact .inl (hshortened x h)
  · split at h
    · split at h
      · rw [List.mem_append, List.mem_singleton] at h
        exact h.imp_right .inr
      · exact .inl h
    · simp only [Bool.false_and, Bool.false_eq_true, if_false] at h
      rw [List.mem_append, List.mem_singleton] at h
      refine h.imp_right fun hx => .inl ?_
      rw [hx]
      split <;> rfl

theorem mem_merged {x : List Char} {segments : List (List Char)} (h : x ∈ merged segments) :
    x ∈ segments ∨ x = [] := by
  have hfold : ∀ path, x ∈ segments.foldl (fun path s => pushSegment false path s false) path →
      x ∈ path ∨ x ∈ segments ∨ x = [] := by
    clear h
    induction segments with
    | nil => exact fun _ => .inl
    | cons s segments ih =>
        intro path hx
        obtain hx | hx | hx := ih _ hx
        · obtain hx | rfl | hx := mem_pushSegment hx rfl
          · exact .inl hx
          · exact .inr (.inl List.mem_cons_self)
          · exact .inr (.inr hx)
        · exact .inr (.inl (List.mem_cons_of_mem _ hx))
        · exact .inr (.inr hx)
  exact (hfold [] h).resolve_left List.not_mem_nil

theorem not_mem_pathText (v : Url) (rest : List Char) : '?' ∉ (v.withRest true rest).pathText := by
  have hne : segmentsOf true (beforeQuery rest) ≠ [] := by
    simpa [segmentsOf] using pieces_ne_nil _ _
  obtain ⟨front, last, hsegments⟩ := (List.eq_nil_or_concat' _).resolve_left hne
  have hfree : ∀ x ∈ front ++ [last], '?' ∉ x := by
    intro x hx
    rw [← hsegments] at hx
    obtain ⟨piece, -, rfl⟩ := List.mem_map.mp hx
    exact not_mem_percentEncode (fun _ => by decide) (by decide) (by decide)
  have hpath : (v.withRest true rest).path =
      .segments (pushSegment false (merged front) last true) := by
    unfold withRest
    dsimp only
    rw [hsegments, pathOf_concat]
    simp
  unfold pathText
  rw [hpath]
  intro hmem
  obtain ⟨x, hx, hmark⟩ := List.mem_flatMap.mp hmem
  obtain hmark := (List.mem_cons.mp hmark).resolve_left (by decide)
  obtain hx | rfl | rfl := mem_pushSegment hx rfl
  · obtain hx | rfl := mem_merged hx
    · exact hfree x (List.mem_append_left _ hx) hmark
    · cases hmark
  · exact hfree x (by simp) hmark
  · cases hmark

theorem not_mem_merged (hbefore : Unmarked before) :
    '?' ∉ (merged (segmentsBehind before)).flatMap ('/' :: ·) := by
  have hplain : Plain [[]] none := ⟨by simp, by simp [Word], nofun⟩
  have hnot := not_mem_pathText { scheme := [] } (before ++ spelled [[]] none)
  rw [pathText, path_withRest hbefore hplain] at hnot
  dsimp only at hnot
  rw [List.flatMap_append] at hnot
  exact fun hmem => hnot (List.mem_append_left _ hmem)

end Url

end ChatTerminal.Web
