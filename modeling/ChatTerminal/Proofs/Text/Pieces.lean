import ChatTerminal.Text.Blank
import Mathlib.Data.List.TakeWhile
/-!
# Cutting texts up and trimming them

Pieces, first cuts and trimming, each with the law for a text that was put together from parts
that hold no mark and no blank at an end.
-/

namespace ChatTerminal.Text

variable {p : Char → Bool} {mark : Char} {s t a b : List Char}

/-! ## Pieces -/

@[simp] theorem pieces_nil : pieces p [] = [[]] := rfl

theorem pieces_ne_nil (p : Char → Bool) (s : List Char) : pieces p s ≠ [] := by
  cases s with
  | nil => simp
  | cons c s =>
      unfold pieces
      rw [List.foldr_cons]
      split
      · simp
      · split <;> simp

theorem pieces_cons_mark (h : p mark = true) : pieces p (mark :: s) = [] :: pieces p s := by
  simp [pieces, h]

/-- A character that is no mark joins the piece that follows. -/
theorem pieces_cons {c : Char} (h : p c = false) :
    ∃ piece more, pieces p s = piece :: more ∧ pieces p (c :: s) = (c :: piece) :: more := by
  obtain ⟨piece, more, hs⟩ := List.exists_cons_of_ne_nil (pieces_ne_nil p s)
  refine ⟨piece, more, hs, ?_⟩
  rw [pieces] at hs ⊢
  rw [List.foldr_cons, hs, h]
  rfl

/-- A mark parts the pieces before it from those behind it. -/
theorem pieces_append (hmark : p mark = true) (s t : List Char) :
    pieces p (s ++ mark :: t) = pieces p s ++ pieces p t := by
  induction s with
  | nil => exact pieces_cons_mark hmark
  | cons c s ih =>
      rw [List.cons_append]
      cases hc : p c with
      | true => rw [pieces_cons_mark hc, pieces_cons_mark hc, ih, List.cons_append]
      | false =>
          obtain ⟨piece, more, hs, hcons⟩ := pieces_cons (s := s) hc
          obtain ⟨piece', more', hst, hcons'⟩ := pieces_cons (s := s ++ mark :: t) hc
          rw [ih, hs, List.cons_append] at hst
          obtain ⟨rfl, rfl⟩ := List.cons.inj hst
          rw [hcons, hcons', List.cons_append]

theorem pieces_of_unmarked (hs : ∀ c ∈ s, p c = false) : pieces p s = [s] := by
  induction s with
  | nil => rfl
  | cons c s ih =>
      obtain ⟨piece, more, hpieces, hcons⟩ := pieces_cons (s := s) (hs c List.mem_cons_self)
      rw [ih fun c hc => hs c (List.mem_cons_of_mem _ hc)] at hpieces
      obtain ⟨rfl, rfl⟩ := List.cons.inj hpieces
      exact hcons

theorem pieces_append_mark (hs : ∀ c ∈ s, p c = false) (hmark : p mark = true) :
    pieces p (s ++ mark :: t) = s :: pieces p t := by
  rw [pieces_append hmark, pieces_of_unmarked hs, List.singleton_append]

/-- What holds no mark joins the last piece. -/
theorem pieces_append_of_unmarked {front : List (List Char)} {last : List Char}
    (hs : pieces p s = front ++ [last]) (ht : ∀ c ∈ t, p c = false) :
    pieces p (s ++ t) = front ++ [last ++ t] := by
  induction s generalizing front last with
  | nil =>
      obtain ⟨rfl, rfl⟩ : front = [] ∧ last = [] := by
        rw [pieces_nil] at hs
        cases front <;> simp_all
      exact pieces_of_unmarked ht
  | cons c s ih =>
      rw [List.cons_append]
      cases hc : p c with
      | true =>
          rw [pieces_cons_mark hc] at hs ⊢
          cases front with
          | nil => exact absurd (List.cons.inj hs).2 (pieces_ne_nil p s)
          | cons first front =>
              obtain ⟨rfl, hmore⟩ := List.cons.inj hs
              rw [ih hmore]
              rfl
      | false =>
          obtain ⟨piece, more, hpieces, hcons⟩ := pieces_cons (s := s) hc
          obtain ⟨piece', more', hpieces', hcons'⟩ := pieces_cons (s := s ++ t) hc
          rw [hcons] at hs
          rw [hcons']
          cases front with
          | nil =>
              obtain ⟨rfl, rfl⟩ := List.cons.inj hs
              have hwhole : pieces p s = [] ++ [piece] := hpieces
              rw [ih hwhole] at hpieces'
              obtain ⟨rfl, rfl⟩ := List.cons.inj hpieces'
              rfl
          | cons first front =>
              obtain ⟨rfl, rfl⟩ := List.cons.inj hs
              have hwhole : pieces p s = (piece :: front) ++ [last] := hpieces
              rw [ih hwhole] at hpieces'
              obtain ⟨rfl, rfl⟩ := List.cons.inj hpieces'
              rfl

theorem unmarked_of_mem_pieces (h : a ∈ pieces p s) : ∀ c ∈ a, p c = false := by
  induction s generalizing a with
  | nil =>
      rw [pieces_nil, List.mem_singleton] at h
      exact h ▸ nofun
  | cons c s ih =>
      cases hc : p c with
      | true =>
          rw [pieces_cons_mark hc] at h
          rcases List.mem_cons.mp h with rfl | h
          · exact nofun
          · exact ih h
      | false =>
          obtain ⟨piece, more, hpieces, hcons⟩ := pieces_cons (s := s) hc
          rw [hcons] at h
          rcases List.mem_cons.mp h with rfl | h
          · intro d hd
            rcases List.mem_cons.mp hd with rfl | hd
            · exact hc
            · exact ih (hpieces ▸ List.mem_cons_self) d hd
          · exact ih (hpieces ▸ List.mem_cons_of_mem _ h)

theorem exists_mem_pieces {c : Char} (hc : p c = false) (h : c ∈ s) : ∃ a ∈ pieces p s, c ∈ a := by
  induction s with
  | nil => cases h
  | cons d s ih =>
      cases hd : p d with
      | true =>
          rw [pieces_cons_mark hd]
          rcases List.mem_cons.mp h with rfl | h
          · exact absurd hc (by simp [hd])
          · obtain ⟨a, ha, hmem⟩ := ih h
            exact ⟨a, List.mem_cons_of_mem _ ha, hmem⟩
      | false =>
          obtain ⟨piece, more, hpieces, hcons⟩ := pieces_cons (s := s) hd
          rw [hcons]
          rcases List.mem_cons.mp h with rfl | h
          · exact ⟨_, List.mem_cons_self, List.mem_cons_self⟩
          · obtain ⟨a, ha, hmem⟩ := ih h
            rw [hpieces] at ha
            rcases List.mem_cons.mp ha with rfl | ha
            · exact ⟨_, List.mem_cons_self, List.mem_cons_of_mem _ hmem⟩
            · exact ⟨a, List.mem_cons_of_mem _ ha, hmem⟩

/-! ## The first cut -/

theorem splitAtFirst_append (h : mark ∉ a) : splitAtFirst mark (a ++ mark :: b) = some (a, b) := by
  have hne : ∀ c ∈ a, decide (c ≠ mark) = true := by
    intro c hc
    simpa using fun heq : c = mark => h (heq ▸ hc)
  unfold splitAtFirst
  rw [List.dropWhile_append_of_pos hne, List.takeWhile_append_of_pos hne]
  simp

theorem splitAtFirst_eq_some (h : splitAtFirst mark s = some (a, b)) :
    s = a ++ mark :: b ∧ mark ∉ a := by
  have hwhole := List.takeWhile_append_dropWhile (p := (decide <| · ≠ mark)) (l := s)
  unfold splitAtFirst at h
  split at h
  · cases h
  · rename_i c after hdrop
    obtain ⟨rfl, rfl⟩ := Prod.mk.inj (Option.some.inj h)
    have hmark : c = mark := by
      have hhead := List.head?_dropWhile_not (decide <| · ≠ mark) s
      simpa only [hdrop, List.head?_cons, decide_eq_false_iff_not, not_not] using hhead
    rw [hdrop, hmark] at hwhole
    refine ⟨hwhole.symm, fun hmem => ?_⟩
    simpa using List.mem_takeWhile_imp hmem

theorem dropLead?_eq_some {lead rest : List Char} (h : dropLead? lead s = some rest) :
    s = lead ++ rest := by
  fun_induction dropLead? with
  | case1 => exact Option.some.inj h
  | case2 => cases h
  | case3 d lead s ih => rw [List.cons_append, ← ih h]
  | case4 => cases h

theorem dropLead?_append (lead s : List Char) : dropLead? lead (lead ++ s) = some s := by
  induction lead with
  | nil => rfl
  | cons c lead ih =>
      rw [List.cons_append, dropLead?, if_pos rfl]
      exact ih

/-! ## Trimming -/

/-- No character that satisfies `p` stands at either end. -/
structure Trimmed (p : Char → Bool) (s : List Char) : Prop where
  head : ∀ c, s.head? = some c → p c = false
  last : ∀ c, s.getLast? = some c → p c = false

theorem stripBoth_of_trimmed (h : Trimmed p s) : stripBoth p s = s := by
  have hfront : s.dropWhile p = s := by
    cases s with
    | nil => rfl
    | cons c s => simp [h.head c rfl]
  have hback : s.reverse.dropWhile p = s.reverse := by
    cases hrev : s.reverse with
    | nil => rfl
    | cons c rest =>
        have hlast : s.getLast? = some c := by
          rw [← List.head?_reverse, hrev]
          rfl
        simp [h.last c hlast]
  rw [stripBoth, hfront, hback, List.reverse_reverse]

theorem stripBoth_cons {c : Char} (h : p c = true) : stripBoth p (c :: s) = stripBoth p s := by
  simp [stripBoth, h]

theorem dropWhile_append_mark (h : p mark = false) (a b : List Char) :
    (a ++ mark :: b).dropWhile p = a.dropWhile p ++ mark :: b := by
  rw [List.dropWhile_append]
  split
  · rename_i hempty
    rw [List.isEmpty_iff.mp hempty, List.nil_append, List.dropWhile_cons_of_neg (by simp [h])]
  · rfl

theorem takeWhile_append_mark (h : p mark = false) (a b : List Char) :
    (a ++ mark :: b).takeWhile p = a.takeWhile p := by
  rw [List.takeWhile_append, List.takeWhile_cons_of_neg (by simp [h]), List.append_nil]
  split
  · rename_i hwhole
    exact (List.IsPrefix.eq_of_length (List.takeWhile_prefix p) hwhole).symm
  · rfl

/-- Trimming stops at a mark that is not blank. -/
theorem stripBoth_append_mark (h : p mark = false) (a b : List Char) :
    stripBoth p (a ++ mark :: b) = a.dropWhile p ++ mark :: stripEnd p b := by
  unfold stripBoth stripEnd
  rw [dropWhile_append_mark h, List.reverse_append, List.reverse_cons, List.append_assoc,
    List.singleton_append, dropWhile_append_mark h]
  simp

theorem exists_stripEnd_append (p : Char → Bool) (s : List Char) :
    ∃ blanks, (∀ c ∈ blanks, p c = true) ∧ s = stripEnd p s ++ blanks := by
  refine ⟨(s.reverse.takeWhile p).reverse, fun c hc => ?_, ?_⟩
  · exact List.mem_takeWhile_imp (List.mem_reverse.mp hc)
  · unfold stripEnd
    rw [← List.reverse_append, List.takeWhile_append_dropWhile, List.reverse_reverse]

theorem mem_of_mem_stripBoth {c : Char} (h : c ∈ stripBoth p s) : c ∈ s := by
  have hback := (List.dropWhile_suffix p).mem (List.mem_reverse.mp h)
  exact (List.dropWhile_suffix p).mem (List.mem_reverse.mp hback)

theorem trimmed_stripBoth (p : Char → Bool) (s : List Char) : Trimmed p (stripBoth p s) := by
  have hfront : ∀ (l : List Char) c, (l.dropWhile p).head? = some c → p c = false := by
    intro l c hc
    have hnot := List.head?_dropWhile_not p l
    rw [hc] at hnot
    simpa using hnot
  constructor
  · intro c hc
    have hprefix : (stripBoth p s) <+: (s.dropWhile p) := by
      have hsuffix := List.dropWhile_suffix p (l := (s.dropWhile p).reverse)
      simpa [stripBoth] using List.reverse_prefix.mpr hsuffix
    obtain ⟨rest, hrest⟩ := hprefix
    refine hfront s c ?_
    rw [← hrest, List.head?_append, hc]
    rfl
  · intro c hc
    unfold stripBoth at hc
    rw [List.getLast?_reverse] at hc
    exact hfront _ c hc

theorem trim_trim (s : String) : trim (trim s) = trim s := by
  have htrimmed := trimmed_stripBoth isBlank s.toList
  unfold trim
  rw [String.toList_ofList, stripBoth_of_trimmed htrimmed]

/-- Around a mark that is not blank, only the outer ends count. -/
theorem Trimmed.append_mark (ha : Trimmed p a) (hb : Trimmed p b) (hmark : p mark = false) :
    Trimmed p (a ++ mark :: b) := by
  constructor
  · intro c hc
    cases a with
    | nil =>
        rw [← Option.some.inj hc]
        exact hmark
    | cons d a => exact ha.head c hc
  · intro c hc
    cases hlast : b.getLast? with
    | none =>
        rw [List.getLast?_eq_none_iff] at hlast
        subst hlast
        rw [List.getLast?_concat] at hc
        exact Option.some.inj hc ▸ hmark
    | some d =>
        refine hb.last c ?_
        rw [← hc, List.getLast?_append, List.getLast?_cons, hlast]
        rfl

end ChatTerminal.Text
