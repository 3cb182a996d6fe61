import ChatTerminal.Text.Normal
import ChatTerminal.Text.Utf8
import Mathlib.Tactic.Tauto
/-!
# What reading and composing keep

Characters of ASCII are read from their bytes whatever stands around them, and no composition takes
the lowest of them.
-/

namespace ChatTerminal.Text

variable {c d : Char} {s : List Char} {b : Nat} {bs : List Nat}

/-- What each step of a fold keeps, and takes in from its item, is there at the end. -/
theorem foldl_keeps {α β : Type} {f : β → α → β} {I K : β → Prop} {a : α}
    (hsound : ∀ k d, I k → I (f k d)) (hkeeps : ∀ k d, I k → a = d ∨ K k → K (f k d))
    {s : List α} {k : β} (hk : I k) (h : a ∈ s ∨ K k) : K (s.foldl f k) := by
  induction s generalizing k with
  | nil => exact h.resolve_left List.not_mem_nil
  | cons d s ih =>
      refine ih (hsound k d hk) ?_
      rw [List.mem_cons, or_assoc, or_left_comm] at h
      exact h.imp_right (hkeeps k d hk)

/-! ## Reading bytes -/

/-- The next byte of a character under way is none of ASCII. -/
def Pending.IsBeyond (pending : Option Pending) : Prop := ∀ p, pending = some p → 0x80 ≤ p.low

theorem leadRule_low {missing low high : Nat} (h : leadRule b = some (missing, low, high)) :
    0x80 ≤ low := by
  unfold leadRule at h
  repeat' split at h
  all_goals simp only [Option.some.injEq, Prod.mk.injEq, reduceCtorEq] at h
  all_goals omega

theorem startByte_beyond (b : Nat) : Pending.IsBeyond (startByte b).2 := by
  unfold startByte
  split
  · exact nofun
  · split
    · rename_i hlead
      rintro p ⟨⟩
      exact leadRule_low hlead
    · exact nofun

theorem takeByte_beyond (pending : Option Pending) (b : Nat) :
    Pending.IsBeyond (takeByte pending b).2 := by
  unfold takeByte
  cases pending with
  | none => exact startByte_beyond b
  | some p =>
      dsimp only
      split
      · split
        · exact nofun
        · rintro q ⟨⟩
          exact Nat.le_refl _
      · exact startByte_beyond b

theorem mem_takeByte {pending : Option Pending} (h : Pending.IsBeyond pending) (hb : b < 0x80) :
    Char.ofNat b ∈ (takeByte pending b).1 := by
  have hstart : startByte b = ([Char.ofNat b], none) := by simp [startByte, hb]
  unfold takeByte
  cases pending with
  | none => simp [hstart]
  | some p =>
      have hlow : ¬ p.low ≤ b := by
        have := h p rfl
        omega
      simp [hlow, hstart]

/-- A byte of ASCII is read as its character, whatever stands around it. -/
theorem mem_ofBytes (hb : b < 0x80) (h : b ∈ bs) : Char.ofNat b ∈ ofBytes bs := by
  have hstart : Pending.IsBeyond none := nofun
  have hfold : Char.ofNat b ∈ (bs.foldl (fun k b =>
      ((takeByte k.2 b).1.reverse ++ k.1, (takeByte k.2 b).2))
      (([] : List Char), (none : Option Pending))).1 := by
    refine foldl_keeps (I := fun k : List Char × Option Pending => Pending.IsBeyond k.2)
      (K := fun k : List Char × Option Pending => Char.ofNat b ∈ k.1)
      (fun k d _ => ?_) ?_ hstart (.inl h)
    · exact takeByte_beyond k.2 d
    · rintro ⟨out, pending⟩ d hbeyond (rfl | hout)
      · exact List.mem_append_left _ (List.mem_reverse.mpr (mem_takeByte hbeyond hb))
      · exact List.mem_append_right _ hout
  unfold ofBytes
  dsimp only
  split
  · exact List.mem_reverse.mpr (List.mem_cons_of_mem _ hfold)
  · exact List.mem_reverse.mpr hfold

/-! ## The composed normal form -/

theorem mem_insertMark : c ∈ insertMark d s ↔ c = d ∨ c ∈ s := by
  induction s with
  | nil => simp [insertMark]
  | cons e s ih =>
      unfold insertMark
      split
      · rw [List.mem_cons]
      · rw [List.mem_cons, ih, List.mem_cons]
        tauto

theorem mem_orderMark {k : List Char × List Char} (h : c = d ∨ c ∈ k.2.reverse ++ k.1) :
    c ∈ (orderMark k d).2.reverse ++ (orderMark k d).1 := by
  unfold orderMark
  generalize combiningClass d = cls
  rw [List.mem_append, List.mem_reverse] at h
  split
  · simp only [List.mem_append, List.mem_reverse, List.mem_cons, List.not_mem_nil]
    tauto
  · simp only [List.mem_append, List.mem_reverse, mem_insertMark]
    tauto

theorem mem_orderMarks (h : c ∈ s) : c ∈ orderMarks s :=
  List.mem_reverse.mpr (foldl_keeps (f := orderMark) (I := fun _ => True)
    (K := fun k => c ∈ k.2.reverse ++ k.1) (fun _ _ _ => trivial)
    (fun _ _ _ hmem => mem_orderMark hmem) trivial (.inl h))

/-- A character below the less-than sign is in no composite. -/
theorem composedPair?_low (h : c.toNat < 0x3C) (d : Char) :
    composedPair? c d = none ∧ composedPair? d c = none := by
  constructor
  · unfold composedPair?
    rw [if_pos (by simp [h])]
  · unfold composedPair?
    have hlow : c.toNat < 0x300 := by omega
    rw [if_pos (by simp [hlow])]

theorem Composition.mem_finish {k : Composition} :
    c ∈ k.finish ↔ c ∈ k.marks ∨ k.starter = some c ∨ c ∈ k.done := by
  simp [finish, Option.mem_toList]

theorem Composition.mem_take {k : Composition} (h : c.toNat < 0x3C)
    (hmem : c = d ∨ c ∈ k.finish) : c ∈ (k.take d).finish := by
  rw [mem_finish] at hmem
  unfold take
  dsimp only
  generalize combiningClass d = cls
  cases hstarter : k.starter with
  | none =>
      rw [hstarter] at hmem
      dsimp only
      split
      · simp only [mem_finish, Option.some.injEq]
        tauto
      · simp only [mem_finish, List.mem_cons]
        tauto
  | some a =>
      rw [hstarter] at hmem
      dsimp only
      split
      · rename_i whole hwhole
        have hpair : composedPair? a d = some whole := by
          rw [ite_eq_iff] at hwhole
          exact (hwhole.resolve_right fun hnone => nomatch hnone.2).2
        have hne : c ≠ d ∧ a ≠ c := by
          constructor <;> rintro rfl
          · exact nomatch (composedPair?_low h a).2.symm.trans hpair
          · exact nomatch (composedPair?_low h d).1.symm.trans hpair
        simp only [mem_finish, Option.some.injEq] at hmem ⊢
        tauto
      · split
        · simp only [mem_finish, hstarter, Option.some.injEq, List.not_mem_nil] at hmem ⊢
          tauto
        · simp only [mem_finish, List.mem_cons, Option.some.injEq] at hmem ⊢
          tauto

theorem decomposed_low {n : Nat} (h : n < 0xC0) (depth : Nat) : decomposed depth n = [n] := by
  have hnone : decomposedOnce? n = none := if_pos h
  cases depth with
  | zero => rfl
  | succ depth => rw [decomposed, hnone]

/-- What stands below the less-than sign is in the normal form. -/
theorem mem_normalize (hlow : c.toNat < 0x3C) (h : c ∈ s) : c ∈ normalize s := by
  unfold normalize
  split
  · exact h
  · have hself : c ∈ (decomposed decompositionDepth c.toNat).map Char.ofNat := by
      rw [decomposed_low (by omega), List.map_singleton, Char.ofNat_toNat]
      exact List.mem_singleton_self c
    have hparts : c ∈ s.flatMap fun c =>
        (decomposed decompositionDepth c.toNat).map Char.ofNat :=
      List.mem_flatMap.mpr ⟨c, h, hself⟩
    exact List.mem_reverse.mpr (foldl_keeps (f := Composition.take) (I := fun _ => True)
      (K := fun k => c ∈ k.finish) (fun _ _ _ => trivial)
      (fun k d _ hmem => Composition.mem_take hlow hmem) trivial (.inl (mem_orderMarks hparts)))

end ChatTerminal.Text
