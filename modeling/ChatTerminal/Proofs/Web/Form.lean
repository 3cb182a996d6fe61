import ChatTerminal.Proofs.Text.Pieces
import ChatTerminal.Proofs.Text.Utf8
import ChatTerminal.Web.Percent
/-!
# Forms come back from what is written of them

A form writes letters, digits, four more characters, plus signs and percent signs only, so neither
the mark between two pairs nor the one between a name and its value can be part of either.  What is
written of a text is read as that text.
-/

namespace ChatTerminal.Web

open Text

variable {b d : Nat} {c : Char} {s rest : List Char}

/-! ## Bytes -/

theorem hexDigit?_hexUpper (hd : d < 16) : hexDigit? (hexUpper d) = some d := by
  revert d
  decide

theorem percentDecode_percentByte (hb : b < 256) (rest : List Char) :
    percentDecode (percentByte b ++ rest) = b :: percentDecode rest := by
  have hhigh := hexDigit?_hexUpper (d := b / 16 % 16) (by omega)
  have hlow := hexDigit?_hexUpper (d := b % 16) (by omega)
  simp only [percentByte, List.cons_append, List.nil_append, percentDecode, hhigh, hlow]
  congr 1
  omega

theorem percentDecode_cons (hc : c ≠ '%') (rest : List Char) :
    percentDecode (c :: rest) = charBytes c ++ percentDecode rest := by
  rw [percentDecode]
  exact fun a b s hpercent _ => hc hpercent

namespace Form

/-! ## Characters -/

theorem isPlain_visible (h : isPlain c = true) : 0x20 < c.toNat ∧ c.toNat < 0x7F := by
  unfold isPlain Char.isAlphanum Char.isAlpha Char.isUpper Char.isLower Char.isDigit at h
  simp only [Bool.or_eq_true, Bool.and_eq_true, decide_eq_true_eq, beq_iff_eq,
    UInt32.le_iff_toNat_le] at h
  obtain (((h | rfl) | rfl) | rfl) | rfl := h
  · simp at h
    omega
  all_goals decide

theorem isPlain_hexUpper (hd : d < 16) : isPlain (hexUpper d) = true := by
  revert d
  decide

theorem isPlain_ne {mark : Char} (h : isPlain c = true) (hmark : isPlain mark = false) :
    c ≠ mark := by
  rintro rfl
  exact absurd h (by simp [hmark])

def Writes (c : Char) : Prop := isPlain c = true ∨ c = '+' ∨ c = '%'

theorem Writes.visible (h : Writes c) : 0x20 < c.toNat ∧ c.toNat < 0x7F := by
  obtain h | rfl | rfl := h
  · exact isPlain_visible h
  · decide
  · decide

theorem Writes.ne {mark : Char} (h : Writes c) (hplain : isPlain mark = false) (hplus : mark ≠ '+')
    (hpercent : mark ≠ '%') : c ≠ mark := by
  obtain h | rfl | rfl := h
  · exact isPlain_ne h hplain
  · exact hplus.symm
  · exact hpercent.symm

theorem writes_of_mem_encode (h : c ∈ encode s) : Writes c := by
  obtain ⟨b, -, hb⟩ := List.mem_flatMap.mp h
  unfold encodeByte at hb
  split at hb
  · rename_i hplain
    obtain rfl := List.mem_singleton.mp hb
    exact .inl hplain
  · split at hb
    · exact .inr (.inl (List.mem_singleton.mp hb))
    · simp only [percentByte, List.mem_cons, List.not_mem_nil, or_false] at hb
      obtain rfl | rfl | rfl := hb
      · exact .inr (.inr rfl)
      · exact .inl (isPlain_hexUpper (by omega))
      · exact .inl (isPlain_hexUpper (by omega))

/-! ## Reading what was written -/

def unplussed (s : List Char) : List Char := s.map fun c => if c = '+' then ' ' else c

theorem unplussed_append (s t : List Char) : unplussed (s ++ t) = unplussed s ++ unplussed t :=
  List.map_append

theorem unplussed_of_plain (hs : ∀ c ∈ s, c ≠ '+') : unplussed s = s := by
  refine (List.map_congr_left fun c hc => ?_).trans (List.map_id s)
  simp [hs c hc]

theorem percentDecode_encodeByte (hb : b < 256) (rest : List Char) :
    percentDecode (unplussed (encodeByte b ++ rest)) = b :: percentDecode (unplussed rest) := by
  rw [unplussed_append]
  unfold encodeByte
  split
  · rename_i hplain
    have hself : (Char.ofNat b).toNat = b := by
      rw [Char.ofNat, dif_pos (show b.isValidChar from .inl (by omega))]
      rfl
    have hascii : (Char.ofNat b).toNat < 0x80 := (isPlain_visible hplain).2.trans (by decide)
    have hplus : ∀ c ∈ [Char.ofNat b], c ≠ '+' := by
      simpa using isPlain_ne hplain (by decide)
    rw [unplussed_of_plain hplus, List.singleton_append,
      percentDecode_cons (isPlain_ne hplain (by decide)), charBytes, if_pos hascii, hself]
    rfl
  · split
    · rename_i hspace
      subst hspace
      exact percentDecode_cons (by decide) _
    · have hplus : ∀ c ∈ percentByte b, c ≠ '+' := by
        simp only [percentByte, List.mem_cons, List.not_mem_nil, or_false]
        rintro c (rfl | rfl | rfl)
        · decide
        · exact isPlain_ne (isPlain_hexUpper (by omega)) (by decide)
        · exact isPlain_ne (isPlain_hexUpper (by omega)) (by decide)
      rw [unplussed_of_plain hplus, percentDecode_percentByte hb]

theorem percentDecode_encode (s : List Char) : percentDecode (unplussed (encode s)) = bytes s := by
  have hread : ∀ bs : List Nat, (∀ b ∈ bs, b < 256) →
      percentDecode (unplussed (bs.flatMap encodeByte)) = bs := by
    intro bs
    induction bs with
    | nil => exact fun _ => rfl
    | cons b bs ih =>
        intro hbs
        obtain ⟨hb, hmore⟩ := List.forall_mem_cons.mp hbs
        rw [List.flatMap_cons, percentDecode_encodeByte hb, ih hmore]
  exact hread (bytes s) fun b hb => lt_of_mem_bytes hb

theorem decode_encode (s : List Char) : decode (encode s) = s := by
  change ofBytes (percentDecode (unplussed (encode s))) = s
  rw [percentDecode_encode, ofBytes_bytes]

/-! ## Pairs -/

/-- The pairs of a form: those between the marks, each cut at its first equals sign. -/
def pairs (s : List Char) : List (List Char × List Char) :=
  ((pieces (· == '&') s).filter (! ·.isEmpty)).map fun piece =>
    match splitAtFirst '=' piece with
    | some (name, value) => (decode name, decode value)
    | none => (decode piece, [])

/-- One pair that was written is read as one pair, whatever stands in it. -/
theorem pairs_encode (name value : List Char) :
    pairs (encode name ++ '=' :: encode value) = [(name, value)] := by
  have hpart : ∀ s, ∀ c ∈ encode s, c ≠ '&' ∧ c ≠ '=' := by
    intro s c hc
    have hwrites : Writes c := writes_of_mem_encode hc
    exact ⟨hwrites.ne (by decide) (by decide) (by decide),
      hwrites.ne (by decide) (by decide) (by decide)⟩
  have hunmarked : ∀ c ∈ encode name ++ '=' :: encode value, (c == '&') = false := by
    intro c hc
    rw [List.mem_append, List.mem_cons] at hc
    obtain hc | rfl | hc := hc
    · simpa using (hpart name c hc).1
    · decide
    · simpa using (hpart value c hc).1
  have hname : '=' ∉ encode name := fun hc => (hpart name '=' hc).2 rfl
  rw [pairs, pieces_of_unmarked hunmarked]
  simp [splitAtFirst_append hname, decode_encode]

end Form

end ChatTerminal.Web
