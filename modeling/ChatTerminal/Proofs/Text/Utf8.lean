import ChatTerminal.Text.Utf8
/-!
# Texts come back from their bytes

The bytes of a character lead the reader from one character to the next, and that character is what
it reads on the way.  So a text is what is read from its bytes.
-/

namespace ChatTerminal.Text

/-- What is read, last character first, and the character under way. -/
def readByte (k : List Char × Option Pending) (b : Nat) : List Char × Option Pending :=
  ((takeByte k.2 b).1.reverse ++ k.1, (takeByte k.2 b).2)

variable {b missing low high : Nat} {out : List Char} {p : Pending}

theorem readByte_ascii (hb : b < 0x80) : readByte (out, none) b = (Char.ofNat b :: out, none) := by
  simp [readByte, takeByte, startByte, hb]

theorem readByte_lead (hlead : leadRule b = some (missing, low, high)) (hb : 0x80 ≤ b) :
    readByte (out, none) b = (out, some ⟨leadBits b, missing, low, high⟩) := by
  simp [readByte, takeByte, startByte, hlead, Nat.not_lt.mpr hb]

theorem readByte_next (hlow : p.low ≤ b) (hhigh : b ≤ p.high) (hmissing : 1 < p.missing) :
    readByte (out, some p) b = (out, some ⟨p.bits * 64 + b % 64, p.missing - 1, 0x80, 0xBF⟩) := by
  simp [readByte, takeByte, hlow, hhigh, Nat.not_le.mpr hmissing]

theorem readByte_last (hlow : p.low ≤ b) (hhigh : b ≤ p.high) (hmissing : p.missing = 1) :
    readByte (out, some p) b = (Char.ofNat (p.bits * 64 + b % 64) :: out, none) := by
  simp [readByte, takeByte, hlow, hhigh, hmissing]

theorem leadRule_two (hlow : 0xC2 ≤ b) (hhigh : b ≤ 0xDF) :
    leadRule b = some (1, 0x80, 0xBF) ∧ leadBits b = b % 32 := by
  unfold leadRule leadBits
  rw [if_pos (by simp; omega), if_pos (by omega)]
  exact ⟨rfl, rfl⟩

/-- Of the characters of three bytes, those with overlong forms and surrogates beside them leave a
smaller range to the second byte. -/
theorem leadRule_three (hlow : 0xE0 ≤ b) (hhigh : b ≤ 0xEF) :
    leadRule b = some (2, if b = 0xE0 then 0xA0 else 0x80, if b = 0xED then 0x9F else 0xBF) ∧
      leadBits b = b % 16 := by
  unfold leadRule leadBits
  refine ⟨?_, by rw [if_neg (by omega), if_pos (by omega)]⟩
  rw [if_neg (by simp; omega)]
  by_cases he0 : b = 0xE0
  · subst he0
    decide
  · by_cases hed : b = 0xED
    · subst hed
      decide
    · rw [if_neg (by simpa using he0), if_neg (by simpa using hed), if_pos (by simp; omega),
        if_neg he0, if_neg hed]

/-- Those of four bytes end at the last code point. -/
theorem leadRule_four (hlow : 0xF0 ≤ b) (hhigh : b ≤ 0xF4) :
    leadRule b = some (3, if b = 0xF0 then 0x90 else 0x80, if b = 0xF4 then 0x8F else 0xBF) ∧
      leadBits b = b % 8 := by
  unfold leadRule leadBits
  refine ⟨?_, by rw [if_neg (by omega), if_neg (by omega)]⟩
  obtain rfl | rfl | rfl | rfl | rfl : b = 0xF0 ∨ b = 0xF1 ∨ b = 0xF2 ∨ b = 0xF3 ∨ b = 0xF4 := by
    omega
  all_goals decide

/-- The numbers of characters leave out those of surrogates. -/
theorem toNat_cases (c : Char) : c.toNat < 0xD800 ∨ 0xDFFF < c.toNat ∧ c.toNat < 0x110000 :=
  c.valid

theorem foldl_charBytes (c : Char) (out : List Char) :
    (charBytes c).foldl readByte (out, none) = (c :: out, none) := by
  have hvalid := toNat_cases c
  have hself : Char.ofNat c.toNat = c := Char.ofNat_toNat c
  unfold charBytes
  generalize c.toNat = n at hvalid hself ⊢
  dsimp only
  split
  · rename_i hone
    rw [List.foldl_cons, List.foldl_nil, readByte_ascii hone, hself]
  · split
    · rename_i htwo
      obtain ⟨hlead, hbits⟩ := leadRule_two (b := 0xC0 + n / 64) (by omega) (by omega)
      simp only [List.foldl_cons, List.foldl_nil]
      rw [readByte_lead hlead (by omega),
        readByte_last (by dsimp only; omega) (by dsimp only; omega) rfl]
      dsimp only
      rw [hbits, show (0xC0 + n / 64) % 32 * 64 + (0x80 + n % 64) % 64 = n by omega, hself]
    · split
      · rename_i hthree
        obtain ⟨hlead, hbits⟩ := leadRule_three (b := 0xE0 + n / 4096) (by omega) (by omega)
        simp only [List.foldl_cons, List.foldl_nil]
        rw [readByte_lead hlead (by omega),
          readByte_next (by dsimp only; split <;> omega) (by dsimp only; split <;> omega) (by simp),
          readByte_last (by dsimp only; omega) (by dsimp only; omega) rfl]
        dsimp only
        rw [hbits, show ((0xE0 + n / 4096) % 16 * 64 + (0x80 + n / 64 % 64) % 64) * 64 +
          (0x80 + n % 64) % 64 = n by omega, hself]
      · obtain ⟨hlead, hbits⟩ := leadRule_four (b := 0xF0 + n / 262144) (by omega) (by omega)
        simp only [List.foldl_cons, List.foldl_nil]
        rw [readByte_lead hlead (by omega),
          readByte_next (by dsimp only; split <;> omega) (by dsimp only; split <;> omega) (by simp),
          readByte_next (by dsimp only; omega) (by dsimp only; omega) (by simp),
          readByte_last (by dsimp only; omega) (by dsimp only; omega) rfl]
        dsimp only
        rw [hbits, show (((0xF0 + n / 262144) % 8 * 64 + (0x80 + n / 4096 % 64) % 64) * 64 +
          (0x80 + n / 64 % 64) % 64) * 64 + (0x80 + n % 64) % 64 = n by omega, hself]

theorem foldl_bytes (s out : List Char) :
    (bytes s).foldl readByte (out, none) = (s.reverse ++ out, none) := by
  induction s generalizing out with
  | nil => rfl
  | cons c s ih =>
      rw [bytes, List.flatMap_cons, List.foldl_append, foldl_charBytes, ← bytes, ih]
      simp

theorem ofBytes_bytes (s : List Char) : ofBytes (bytes s) = s := by
  have hread : (bytes s).foldl readByte ([], none) = (s.reverse, none) := by
    simpa using foldl_bytes s []
  have hend : ofBytes (bytes s) =
      (if ((bytes s).foldl readByte ([], none)).2.isSome then
        replacement :: ((bytes s).foldl readByte ([], none)).1
      else ((bytes s).foldl readByte ([], none)).1).reverse := rfl
  rw [hend, hread]
  simp

theorem lt_of_mem_charBytes {c : Char} (h : b ∈ charBytes c) : b < 256 := by
  have hvalid := toNat_cases c
  unfold charBytes at h
  dsimp only at h
  split at h
  · simp only [List.mem_singleton] at h
    omega
  · repeat' split at h
    all_goals
      simp only [List.mem_cons, List.not_mem_nil, or_false] at h
      omega

theorem lt_of_mem_bytes {s : List Char} (h : b ∈ bytes s) : b < 256 := by
  obtain ⟨c, -, hb⟩ := List.mem_flatMap.mp h
  exact lt_of_mem_charBytes hb

end ChatTerminal.Text
