import ChatTerminal.Proofs.Json.Grammar
import Mathlib.Data.Nat.Digits.Lemmas
/-!
# Everything can be written

Each text is said by some string, each integer of 64 bits is denoted by some number, and each tree
made of these is spelled by some text.  So the grammar leaves out no text and no integer.
-/

namespace ChatTerminal.Json

/-! ## Strings -/

def Piece.of (c : Char) : Piece :=
  if c.toNat < 0x20 then .unit c.toNat else .char c

def Token.Writable (t : Token) : Prop :=
  ∃ s, t.Spelled s

theorem hexDigits_small {n : Nat} (hn : n < 0x20) :
    HexDigits ['0', '0', Nat.digitChar (n / 16), Nat.digitChar (n % 16)] n := by
  have hzero : HexDigit '0' 0 := ⟨by omega, .inl rfl⟩
  refine ⟨[0, 0, n / 16, n % 16], ?_, ?_⟩
  · exact .cons hzero (.cons hzero (.cons ⟨by omega, .inl rfl⟩ (.cons ⟨by omega, .inl rfl⟩ .nil)))
  · simp [Nat.ofDigits_cons]
    omega

theorem Piece.of_spelled (c : Char) : ∃ s, (Piece.of c).Spelled s := by
  rw [Piece.of]
  split
  case isTrue hcontrol => exact ⟨_, .unit (hexDigits_small hcontrol) rfl⟩
  case isFalse hcontrol =>
      by_cases hquote : c = '"'
      · subst hquote
        exact ⟨_, .letter List.mem_cons_self⟩
      · by_cases hslash : c = '\\'
        · subst hslash
          exact ⟨_, .letter (List.mem_cons_of_mem _ List.mem_cons_self)⟩
        · exact ⟨_, .plain (by omega) hquote hslash⟩

theorem Body.of (s : List Char) : ∃ body, Body (s.map Piece.of) body := by
  induction s with
  | nil => exact ⟨[], .nil⟩
  | cons c s ih =>
      obtain ⟨body, hbody⟩ := ih
      obtain ⟨part, hpart⟩ := Piece.of_spelled c
      exact ⟨part ++ body, .cons hpart hbody⟩

theorem Denotes.of (s : List Char) : Denotes (s.map Piece.of) s := by
  induction s with
  | nil => exact .nil
  | cons c s ih =>
      rw [List.map_cons, Piece.of]
      split
      case isTrue hcontrol => exact .unit (by omega) ih
      case isFalse => exact .char ih

theorem writable_string (s : List Char) : (Token.string (s.map Piece.of)).Writable := by
  obtain ⟨body, hbody⟩ := Body.of s
  exact ⟨_, body, hbody, rfl⟩

/-! ## Integers -/

def wholeDigits (n : Nat) : List Nat :=
  if n = 0 then [0] else (Nat.digits 10 n).reverse

def Numeral.of (v : Int) : Numeral :=
  { negative := v < 0, whole := wholeDigits v.natAbs }

theorem digits_wholeDigits (n : Nat) : Digits (wholeDigits n) := by
  rw [wholeDigits]
  split
  case isTrue => exact ⟨List.cons_ne_nil _ _, by simp⟩
  case isFalse hn =>
      refine ⟨?_, fun d hd => Nat.digits_lt_base (by omega) (List.mem_reverse.mp hd)⟩
      exact List.reverse_ne_nil_iff.mpr (Nat.digits_ne_nil_iff_ne_zero.mpr hn)

theorem wholeDigits_head? {n : Nat} (h : (wholeDigits n).head? = some 0) :
    wholeDigits n = [0] := by
  rw [wholeDigits] at h ⊢
  split
  case isTrue => rfl
  case isFalse hn =>
      have hlast := Nat.getLast_digit_ne_zero 10 hn
      rw [if_neg hn, List.head?_reverse,
        List.getLast?_eq_some_getLast (Nat.digits_ne_nil_iff_ne_zero.mpr hn)] at h
      exact absurd (Option.some.inj h) hlast

theorem ofDigits_wholeDigits (n : Nat) : Nat.ofDigits 10 (wholeDigits n).reverse = n := by
  rw [wholeDigits]
  split
  case isTrue hn =>
      subst hn
      rfl
  case isFalse => rw [List.reverse_reverse, Nat.ofDigits_digits]

theorem Numeral.of_wellFormed (v : Int) : (Numeral.of v).WellFormed :=
  ⟨⟨digits_wholeDigits _, wholeDigits_head?⟩, nofun, nofun⟩

theorem writable_number (v : Int) : (Token.number (.of v)).Writable :=
  ⟨_, Numeral.of_wellFormed v, 'e', false, .inl rfl, rfl⟩

theorem Numeral.denotes_of {v : Int} (hv : -2 ^ 63 ≤ v ∧ v < 2 ^ 63) :
    (Numeral.of v).Denotes v := by
  refine ⟨rfl, rfl, ?_, hv, fun hnegative => ?_⟩
  · rw [Numeral.of, ofDigits_wholeDigits]
    by_cases hsign : v < 0
    · simp only [hsign, decide_true, if_true]
      omega
    · simp only [hsign, decide_false, Bool.false_eq_true, if_false]
      omega
  · exact (of_decide_eq_true hnegative).ne

/-! ## Trees -/

theorem Laid.of_writable {ts : List Token} (h : ∀ t ∈ ts, t.Writable) : ∃ s, Laid ts s := by
  induction ts with
  | nil => exact ⟨[], .nil (List.forall_mem_nil _)⟩
  | cons t ts ih =>
      obtain ⟨hfirst, hrest⟩ := List.forall_mem_cons.mp h
      obtain ⟨lexeme, hlexeme⟩ := hfirst
      obtain ⟨rest, hlaid⟩ := ih hrest
      exact ⟨_, .cons (List.forall_mem_nil _) hlexeme hlaid⟩

end ChatTerminal.Json
