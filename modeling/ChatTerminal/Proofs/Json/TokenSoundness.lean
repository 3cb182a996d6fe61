import ChatTerminal.Proofs.Json.Grammar
import Mathlib.Tactic.IntervalCases
/-!
# The transducer and the grammar of tokens

The transducer finds the tokens of a text if and only if the text lays them out.  What it has
read at any time is a text laid out, and behind it the part of one more token.
-/

namespace ChatTerminal.Json

/-! ## Digits -/

theorem digit?_eq_some_iff {c : Char} {d : Nat} :
    digit? c = some d ↔ d < 10 ∧ c = Nat.digitChar d := by
  have hzero : '0'.toNat = 48 := rfl
  have hnine : '9'.toNat = 57 := rfl
  constructor
  · intro h
    simp only [digit?, Bool.and_eq_true, decide_eq_true_eq, Char.le_def, UInt32.le_iff_toNat_le]
      at h
    split at h
    case isTrue hc =>
        have hd : c.toNat - 48 = d := Option.some.inj h
        have hlow : 48 ≤ c.toNat := hc.1
        have hhigh : c.toNat ≤ 57 := hc.2
        refine ⟨by omega, Char.toNat_inj.mp ?_⟩
        rw [Nat.toNat_digitChar_of_lt_ten (by omega)]
        omega
    case isFalse => cases h
  · rintro ⟨hd, rfl⟩
    interval_cases d <;> rfl

/-- Digits read one by one denote the same number as digits counted from the last. -/
theorem foldl_digits (base : Nat) (ds : List Nat) :
    ds.foldl (fun v d => v * base + d) 0 = Nat.ofDigits base ds.reverse := by
  rw [Nat.ofDigits_eq_foldr, List.foldr_reverse]
  congr 1
  funext v d
  simp only [Nat.cast_id]
  ring

theorem HexDigit.of_digit {k : Nat} (hlow : 48 ≤ k) (hhigh : k ≤ 57) :
    HexDigit (Char.ofNat k) (k - 48) := by
  interval_cases k <;> decide

theorem HexDigit.of_lower {k : Nat} (hlow : 97 ≤ k) (hhigh : k ≤ 102) :
    HexDigit (Char.ofNat k) (k - 97 + 10) := by
  interval_cases k <;> decide

theorem HexDigit.of_upper {k : Nat} (hlow : 65 ≤ k) (hhigh : k ≤ 70) :
    HexDigit (Char.ofNat k) (k - 65 + 10) := by
  interval_cases k <;> decide

theorem hexDigit?_eq_some_iff {c : Char} {d : Nat} : hexDigit? c = some d ↔ HexDigit c d := by
  constructor
  · intro h
    simp only [hexDigit?, Bool.and_eq_true, decide_eq_true_eq, Char.le_def,
      UInt32.le_iff_toNat_le] at h
    rw [← Char.ofNat_toNat c]
    split at h
    case isTrue hc => exact Option.some.inj h ▸ HexDigit.of_digit hc.1 hc.2
    case isFalse =>
        split at h
        case isTrue hc => exact Option.some.inj h ▸ HexDigit.of_lower hc.1 hc.2
        case isFalse =>
            split at h
            case isTrue hc => exact Option.some.inj h ▸ HexDigit.of_upper hc.1 hc.2
            case isFalse => cases h
  · rintro ⟨hd, rfl | rfl⟩ <;> interval_cases d <;> rfl

theorem escaped?_eq_some_iff {letter c : Char} :
    escaped? letter = some c ↔ (letter, c) ∈ letterEscapes := by
  constructor
  · intro h
    unfold escaped? at h
    split at h
    case h_9 => cases h
    all_goals
      cases h
      decide
  · intro h
    simp only [letterEscapes, List.mem_cons, Prod.mk.injEq, List.not_mem_nil, or_false] at h
    rcases h with ⟨rfl, rfl⟩ | ⟨rfl, rfl⟩ | ⟨rfl, rfl⟩ | ⟨rfl, rfl⟩ | ⟨rfl, rfl⟩ | ⟨rfl, rfl⟩ |
      ⟨rfl, rfl⟩ | ⟨rfl, rfl⟩ <;> rfl

theorem isSpace_iff {c : Char} : isSpace c = true ↔ c ∈ [' ', '\n', '\t', '\r'] := by
  simp [isSpace, or_assoc]

/-! ## Texts laid out -/

theorem Blank.append {s u : List Char} (hs : Blank s) (hu : Blank u) : Blank (s ++ u) := by
  intro c hc
  rcases List.mem_append.mp hc with h | h
  · exact hs c h
  · exact hu c h

theorem Blank.singleton {c : Char} (hc : isSpace c = true) : Blank [c] := by
  intro d hd
  rw [List.mem_singleton.mp hd]
  exact isSpace_iff.mp hc

theorem Laid.append_blank {ts : List Token} {s blanks : List Char} (h : Laid ts s)
    (hblanks : Blank blanks) : Laid ts (s ++ blanks) := by
  induction h with
  | nil hs => exact .nil (hs.append hblanks)
  | cons hs ht _ ih =>
      rw [List.append_assoc, List.append_assoc]
      exact .cons hs ht ih

theorem Laid.concat {ts : List Token} {t : Token} {s lexeme : List Char} (h : Laid ts s)
    (ht : t.Spelled lexeme) : Laid (ts ++ [t]) (s ++ lexeme) := by
  induction h with
  | nil hs =>
      have hlast := Laid.cons hs ht (.nil (List.forall_mem_nil _))
      rwa [List.append_nil] at hlast
  | cons hs hfirst _ ih =>
      rw [List.append_assoc, List.append_assoc]
      exact .cons hs hfirst ih

theorem Body.concat {p : Piece} {ps : List Piece} {s lexeme : List Char} (h : Body ps s)
    (hp : p.Spelled lexeme) : Body (ps ++ [p]) (s ++ lexeme) := by
  induction h with
  | nil =>
      have hlast := Body.cons hp .nil
      rwa [List.append_nil] at hlast
  | cons hfirst _ ih =>
      rw [List.append_assoc]
      exact .cons hfirst ih

theorem HexDigits.concat {s : List Char} {n d : Nat} {c : Char} (h : HexDigits s n)
    (hd : HexDigit c d) : HexDigits (s ++ [c]) (n * 16 + d) := by
  obtain ⟨ds, hs, rfl⟩ := h
  refine ⟨ds ++ [d], List.rel_append hs (.cons hd .nil), ?_⟩
  rw [List.reverse_append, List.reverse_singleton, List.singleton_append, Nat.ofDigits_cons]
  omega

/-! ## Numbers under way -/

theorem Digits.singleton {d : Nat} (hd : d < 10) : Digits [d] :=
  ⟨List.cons_ne_nil _ _, by simpa using hd⟩

theorem Digits.concat {ds : List Nat} {d : Nat} (h : ∀ e ∈ ds, e < 10) (hd : d < 10) :
    Digits (ds ++ [d]) := by
  refine ⟨by simp, ?_⟩
  intro e he
  rcases List.mem_append.mp he with he | he
  · exact h e he
  · rw [List.mem_singleton.mp he]
    exact hd

theorem digitsText_concat (ds : List Nat) (d : Nat) :
    digitsText (ds ++ [d]) = digitsText ds ++ [Nat.digitChar d] := by
  rw [digitsText, List.map_append]
  rfl

namespace Numeral

/-- What a number looks like that has been read as far as `phase`.  A plus sign is remembered
apart from the number. -/
def Reached (n : Numeral) (plus : Bool) : NumberPhase → Prop
  | .sign => n = { negative := true }
  | .zero => n.whole = [0] ∧ n.fraction = none ∧ n.exponent = none
  | .whole => n.Whole ∧ n.whole ≠ [0] ∧ n.fraction = none ∧ n.exponent = none
  | .point => n.Whole ∧ n.fraction = some [] ∧ n.exponent = none
  | .fraction => n.Whole ∧ (∃ ds, n.fraction = some ds ∧ Digits ds) ∧ n.exponent = none
  | .exponentMark => n.Whole ∧ n.Fraction ∧ n.exponent = some (false, []) ∧ plus = false
  | .exponentSign => n.Whole ∧ n.Fraction ∧ ∃ negative, n.exponent = some (negative, [])
  | .exponent => n.Whole ∧ n.Fraction ∧ ∃ negative ds, n.exponent = some (negative, ds) ∧ Digits ds

theorem Whole.digit (n : Numeral) {d : Nat} (hd : d < 10) : ({ n with whole := [d] }).Whole := by
  refine ⟨.singleton hd, fun hhead => ?_⟩
  rw [Option.some.inj hhead]

theorem Whole.concat {n : Numeral} {d : Nat} (h : n.Whole) (hzero : n.whole ≠ [0]) (hd : d < 10) :
    ({ n with whole := n.whole ++ [d] }).Whole := by
  refine ⟨.concat h.1.2 hd, fun hhead => ?_⟩
  rw [List.head?_append_of_ne_nil _ h.1.1] at hhead
  exact absurd (h.2 hhead) hzero

theorem Whole.zero {n : Numeral} (h : n.whole = [0]) : n.Whole :=
  ⟨h ▸ .singleton (by omega), fun _ => h⟩

theorem Fraction.none {n : Numeral} (h : n.fraction = none) : n.Fraction :=
  fun _ hds => absurd (h.symm.trans hds) nofun

theorem Fraction.some {n : Numeral} {ds : List Nat} (h : n.fraction = some ds) (hds : Digits ds) :
    n.Fraction :=
  fun _ hes => Option.some.inj (h.symm.trans hes) ▸ hds

theorem Exponent.none {n : Numeral} (h : n.exponent = none) : n.Exponent :=
  fun _ _ hds => absurd (h.symm.trans hds) nofun

theorem Exponent.some {n : Numeral} {negative : Bool} {ds : List Nat}
    (h : n.exponent = some (negative, ds)) (hds : Digits ds) : n.Exponent :=
  fun _ _ hes => (Prod.mk.inj (Option.some.inj (h.symm.trans hes))).2 ▸ hds

theorem Reached.wellFormed {n : Numeral} {plus : Bool} {phase : NumberPhase}
    (h : n.Reached plus phase) (hcomplete : phase.complete = true) : n.WellFormed := by
  cases phase with
  | zero =>
      obtain ⟨hwhole, hfraction, hexponent⟩ := h
      exact ⟨.zero hwhole, .none hfraction, .none hexponent⟩
  | whole =>
      obtain ⟨hwhole, -, hfraction, hexponent⟩ := h
      exact ⟨hwhole, .none hfraction, .none hexponent⟩
  | fraction =>
      obtain ⟨hwhole, ⟨ds, hfraction, hds⟩, hexponent⟩ := h
      exact ⟨hwhole, .some hfraction hds, .none hexponent⟩
  | exponent =>
      obtain ⟨hwhole, hfraction, negative, ds, hexponent, hds⟩ := h
      exact ⟨hwhole, hfraction, .some hexponent hds⟩
  | sign | point | exponentMark | exponentSign => cases hcomplete

variable {n n' : Numeral} {phase phase' : NumberPhase} {mark c : Char} {plus : Bool}

theorem text_digit {d : Nat} (hfraction : n.fraction = none) (hexponent : n.exponent = none) :
    ({ n with whole := n.whole ++ [d] }).text mark plus =
      n.text mark plus ++ [Nat.digitChar d] := by
  simp [text, signText, fractionText, exponentText, digitsText_concat, hfraction, hexponent]

theorem text_point (hfraction : n.fraction = none) (hexponent : n.exponent = none) :
    ({ n with fraction := some [] }).text mark plus = n.text mark plus ++ ['.'] := by
  simp [text, signText, fractionText, exponentText, digitsText, hfraction, hexponent]

theorem text_fraction_digit {ds : List Nat} {d : Nat} (hfraction : n.fraction = some ds)
    (hexponent : n.exponent = none) :
    ({ n with fraction := some (ds ++ [d]) }).text mark plus =
      n.text mark plus ++ [Nat.digitChar d] := by
  simp [text, signText, fractionText, exponentText, digitsText_concat, hfraction, hexponent]

theorem text_mark (hexponent : n.exponent = none) :
    ({ n with exponent := some (false, []) }).text c false = n.text mark plus ++ [c] := by
  simp [text, signText, fractionText, exponentText, digitsText, hexponent]

theorem text_exponent_digit {negative : Bool} {ds : List Nat} {d : Nat}
    (hexponent : n.exponent = some (negative, ds)) :
    ({ n with exponent := some (negative, ds ++ [d]) }).text mark plus =
      n.text mark plus ++ [Nat.digitChar d] := by
  simp [text, signText, fractionText, exponentText, digitsText_concat, hexponent]

theorem text_plus (hexponent : n.exponent = some (false, [])) :
    n.text mark true = n.text mark false ++ ['+'] := by
  simp [text, exponentText, digitsText, hexponent]

theorem text_minus (hexponent : n.exponent = some (false, [])) :
    ({ n with exponent := some (true, []) }).text mark false = n.text mark false ++ ['-'] := by
  simp [text, signText, fractionText, exponentText, digitsText, hexponent]

/-- The number `n'`, read as far as `phase'`, has the text of `n` and one character more. -/
def Extends (n : Numeral) (mark : Char) (plus : Bool) (c : Char) (phase' : NumberPhase)
    (n' : Numeral) : Prop :=
  ∃ mark' plus', (mark' = 'e' ∨ mark' = 'E') ∧ n'.Reached plus' phase' ∧
    n'.text mark' plus' = n.text mark plus ++ [c]

theorem Extends.point (hmark : mark = 'e' ∨ mark = 'E') (hwhole : n.Whole)
    (hfraction : n.fraction = none) (hexponent : n.exponent = none) :
    n.Extends mark plus '.' .point { n with fraction := some [] } :=
  ⟨mark, plus, hmark, ⟨hwhole, rfl, hexponent⟩, text_point hfraction hexponent⟩

theorem Extends.exponentMark (hc : (c == 'e' || c == 'E') = true) (hwhole : n.Whole)
    (hfraction : n.Fraction) (hexponent : n.exponent = none) :
    n.Extends mark plus c .exponentMark { n with exponent := some (false, []) } :=
  ⟨c, false, by simpa using hc, ⟨hwhole, hfraction, rfl, rfl⟩, text_mark hexponent⟩

theorem Extends.wholeDigit {d : Nat} (hmark : mark = 'e' ∨ mark = 'E') (hwhole : n.Whole)
    (hzero : n.whole ≠ [0]) (hfraction : n.fraction = none) (hexponent : n.exponent = none)
    (hd : d < 10) :
    n.Extends mark plus (Nat.digitChar d) .whole { n with whole := n.whole ++ [d] } := by
  refine ⟨mark, plus, hmark, ⟨hwhole.concat hzero hd, fun h => ?_, hfraction, hexponent⟩,
    text_digit hfraction hexponent⟩
  have hlength := congrArg List.length h
  rw [List.length_append] at hlength
  exact hwhole.1.1 (List.length_eq_zero_iff.mp (Nat.succ.inj hlength))

theorem Extends.fractionDigit {ds : List Nat} {d : Nat} (hmark : mark = 'e' ∨ mark = 'E')
    (hwhole : n.Whole) (hfraction : n.fraction = some ds) (hds : ∀ e ∈ ds, e < 10)
    (hexponent : n.exponent = none) (hd : d < 10) :
    n.Extends mark plus (Nat.digitChar d) .fraction { n with fraction := some (ds ++ [d]) } :=
  ⟨mark, plus, hmark, ⟨hwhole, ⟨ds ++ [d], rfl, .concat hds hd⟩, hexponent⟩,
    text_fraction_digit hfraction hexponent⟩

theorem Extends.exponentDigit {negative : Bool} {ds : List Nat} {d : Nat}
    (hmark : mark = 'e' ∨ mark = 'E') (hwhole : n.Whole) (hfraction : n.Fraction)
    (hexponent : n.exponent = some (negative, ds)) (hds : ∀ e ∈ ds, e < 10) (hd : d < 10) :
    n.Extends mark plus (Nat.digitChar d) .exponent
      { n with exponent := some (negative, ds ++ [d]) } :=
  ⟨mark, plus, hmark, ⟨hwhole, hfraction, negative, ds ++ [d], rfl, .concat hds hd⟩,
    text_exponent_digit hexponent⟩

/-! What may come next is the same at the end of several phases. -/

theorem Extends.of_mark (hwhole : n.Whole) (hfraction : n.Fraction) (hexponent : n.exponent = none)
    (hn : (if c == 'e' || c == 'E' then
      some (NumberPhase.exponentMark, { n with exponent := some (false, []) }) else none) =
        some (phase', n')) :
    n.Extends mark plus c phase' n' := by
  split at hn
  case isTrue hc =>
      cases hn
      exact .exponentMark hc hwhole hfraction hexponent
  case isFalse => cases hn

theorem Extends.of_pointOrMark (hmark : mark = 'e' ∨ mark = 'E') (hwhole : n.Whole)
    (hfraction : n.fraction = none) (hexponent : n.exponent = none)
    (hn : (if c == '.' then some (NumberPhase.point, { n with fraction := some [] })
      else if c == 'e' || c == 'E' then
        some (NumberPhase.exponentMark, { n with exponent := some (false, []) }) else none) =
          some (phase', n')) :
    n.Extends mark plus c phase' n' := by
  split at hn
  case isTrue hc =>
      cases hn
      rw [eq_of_beq hc]
      exact .point hmark hwhole hfraction hexponent
  case isFalse => exact .of_mark hwhole (.none hfraction) hexponent hn

theorem Extends.of_exponent {negative : Bool} {ds : List Nat} (hmark : mark = 'e' ∨ mark = 'E')
    (hwhole : n.Whole) (hfraction : n.Fraction) (hexponent : n.exponent = some (negative, ds))
    (hds : ∀ e ∈ ds, e < 10) (hn : NumberPhase.exponent.next n c = some (phase', n')) :
    n.Extends mark plus c phase' n' := by
  simp only [NumberPhase.next, hexponent] at hn
  split at hn
  case h_1 d hc =>
      obtain ⟨hd, rfl⟩ := digit?_eq_some_iff.mp hc
      cases hn
      exact .exponentDigit hmark hwhole hfraction hexponent hds hd
  case h_2 => cases hn

theorem Reached.next (h : n.Reached plus phase) (hmark : mark = 'e' ∨ mark = 'E')
    (hn : phase.next n c = some (phase', n')) : n.Extends mark plus c phase' n' := by
  cases phase with
  | sign =>
      subst h
      simp only [NumberPhase.next] at hn
      split at hn
      case h_1 hc =>
          obtain ⟨-, rfl⟩ := digit?_eq_some_iff.mp hc
          cases hn
          exact ⟨mark, plus, hmark, ⟨rfl, rfl, rfl⟩, rfl⟩
      case h_2 d hzero hc =>
          obtain ⟨hd, rfl⟩ := digit?_eq_some_iff.mp hc
          cases hn
          refine ⟨mark, plus, hmark, ⟨.digit { negative := true } hd, fun h => ?_, rfl, rfl⟩, rfl⟩
          exact hzero (List.cons.inj h).1
      case h_3 => cases hn
  | zero =>
      obtain ⟨hwhole, hfraction, hexponent⟩ := h
      exact .of_pointOrMark hmark (.zero hwhole) hfraction hexponent hn
  | whole =>
      obtain ⟨hwhole, hzero, hfraction, hexponent⟩ := h
      simp only [NumberPhase.next] at hn
      split at hn
      case h_1 d hc =>
          obtain ⟨hd, rfl⟩ := digit?_eq_some_iff.mp hc
          cases hn
          exact .wholeDigit hmark hwhole hzero hfraction hexponent hd
      case h_2 => exact .of_pointOrMark hmark hwhole hfraction hexponent hn
  | point =>
      obtain ⟨hwhole, hfraction, hexponent⟩ := h
      simp only [NumberPhase.next] at hn
      split at hn
      case h_1 d hc =>
          obtain ⟨hd, rfl⟩ := digit?_eq_some_iff.mp hc
          cases hn
          exact .fractionDigit hmark hwhole hfraction (List.forall_mem_nil _) hexponent hd
      case h_2 => cases hn
  | fraction =>
      obtain ⟨hwhole, ⟨ds, hfraction, hds⟩, hexponent⟩ := h
      simp only [NumberPhase.next] at hn
      split at hn
      case h_1 d hc =>
          obtain ⟨hd, rfl⟩ := digit?_eq_some_iff.mp hc
          rw [hfraction] at hn
          cases hn
          exact .fractionDigit hmark hwhole hfraction hds.2 hexponent hd
      case h_2 => exact .of_mark hwhole (.some hfraction hds) hexponent hn
  | exponentMark =>
      obtain ⟨hwhole, hfraction, hexponent, rfl⟩ := h
      simp only [NumberPhase.next] at hn
      split at hn
      case h_1 d hc =>
          obtain ⟨hd, rfl⟩ := digit?_eq_some_iff.mp hc
          cases hn
          exact .exponentDigit hmark hwhole hfraction hexponent (List.forall_mem_nil _) hd
      case h_2 =>
          split at hn
          case isTrue hc =>
              cases hn
              rw [eq_of_beq hc]
              exact ⟨mark, true, hmark, ⟨hwhole, hfraction, false, hexponent⟩,
                text_plus hexponent⟩
          case isFalse =>
              split at hn
              case isTrue hc =>
                  cases hn
                  rw [eq_of_beq hc]
                  exact ⟨mark, false, hmark, ⟨hwhole, hfraction, true, rfl⟩,
                    text_minus hexponent⟩
              case isFalse => cases hn
  | exponentSign =>
      obtain ⟨hwhole, hfraction, negative, hexponent⟩ := h
      exact .of_exponent hmark hwhole hfraction hexponent (List.forall_mem_nil _) hn
  | exponent =>
      obtain ⟨hwhole, hfraction, negative, ds, hexponent, hds⟩ := h
      exact .of_exponent hmark hwhole hfraction hexponent hds.2 hn

end Numeral

/-! ## What is found is laid out -/

namespace Mode

def Pending : Mode → List Char → Prop
  | .between, s => s = []
  | .word rest token, s => token.Spelled (s ++ rest)
  | .number phase n, s =>
    ∃ mark plus, (mark = 'e' ∨ mark = 'E') ∧ n.Reached plus phase ∧ s = n.text mark plus
  | .string soFar, s => ∃ body, Body soFar.reverse body ∧ s = '"' :: body
  | .escape soFar, s => ∃ body, Body soFar.reverse body ∧ s = '"' :: (body ++ ['\\'])
  | .unit soFar digits value, s =>
    ∃ body hex, Body soFar.reverse body ∧ HexDigits hex value ∧ hex.length = digits ∧
      s = '"' :: (body ++ '\\' :: 'u' :: hex)

def Behind (mode : Mode) (found : List Token) (s : List Char) : Prop :=
  ∃ laid part, s = laid ++ part ∧ Laid found laid ∧ mode.Pending part

variable {mode mode' : Mode} {found out : List Token} {s : List Char} {c : Char}

theorem Behind.blank (h : Laid found s) (hc : isSpace c = true) :
    Behind .between found (s ++ [c]) :=
  ⟨s ++ [c], [], (List.append_nil _).symm, h.append_blank (.singleton hc), rfl⟩

theorem Behind.token {t : Token} {part : List Char} (h : Laid found s) (ht : t.Spelled part) :
    Behind .between (found ++ [t]) (s ++ part) :=
  ⟨s ++ part, [], (List.append_nil _).symm, h.concat ht, rfl⟩

theorem Behind.part {part : List Char} (h : Laid found s) (hpart : mode.Pending part) :
    Behind mode (found ++ []) (s ++ part) := by
  rw [List.append_nil]
  exact ⟨s, part, rfl, h, hpart⟩

/-- A character between tokens. -/
theorem Behind.start (h : Laid found s) (hc : Mode.start c = some (out, mode)) :
    Behind mode (found ++ out) (s ++ [c]) := by
  unfold Mode.start at hc
  split at hc
  case isTrue hspace =>
      cases hc
      rw [List.append_nil]
      exact .blank h hspace
  case isFalse =>
      split at hc
      case h_12 =>
          split at hc
          case h_1 hdigit =>
              obtain ⟨-, rfl⟩ := digit?_eq_some_iff.mp hdigit
              cases hc
              exact .part h ⟨'e', false, .inl rfl, ⟨rfl, rfl, rfl⟩, rfl⟩
          case h_2 d hzero hdigit =>
              obtain ⟨hd, rfl⟩ := digit?_eq_some_iff.mp hdigit
              cases hc
              refine .part h ⟨'e', false, .inl rfl, ⟨.digit {} hd, fun h => ?_, rfl, rfl⟩, rfl⟩
              exact hzero (List.cons.inj h).1
          case h_3 => cases hc
      case h_11 =>
          cases hc
          exact .part h ⟨'e', false, .inl rfl, rfl, rfl⟩
      case h_7 =>
          cases hc
          exact .part h ⟨[], .nil, rfl⟩
      case h_8 | h_9 | h_10 =>
          cases hc
          exact .part h rfl
      all_goals
          cases hc
          exact .token h rfl

/-! A character in each of the modes inside a token. -/

variable {laid part : List Char} {soFar : List Piece}

theorem Behind.step_word {rest : List Char} {token : Token} (hlaid : Laid found laid)
    (hpart : (Mode.word rest token).Pending part)
    (hc : (Mode.word rest token).step c = some (out, mode')) :
    mode'.Behind (found ++ out) (laid ++ (part ++ [c])) := by
  cases rest with
  | nil => cases hc
  | cons d rest =>
      simp only [Mode.step] at hc
      split at hc
      case isTrue hd =>
          subst hd
          split at hc
          case isTrue hrest =>
              cases hc
              rw [List.isEmpty_iff.mp hrest] at hpart
              exact .token hlaid hpart
          case isFalse =>
              cases hc
              refine .part hlaid ?_
              rw [Pending, List.append_assoc]
              exact hpart
      case isFalse => cases hc

theorem Behind.step_number {phase : NumberPhase} {n : Numeral} (hlaid : Laid found laid)
    (hpart : (Mode.number phase n).Pending part)
    (hc : (Mode.number phase n).step c = some (out, mode')) :
    mode'.Behind (found ++ out) (laid ++ (part ++ [c])) := by
  obtain ⟨mark, plus, hmark, hreached, rfl⟩ := hpart
  simp only [Mode.step] at hc
  split at hc
  case h_1 hnext =>
      cases hc
      obtain ⟨mark', plus', hmark', hreached', htext⟩ := hreached.next hmark hnext
      exact .part hlaid ⟨mark', plus', hmark', hreached', htext.symm⟩
  case h_2 =>
      split at hc
      case isTrue hcomplete =>
          -- The number ends here, and the character is read once more, between tokens.
          obtain ⟨⟨out', next⟩, hstart, heq⟩ := Option.map_eq_some_iff.mp hc
          cases heq
          have hn : (Token.number n).Spelled (n.text mark plus) :=
            ⟨hreached.wellFormed hcomplete, mark, plus, hmark, rfl⟩
          have hfound := Behind.start (hlaid.concat hn) hstart
          rwa [List.append_assoc, List.append_assoc] at hfound
      case isFalse => cases hc

theorem Behind.step_string (hlaid : Laid found laid) (hpart : (Mode.string soFar).Pending part)
    (hc : (Mode.string soFar).step c = some (out, mode')) :
    mode'.Behind (found ++ out) (laid ++ (part ++ [c])) := by
  obtain ⟨body, hbody, rfl⟩ := hpart
  simp only [Mode.step] at hc
  split at hc
  case isTrue hquote =>
      subst hquote
      cases hc
      exact .token hlaid ⟨body, hbody, rfl⟩
  case isFalse hquote =>
      split at hc
      case isTrue hslash =>
          subst hslash
          cases hc
          exact .part hlaid ⟨body, hbody, rfl⟩
      case isFalse hslash =>
          split at hc
          case isTrue => cases hc
          case isFalse hcontrol =>
              cases hc
              refine .part hlaid ⟨body ++ [c], ?_, rfl⟩
              rw [List.reverse_cons]
              exact hbody.concat (.plain (by omega) hquote hslash)

theorem Behind.step_escape (hlaid : Laid found laid) (hpart : (Mode.escape soFar).Pending part)
    (hc : (Mode.escape soFar).step c = some (out, mode')) :
    mode'.Behind (found ++ out) (laid ++ (part ++ [c])) := by
  obtain ⟨body, hbody, rfl⟩ := hpart
  simp only [Mode.step] at hc
  split at hc
  case isTrue hu =>
      subst hu
      cases hc
      refine .part hlaid ⟨body, [], hbody, ⟨[], .nil, rfl⟩, rfl, ?_⟩
      simp
  case isFalse =>
      obtain ⟨d, hd, heq⟩ := Option.map_eq_some_iff.mp hc
      cases heq
      refine .part hlaid ⟨body ++ ['\\', c], ?_, by simp⟩
      rw [List.reverse_cons]
      exact hbody.concat (.letter (escaped?_eq_some_iff.mp hd))

theorem Behind.step_unit {digits value : Nat} (hlaid : Laid found laid)
    (hpart : (Mode.unit soFar digits value).Pending part)
    (hc : (Mode.unit soFar digits value).step c = some (out, mode')) :
    mode'.Behind (found ++ out) (laid ++ (part ++ [c])) := by
  obtain ⟨body, hex, hbody, hhex, hdigits, rfl⟩ := hpart
  simp only [Mode.step] at hc
  obtain ⟨d, hd, heq⟩ := Option.map_eq_some_iff.mp hc
  have hnext := hhex.concat (hexDigit?_eq_some_iff.mp hd)
  split at heq
  case isTrue hthree =>
      cases heq
      refine .part hlaid ⟨body ++ '\\' :: 'u' :: (hex ++ [c]), ?_, by simp⟩
      rw [List.reverse_cons]
      refine hbody.concat (.unit hnext ?_)
      rw [List.length_append, hdigits, hthree]
      rfl
  case isFalse =>
      cases heq
      refine .part hlaid ⟨body, hex ++ [c], hbody, hnext, ?_, by simp⟩
      rw [List.length_append, hdigits]
      rfl

theorem Behind.step (h : mode.Behind found s) (hc : mode.step c = some (out, mode')) :
    mode'.Behind (found ++ out) (s ++ [c]) := by
  obtain ⟨laid, part, rfl, hlaid, hpart⟩ := h
  rw [List.append_assoc]
  cases mode with
  | between =>
      subst hpart
      exact .start hlaid hc
  | word => exact .step_word hlaid hpart hc
  | number => exact .step_number hlaid hpart hc
  | string => exact .step_string hlaid hpart hc
  | escape => exact .step_escape hlaid hpart hc
  | unit => exact .step_unit hlaid hpart hc

theorem Behind.finish (h : mode.Behind found s) (hout : mode.finish = some out) :
    Laid (found ++ out) s := by
  obtain ⟨laid, part, rfl, hlaid, hpart⟩ := h
  cases mode with
  | between =>
      subst hpart
      cases hout
      rwa [List.append_nil, List.append_nil]
  | number phase n =>
      obtain ⟨mark, plus, hmark, hreached, rfl⟩ := hpart
      simp only [Mode.finish] at hout
      split at hout
      case isTrue hcomplete =>
          cases hout
          exact hlaid.concat ⟨hreached.wellFormed hcomplete, mark, plus, hmark, rfl⟩
      case isFalse => cases hout
  | word | string | escape | unit => cases hout

def read (mode : Mode) : List Char → Option (List Token)
  | [] => mode.finish
  | c :: s => (mode.step c).bind fun (out, mode) => (mode.read s).map (out ++ ·)

theorem Behind.read {rest : List Char} {ts : List Token} (h : mode.Behind found s)
    (hts : mode.read rest = some ts) : Laid (found ++ ts) (s ++ rest) := by
  induction rest generalizing mode found s ts with
  | nil =>
      rw [List.append_nil]
      exact h.finish hts
  | cons c rest ih =>
      obtain ⟨⟨out, next⟩, hstep, hrest⟩ := Option.bind_eq_some_iff.mp hts
      obtain ⟨ts', hts', rfl⟩ := Option.map_eq_some_iff.mp hrest
      have hnext := ih (h.step hstep) hts'
      rwa [List.append_assoc, List.append_assoc] at hnext

end Mode

theorem tokens?_eq_read (s : List Char) : tokens? s = Mode.between.read s := by
  -- The fold carries what it has found, so the induction is on the text from any point of it.
  have key : ∀ (s : List Char) (found : List Token) (mode : Mode),
      (do
        let (found, mode) ← s.foldlM (fun (found, mode) c => do
          let (out, mode) ← Mode.step mode c
          pure (out.reverse ++ found, mode)) (found, mode)
        let out ← mode.finish
        pure (found.reverse ++ out)) = (mode.read s).map (found.reverse ++ ·) := by
    intro s
    induction s with
    | nil =>
        intro found mode
        cases hout : mode.finish <;> simp [Mode.read, hout]
    | cons c s ih =>
        intro found mode
        cases hstep : mode.step c with
        | none => simp [Mode.read, hstep]
        | some pair =>
            obtain ⟨out, next⟩ := pair
            have hnext := ih (out.reverse ++ found) next
            rw [Mode.read, List.foldlM_cons]
            dsimp only
            rw [hstep]
            refine hnext.trans ?_
            rw [Option.bind_some, Option.map_map, List.reverse_append, List.reverse_reverse]
            simp only [Function.comp_def, List.append_assoc]
  refine (key s [] .between).trans ?_
  simp only [List.reverse_nil, List.nil_append, Option.map_id']

/-- What the transducer finds is what the text lays out. -/
theorem laid_of_tokens? {s : List Char} {ts : List Token} (h : tokens? s = some ts) :
    Laid ts s := by
  rw [tokens?_eq_read] at h
  have hstart : Mode.between.Behind [] [] := ⟨[], [], rfl, .nil (List.forall_mem_nil _), rfl⟩
  exact hstart.read h

end ChatTerminal.Json
