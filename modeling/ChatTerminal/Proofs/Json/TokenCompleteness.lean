import ChatTerminal.Proofs.Json.TokenSoundness
import Mathlib.Data.List.Chain
/-!
# Texts that the transducer accepts

A text that lays out tokens is cut into exactly these tokens, provided that no two numbers stand
side by side: digits of the one would be read as digits of the other.  In the tokens of a tree
they never do.
-/

namespace ChatTerminal.Json

namespace Mode

variable {mode next : Mode} {out : List Token} {c : Char} {s rest : List Char}

theorem read_cons (h : mode.step c = some (out, next)) :
    mode.read (c :: rest) = (next.read rest).map (out ++ ·) := by
  rw [read, h]
  rfl

theorem read_quiet (h : mode.step c = some ([], next)) :
    mode.read (c :: rest) = next.read rest := by
  rw [read_cons h]
  exact Option.map_id'

theorem read_last {t : Token} (h : mode.step c = some ([t], between)) :
    mode.read (c :: rest) = (between.read rest).map (t :: ·) :=
  read_cons h

theorem read_blank (h : Blank s) : between.read (s ++ rest) = between.read rest := by
  induction s with
  | nil => rfl
  | cons c s ih =>
      have hc : isSpace c = true := isSpace_iff.mpr (h c List.mem_cons_self)
      have hstep : between.step c = some ([], between) := if_pos hc
      rw [List.cons_append, read_quiet hstep]
      exact ih fun d hd => h d (List.mem_cons_of_mem _ hd)

/-! ## Strings -/

theorem read_hex {ds : List Nat} (h : List.Forall₂ HexDigit s ds) (soFar : List Piece)
    {digits value : Nat} (hs : s ≠ []) (hfour : digits + s.length = 4) :
    (unit soFar digits value).read (s ++ rest) =
      (string (.unit (ds.foldl (fun v d => v * 16 + d) value) :: soFar)).read rest := by
  induction h generalizing digits value with
  | nil => exact absurd rfl hs
  | @cons c d s ds hd hds ih =>
      rw [List.length_cons] at hfour
      have hvalue : hexDigit? c = some d := hexDigit?_eq_some_iff.mpr hd
      cases hds with
      | nil =>
          have hstep : (unit soFar digits value).step c =
              some ([], string (.unit (value * 16 + d) :: soFar)) := by
            rw [step, hvalue]
            exact congrArg some (if_pos (Nat.succ.inj hfour))
          exact read_quiet hstep
      | cons hd' hds' =>
          have hstep : (unit soFar digits value).step c =
              some ([], unit soFar (digits + 1) (value * 16 + d)) := by
            rw [step, hvalue]
            rw [List.length_cons] at hfour
            exact congrArg some (if_neg (by omega))
          exact (read_quiet hstep).trans (ih (List.cons_ne_nil _ _) (by omega))

theorem read_piece {p : Piece} (h : p.Spelled s) (soFar : List Piece) :
    (string soFar).read (s ++ rest) = (string (p :: soFar)).read rest := by
  cases h with
  | plain hcontrol hquote hslash =>
      refine read_quiet ?_
      rw [step, if_neg hquote, if_neg hslash, if_neg (by omega)]
  | @letter letter c hletter =>
      have hescaped : escaped? letter = some c := escaped?_eq_some_iff.mpr hletter
      have hu : letter ≠ 'u' := by
        rintro rfl
        cases hescaped
      have hslash : (string soFar).step '\\' = some ([], escape soFar) := rfl
      have hstep : (escape soFar).step letter = some ([], string (.char c :: soFar)) := by
        rw [step, if_neg hu, hescaped]
        rfl
      exact (read_quiet hslash).trans (read_quiet hstep)
  | @unit s n hhex hlength =>
      obtain ⟨ds, hds, rfl⟩ := hhex
      have hslash : (string soFar).step '\\' = some ([], escape soFar) := rfl
      have hu : (escape soFar).step 'u' = some ([], unit soFar 0 0) := rfl
      have hs : s ≠ [] := List.ne_nil_of_length_pos (by omega)
      rw [← foldl_digits]
      exact (read_quiet hslash).trans ((read_quiet hu).trans
        (read_hex hds soFar hs (by omega)))

theorem read_body {ps : List Piece} (h : Body ps s) (soFar : List Piece) :
    (string soFar).read (s ++ rest) = (string (ps.reverse ++ soFar)).read rest := by
  induction h generalizing soFar with
  | nil => rfl
  | cons hp _ ih =>
      rw [List.append_assoc, read_piece hp, ih, List.reverse_cons, List.append_assoc]
      rfl

/-! ## Numbers -/

def Ends (c : Char) : Prop :=
  digit? c = none ∧ c ≠ '.' ∧ c ≠ 'e' ∧ c ≠ 'E'

instance (c : Char) : Decidable (Ends c) :=
  inferInstanceAs (Decidable (_ ∧ _))

theorem digit?_digitChar {d : Nat} (hd : d < 10) : digit? (Nat.digitChar d) = some d :=
  digit?_eq_some_iff.mpr ⟨hd, rfl⟩

theorem next_ends {phase : NumberPhase} (n : Numeral) (hphase : phase.complete = true)
    (hc : Ends c) : phase.next n c = none := by
  obtain ⟨hdigit, hpoint, he, hE⟩ := hc
  cases phase with
  | zero | whole | fraction | exponent =>
      simp [NumberPhase.next, hdigit, hpoint, he, hE]
  | sign | point | exponentMark | exponentSign => cases hphase

theorem read_number_end {phase : NumberPhase} (n : Numeral) (hphase : phase.complete = true)
    (hrest : ∀ c ∈ rest.head?, Ends c) :
    (number phase n).read rest = (between.read rest).map (Token.number n :: ·) := by
  cases rest with
  | nil =>
      rw [read, finish, if_pos hphase]
      rfl
  | cons c rest =>
      have hnext : phase.next n c = none := next_ends n hphase (hrest c rfl)
      have hstep : (number phase n).step c =
          (Mode.start c).map fun next => (Token.number n :: next.1, next.2) := by
        rw [step, hnext]
        exact if_pos hphase
      have hbetween : between.step c = Mode.start c := rfl
      rw [read, read, hstep, hbetween]
      cases Mode.start c with
      | none => rfl
      | some pair =>
          rw [Option.map_some, Option.bind_some, Option.bind_some, Option.map_map]
          rfl

def firstPhase (d : Nat) : NumberPhase :=
  if d = 0 then .zero else .whole

theorem read_first {d : Nat} (hd : d < 10) :
    between.read (Nat.digitChar d :: rest) =
      (number (firstPhase d) { whole := [d] }).read rest := by
  refine read_quiet ?_
  interval_cases d <;> rfl

theorem read_first_signed {n : Numeral} {d : Nat} (hd : d < 10) :
    (number .sign n).read (Nat.digitChar d :: rest) =
      (number (firstPhase d) { n with whole := [d] }).read rest := by
  refine read_quiet ?_
  interval_cases d <;> rfl

/-- A run of digits, in a phase in which each digit makes the number grow and the phase stays. -/
theorem read_digits (phase : NumberPhase) (grown : List Nat → Numeral)
    (hstep : ∀ before, ∀ d < 10, (number phase (grown before)).step (Nat.digitChar d) =
      some ([], number phase (grown (before ++ [d]))))
    {ds : List Nat} (hds : ∀ d ∈ ds, d < 10) (before : List Nat) :
    (number phase (grown before)).read (digitsText ds ++ rest) =
      (number phase (grown (before ++ ds))).read rest := by
  induction ds generalizing before with
  | nil =>
      rw [List.append_nil]
      rfl
  | cons d ds ih =>
      obtain ⟨hd, hrest⟩ := List.forall_mem_cons.mp hds
      have htail := ih hrest (before ++ [d])
      rw [List.append_assoc] at htail
      exact (read_quiet (hstep before d hd)).trans htail

theorem read_whole_digits {ds : List Nat} (hds : ∀ d ∈ ds, d < 10) (n : Numeral)
    (before : List Nat) :
    (number .whole { n with whole := before }).read (digitsText ds ++ rest) =
      (number .whole { n with whole := before ++ ds }).read rest :=
  read_digits .whole (fun whole => { n with whole })
    (fun _ _ hd => by simp only [step, NumberPhase.next, digit?_digitChar hd]) hds before

theorem read_fraction_digits {ds : List Nat} (hds : ∀ d ∈ ds, d < 10) (n : Numeral)
    (before : List Nat) :
    (number .fraction { n with fraction := some before }).read (digitsText ds ++ rest) =
      (number .fraction { n with fraction := some (before ++ ds) }).read rest :=
  read_digits .fraction (fun ds => { n with fraction := some ds })
    (fun _ _ hd => by simp only [step, NumberPhase.next, digit?_digitChar hd, Option.map_some])
    hds before

theorem read_exponent_digits {ds : List Nat} (hds : ∀ d ∈ ds, d < 10) (n : Numeral)
    (negative : Bool) (before : List Nat) :
    (number .exponent { n with exponent := some (negative, before) }).read (digitsText ds ++ rest) =
      (number .exponent { n with exponent := some (negative, before ++ ds) }).read rest :=
  read_digits .exponent (fun ds => { n with exponent := some (negative, ds) })
    (fun _ _ hd => by simp only [step, NumberPhase.next, digit?_digitChar hd, Option.map_some])
    hds before

/-- The sign and the digits before the point. -/
theorem read_whole {n : Numeral} (h : n.Whole) :
    ∃ phase, (phase = .zero ∨ phase = .whole) ∧ ∀ rest,
      between.read (n.signText ++ (digitsText n.whole ++ rest)) =
        (number phase { negative := n.negative, whole := n.whole }).read rest := by
  obtain ⟨negative, whole, fraction, exponent⟩ := n
  obtain ⟨⟨hne, hdigits⟩, hzero⟩ := h
  cases whole with
  | nil => exact absurd rfl hne
  | cons d ds =>
      have hd : d < 10 := hdigits d List.mem_cons_self
      have hfirst : ∀ rest,
          between.read (Numeral.signText ⟨negative, d :: ds, fraction, exponent⟩ ++
            (digitsText (d :: ds) ++ rest)) =
          (number (firstPhase d) { negative, whole := [d] }).read (digitsText ds ++ rest) := by
        intro rest
        cases negative with
        | false => exact read_first hd
        | true =>
            have hsign : between.step '-' = some ([], number .sign { negative := true }) := rfl
            exact (read_quiet hsign).trans (read_first_signed hd)
      refine ⟨firstPhase d, ?_, fun rest => (hfirst rest).trans ?_⟩
      · rw [firstPhase]
        split
        · exact .inl rfl
        · exact .inr rfl
      · rw [firstPhase]
        split
        case isTrue h =>
            subst h
            cases hzero rfl
            rfl
        case isFalse =>
            exact read_whole_digits (fun e he => hdigits e (List.mem_cons_of_mem _ he))
              { negative } [d]

theorem read_fraction {phase : NumberPhase} {n : Numeral} (hphase : phase = .zero ∨ phase = .whole)
    (h : n.Fraction) :
    ∃ next, (next = .zero ∨ next = .whole ∨ next = .fraction) ∧ ∀ rest,
      (number phase { n with fraction := none, exponent := none }).read (n.fractionText ++ rest) =
        (number next { n with exponent := none }).read rest := by
  obtain ⟨negative, whole, fraction, exponent⟩ := n
  cases fraction with
  | none =>
      refine ⟨phase, ?_, fun rest => rfl⟩
      rcases hphase with rfl | rfl
      · exact .inl rfl
      · exact .inr (.inl rfl)
  | some ds =>
      obtain ⟨hne, hdigits⟩ := h ds rfl
      refine ⟨.fraction, .inr (.inr rfl), fun rest => ?_⟩
      have hpoint : (number phase ⟨negative, whole, none, none⟩).step '.' =
          some ([], number .point ⟨negative, whole, some [], none⟩) := by
        rcases hphase with rfl | rfl <;> rfl
      refine (read_quiet hpoint).trans ?_
      cases ds with
      | nil => exact absurd rfl hne
      | cons d ds =>
          have hd := digit?_digitChar (hdigits d List.mem_cons_self)
          have hstep : (number .point ⟨negative, whole, some [], none⟩).step (Nat.digitChar d) =
              some ([], number .fraction ⟨negative, whole, some [d], none⟩) := by
            simp only [step, NumberPhase.next, hd]
          exact (read_quiet hstep).trans
            (read_fraction_digits (fun e he => hdigits e (List.mem_cons_of_mem _ he))
              ⟨negative, whole, none, none⟩ [d])

/-- The sign of the exponent and its first digit. -/
theorem read_exponent_first {d : Nat} (hd : d < 10) (negative plus : Bool) (n : Numeral) :
    (number .exponentMark { n with exponent := some (false, []) }).read
        ((if negative then ['-'] else if plus then ['+'] else []) ++ Nat.digitChar d :: rest) =
      (number .exponent { n with exponent := some (negative, [d]) }).read rest := by
  have hdigit := digit?_digitChar hd
  have hdirect : (number .exponentMark { n with exponent := some (false, []) }).step
      (Nat.digitChar d) = some ([], number .exponent { n with exponent := some (false, [d]) }) := by
    simp only [step, NumberPhase.next, hdigit]
  have hsigned : ∀ negative,
      (number .exponentSign { n with exponent := some (negative, []) }).step (Nat.digitChar d) =
        some ([], number .exponent { n with exponent := some (negative, [d]) }) := by
    intro negative
    simp only [step, NumberPhase.next, hdigit]
    rfl
  have hsign : ∀ c negative, c = '-' ∧ negative = true ∨ c = '+' ∧ negative = false →
      (number .exponentMark { n with exponent := some (false, []) }).step c =
        some ([], number .exponentSign { n with exponent := some (negative, []) }) := by
    rintro c negative (⟨rfl, rfl⟩ | ⟨rfl, rfl⟩) <;> rfl
  cases negative with
  | true => exact (read_quiet (hsign '-' true (.inl ⟨rfl, rfl⟩))).trans (read_quiet (hsigned true))
  | false =>
      cases plus with
      | true =>
          exact (read_quiet (hsign '+' false (.inr ⟨rfl, rfl⟩))).trans (read_quiet (hsigned false))
      | false => exact read_quiet hdirect

theorem read_exponent {phase : NumberPhase} {n : Numeral} {mark : Char}
    (hphase : phase = .zero ∨ phase = .whole ∨ phase = .fraction)
    (hmark : mark = 'e' ∨ mark = 'E') (plus : Bool) (h : n.Exponent) :
    ∃ next, next.complete = true ∧ ∀ rest,
      (number phase { n with exponent := none }).read (n.exponentText mark plus ++ rest) =
        (number next n).read rest := by
  obtain ⟨negative, whole, fraction, exponent⟩ := n
  cases exponent with
  | none =>
      refine ⟨phase, ?_, fun rest => rfl⟩
      rcases hphase with rfl | rfl | rfl <;> rfl
  | some signed =>
      obtain ⟨sign, ds⟩ := signed
      obtain ⟨hne, hdigits⟩ := h sign ds rfl
      refine ⟨.exponent, rfl, fun rest => ?_⟩
      have hstep : (number phase ⟨negative, whole, fraction, none⟩).step mark =
          some ([], number .exponentMark ⟨negative, whole, fraction, some (false, [])⟩) := by
        rcases hphase with rfl | rfl | rfl <;> rcases hmark with rfl | rfl <;> rfl
      refine (read_quiet hstep).trans ?_
      cases ds with
      | nil => exact absurd rfl hne
      | cons d ds =>
          obtain ⟨hd, hrest⟩ := List.forall_mem_cons.mp hdigits
          refine (congrArg (read _) (List.append_assoc _ _ rest)).trans ?_
          exact (read_exponent_first hd sign plus ⟨negative, whole, fraction, none⟩).trans
            (read_exponent_digits hrest ⟨negative, whole, fraction, none⟩ sign [d])

theorem read_number {n : Numeral} (h : n.Spelled s) (hrest : ∀ c ∈ rest.head?, Ends c) :
    between.read (s ++ rest) = (between.read rest).map (Token.number n :: ·) := by
  obtain ⟨⟨hwhole, hfraction, hexponent⟩, mark, plus, hmark, rfl⟩ := h
  obtain ⟨phase₁, hphase₁, hread₁⟩ := read_whole hwhole
  obtain ⟨phase₂, hphase₂, hread₂⟩ := read_fraction hphase₁ hfraction
  obtain ⟨phase₃, hphase₃, hread₃⟩ := read_exponent hphase₂ hmark plus hexponent
  simp only [Numeral.text, List.append_assoc]
  rw [hread₁]
  refine (hread₂ _).trans ((hread₃ rest).trans ?_)
  exact read_number_end n hphase₃ hrest

/-! ## Tokens -/

theorem read_word {token : Token} {c : Char} {word : List Char} :
    (Mode.word (c :: word) token).read (c :: word ++ rest) =
      (between.read rest).map (token :: ·) := by
  induction word generalizing c with
  | nil => exact read_last (if_pos rfl)
  | cons d word ih =>
      have hstep : (Mode.word (c :: d :: word) token).step c =
          some ([], Mode.word (d :: word) token) := if_pos rfl
      exact (read_quiet hstep).trans ih

/-- A token that is no number is read to its end whatever follows. -/
theorem read_token {t : Token} (h : t.Spelled s) (ht : ∀ n, t ≠ .number n) :
    between.read (s ++ rest) = (between.read rest).map (t :: ·) := by
  cases t with
  | number n => exact absurd rfl (ht n)
  | leftBrace | rightBrace | leftBracket | rightBracket | colon | comma =>
      subst h
      exact read_last rfl
  | null =>
      subst h
      have hstep : between.step 'n' = some ([], .word ['u', 'l', 'l'] .null) := rfl
      exact (read_quiet hstep).trans read_word
  | boolean b =>
      cases b with
      | true =>
          subst h
          have hstep : between.step 't' = some ([], .word ['r', 'u', 'e'] (.boolean true)) := rfl
          exact (read_quiet hstep).trans read_word
      | false =>
          subst h
          have hstep : between.step 'f' =
              some ([], .word ['a', 'l', 's', 'e'] (.boolean false)) := rfl
          exact (read_quiet hstep).trans read_word
  | string ps =>
      obtain ⟨body, hbody, rfl⟩ := h
      have hopen : between.step '"' = some ([], .string []) := rfl
      have hclose : (string (ps.reverse ++ [])).step '"' = some ([.string ps], between) := by
        rw [List.append_nil, step, if_pos rfl, List.reverse_reverse]
      rw [List.cons_append, List.append_assoc, read_quiet hopen, read_body hbody]
      exact read_last hclose

end Mode

/-! ## Runs of tokens -/

/-- Two tokens that may stand side by side without a blank: not both are numbers. -/
def Token.Apart (t u : Token) : Prop :=
  ∀ n k, ¬ (t = .number n ∧ u = .number k)

theorem Mode.Ends.blank {c : Char} (h : isSpace c = true) : Mode.Ends c := by
  have hc := isSpace_iff.mp h
  simp only [List.mem_cons, List.not_mem_nil, or_false] at hc
  rcases hc with rfl | rfl | rfl | rfl <;> decide

theorem Token.Spelled.ends {t : Token} {s : List Char} (h : t.Spelled s)
    (ht : ∀ n, t ≠ .number n) : ∃ c rest, s = c :: rest ∧ Mode.Ends c := by
  cases t with
  | number n => exact absurd rfl (ht n)
  | string ps =>
      obtain ⟨body, -, rfl⟩ := h
      exact ⟨'"', body ++ ['"'], rfl, by decide⟩
  | boolean b => cases b <;> exact ⟨_, _, h, by decide⟩
  | leftBrace | rightBrace | leftBracket | rightBracket | colon | comma | null =>
      exact ⟨_, _, h, by decide⟩

theorem Laid.ends {ts : List Token} {s : List Char} (h : Laid ts s)
    (hfirst : ∀ t ∈ ts.head?, ∀ n, t ≠ .number n) : ∀ c ∈ s.head?, Mode.Ends c := by
  intro c hc
  cases h with
  | nil hblank =>
      exact .blank (isSpace_iff.mpr (hblank c (List.mem_of_mem_head? hc)))
  | @cons t ts blanks lexeme rest hblank ht _ =>
      cases blanks with
      | nil =>
          obtain ⟨d, tail, rfl, hd⟩ := ht.ends (hfirst t rfl)
          cases hc
          exact hd
      | cons d blanks =>
          cases hc
          exact .blank (isSpace_iff.mpr (hblank c List.mem_cons_self))

/-- The transducer finds the tokens that a text lays out, where no two numbers stand side by
side. -/
theorem tokens?_of_laid {ts : List Token} {s : List Char} (h : Laid ts s)
    (hapart : ts.IsChain Token.Apart) : tokens? s = some ts := by
  rw [tokens?_eq_read]
  induction h with
  | @nil blanks hblank =>
      have hread : Mode.between.read (blanks ++ []) = Mode.between.read [] :=
        Mode.read_blank hblank
      rwa [List.append_nil] at hread
  | @cons t ts blanks lexeme rest hblank ht hrest ih =>
      have hread : Mode.between.read rest = some ts := ih hapart.tail
      rw [Mode.read_blank hblank]
      cases t with
      | number n =>
          -- Only a number looks at what stands behind it.
          have hfirst : ∀ u ∈ ts.head?, ∀ k, u ≠ .number k :=
            fun u hu k hk => hapart.rel_head? hu n k ⟨rfl, hk⟩
          rw [Mode.read_number ht (hrest.ends hfirst), hread]
          rfl
      | _ =>
          rw [Mode.read_token ht nofun, hread]
          rfl

end ChatTerminal.Json
