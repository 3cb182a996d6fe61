import ChatTerminal.Json.Tree
import Mathlib.Data.Nat.Digits.Defs
import Mathlib.Data.List.Forall2
/-!
# The grammar of JSON texts

All the ways in which a tree may be written down, stated without a reader.  A string may spell a
character by itself, by a letter or by code units, a number may mark its exponent in two ways,
and blanks may stand around every token.  What a string or an integer says is stated here too.
-/

namespace ChatTerminal.Json

/-! ## Characters of strings -/

def HexDigit (c : Char) (d : Nat) : Prop :=
  d < 16 ∧ (c = Nat.digitChar d ∨ c = (Nat.digitChar d).toUpper)

instance (c : Char) (d : Nat) : Decidable (HexDigit c d) :=
  inferInstanceAs (Decidable (_ ∧ _))

def HexDigits (s : List Char) (n : Nat) : Prop :=
  ∃ ds, List.Forall₂ HexDigit s ds ∧ n = Nat.ofDigits 16 ds.reverse

def letterEscapes : List (Char × Char) :=
  [('"', '"'), ('\\', '\\'), ('/', '/'), ('b', '\x08'), ('f', '\x0c'), ('n', '\n'), ('r', '\r'),
    ('t', '\t')]

inductive Piece.Spelled : Piece → List Char → Prop where
  | plain {c : Char} : 0x20 ≤ c.toNat → c ≠ '"' → c ≠ '\\' → Spelled (.char c) [c]
  | letter {letter c : Char} : (letter, c) ∈ letterEscapes → Spelled (.char c) ['\\', letter]
  | unit {s : List Char} {n : Nat} :
      HexDigits s n → s.length = 4 → Spelled (.unit n) ('\\' :: 'u' :: s)

inductive Body : List Piece → List Char → Prop where
  | nil : Body [] []
  | cons {p : Piece} {ps : List Piece} {s rest : List Char} :
      p.Spelled s → Body ps rest → Body (p :: ps) (s ++ rest)

/-! ## Numbers -/

def Digits (ds : List Nat) : Prop :=
  ds ≠ [] ∧ ∀ d ∈ ds, d < 10

def digitsText (ds : List Nat) : List Char :=
  ds.map Nat.digitChar

namespace Numeral

def signText (n : Numeral) : List Char :=
  if n.negative then ['-'] else []

def fractionText (n : Numeral) : List Char :=
  match n.fraction with
  | none => []
  | some ds => '.' :: digitsText ds

/-- The exponent with the letter that marks it.  A plus sign may stand before one that is not
negative. -/
def exponentText (n : Numeral) (mark : Char) (plus : Bool) : List Char :=
  match n.exponent with
  | none => []
  | some (negative, ds) =>
    mark :: ((if negative then ['-'] else if plus then ['+'] else []) ++ digitsText ds)

def text (n : Numeral) (mark : Char) (plus : Bool) : List Char :=
  n.signText ++ (digitsText n.whole ++ (n.fractionText ++ n.exponentText mark plus))

/-- Digits stand before the point, and a zero leads no other digit. -/
def Whole (n : Numeral) : Prop :=
  Digits n.whole ∧ (n.whole.head? = some 0 → n.whole = [0])

def Fraction (n : Numeral) : Prop :=
  ∀ ds, n.fraction = some ds → Digits ds

def Exponent (n : Numeral) : Prop :=
  ∀ negative ds, n.exponent = some (negative, ds) → Digits ds

structure WellFormed (n : Numeral) : Prop where
  whole : n.Whole
  fraction : n.Fraction
  exponent : n.Exponent

def Spelled (n : Numeral) (s : List Char) : Prop :=
  n.WellFormed ∧ ∃ mark plus, (mark = 'e' ∨ mark = 'E') ∧ s = n.text mark plus

/-- The number is an integer of 64 bits with the value `v`.  It has neither point nor exponent,
and no minus sign before zero. -/
structure Denotes (n : Numeral) (v : Int) : Prop where
  noFraction : n.fraction = none
  noExponent : n.exponent = none
  value : v = (if n.negative then -1 else 1) * ((Nat.ofDigits 10 n.whole.reverse : Nat) : Int)
  bounds : -2 ^ 63 ≤ v ∧ v < 2 ^ 63
  noMinusZero : n.negative = true → v ≠ 0

end Numeral

/-! ## Tokens -/

/-- Blanks may stand around tokens. -/
def Blank (s : List Char) : Prop :=
  ∀ c ∈ s, c ∈ [' ', '\n', '\t', '\r']

def Token.Spelled : Token → List Char → Prop
  | .leftBrace, s => s = ['{']
  | .rightBrace, s => s = ['}']
  | .leftBracket, s => s = ['[']
  | .rightBracket, s => s = [']']
  | .colon, s => s = [':']
  | .comma, s => s = [',']
  | .null, s => s = ['n', 'u', 'l', 'l']
  | .boolean true, s => s = ['t', 'r', 'u', 'e']
  | .boolean false, s => s = ['f', 'a', 'l', 's', 'e']
  | .number n, s => n.Spelled s
  | .string ps, s => ∃ body, Body ps body ∧ s = '"' :: (body ++ ['"'])

inductive Laid : List Token → List Char → Prop where
  | nil {blanks : List Char} : Blank blanks → Laid [] blanks
  | cons {t : Token} {ts : List Token} {blanks lexeme rest : List Char} :
      Blank blanks → t.Spelled lexeme → Laid ts rest → Laid (t :: ts) (blanks ++ (lexeme ++ rest))

/-! ## Trees -/

mutual

def Tree.tokens : Tree → List Token
  | .null => [.null]
  | .boolean b => [.boolean b]
  | .number n => [.number n]
  | .string s => [.string s]
  | .array items =>
    .leftBracket :: ([Token.comma].intercalate (itemTokens items) ++ [.rightBracket])
  | .object members =>
    .leftBrace :: ([Token.comma].intercalate (memberTokens members) ++ [.rightBrace])

def itemTokens : List Tree → List (List Token)
  | [] => []
  | t :: items => t.tokens :: itemTokens items

def memberTokens : List (List Piece × Tree) → List (List Token)
  | [] => []
  | (key, t) :: members => (.string key :: .colon :: t.tokens) :: memberTokens members

end

def Tree.Spelled (t : Tree) (s : List Char) : Prop :=
  Laid t.tokens s

/-! ## What strings say -/

def highUnit (c : Char) : Nat :=
  0xD800 + (c.toNat - 0x10000) / 0x400

def lowUnit (c : Char) : Nat :=
  0xDC00 + (c.toNat - 0x10000) % 0x400

/-- The text that a string literal says.  A character beyond the basic plane may be written as its
two code units; a surrogate that stands alone says nothing. -/
inductive Denotes : List Piece → List Char → Prop where
  | nil : Denotes [] []
  | char {c : Char} {ps : List Piece} {s : List Char} :
      Denotes ps s → Denotes (.char c :: ps) (c :: s)
  | unit {c : Char} {ps : List Piece} {s : List Char} :
      c.toNat < 0x10000 → Denotes ps s → Denotes (.unit c.toNat :: ps) (c :: s)
  | pair {c : Char} {ps : List Piece} {s : List Char} :
      0x10000 ≤ c.toNat → Denotes ps s →
        Denotes (.unit (highUnit c) :: .unit (lowUnit c) :: ps) (c :: s)

end ChatTerminal.Json
