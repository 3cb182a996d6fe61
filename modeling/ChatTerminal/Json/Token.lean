/-!
# Tokens of JSON

A transducer cuts a JSON text into tokens, one character at a time. A string token keeps its
`\u` escapes as code units, because whether they pair up matters only where the text of the
string is wanted. A number token keeps its digits, because its range matters only where its value
is wanted.
-/

namespace ChatTerminal.Json

/-- A part of a string literal: a character, or a code unit written with four hex digits. -/
inductive Piece where
  | char (c : Char)
  | unit (n : Nat)
deriving Repr, DecidableEq

/-- A number as it is written: its sign, the digits before the point, the digits after it, and
the exponent with its sign. Digits are kept in reading order. -/
structure Numeral where
  negative : Bool := false
  whole : List Nat := []
  fraction : Option (List Nat) := none
  exponent : Option (Bool × List Nat) := none
deriving Repr, DecidableEq

inductive Token where
  | leftBrace
  | rightBrace
  | leftBracket
  | rightBracket
  | colon
  | comma
  | null
  | boolean (b : Bool)
  | number (n : Numeral)
  | string (s : List Piece)
deriving Repr, DecidableEq

inductive NumberPhase where
  | sign
  | zero
  | whole
  | point
  | fraction
  | exponentMark
  | exponentSign
  | exponent
deriving Repr, DecidableEq

/-- A number may end where at least one digit stands after the last sign, point or mark. -/
def NumberPhase.complete : NumberPhase → Bool
  | .zero | .whole | .fraction | .exponent => true
  | .sign | .point | .exponentMark | .exponentSign => false

inductive Mode where
  | between
  | word (rest : List Char) (token : Token)
  | number (phase : NumberPhase) (n : Numeral)
  | string (soFar : List Piece)
  | escape (soFar : List Piece)
  | unit (soFar : List Piece) (digits : Nat) (value : Nat)
deriving Repr, DecidableEq

def digit? (c : Char) : Option Nat :=
  if '0' ≤ c && c ≤ '9' then some (c.toNat - '0'.toNat) else none

def hexDigit? (c : Char) : Option Nat :=
  if '0' ≤ c && c ≤ '9' then some (c.toNat - '0'.toNat)
  else if 'a' ≤ c && c ≤ 'f' then some (c.toNat - 'a'.toNat + 10)
  else if 'A' ≤ c && c ≤ 'F' then some (c.toNat - 'A'.toNat + 10)
  else none

def isSpace (c : Char) : Bool :=
  c == ' ' || c == '\n' || c == '\t' || c == '\r'

def escaped? : Char → Option Char
  | '"' => some '"'
  | '\\' => some '\\'
  | '/' => some '/'
  | 'b' => some '\x08'
  | 'f' => some '\x0c'
  | 'n' => some '\n'
  | 'r' => some '\r'
  | 't' => some '\t'
  | _ => none

/-- The step of a transducer that stands between tokens. -/
def Mode.start (c : Char) : Option (List Token × Mode) :=
  if isSpace c then some ([], .between)
  else
    match c with
    | '{' => some ([.leftBrace], .between)
    | '}' => some ([.rightBrace], .between)
    | '[' => some ([.leftBracket], .between)
    | ']' => some ([.rightBracket], .between)
    | ':' => some ([.colon], .between)
    | ',' => some ([.comma], .between)
    | '"' => some ([], .string [])
    | 'n' => some ([], .word ['u', 'l', 'l'] .null)
    | 't' => some ([], .word ['r', 'u', 'e'] (.boolean true))
    | 'f' => some ([], .word ['a', 'l', 's', 'e'] (.boolean false))
    | '-' => some ([], .number .sign { negative := true })
    | _ =>
      match digit? c with
      | some 0 => some ([], .number .zero { whole := [0] })
      | some d => some ([], .number .whole { whole := [d] })
      | none => none

def NumberPhase.next (phase : NumberPhase) (n : Numeral) (c : Char) :
    Option (NumberPhase × Numeral) :=
  let mark := c == 'e' || c == 'E'
  match phase with
  | .sign =>
    match digit? c with
    | some 0 => some (.zero, { n with whole := [0] })
    | some d => some (.whole, { n with whole := [d] })
    | none => none
  | .zero =>
    if c == '.' then some (.point, { n with fraction := some [] })
    else if mark then some (.exponentMark, { n with exponent := some (false, []) })
    else none
  | .whole =>
    match digit? c with
    | some d => some (.whole, { n with whole := n.whole ++ [d] })
    | none =>
      if c == '.' then some (.point, { n with fraction := some [] })
      else if mark then some (.exponentMark, { n with exponent := some (false, []) })
      else none
  | .point =>
    match digit? c with
    | some d => some (.fraction, { n with fraction := some [d] })
    | none => none
  | .fraction =>
    match digit? c with
    | some d => some (.fraction, { n with fraction := n.fraction.map (· ++ [d]) })
    | none =>
      if mark then some (.exponentMark, { n with exponent := some (false, []) }) else none
  | .exponentMark =>
    match digit? c with
    | some d => some (.exponent, { n with exponent := some (false, [d]) })
    | none =>
      if c == '+' then some (.exponentSign, n)
      else if c == '-' then some (.exponentSign, { n with exponent := some (true, []) })
      else none
  | .exponentSign | .exponent =>
    match digit? c with
    | some d => some (.exponent, { n with exponent := n.exponent.map fun (s, ds) => (s, ds ++ [d]) })
    | none => none

/-- One step: the tokens that `c` completes and the mode after it, or nothing if no JSON text
continues with `c`. A character that cannot continue a complete number ends it and is then read
as standing between tokens. -/
def Mode.step (mode : Mode) (c : Char) : Option (List Token × Mode) :=
  match mode with
  | .between => Mode.start c
  | .word [] _ => none
  | .word (d :: rest) token =>
    if c = d then
      if rest.isEmpty then some ([token], .between) else some ([], .word rest token)
    else none
  | .number phase n =>
    match phase.next n c with
    | some (phase, n) => some ([], .number phase n)
    | none =>
      if phase.complete then
        (Mode.start c).map fun (out, mode) => (.number n :: out, mode)
      else none
  | .string soFar =>
    if c = '"' then some ([.string soFar.reverse], .between)
    else if c = '\\' then some ([], .escape soFar)
    else if c.toNat < 0x20 then none
    else some ([], .string (.char c :: soFar))
  | .escape soFar =>
    if c = 'u' then some ([], .unit soFar 0 0)
    else (escaped? c).map fun d => ([], .string (.char d :: soFar))
  | .unit soFar digits value =>
    (hexDigit? c).map fun d =>
      let value := value * 16 + d
      if digits = 3 then ([], .string (.unit value :: soFar))
      else ([], .unit soFar (digits + 1) value)

def Mode.finish : Mode → Option (List Token)
  | .between => some []
  | .number phase n => if phase.complete then some [.number n] else none
  | _ => none

def tokens? (s : List Char) : Option (List Token) := do
  let (found, mode) ← s.foldlM (fun (found, mode) c => do
    let (out, mode) ← Mode.step mode c
    pure (out.reverse ++ found, mode)) (([] : List Token), Mode.between)
  let out ← mode.finish
  pure (found.reverse ++ out)

def nesting (ts : List Token) : Nat :=
  (ts.foldl (fun (depth, deepest) t =>
    match t with
    | .leftBrace | .leftBracket => (depth + 1, max deepest (depth + 1))
    | .rightBrace | .rightBracket => (depth - 1, deepest)
    | _ => (depth, deepest)) (0, 0)).2

/-- The text of a string literal. Two code units that form a surrogate pair make one character;
a surrogate that stands alone makes no text. -/
def textOf? : List Piece → Option (List Char)
  | [] => some []
  | .char c :: s => (textOf? s).map (c :: ·)
  | .unit high :: .unit low :: s =>
    if 0xD800 ≤ high && high < 0xDC00 then
      if 0xDC00 ≤ low && low < 0xE000 then
        (textOf? s).map
          (Char.ofNat (0x10000 + (high - 0xD800) * 0x400 + (low - 0xDC00)) :: ·)
      else none
    else if 0xDC00 ≤ high && high < 0xE000 then none
    else (textOf? (.unit low :: s)).map (Char.ofNat high :: ·)
  | .unit n :: s =>
    if 0xD800 ≤ n && n < 0xE000 then none else (textOf? s).map (Char.ofNat n :: ·)

end ChatTerminal.Json
