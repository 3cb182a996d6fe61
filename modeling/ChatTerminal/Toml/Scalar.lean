import ChatTerminal.Json.Numeral
import ChatTerminal.Text.Blank
import ChatTerminal.Web.Date
import ChatTerminal.Web.Percent
/-!
# Scalars of TOML

Strings, numbers, booleans and dates of a TOML document. A reader takes what is at the front of
the text and gives the rest.
-/

namespace ChatTerminal.Toml

open Text

abbrev Reader (α : Type) := List Char → Option (α × List Char)

inductive Scalar where
  | string (s : String)
  | boolean (b : Bool)
  | number
  | date
deriving Repr, DecidableEq

/-- The characters that a string, a comment or a key may hold as they are. -/
def isPrintable (c : Char) : Bool :=
  c == '\t' || (0x20 ≤ c.toNat && c.toNat != 0x7F)

def isGap (c : Char) : Bool := c == ' ' || c == '\t'

def lineEnd? : List Char → Option (List Char)
  | '\n' :: s => some s
  | '\r' :: '\n' :: s => some s
  | _ => none

def codePoint? (digits : List Char) : Option Char := do
  let values ← digits.mapM Web.hexDigit?
  let n := values.foldl (fun n d => n * 16 + d) 0
  if n < 0xD800 || (0xDFFF < n && n < 0x110000) then some (Char.ofNat n) else none

def hexEscape? (count : Nat) (s : List Char) : Option (Char × List Char) :=
  if (s.take count).length = count then (codePoint? (s.take count)).map (·, s.drop count)
  else none

def escape? : Reader Char
  | 'b' :: s => some ('\x08', s)
  | 't' :: s => some ('\t', s)
  | 'n' :: s => some ('\n', s)
  | 'f' :: s => some ('\x0c', s)
  | 'r' :: s => some ('\r', s)
  | 'e' :: s => some ('\x1b', s)
  | '"' :: s => some ('"', s)
  | '\\' :: s => some ('\\', s)
  | 'x' :: s => hexEscape? 2 s
  | 'u' :: s => hexEscape? 4 s
  | 'U' :: s => hexEscape? 8 s
  | _ => none

/-- A string after its opening quote, on one line. -/
def basicString (fuel : Nat) (soFar : List Char) (s : List Char) : Option (List Char × List Char) :=
  match fuel, s with
  | 0, _ => none
  | _ + 1, '"' :: s => some (soFar.reverse, s)
  | fuel + 1, '\\' :: s => do
    let (c, s) ← escape? s
    basicString fuel (c :: soFar) s
  | fuel + 1, c :: s => if isPrintable c then basicString fuel (c :: soFar) s else none
  | _ + 1, [] => none

/-- A string after its opening apostrophe, on one line and without escapes. -/
def literalString (s : List Char) : Option (List Char × List Char) :=
  match s.dropWhile (· ≠ '\'') with
  | _ :: rest =>
    let body := s.takeWhile (· ≠ '\'')
    if body.all isPrintable then some (body, rest) else none
  | [] => none

/-- Drops the blanks and line ends after a backslash that ends a line. -/
def foldLine (s : List Char) : Option (List Char) :=
  (lineEnd? (s.dropWhile isGap)).map fun rest =>
    rest.dropWhile fun c => isGap c || c == '\n' || c == '\r'

/-- A string after its three opening quotes. Up to two quotes may stand before the closing
three. -/
def longString (fuel : Nat) (soFar : List Char) (s : List Char) :
    Option (List Char × List Char) :=
  match fuel, s with
  | 0, _ => none
  | _ + 1, '"' :: '"' :: '"' :: '"' :: '"' :: s => some (('"' :: '"' :: soFar).reverse, s)
  | _ + 1, '"' :: '"' :: '"' :: '"' :: s => some (('"' :: soFar).reverse, s)
  | _ + 1, '"' :: '"' :: '"' :: s => some (soFar.reverse, s)
  | fuel + 1, '\\' :: s =>
    match foldLine s with
    | some s => longString fuel soFar s
    | none => do
      let (c, s) ← escape? s
      longString fuel (c :: soFar) s
  | fuel + 1, '\r' :: '\n' :: s => longString fuel ('\n' :: '\r' :: soFar) s
  | fuel + 1, c :: s =>
    if isPrintable c || c == '\n' then longString fuel (c :: soFar) s else none
  | _ + 1, [] => none

/-- A string after its three opening apostrophes, without escapes. -/
def longLiteral (fuel : Nat) (soFar : List Char) (s : List Char) :
    Option (List Char × List Char) :=
  match fuel, s with
  | 0, _ => none
  | _ + 1, '\'' :: '\'' :: '\'' :: '\'' :: '\'' :: s => some (('\'' :: '\'' :: soFar).reverse, s)
  | _ + 1, '\'' :: '\'' :: '\'' :: '\'' :: s => some (('\'' :: soFar).reverse, s)
  | _ + 1, '\'' :: '\'' :: '\'' :: s => some (soFar.reverse, s)
  | fuel + 1, '\r' :: '\n' :: s => longLiteral fuel ('\n' :: '\r' :: soFar) s
  | fuel + 1, c :: s =>
    if isPrintable c || c == '\n' then longLiteral fuel (c :: soFar) s else none
  | _ + 1, [] => none

def withoutLineEnd (s : List Char) : List Char := (lineEnd? s).getD s

def string? (s : List Char) : Option (List Char × List Char) :=
  match s with
  | '"' :: '"' :: '"' :: rest => longString (rest.length + 1) [] (withoutLineEnd rest)
  | '\'' :: '\'' :: '\'' :: rest => longLiteral (rest.length + 1) [] (withoutLineEnd rest)
  | '"' :: rest => basicString (rest.length + 1) [] rest
  | '\'' :: rest => literalString rest
  | _ => none

/-- The digits of a number with underscores, which must stand between digits. -/
def digitsOf? (isDigit : Char → Bool) (s : List Char) : Option (List Char) :=
  let parts := pieces (· == '_') s
  if parts.all fun part => !part.isEmpty && part.all isDigit then some parts.flatten else none

def withoutSign : List Char → List Char
  | '+' :: s | '-' :: s => s
  | s => s

/-- The digits of a decimal integer without sign: no zero leads another digit. -/
def wholeDigits? (s : List Char) : Option (List Char) :=
  match digitsOf? Char.isDigit s with
  | some ('0' :: _ :: _) => none
  | digits => digits

def valueIn (base : Nat) (digits : List Char) : Nat :=
  (digits.filterMap Web.hexDigit?).foldl (fun n d => n * base + d) 0

/-- The integers that a number may denote: those of 128 bits. -/
def fitsInteger (negative : Bool) (n : Nat) : Bool :=
  if negative then n ≤ Nat.pow 2 127 else n < Nat.pow 2 128

def isOctal (c : Char) : Bool := '0' ≤ c && c ≤ '7'

def isBinary (c : Char) : Bool := c == '0' || c == '1'

def isHex (c : Char) : Bool := (Web.hexDigit? c).isSome

def isInteger (s : List Char) : Bool :=
  let based (base : Nat) (isDigit : Char → Bool) (s : List Char) : Bool :=
    match digitsOf? isDigit s with
    | some digits => fitsInteger false (valueIn base digits)
    | none => false
  match s with
  | '0' :: 'x' :: s => based 16 isHex s
  | '0' :: 'o' :: s => based 8 isOctal s
  | '0' :: 'b' :: s => based 2 isBinary s
  | s =>
    match wholeDigits? (withoutSign s) with
    | some digits => fitsInteger (s.head? == some '-') (valueIn 10 digits)
    | none => false

/-- The parts of a float: whole digits, digits after the point, and the exponent. -/
def floatParts? (s : List Char) : Option (List Char × List Char × Int) := do
  let isMark (c : Char) : Bool := c == 'e' || c == 'E'
  let mantissa := s.takeWhile (! isMark ·)
  let exponent ←
    match s.dropWhile (! isMark ·) with
    | [] => some 0
    | _ :: e => do
      let digits ← digitsOf? Char.isDigit (withoutSign e)
      let n : Int := valueIn 10 digits
      some (if e.head? = some '-' then -n else n)
  match splitAtFirst '.' mantissa with
  | some (whole, fraction) =>
    some (← wholeDigits? whole, ← digitsOf? Char.isDigit fraction, exponent)
  | none => if mantissa.length < s.length then some (← wholeDigits? mantissa, [], exponent) else none

/-- The value `m · 10 ^ e` does not round to infinity. -/
def fitsFloat (m : Nat) (e : Int) : Bool :=
  if m = 0 || e < -(Nat.log2 m : Int) then true
  else if 0 ≤ e then
    if 310 < e then false else m * Nat.pow 10 e.toNat < Json.Numeral.infinityBound
  else m < Json.Numeral.infinityBound * Nat.pow 10 (-e).toNat

def isFloat (s : List Char) : Bool :=
  let s := withoutSign s
  if s = ['i', 'n', 'f'] || s = ['n', 'a', 'n'] then true
  else
    match floatParts? s with
    | some (whole, fraction, e) => fitsFloat (valueIn 10 (whole ++ fraction)) (e - fraction.length)
    | none => false

def isDay (s : List Char) : Bool :=
  match pieces (· == '-') s with
  | [year, month, day] =>
    match Web.Date.number? 4 4 year, Web.Date.number? 2 2 month, Web.Date.number? 2 2 day with
    | some y, some m, some d => 1 ≤ m && m ≤ 12 && 1 ≤ d && d ≤ Web.Date.daysInMonth y m
    | _, _, _ => false
  | _ => false

/-- A time of day; the seconds and their fraction may be left out. -/
def isClock (s : List Char) : Bool :=
  let below (bound : Nat) (part : List Char) : Bool :=
    match Web.Date.number? 2 2 part with
    | some n => n < bound
    | none => false
  match pieces (· == ':') s with
  | [h, m] => below 24 h && below 60 m
  | [h, m, rest] =>
    below 24 h && below 60 m &&
      match splitAtFirst '.' rest with
      | some (sec, fraction) => below 61 sec && !fraction.isEmpty && fraction.all Char.isDigit
      | none => below 61 rest
  | _ => false

def isOffset (s : List Char) : Bool :=
  match s with
  | ['Z'] | ['z'] => true
  | '+' :: s | '-' :: s =>
    match (pieces (· == ':') s).mapM (Web.Date.number? 2 2) with
    | some [h, m] => h < 24 && m < 60
    | _ => false
  | _ => false

def isZonedClock (s : List Char) : Bool :=
  let endsClock (c : Char) : Bool := c == 'Z' || c == 'z' || c == '+' || c == '-'
  let zone := s.dropWhile (! endsClock ·)
  isClock (s.takeWhile (! endsClock ·)) && (zone.isEmpty || isOffset zone)

def isDate (s : List Char) : Bool :=
  let separates (c : Char) : Bool := c == 'T' || c == 't' || c == ' '
  match s.dropWhile (! separates ·) with
  | _ :: clock => isDay (s.takeWhile (! separates ·)) && isZonedClock clock
  | [] => isDay s || isClock s

def isWordChar (c : Char) : Bool :=
  c.isAlphanum || c == '_' || c == '-' || c == '+' || c == '.' || c == ':'

/-- The word at the front of a text. A day and a time of day may have one space between them. -/
def word (s : List Char) : List Char × List Char :=
  let first := s.takeWhile isWordChar
  match s.dropWhile isWordChar with
  | ' ' :: rest =>
    if isDay first && (rest.head?.map Char.isDigit) = some true then
      (first ++ ' ' :: rest.takeWhile isWordChar, rest.dropWhile isWordChar)
    else (first, ' ' :: rest)
  | rest => (first, rest)

def bare? (s : List Char) : Option (Scalar × List Char) :=
  let (w, rest) := word s
  if w = ['t', 'r', 'u', 'e'] then some (.boolean true, rest)
  else if w = ['f', 'a', 'l', 's', 'e'] then some (.boolean false, rest)
  else if isInteger w || isFloat w then some (.number, rest)
  else if isDate w then some (.date, rest)
  else none

def scalar? (s : List Char) : Option (Scalar × List Char) :=
  match s with
  | '"' :: _ | '\'' :: _ => (string? s).map fun (text, rest) => (.string (String.ofList text), rest)
  | s => bare? s

end ChatTerminal.Toml
