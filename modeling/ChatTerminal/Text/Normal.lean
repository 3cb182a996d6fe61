import ChatTerminal.Text.NormalTable
/-!
# The composed normal form

Characters are decomposed canonically, marks after a character are put into the order of their
combining classes, and what can be composed is composed.
-/

namespace ChatTerminal.Text

def combiningClass (c : Char) : Nat :=
  if c.toNat < 0x300 then 0
  else
    match combiningRuns.find? (·.covers c.toNat) with
    | some run => run.target
    | none => 0

/-- A syllable of Hangul decomposes by arithmetic. -/
def hangulParts? (n : Nat) : Option (List Nat) :=
  if 0xAC00 ≤ n && n < 0xAC00 + 11172 then
    let s := n - 0xAC00
    let parts := [0x1100 + s / 588, 0x1161 + s % 588 / 28]
    some (if s % 28 = 0 then parts else parts ++ [0x11A7 + s % 28])
  else none

def decomposedOnce? (n : Nat) : Option (List Nat) :=
  if n < 0xC0 then none
  else (hangulParts? n).or ((canonicalParts.find? (·.1 == n)).map (·.2))

/-- The full decomposition of a code point, at most `depth` steps deep. -/
def decomposed (depth : Nat) (n : Nat) : List Nat :=
  match depth with
  | 0 => [n]
  | depth + 1 =>
    match decomposedOnce? n with
    | some parts => parts.flatMap (decomposed depth)
    | none => [n]

/-- No decomposition takes more steps than this. -/
def decompositionDepth : Nat := 8

/-- Inserts a mark behind the marks of its own and of lower classes. -/
def insertMark (c : Char) : List Char → List Char
  | [] => [c]
  | d :: s => if combiningClass c < combiningClass d then c :: d :: s else d :: insertMark c s

/-- Takes one character behind a finished text, in reverse, and the marks after it, in order. -/
def orderMark (k : List Char × List Char) (c : Char) : List Char × List Char :=
  if combiningClass c = 0 then (c :: (k.2.reverse ++ k.1), []) else (k.1, insertMark c k.2)

/-- Puts each run of marks into the order of their classes. -/
def orderMarks (s : List Char) : List Char :=
  let (out, marks) := s.foldl orderMark ([], [])
  (marks.reverse ++ out).reverse

/-- The character that two characters compose to. No composite starts below the less-than sign or
ends below the first mark that combines. -/
def composedPair? (a b : Char) : Option Char :=
  let m := a.toNat
  let n := b.toNat
  if m < 0x3C || n < 0x300 then none
  else if 0x1100 ≤ m && m < 0x1113 && 0x1161 ≤ n && n < 0x1176 then
    some (Char.ofNat (0xAC00 + ((m - 0x1100) * 21 + (n - 0x1161)) * 28))
  else if 0xAC00 ≤ m && m < 0xAC00 + 11172 && (m - 0xAC00) % 28 = 0 && 0x11A8 ≤ n && n < 0x11C3 then
    some (Char.ofNat (m + (n - 0x11A7)))
  else
    (canonicalParts.find? fun (whole, parts) =>
      parts == [m, n] && !inRanges neverComposed whole).map fun (whole, _) => Char.ofNat whole

/-- Where composition stands: the finished text in reverse, the last character that marks may
compose with, and the marks after it in reverse. -/
structure Composition where
  done : List Char := []
  starter : Option Char := none
  marks : List Char := []

namespace Composition

def finish (k : Composition) : List Char :=
  k.marks ++ k.starter.toList ++ k.done

/-- Takes one character. A mark composes unless a mark of its own or a higher class stands
between. -/
def take (k : Composition) (c : Char) : Composition :=
  let cls := combiningClass c
  match k.starter with
  | none => if cls = 0 then { k with starter := some c } else { k with done := c :: k.done }
  | some a =>
    let reaches :=
      match k.marks with
      | [] => true
      | d :: _ => combiningClass d < cls
    match if reaches then composedPair? a c else none with
    | some whole => { k with starter := some whole }
    | none =>
      if cls = 0 then ⟨k.finish, some c, []⟩ else { k with marks := c :: k.marks }

end Composition

def normalize (s : List Char) : List Char :=
  if s.all (·.toNat < 0xC0) then s
  else
    let parts := s.flatMap fun c => (decomposed decompositionDepth c.toNat).map Char.ofNat
    ((orderMarks parts).foldl Composition.take {}).finish.reverse

/-- A character of the general category Mark. -/
def isMark (c : Char) : Bool := inRanges markRanges c.toNat

end ChatTerminal.Text
