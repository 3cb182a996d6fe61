/-!
# Blank characters, words and lines

A character is blank when it has the Unicode property White_Space. Trimming, splitting into
words and splitting into lines are stated on lists of characters; the versions on strings are
the ones the rest of the library calls.
-/

namespace ChatTerminal.Text

def isBlank (c : Char) : Bool :=
  let n := c.toNat
  (9 ≤ n && n ≤ 13) || n == 0x20 || n == 0x85 || n == 0xA0 || n == 0x1680 ||
    (0x2000 ≤ n && n ≤ 0x200A) || n == 0x2028 || n == 0x2029 || n == 0x202F || n == 0x205F ||
    n == 0x3000

def isControl (c : Char) : Bool :=
  c.toNat < 0x20 || (0x7F ≤ c.toNat && c.toNat < 0xA0)

/-- Drops the leading and the trailing characters that satisfy `p`. -/
def stripBoth (p : Char → Bool) (s : List Char) : List Char :=
  ((s.dropWhile p).reverse.dropWhile p).reverse

def stripEnd (p : Char → Bool) (s : List Char) : List Char :=
  (s.reverse.dropWhile p).reverse

def trim (s : String) : String :=
  String.ofList (stripBoth isBlank s.toList)

/-- The stretches between the characters that satisfy `p`, empty ones included: one more than
there are such characters. -/
def pieces (p : Char → Bool) (s : List Char) : List (List Char) :=
  s.foldr (fun c found =>
    if p c then [] :: found
    else
      match found with
      | [] => [[c]]
      | piece :: more => (c :: piece) :: more) [[]]

def words (s : List Char) : List (List Char) :=
  (pieces isBlank s).filter (! ·.isEmpty)

/-- The part before the first `mark` and the part after it, or nothing if there is none. -/
def splitAtFirst (mark : Char) (s : List Char) : Option (List Char × List Char) :=
  match s.dropWhile (· ≠ mark) with
  | [] => none
  | _ :: after => some (s.takeWhile (· ≠ mark), after)

/-- A line that a line feed ended loses one carriage return from its end. -/
def dropReturn (line : List Char) : List Char :=
  match line.getLast? with
  | some '\r' => line.dropLast
  | _ => line

/-- The lines of a text. A line feed, or a carriage return and a line feed, ends a line; what
follows the last line feed is a line only if it is not empty, and keeps its carriage return. -/
def lines (s : List Char) : List (List Char) :=
  let parts := pieces (· == '\n') s
  let ended := parts.dropLast.map dropReturn
  match parts.getLast? with
  | some [] | none => ended
  | some last => ended ++ [last]

/-- The text of some lines, each of them ended. -/
def ofLines (ls : List String) : String :=
  String.join (ls.map (· ++ "\n"))

/-- Removes `lead` from the front of a text, if it stands there. -/
def dropLead? (lead s : List Char) : Option (List Char) :=
  match lead, s with
  | [], s => some s
  | _ :: _, [] => none
  | a :: lead, c :: s => if a = c then dropLead? lead s else none

def asciiLower (s : List Char) : List Char :=
  s.map Char.toLower

end ChatTerminal.Text
