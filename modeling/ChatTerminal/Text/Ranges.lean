/-!
# Tables of characters

Readers for tables that are written as text in hex digits: ranges such as `41-5A 61-7A AA`, runs
such as `C0-D6/1:E0` that map the characters of a range, with a step, to the characters from a
first image on, and sequences such as `DF:73.73`.
-/

namespace ChatTerminal.Text

/-- The number that hex digits denote; other characters count as zero. -/
def hexValue (c : Char) : Nat :=
  if '0' ≤ c && c ≤ '9' then c.toNat - '0'.toNat
  else if 'A' ≤ c && c ≤ 'F' then c.toNat - 'A'.toNat + 10
  else 0

def entryNumbers (entry : List Char) : List Nat :=
  (entry.foldr (fun c (digits, numbers) =>
    if c.isDigit || ('A' ≤ c && c ≤ 'F') then (c :: digits, numbers)
    else ([], digits.foldl (fun n d => n * 16 + hexValue d) 0 :: numbers)) ([], [])) |>
    fun (digits, numbers) => digits.foldl (fun n d => n * 16 + hexValue d) 0 :: numbers

/-- The entries of a table, cut at blanks and line ends. -/
def entries (table : String) : List (List Nat) :=
  let (last, found) := table.toList.foldl (fun (entry, found) c =>
    if c == ' ' || c == '\n' then ([], entry.reverse :: found) else (c :: entry, found)) ([], [])
  ((last.reverse :: found).filter (! ·.isEmpty)).reverse.map entryNumbers

/-- The ranges of a table, both ends included. -/
def rangesOf (table : String) : List (Nat × Nat) :=
  (entries table).filterMap fun
    | [a] => some (a, a)
    | [a, b] => some (a, b)
    | _ => none

def inRanges (ranges : List (Nat × Nat)) (n : Nat) : Bool :=
  ranges.any fun (a, b) => a ≤ n && n ≤ b

/-- The numbers `first`, `first + step`, … up to `last`, and the image of the first; the images
of the others follow at the same distance. -/
structure MappedRun where
  first : Nat
  last : Nat
  step : Nat
  target : Nat

namespace MappedRun

def covers (r : MappedRun) (n : Nat) : Bool :=
  r.first ≤ n && n ≤ r.last && (n - r.first) % r.step == 0

def image (r : MappedRun) (n : Nat) : Nat := r.target + (n - r.first)

end MappedRun

def mappedRunsOf (table : String) : List MappedRun :=
  (entries table).filterMap fun
    | [a, b, step, target] => some ⟨a, b, step, target⟩
    | [a, step, target] => some ⟨a, a, step, target⟩
    | _ => none

def sequencesOf (table : String) : List (Nat × List Nat) :=
  (entries table).filterMap fun
    | a :: s => some (a, s)
    | [] => none

end ChatTerminal.Text
