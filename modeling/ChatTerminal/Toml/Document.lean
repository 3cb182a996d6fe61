import ChatTerminal.Toml.Scalar
/-!
# TOML documents

A document is a table of items. Tables are opened by headers, by dotted keys and inline; the rules
on what may be opened twice decide which documents are refused.
-/

namespace ChatTerminal.Toml

/-- How a table came to be: by its own header, on the way to a deeper one, by a dotted key, or as
a value. -/
inductive Origin where
  | header
  | passed
  | dotted
  | inlined
deriving Repr, DecidableEq

inductive Item where
  | scalar (s : Scalar)
  | array (items : List Item)
  | table (origin : Origin) (entries : List (String × Item))
  /-- An array of tables opened by headers, the last one first. -/
  | tables (tables : List (List (String × Item)))
deriving Inhabited

abbrev Entries := List (String × Item)

namespace Entries

def get? (es : Entries) (key : String) : Option Item := List.lookup key es

/-- Replaces the item of a key, or adds it at the end. -/
def put : Entries → String → Item → Entries
  | [], key, item => [(key, item)]
  | (k, held) :: es, key, item =>
    if k = key then (k, item) :: es else (k, held) :: put es key item

def addValue (es : Entries) (key : List String) (item : Item) : Option Entries :=
  match key with
  | [] => none
  | [k] => if (es.get? k).isNone then some (es.put k item) else none
  | k :: path =>
    match es.get? k with
    | none => (addValue [] path item).map fun inner => es.put k (.table .dotted inner)
    | some (.table .dotted inner) =>
      (addValue inner path item).map fun inner => es.put k (.table .dotted inner)
    | _ => none

/-- Changes the table that a header names. Every name on the way is a table or the last of an
array of tables; a missing one is opened in passing. -/
def atHeader (change : Entries → String → Option Entries) : Entries → List String → Option Entries
  | _, [] => none
  | es, [k] => change es k
  | es, k :: path =>
    match es.get? k with
    | none => (atHeader change [] path).map fun inner => es.put k (.table .passed inner)
    | some (.table .inlined _) => none
    | some (.table origin inner) =>
      (atHeader change inner path).map fun inner => es.put k (.table origin inner)
    | some (.tables (last :: more)) =>
      (atHeader change last path).map fun last => es.put k (.tables (last :: more))
    | _ => none

def openTable (es : Entries) (k : String) : Option Entries :=
  match es.get? k with
  | none => some (es.put k (.table .header []))
  | some (.table .passed inner) => some (es.put k (.table .header inner))
  | _ => none

def openNext (es : Entries) (k : String) : Option Entries :=
  match es.get? k with
  | none => some (es.put k (.tables [[]]))
  | some (.tables ts) => some (es.put k (.tables ([] :: ts)))
  | _ => none

def addTo (es : Entries) (header key : List String) (item : Item) : Option Entries :=
  match header with
  | [] => es.addValue key item
  | header =>
    es.atHeader (fun es k =>
      match es.get? k with
      | some (.table origin inner) =>
        (addValue inner key item).map fun inner => es.put k (.table origin inner)
      | some (.tables (last :: more)) =>
        (addValue last key item).map fun last => es.put k (.tables (last :: more))
      | _ => none) header

end Entries

def skipGap (s : List Char) : List Char := s.dropWhile isGap

/-- Drops a comment; what it holds must be printable. -/
def skipComment? (s : List Char) : Option (List Char) :=
  match s with
  | '#' :: rest =>
    let after := rest.dropWhile isPrintable
    if after.isEmpty || (lineEnd? after).isSome then some after else none
  | s => some s

def skipLines (fuel : Nat) (s : List Char) : Option (List Char) :=
  match fuel with
  | 0 => some s
  | fuel + 1 => do
    let s := skipGap s
    let s ← skipComment? s
    match lineEnd? s with
    | some rest => skipLines fuel rest
    | none => some s

def skipAll (s : List Char) : Option (List Char) := skipLines (s.length + 1) s

def isBareKeyChar (c : Char) : Bool := c.isAlphanum || c == '_' || c == '-'

def keyPart? (s : List Char) : Option (String × List Char) :=
  match s with
  | '"' :: '"' :: '"' :: _ | '\'' :: '\'' :: '\'' :: _ => none
  | '"' :: _ | '\'' :: _ => (string? s).map fun (text, rest) => (String.ofList text, rest)
  | s =>
    let part := s.takeWhile isBareKeyChar
    if part.isEmpty then none else some (String.ofList part, s.dropWhile isBareKeyChar)

/-- A key: parts with dots between them, and blanks around the dots. -/
def key? (fuel : Nat) (s : List Char) : Option (List String × List Char) :=
  match fuel with
  | 0 => none
  | fuel + 1 => do
    let (part, rest) ← keyPart? (skipGap s)
    match skipGap rest with
    | '.' :: rest => do
      let (parts, rest) ← key? fuel rest
      some (part :: parts, rest)
    | rest => some ([part], rest)

def keyValue? (value : Reader Item) (s : List Char) : Option ((List String × Item) × List Char) := do
  let (key, rest) ← key? (s.length + 1) s
  match rest with
  | '=' :: rest => do
    let (item, rest) ← value (skipGap rest)
    some ((key, item), rest)
  | _ => none

def arrayItems (value : Reader Item) (fuel : Nat) (s : List Char) : Option (List Item × List Char) :=
  match fuel with
  | 0 => none
  | fuel + 1 => do
    let s ← skipAll s
    match s with
    | ']' :: rest => some ([], rest)
    | s => do
      let (item, rest) ← value s
      match ← skipAll rest with
      | ',' :: rest => do
        let (items, rest) ← arrayItems value fuel rest
        some (item :: items, rest)
      | ']' :: rest => some ([item], rest)
      | _ => none

def inlineEntries (value : Reader Item) (fuel : Nat) (soFar : Entries) (s : List Char) :
    Option (Entries × List Char) :=
  match fuel with
  | 0 => none
  | fuel + 1 => do
    let s ← skipAll s
    match s with
    | '}' :: rest => some (soFar, rest)
    | s => do
      let ((key, item), rest) ← keyValue? value s
      let soFar ← soFar.addValue key item
      match ← skipAll rest with
      | ',' :: rest => inlineEntries value fuel soFar rest
      | '}' :: rest => some (soFar, rest)
      | _ => none

/-- The deepest nesting of arrays and inline tables. -/
def nestingLimit : Nat := 80

/-- A value in which arrays and inline tables nest at most `depth` deep. -/
def value? (depth : Nat) (s : List Char) : Option (Item × List Char) :=
  match depth, s with
  | depth + 1, '[' :: rest =>
    (arrayItems (value? depth) (rest.length + 1) rest).map fun (items, rest) => (.array items, rest)
  | depth + 1, '\x7b' :: rest =>
    (inlineEntries (value? depth) (rest.length + 1) [] rest).map fun (es, rest) =>
      (.table .inlined es, rest)
  | _, s => (scalar? s).map fun (x, rest) => (.scalar x, rest)

def endLine? (s : List Char) : Option (List Char) := do
  let s ← skipComment? (skipGap s)
  if s.isEmpty then some [] else lineEnd? s

def header? (close : List Char) (s : List Char) : Option (List String × List Char) := do
  let (path, rest) ← key? (s.length + 1) s
  let rest ← Text.dropLead? close rest
  some (path, rest)

/-- The expressions of a document, one a line; `header` is the table that is open. -/
def expressions (fuel : Nat) (es : Entries) (header : List String) (s : List Char) :
    Option Entries :=
  match fuel with
  | 0 => none
  | fuel + 1 => do
    let s ← skipAll s
    match s with
    | [] => some es
    | '[' :: '[' :: rest => do
      let (path, rest) ← header? [']', ']'] rest
      let es ← es.atHeader Entries.openNext path
      expressions fuel es path (← endLine? rest)
    | '[' :: rest => do
      let (path, rest) ← header? [']'] rest
      let es ← es.atHeader Entries.openTable path
      expressions fuel es path (← endLine? rest)
    | s => do
      let ((key, item), rest) ← keyValue? (value? nestingLimit) s
      let es ← es.addTo header key item
      expressions fuel es header (← endLine? rest)

/-- The entries of a document. A byte order mark may lead it. -/
def parse (text : String) : Option Entries :=
  let s :=
    match text.toList with
    | c :: rest => if c.toNat = 0xFEFF then rest else c :: rest
    | [] => []
  expressions (s.length + 1) [] [] s

end ChatTerminal.Toml
