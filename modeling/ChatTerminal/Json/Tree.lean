import ChatTerminal.Json.Numeral
/-!
# Trees of JSON

A stack machine builds the tree of a text from its tokens. The tree keeps members in the order
and number in which they stand, so that each reader decides for itself what a repeated key means.
-/

namespace ChatTerminal.Json

inductive Tree where
  | null
  | boolean (b : Bool)
  | number (n : Numeral)
  | string (s : List Piece)
  | array (items : List Tree)
  | object (members : List (List Piece × Tree))
deriving Inhabited

/-- A container under way, with what it holds so far in reverse order. An object also remembers
the key whose value is being read. -/
inductive Frame where
  | array (items : List Tree)
  | object (members : List (List Piece × Tree)) (key : List Piece)

/-- What the machine expects next. -/
inductive Expect where
  | value
  | valueOrEnd
  | key
  | keyOrEnd
  | colon
  | commaOrEnd
  | nothing
deriving DecidableEq

structure Machine where
  expect : Expect
  stack : List Frame
  /-- The finished value, once there is one outside all containers. -/
  result : Tree

namespace Machine

def initial : Machine := ⟨.value, [], .null⟩

/-- Puts a finished value into the innermost container. -/
def give (v : Tree) : List Frame → Machine
  | [] => ⟨.nothing, [], v⟩
  | .array items :: stack => ⟨.commaOrEnd, .array (v :: items) :: stack, .null⟩
  | .object members key :: stack =>
    ⟨.commaOrEnd, .object ((key, v) :: members) [] :: stack, .null⟩

def closeArray : List Frame → Option Machine
  | .array items :: stack => some (give (.array items.reverse) stack)
  | _ => none

def closeObject : List Frame → Option Machine
  | .object members _ :: stack => some (give (.object members.reverse) stack)
  | _ => none

def value (stack : List Frame) : Token → Option Machine
  | .null => some (give .null stack)
  | .boolean b => some (give (.boolean b) stack)
  | .number n => some (give (.number n) stack)
  | .string s => some (give (.string s) stack)
  | .leftBracket => some ⟨.valueOrEnd, .array [] :: stack, .null⟩
  | .leftBrace => some ⟨.keyOrEnd, .object [] [] :: stack, .null⟩
  | _ => none

def key : List Frame → Token → Option Machine
  | .object members _ :: stack, .string s => some ⟨.colon, .object members s :: stack, .null⟩
  | _, _ => none

def step (m : Machine) (t : Token) : Option Machine :=
  match m.expect with
  | .value => value m.stack t
  | .valueOrEnd => if t = .rightBracket then closeArray m.stack else value m.stack t
  | .key => key m.stack t
  | .keyOrEnd => if t = .rightBrace then closeObject m.stack else key m.stack t
  | .colon => if t = .colon then some { m with expect := .value } else none
  | .commaOrEnd =>
    match t, m.stack with
    | .comma, .array _ :: _ => some { m with expect := .value }
    | .comma, .object _ _ :: _ => some { m with expect := .key }
    | .rightBracket, stack => closeArray stack
    | .rightBrace, stack => closeObject stack
    | _, _ => none
  | .nothing => none

end Machine

def Tree.ofTokens? (ts : List Token) : Option Tree := do
  let m ← ts.foldlM Machine.step Machine.initial
  if m.expect = .nothing then some m.result else none

/-- The tree of a JSON text of any depth. Numbers of any size and escapes of any kind pass. -/
def Tree.ofText? (s : List Char) : Option Tree :=
  (tokens? s).bind Tree.ofTokens?

def nestingLimit : Nat := 127

/-- A token whose value exists: its number is in range, its string is text. -/
def Token.hasValue : Token → Bool
  | .number n => n.inRange
  | .string s => (textOf? s).isSome
  | _ => true

/-- The tree of a document: a JSON text of limited depth in which every number and every string
has a value. -/
def Tree.ofDocument? (s : List Char) : Option Tree := do
  let ts ← tokens? s
  if nesting ts ≤ nestingLimit && ts.all Token.hasValue then Tree.ofTokens? ts else none

namespace Tree

def lastMember? (name : List Char) : Tree → Option Tree
  | .object members =>
    (members.reverse.find? fun (key, _) => textOf? key == some name).map (·.2)
  | _ => none

def text? : Tree → Option String
  | .string s => (textOf? s).map String.ofList
  | _ => none

def unsigned? : Tree → Option Nat
  | .number n => n.unsigned?
  | _ => none

def signed? : Tree → Option Int
  | .number n => n.signed?
  | _ => none

/-- Reads `null` as an absent value and everything else with `read`. -/
def optional (read : Tree → Option α) : Tree → Option (Option α)
  | .null => some none
  | t => (read t).map some

def list (read : Tree → Option α) : Tree → Option (List α)
  | .array items => items.mapM read
  | _ => none

/-- The value of the field `name`, if it stands once; nothing at all if it is repeated. -/
def single? (name : List Char) (members : List (List Char × Tree)) : Option (Option Tree) :=
  match members.filter (·.1 = name) with
  | [] => some none
  | [(_, v)] => some (some v)
  | _ => none

/-- The values of the named fields of a record, each present or absent. A record is written as an
object, whose other members are passed over, or as an array of its fields in order, whose last
fields may be left out. A repeated field, a key that is no text and an array that is too long are
refused. -/
def fields? (names : List String) : Tree → Option (List (Option Tree))
  | .object members => do
    let members ← members.mapM fun (key, v) => (textOf? key).map (·, v)
    names.mapM fun name => single? name.toList members
  | .array items =>
    if items.length ≤ names.length then
      some (items.map some ++ List.replicate (names.length - items.length) none)
    else none
  | _ => none

def required (read : Tree → Option α) (field : Option Tree) : Option α :=
  field.bind read

/-- Reads a field that may be absent, and then is `absent`. -/
def withDefault (absent : α) (read : Tree → Option α) : Option Tree → Option α
  | none => some absent
  | some t => read t

end Tree

end ChatTerminal.Json
