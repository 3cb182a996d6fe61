import ChatTerminal.Json.Tree
/-!
# Messages

A message on a channel, its reading from a frame, and the time shown beside it. A frame that is
no message becomes a notice that holds the frame as it came.
-/

namespace ChatTerminal

/-- When a message was made. A sender writes seconds, or milliseconds where the number is too
large to be seconds; a notice carries the second at which its frame arrived. -/
inductive Stamp where
  | sent (time : Int)
  | arrived (time : Int)
deriving Repr, DecidableEq

def Stamp.time : Stamp → Int
  | .sent t | .arrived t => t

structure Message where
  sender : String
  content : String
  stamp : Stamp
deriving Repr, DecidableEq

namespace Message

def systemSender : String := "system"

def notice (content : String) (now : Int) : Message :=
  ⟨systemSender, content, .arrived now⟩

open Json in
def ofTree? (t : Tree) : Option Message := do
  match ← t.fields? ["sender", "content", "timestamp"] with
  | [sender, content, timestamp] =>
    pure ⟨← Tree.required Tree.text? sender, ← Tree.required Tree.text? content,
      .sent (← Tree.required Tree.signed? timestamp)⟩
  | _ => none

/-- Reads a frame that arrived at the second `now`. -/
def ofFrame (raw : String) (now : Int) : Message :=
  match (Json.Tree.ofText? raw.toList).bind ofTree? with
  | some m => m
  | none => notice raw now

def isFrom (m : Message) (userName : String) : Bool :=
  m.sender == userName

end Message

/-- The least stamp that is read as milliseconds. -/
def millisecondBound : Int := 100000000000

/-- The first and the last second of the calendar, of the years -262143 and 262142. -/
def firstSecond : Int := -8334601228800

@[inherit_doc firstSecond]
def lastSecond : Int := 8210266876799

/-- The second that a stamp denotes. -/
def secondOf (t : Int) : Int :=
  if t.natAbs < millisecondBound.toNat then t else t / 1000

def twoDigits (n : Nat) : String :=
  String.ofList [Nat.digitChar (n / 10 % 10), Nat.digitChar (n % 10)]

def clockTime (t : Int) : String :=
  let s := secondOf t
  if firstSecond ≤ s && s ≤ lastSecond then
    let minutes := (s % 86400).toNat / 60
    twoDigits (minutes / 60) ++ ":" ++ twoDigits (minutes % 60)
  else ""

def Message.clockTime (m : Message) : String :=
  ChatTerminal.clockTime m.stamp.time

end ChatTerminal
