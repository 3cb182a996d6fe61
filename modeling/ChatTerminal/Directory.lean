import ChatTerminal.Channel
/-!
# The channel directory

The channels the client knows, one for each id, in the order in which they came; and the checks
on what a user types to create or to look up a channel.
-/

namespace ChatTerminal

structure Directory where
  channels : List Channel := []
deriving Repr, DecidableEq

namespace Directory

def empty : Directory := {}

def size (d : Directory) : Nat := d.channels.length

def isEmpty (d : Directory) : Bool := d.channels.isEmpty

def ids (d : Directory) : List Nat := d.channels.map (·.id)

def get? (d : Directory) (id : Nat) : Option Channel :=
  d.channels.find? (·.id == id)

def contains (d : Directory) (id : Nat) : Bool :=
  (d.get? id).isSome

def position? (d : Directory) (id : Nat) : Option Nat :=
  d.channels.findIdx? (·.id == id)

def idAt? (d : Directory) (row : Nat) : Option Nat :=
  d.channels[row]?.map (·.id)

def firstId? (d : Directory) : Option Nat := d.idAt? 0

/-- Replaces the channel with the same id where it stands, or appends the channel. -/
def put : List Channel → Channel → List Channel
  | [], c => [c]
  | held :: more, c => if held.id = c.id then c :: more else held :: put more c

def putAll (d : Directory) (incoming : List Channel) : Directory :=
  ⟨incoming.foldl put d.channels⟩

def ofList (channels : List Channel) : Directory :=
  empty.putAll channels

/-- Merges two listings from the server with what is held. A held channel wins over a listed one
with the same id. -/
def merge (d : Directory) (owned joined : List Channel) : Directory :=
  ofList (owned ++ joined ++ d.channels)

/-- Appends a channel unless one with its id is held. -/
def insertNew (d : Directory) (c : Channel) : Directory :=
  if d.contains c.id then d else ⟨d.channels ++ [c]⟩

/-- The channels owned under the name `old` become owned under the name `new`. -/
def renameOwner (d : Directory) (old new : String) : Directory :=
  ⟨d.channels.map fun c => if c.isOwnedBy old then { c with ownerName := some new } else c⟩

def erase (d : Directory) (id : Nat) : Directory :=
  ⟨d.channels.eraseP (·.id == id)⟩

def owned (d : Directory) (me : String) : List Channel :=
  d.channels.filter (·.isOwnedBy me)

def joined (d : Directory) (me : String) : List Channel :=
  d.channels.filter (! ·.isOwnedBy me)

/-- The newest channels first, at most `limit` of them; the server numbers channels in the order
in which they are created. -/
def recent (d : Directory) (limit : Nat) : List Channel :=
  (d.channels.mergeSort fun a b => b.id ≤ a.id).take limit

/-- The channel shown after the one on display was deleted. -/
def fallback? (d : Directory) : Option Nat := d.firstId?

end Directory

/-- The channels of a listing of one's own channels; one without an owner is owned by `me`. -/
def ownedOf (records : List ChannelRecord) (me : String) : List Channel :=
  records.map (·.toChannel (some me))

def joinedOf (records : List ChannelRecord) : List Channel :=
  records.map (·.toChannel none)

inductive Refusal where
  | emptyChannelName
  | badSearch
  | passwordsDiffer
  | nothingChanged
deriving Repr, DecidableEq

def Refusal.message : Refusal → String
  | .emptyChannelName => "Please enter a channel name."
  | .badSearch => "Search format must be owner@channel"
  | .passwordsDiffer => "Passwords do not match."
  | .nothingChanged => "Nothing has changed."

def channelName (typed : String) : Except Refusal String :=
  let name := Text.trim typed
  if name.isEmpty then .error .emptyChannelName else .ok name

structure Search where
  owner : String
  channel : String
deriving Repr, DecidableEq

namespace Search

/-- Reads `owner@channel`, cut at the first `@`; neither part may be empty. -/
def parse (typed : String) : Except Refusal Search :=
  match Text.splitAtFirst '@' (Text.trim typed).toList with
  | some (owner, channel) =>
    if owner.isEmpty || channel.isEmpty then .error .badSearch
    else .ok ⟨String.ofList owner, String.ofList channel⟩
  | none => .error .badSearch

def query (s : Search) : String := s.owner ++ "@" ++ s.channel

end Search

end ChatTerminal
