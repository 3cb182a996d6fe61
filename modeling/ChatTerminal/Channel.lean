import ChatTerminal.Identity
/-!
# Channels

A channel as the client keeps it, and as the server describes it. The server may embed the owner,
name the owner in a field of its own, or leave the owner out; a blank owner name counts as left
out.
-/

namespace ChatTerminal

/-- The landing page's place among the channels. It has no connection and no messages. -/
def homeId : Nat := 0

/-- The selection is a channel with a connection, so neither nothing nor the landing page. -/
def isLive : Option Nat → Bool
  | none => false
  | some id => id != homeId

structure Member where
  id : Nat
  name : String
deriving Repr, DecidableEq

open Json in
/-- Reads a member; a missing name is empty. -/
def Member.ofTree? (t : Tree) : Option Member := do
  match ← t.fields? ["id", "name"] with
  | [id, name] =>
    pure ⟨← Tree.required Tree.unsigned? id, ← Tree.withDefault "" Tree.text? name⟩
  | _ => none

structure Channel where
  id : Nat
  name : String
  ownerId : Nat
  ownerName : Option String
deriving Repr, DecidableEq

namespace Channel

def isOwnedBy (c : Channel) (userName : String) : Bool :=
  c.ownerName == some userName

/-- `#name` for the user's own channels, `owner@name` for the others. -/
def label (c : Channel) (userName : String) : String :=
  if c.isOwnedBy userName then "#" ++ c.name
  else c.ownerName.getD "unknown" ++ "@" ++ c.name

end Channel

structure ChannelRecord where
  id : Nat
  name : String
  ownerId : Nat := 0
  owner : Option UserRecord := none
  flatOwner : Option String := none
deriving Repr, DecidableEq

namespace ChannelRecord

open Json in
def ofTree? (t : Tree) : Option ChannelRecord := do
  match ← t.fields? ["id", "name", "owner_id", "owner", "ownerName"] with
  | [id, name, ownerId, owner, flatOwner] =>
    pure {
      id := ← Tree.required Tree.unsigned? id
      name := ← Tree.required Tree.text? name
      ownerId := ← Tree.withDefault 0 Tree.unsigned? ownerId
      owner := ← Tree.withDefault none (Tree.optional UserRecord.ofTree?) owner
      flatOwner := ← Tree.withDefault none (Tree.optional Tree.text?) flatOwner }
  | _ => none

/-- The owner that the record names: the embedded owner before the flat field, blank names
passed over. -/
def ownerName? (r : ChannelRecord) : Option String :=
  match (r.owner.bind (·.name)).filter (! ·.isEmpty) with
  | some name => some name
  | none => r.flatOwner.filter (! ·.isEmpty)

/-- The channel that the record describes, owned by `fallback` if the record names no owner. -/
def toChannel (r : ChannelRecord) (fallback : Option String) : Channel :=
  ⟨r.id, r.name, r.ownerId, r.ownerName?.or fallback⟩

end ChannelRecord

end ChatTerminal
