import ChatTerminal.Station
/-!
# Loading, creating, joining and deleting channels

Each flow checks what was typed before it asks the server anything, and shows in the sidebar how
it ended.
-/

namespace ChatTerminal

namespace Channels

def loadFailed : String := "Failed to load channels."

def createFailed : String := "Failed to create channel (the name may already exist)."

def created : String := "Channel created."

def notFound : String := "Channel not found."

def joined : String := "Joined the channel."

def deleteFailed : String := "Failed to delete channel."

def deleted : String := "Channel deleted."

def notOwned : String := "Only channels you own can be deleted."

end Channels

namespace Station

def followRow (s : Station) : Station :=
  s.onClient fun c => (c.select c.activeId).1

/-- Loads the channels the user owns and the channels the user joined. Where nothing is selected
the landing page is. -/
def loadChannels (server : Server) (s : Station) : Station :=
  let me := s.client.userName
  let (s, owned, joined) := s.askBoth server .ownedChannels .joinedChannels
  let read := Json.Tree.list ChannelRecord.ofTree?
  match owned.value? read, joined.value? read with
  | .ok owned, .ok joined =>
    let s := s.onClient fun c =>
      { c with directory := c.directory.merge (ownedOf owned me) (joinedOf joined) }
    match s.client.activeId with
    | none => s.select server (some homeId)
    | some _ => s.followRow
  | _, _ => s.onClient (·.showError Channels.loadFailed)

/-- Creates the channel named in the prompt and moves to it. The user is its only member until a
roster arrives. -/
def createChannel (server : Server) (s : Station) : Station :=
  match channelName s.client.newChannelName.value with
  | .error r => s.onClient (·.showError r.message)
  | .ok name =>
    let me := s.client.userName
    let (s, reply) := (s.onClient Client.clearBanners).ask server (.createChannel name)
    match reply.value? ChannelRecord.ofTree? with
    | .error _ => s.onClient (·.showError Channels.createFailed)
    | .ok record =>
      let channel := { record.toChannel (some me) with ownerName := some me }
      let s := s.onClient fun c => { c with directory := c.directory.insertNew channel }
      let s := s.select server (some channel.id)
      let s := (s.feed (.seed [⟨0, me⟩])).1
      s.onClient fun c =>
        { c with newChannelName := c.newChannelName.clear, prompt := none }.showMessage
          Channels.created

def joinChannel (server : Server) (s : Station) : Station :=
  match Search.parse s.client.searchQuery.value with
  | .error r => s.onClient (·.showError r.message)
  | .ok search =>
    let (s, found) := (s.onClient Client.clearBanners).ask server (.searchChannel search.query)
    match found.value? ChannelRecord.ofTree? with
    | .error _ => s.onClient (·.showError Channels.notFound)
    | .ok record =>
      let channel := record.toChannel (some search.owner)
      let (s, answer) := s.ask server (.joinChannel channel.id)
      match answer.value? ChannelRecord.ofTree? with
      | .error _ => s.onClient (·.showError Channels.notFound)
      | .ok _ =>
        let s := s.onClient fun c => { c with directory := c.directory.insertNew channel }
        let s := s.perform server fun c =>
          let (c, effects) := c.select (some channel.id)
          (c, effects ++ [.fetchMembers channel.id])
        s.onClient fun c => { c with prompt := none }.showMessage Channels.joined

/-- Deletes a channel of the user's own. If it was on display, the first channel takes its place.
-/
def deleteChannel (server : Server) (s : Station) (id : Nat) : Station :=
  let s := s.onClient Client.clearBanners
  if !(s.client.directory.get? id).any (·.isOwnedBy s.client.userName) then
    s.onClient (·.showError Channels.notOwned)
  else
    let (s, reply) := s.ask server (.deleteChannel id)
    match reply.content? with
    | .error _ => s.onClient (·.showError Channels.deleteFailed)
    | .ok _ =>
      let s := s.onClient fun c => { c with directory := c.directory.erase id }
      let s :=
        if s.client.activeId = some id then s.select server s.client.directory.fallback?
        else s.followRow
      s.onClient (·.showMessage Channels.deleted)

end Station

end ChatTerminal
