import Messenger.ChatRef
import Messenger.MarkedId
import Messenger.Wire.Chat

/-!
# Chats

A chat is a place where messages are shared: the private conversation with a user, a group, or a
channel where only administrators write. The entries of a response's tables become chats
(`Chat.ofUser`, `Chat.ofEntry`): a channel that does not broadcast is a group.
-/

namespace Messenger

namespace Wire

/-! ## Users -/

namespace UserEntry

/-- The user of an entry. Of an empty entry only the identifier is known. -/
def toUser : UserEntry → User
  | .empty id =>
    { isSelf := false, contact := false, mutualContact := false, deleted := false, bot := false,
      verified := false, restricted := false, scam := false, fake := false, premium := false,
      id := id, accessHash := none, firstName := none, lastName := none, username := none,
      phone := none, langCode := none }
  | .user raw => raw

end UserEntry

namespace User

/-- The user as a peer. -/
def peer (user : User) : Peer :=
  .user user.id

/-- The user as the peer of a request. -/
def inputPeer (user : User) : InputPeer :=
  if user.isSelf then .self else .user user.id (user.accessHash.getD 0)

/-- The user as the user of a request. -/
def inputUser (user : User) : InputUser :=
  if user.isSelf then .self else .user user.id (user.accessHash.getD 0)

/-- The first name, which is empty for a deleted account. -/
def givenName (user : User) : String :=
  user.firstName.getD ""

/-- The first name and, if there is one, the last name. -/
def fullName (user : User) : String :=
  match user.lastName with
  | some last => if last.isEmpty then user.givenName else s!"{user.givenName} {last}"
  | none => user.givenName

/-- The reference that a person would use for the user. -/
def chatRef (user : User) : ChatRef :=
  if user.isSelf then .me else .id user.id

end User

/-! ## Channels and groups -/

namespace Channel

/-- The channel as a peer. -/
def peer (channel : Channel) : Peer :=
  .channel channel.id

/-- The channel as the peer of a request. -/
def inputPeer (channel : Channel) : InputPeer :=
  .channel channel.id (channel.accessHash.getD 0)

end Channel

namespace ForbiddenChannel

/-- What is known of a channel that the account may not see: it has left it. -/
def toChannel (channel : ForbiddenChannel) : Channel :=
  { creator := false, left := true, broadcast := channel.broadcast, verified := false,
    megagroup := channel.megagroup, restricted := false, scam := false, fake := false,
    gigagroup := false, noforwards := false, forum := false, id := channel.id,
    accessHash := some channel.accessHash, title := channel.title, username := none, date := 0,
    participantsCount := none }

end ForbiddenChannel

namespace ChatEntry

/-- The peer that an entry describes. -/
def peer : ChatEntry → Peer
  | .empty id => .chat id
  | .group raw => .chat raw.id
  | .forbiddenGroup raw => .chat raw.id
  | .channel raw => .channel raw.id
  | .forbiddenChannel raw => .channel raw.id

/-- The peer that an entry describes, as a request names it. -/
def inputPeer : ChatEntry → InputPeer
  | .empty id => .chat id
  | .group raw => .chat raw.id
  | .forbiddenGroup raw => .chat raw.id
  | .channel raw => .channel raw.id (raw.accessHash.getD 0)
  | .forbiddenChannel raw => .channel raw.id raw.accessHash

/-- The title, which is empty if the group cannot be seen. -/
def title : ChatEntry → String
  | .empty _ => ""
  | .group raw => raw.title
  | .forbiddenGroup raw => raw.title
  | .channel raw => raw.title
  | .forbiddenChannel raw => raw.title

/-- The entry describes a large group and not a small one. -/
def isMegagroup : ChatEntry → Bool
  | .channel _ => true
  | .forbiddenChannel _ => true
  | _ => false

end ChatEntry

end Wire

/-! ## Chats -/

/-- A place where messages are shared. -/
inductive Chat where
  /-- The private conversation with a user. -/
  | user (user : Wire.User)
  /-- A small or large group. -/
  | group (entry : Wire.ChatEntry)
  /-- A channel where only administrators write. -/
  | channel (channel : Wire.Channel)
deriving DecidableEq, Inhabited

namespace Chat

/-- The chat of an entry of the table of users. -/
def ofUser (entry : Wire.UserEntry) : Chat :=
  .user entry.toUser

/-- The chat of an entry of the table of chats. -/
def ofEntry : Wire.ChatEntry → Chat
  | .channel raw => if raw.broadcast then .channel raw else .group (.channel raw)
  | .forbiddenChannel raw =>
    if raw.broadcast then .channel raw.toChannel else .group (.forbiddenChannel raw)
  | entry => .group entry

/-- The chat as a peer. -/
def peer : Chat → Wire.Peer
  | .user raw => raw.peer
  | .group raw => raw.peer
  | .channel raw => raw.peer

/-- The chat as the peer of a request. -/
def inputPeer : Chat → Wire.InputPeer
  | .user raw => raw.inputPeer
  | .group raw => raw.inputPeer
  | .channel raw => raw.inputPeer

/-- The marked identifier of the chat, which is the same for every account. -/
def id (chat : Chat) : Int64 :=
  chat.peer.markedId

/-- The first name of the user, or the title. -/
def name : Chat → String
  | .user raw => raw.givenName
  | .group raw => raw.title
  | .channel raw => raw.title

/-- The reference that a person would use for the chat. -/
def chatRef : Chat → ChatRef
  | .user raw => raw.chatRef
  | chat => .id chat.id

/-- The outline of a user, for descriptions. -/
def outlineUser (user : Wire.User) : Term :=
  .record "User" [("raw", Schema.view user)]

/-- The outline of a chat, for descriptions. -/
def outline : Chat → Term
  | .user raw => .tagged "User" (outlineUser raw)
  | .group raw => .tagged "Group" (.record "Group" [("raw", Schema.view raw)])
  | .channel raw => .tagged "Channel" (.record "Channel" [("raw", Schema.view raw)])

end Chat

end Messenger
