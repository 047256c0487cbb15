import Messenger.Chat

/-!
# Directories

A response mentions users and chats by peers and describes them in its tables. A `Directory` looks
up what the tables say about a peer. Where they describe a peer twice, the later entry counts, and
the table of chats comes after the table of users.
-/

namespace Messenger

/-- The chats that the tables of a response describe, in their order. -/
structure Directory where
  chats : List Chat
deriving DecidableEq, Inhabited

namespace Directory

/-- The directory that describes nobody. -/
def empty : Directory := ⟨[]⟩

/-- The directory of a table of users and a table of chats. -/
def ofTables (users : List Wire.UserEntry) (chats : List Wire.ChatEntry) : Directory :=
  ⟨users.map Chat.ofUser ++ chats.map Chat.ofEntry⟩

/-- The chat of a peer. -/
def chat? (directory : Directory) (peer : Wire.Peer) : Option Chat :=
  directory.chats.reverse.find? (·.peer = peer)

/-- The user with an identifier. -/
def user? (directory : Directory) (id : Int64) : Option Wire.User :=
  match directory.chat? (.user id) with
  | some (.user user) => some user
  | _ => none

/-- The small group with a bare identifier, or else the channel with it. -/
def bareChat? (directory : Directory) (id : Int64) : Option Chat :=
  directory.chat? (.chat id) <|> directory.chat? (.channel id)

/-- How many peers are described. -/
def size (directory : Directory) : Nat :=
  (directory.chats.map Chat.peer).eraseDups.length

/-- Nobody is described. -/
def isEmpty (directory : Directory) : Bool :=
  directory.chats.isEmpty

end Directory

end Messenger
