import Messenger.Directory

/-!
# Directories and the tables that they are made of

A directory joins the two tables of a response. What it says about a peer is what the table for that
kind of peer says: the table of users about users (`Tables.user?`), the table of chats about small
groups and channels. Neither can hide an entry of the other.
-/

namespace Messenger

/-- The two tables of a response. -/
structure Tables where
  users : List Wire.UserEntry
  chats : List Wire.ChatEntry

/-- The bare identifier of a peer, which does not tell its kind. -/
def Wire.Peer.bareId : Peer → Int64
  | .user id => id
  | .chat id => id
  | .channel id => id

namespace Tables

/-- The user with the identifier, by the last entry of the table of users that describes it. -/
def user? (tables : Tables) (id : Int64) : Option Wire.User :=
  (tables.users.reverse.find? (·.toUser.id = id)).map Wire.UserEntry.toUser

/-- The chat of a peer, by the last entry that describes it of the table for its kind. -/
def chat? (tables : Tables) : Wire.Peer → Option Chat
  | .user id => (tables.user? id).map .user
  | peer => (tables.chats.reverse.find? (·.peer = peer)).map .ofEntry

/-- The directory of the tables. -/
def directory (tables : Tables) : Directory :=
  .ofTables tables.users tables.chats

/-- The table of users describes the user. -/
def HasUser (tables : Tables) (id : Int64) : Prop :=
  ∃ entry ∈ tables.users, entry.toUser.id = id

/-- The table of chats describes the small group or channel. -/
def HasChat (tables : Tables) (peer : Wire.Peer) : Prop :=
  ∃ entry ∈ tables.chats, entry.peer = peer

/-- The table for its kind describes the peer. -/
def Describes (tables : Tables) : Wire.Peer → Prop
  | .user id => tables.HasUser id
  | peer => tables.HasChat peer

end Tables

/-! ## Entries -/

/-- A chat keeps the peer of its entry, whether or not it broadcasts. -/
theorem Chat.peer_ofEntry (entry : Wire.ChatEntry) : (ofEntry entry).peer = entry.peer := by
  cases entry with
  | channel raw => cases hbroadcast : raw.broadcast <;> simp [ofEntry, hbroadcast] <;> rfl
  | forbiddenChannel raw =>
    cases hbroadcast : raw.broadcast <;> simp [ofEntry, hbroadcast] <;> rfl
  | empty id => rfl
  | group raw => rfl
  | forbiddenGroup raw => rfl

theorem Wire.ChatEntry.peer_ne_user (entry : ChatEntry) (id : Int64) : entry.peer ≠ .user id := by
  cases entry <;> simp [peer]

namespace Tables

variable (tables : Tables)

/-! ## Look-ups -/

/-- About small groups and channels, the table of chats is asked. -/
theorem chat?_of_ne_user {peer : Wire.Peer} (hother : ∀ id, peer ≠ .user id) :
    tables.chat? peer = (tables.chats.reverse.find? (·.peer = peer)).map .ofEntry := by
  cases peer with
  | user id => exact absurd rfl (hother id)
  | chat id => rfl
  | channel id => rfl

/-- The directory says about every peer what the table for its kind says. -/
theorem chat?_directory (peer : Wire.Peer) : tables.directory.chat? peer = tables.chat? peer := by
  have husers : (tables.users.map Chat.ofUser).reverse.find? (·.peer = peer) =
      (tables.users.reverse.find? (.user ·.toUser.id = peer)).map Chat.ofUser := by
    rw [← List.map_reverse, List.find?_map]
    rfl
  have hchats : (tables.chats.map Chat.ofEntry).reverse.find? (·.peer = peer) =
      (tables.chats.reverse.find? (·.peer = peer)).map Chat.ofEntry := by
    rw [← List.map_reverse, List.find?_map]
    simp only [Function.comp_def, Chat.peer_ofEntry]
  rw [directory, Directory.ofTables, Directory.chat?, List.reverse_append, List.find?_append,
    husers, hchats]
  -- the table for another kind of peer has nothing to say
  by_cases huser : ∃ id, peer = .user id
  · obtain ⟨id, rfl⟩ := huser
    have hnone : tables.chats.reverse.find? (·.peer = Wire.Peer.user id) = none :=
      List.find?_eq_none.2 fun entry _ => by simp [entry.peer_ne_user]
    simp only [hnone, Option.map_none, Option.none_or, chat?, user?, Option.map_map,
      Wire.Peer.user.injEq]
    rfl
  · have hother : ∀ id, peer ≠ .user id := not_exists.1 huser
    have hnone : tables.users.reverse.find? (.user ·.toUser.id = peer) = none :=
      List.find?_eq_none.2 fun entry _ => by simp [(hother _).symm]
    rw [hnone, Option.map_none, Option.or_none, chat?_of_ne_user tables hother]

theorem user?_directory (id : Int64) : tables.directory.user? id = tables.user? id := by
  rw [Directory.user?, chat?_directory, chat?]
  cases tables.user? id <;> rfl

variable {tables}

variable {peer : Wire.Peer}

end Tables

end Messenger
