import Messenger.Schema

/-!
# Peers

The ways to name a conversation or an account to the server. What the server sends names a `Peer`
by its kind and its bare identifier; what the client sends is an `InputPeer`, an `InputUser` or an
`InputChannel`, which carry the access hash that proves the account has met the peer before.
-/

namespace Messenger.Wire

open Schema (tagged)

/-- A conversation, by its kind and its bare identifier. -/
inductive Peer where
  | user (id : Int64)
  | chat (id : Int64)
  | channel (id : Int64)
deriving DecidableEq, Inhabited

/-- A conversation, as a request names it. -/
inductive InputPeer where
  | empty
  /-- The conversation of the account with itself. -/
  | self
  | chat (id : Int64)
  | user (id accessHash : Int64)
  | channel (id accessHash : Int64)
deriving DecidableEq, Inhabited

/-- A user, as a request names one. -/
inductive InputUser where
  | empty
  /-- The user who owns the account. -/
  | self
  | user (id accessHash : Int64)
deriving DecidableEq, Inhabited

/-- A channel, as a request names one. -/
inductive InputChannel where
  | empty
  | channel (id accessHash : Int64)
deriving DecidableEq, Inhabited

/-! ## Schemas -/

/-- A record whose only field is an identifier. -/
@[reducible]
def idRecord (name key : String) : Schema Int64 :=
  .record name id (.field key id .done)

/-- A record of an identifier and an access hash. -/
@[reducible]
def keyRecord (name key : String) : Schema (Int64 × Int64) :=
  .record name Prod.mk (.field key (·.1) (.field "access_hash" (·.2) .done))

instance : Schema Peer := .ofForms
  (fun
    | .user id => tagged "User" (idRecord "PeerUser" "user_id") id
    | .chat id => tagged "Chat" (idRecord "PeerChat" "chat_id") id
    | .channel id => tagged "Channel" (idRecord "PeerChannel" "channel_id") id)
  [("User", .of (idRecord "PeerUser" "user_id") .user),
    ("Chat", .of (idRecord "PeerChat" "chat_id") .chat),
    ("Channel", .of (idRecord "PeerChannel" "channel_id") .channel)]

instance : Schema InputPeer := .ofForms
  (fun
    | .empty => .bare "Empty"
    | .self => .bare "PeerSelf"
    | .chat id => tagged "Chat" (idRecord "InputPeerChat" "chat_id") id
    | .user id hash => tagged "User" (keyRecord "InputPeerUser" "user_id") (id, hash)
    | .channel id hash => tagged "Channel" (keyRecord "InputPeerChannel" "channel_id") (id, hash))
  [("Empty", .bare .empty),
    ("PeerSelf", .bare .self),
    ("Chat", .of (idRecord "InputPeerChat" "chat_id") .chat),
    ("User", .of (keyRecord "InputPeerUser" "user_id") fun (id, hash) => .user id hash),
    ("Channel", .of (keyRecord "InputPeerChannel" "channel_id") fun (id, hash) => .channel id hash)]

instance : Schema InputUser := .ofForms
  (fun
    | .empty => .bare "Empty"
    | .self => .bare "UserSelf"
    | .user id hash => tagged "User" (keyRecord "InputUser" "user_id") (id, hash))
  [("Empty", .bare .empty),
    ("UserSelf", .bare .self),
    ("User", .of (keyRecord "InputUser" "user_id") fun (id, hash) => .user id hash)]

instance : Schema InputChannel := .ofForms
  (fun
    | .empty => .bare "Empty"
    | .channel id hash => tagged "Channel" (keyRecord "InputChannel" "channel_id") (id, hash))
  [("Empty", .bare .empty),
    ("Channel", .of (keyRecord "InputChannel" "channel_id") fun (id, hash) => .channel id hash)]

end Messenger.Wire
