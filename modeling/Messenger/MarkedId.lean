import Messenger.Wire.Peer

/-!
# Marked identifiers

A marked identifier names a peer by one number: its sign and magnitude tell users, small groups and
channels apart. Users keep their identifier, small groups have it negated, and channels have it
negated below a mark.
-/

namespace Messenger.Wire

/-- What sets the identifiers of channels apart from those of small groups. -/
def channelMark : Int64 := 1000000000000

namespace Peer

/-- The marked identifier of a peer. -/
def markedId : Peer → Int64
  | .user id => id
  | .chat id => -id
  | .channel id => -channelMark - id

/-- The peer with the marked identifier. -/
def ofMarkedId (id : Int64) : Peer :=
  if 0 ≤ id then .user id
  else if -channelMark < id then .chat (-id)
  else .channel (-id - channelMark)

/-- The peer as a request names it when the access hash is not known: it is left as zero. -/
def ambient : Peer → InputPeer
  | .user id => .user id 0
  | .chat id => .chat id
  | .channel id => .channel id 0

end Peer

namespace InputPeer

/-- The user that a peer is, if it is one. -/
def user? : InputPeer → Option InputUser
  | .self => some .self
  | .user id accessHash => some (.user id accessHash)
  | _ => none

/-- The channel that a peer is, if it is one. -/
def channel? : InputPeer → Option InputChannel
  | .channel id accessHash => some (.channel id accessHash)
  | _ => none

/-- The bare identifier of a peer that is a small group or a channel. -/
def bareChatId? : InputPeer → Option Int64
  | .chat id => some id
  | .channel id _ => some id
  | _ => none

end InputPeer

end Messenger.Wire
