import Messenger.Message
import Messenger.ShippingQuery

/-!
# Updates

What a client is told of the updates that the server sends (`Update.ofContainer`): new messages,
boosts and shipping queries, each read with the directory of its container, and anything else as it
is. There is one result for each update of the container, in the same order.
-/

namespace Messenger

/-- A boost that a chat received. -/
structure ChatBoost where
  id : String
  date : Date
  expireDate : Date
  /-- As how many boosts this one counts. -/
  multiplier : Int32
  fromUser : Option Wire.User
  isGift : Bool
  isGiveaway : Bool
  isUnclaimed : Bool
  giveawayMessageId : Option Int32
  usedGiftSlug : Option String
deriving DecidableEq, Inhabited

namespace ChatBoost

/-- The boost that the server sent. -/
def ofRaw (raw : Wire.Boost) (directory : Directory) : ChatBoost where
  id := raw.id
  date := .ofTimestamp raw.date
  expireDate := .ofTimestamp raw.expires
  multiplier := raw.multiplier.getD 1
  fromUser := raw.userId.bind directory.user?
  isGift := raw.gift
  isGiveaway := raw.giveaway
  isUnclaimed := raw.unclaimed
  giveawayMessageId := raw.giveawayMessageId
  usedGiftSlug := raw.usedGiftSlug

end ChatBoost

/-- Something that happened, as a client is told. -/
inductive Update where
  /-- A message arrived or was scheduled. -/
  | newMessage (message : Message)
  /-- A chat was boosted; the chat is there if it is known. -/
  | chatBoost (chat : Option Chat) (boost : ChatBoost)
  /-- Somebody asks what shipping costs. -/
  | shippingQuery (query : ShippingQuery)
  /-- Anything else, as the server sent it. -/
  | raw (update : Wire.Update)
deriving Inhabited

namespace Update

/-- The update, read with the directory of its container. -/
def ofRaw (directory : Directory) : Wire.Update → Update
  | .newMessage update => .newMessage (.ofRaw update.message directory)
  | .newChannelMessage update => .newMessage (.ofRaw update.message directory)
  | .newScheduledMessage message => .newMessage (.ofRaw message directory)
  | .newBusinessMessage update =>
    .newMessage ⟨update.message, directory, some update.connectionId⟩
  | .chatBoost update => .chatBoost (directory.chat? update.peer) (.ofRaw update.boost directory)
  | .shippingQuery update => .shippingQuery (.ofRaw update directory)
  | update => .raw update

/-- The updates of a container. -/
def ofContainer : Wire.Updates → List Update
  | .short update _ => [ofRaw .empty update]
  | .combined batch => batch.updates.map (ofRaw (.ofTables batch.users batch.chats))
  | .updates batch => batch.updates.map (ofRaw (.ofTables batch.users batch.chats))
  | .tooLong => []
  | .shortSentMessage _ => []

/-- The message that an update brings, if it brings one. -/
def message? : Update → Option Message
  | .newMessage message => some message
  | _ => none

end Update

end Messenger
