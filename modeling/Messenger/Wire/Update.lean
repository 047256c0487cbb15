import Messenger.Wire.Chat
import Messenger.Wire.Invoice
import Messenger.Wire.Message

/-!
# Updates

What happened on the server (`Update`), and the containers in which that arrives (`Updates`), some
of them with the tables of the users and chats that the updates mention.
-/

namespace Messenger.Wire

open Schema (tagged)

/-- A boost that a chat received. -/
structure Boost where
  gift : Bool
  giveaway : Bool
  unclaimed : Bool
  id : String
  userId : Option Int64
  giveawayMessageId : Option Int32
  date : Int32
  expires : Int32
  usedGiftSlug : Option String
  multiplier : Option Int32
  stars : Option Int64
deriving DecidableEq, Inhabited

/-- A new message, with its place in the sequence of updates. -/
structure NumberedMessage where
  message : Message
  pts : Int32
  ptsCount : Int32
deriving Inhabited

/-- A new message in a chat that the bot manages for a business. -/
structure BusinessMessage where
  connectionId : String
  message : Message
  replyToMessage : Option Message
  qts : Int32
deriving Inhabited

/-- A chat was boosted. -/
structure ChatBoostUpdate where
  peer : Peer
  boost : Boost
  qts : Int32
deriving DecidableEq, Inhabited

/-- Somebody wants to know what shipping to an address costs. -/
structure ShippingQueryUpdate where
  queryId : Int64
  userId : Int64
  payload : List UInt8
  shippingAddress : PostAddress
deriving DecidableEq, Inhabited

/-- Something that happened. -/
inductive Update where
  | newMessage (update : NumberedMessage)
  | newChannelMessage (update : NumberedMessage)
  | newScheduledMessage (message : Message)
  | newBusinessMessage (update : BusinessMessage)
  | messageId (id : Int32) (randomId : Int64)
  | chatBoost (update : ChatBoostUpdate)
  | shippingQuery (update : ShippingQueryUpdate)
deriving Inhabited

/-- Updates with the tables for them, where several containers were joined. -/
structure CombinedUpdates where
  updates : List Update
  users : List UserEntry
  chats : List ChatEntry
  date : Int32
  seqStart : Int32
  seq : Int32
deriving Inhabited

/-- Updates with the tables for them. -/
structure UpdateBatch where
  updates : List Update
  users : List UserEntry
  chats : List ChatEntry
  date : Int32
  seq : Int32
deriving Inhabited

/-- What became of a message that was just sent. -/
structure SentMessage where
  out : Bool
  id : Int32
  pts : Int32
  ptsCount : Int32
  date : Int32
  media : Option MessageMedia
  entities : Option (List MessageEntity)
  ttlPeriod : Option Int32
deriving Inhabited

/-- A container of updates. -/
inductive Updates where
  | tooLong
  | short (update : Update) (date : Int32)
  | combined (updates : CombinedUpdates)
  | updates (updates : UpdateBatch)
  | shortSentMessage (message : SentMessage)
deriving Inhabited

/-! ## Schemas -/

instance : Schema Boost :=
  .single "Boost" <| .record "Boost" Boost.mk <|
  .field "gift" (·.gift) <|
  .field "giveaway" (·.giveaway) <|
  .field "unclaimed" (·.unclaimed) <|
  .field "id" (·.id) <|
  .field "user_id" (·.userId) <|
  .field "giveaway_msg_id" (·.giveawayMessageId) <|
  .field "date" (·.date) <|
  .field "expires" (·.expires) <|
  .field "used_gift_slug" (·.usedGiftSlug) <|
  .field "multiplier" (·.multiplier) <|
  .field "stars" (·.stars)
  .done

/-- The record of a numbered message, under the name of its kind. -/
@[reducible]
def NumberedMessage.schema (name : String) : Schema NumberedMessage :=
  .record name NumberedMessage.mk <|
  .field "message" (·.message) <|
  .field "pts" (·.pts) <|
  .field "pts_count" (·.ptsCount)
  .done

instance : Schema BusinessMessage := .record "UpdateBotNewBusinessMessage" BusinessMessage.mk <|
  .field "connection_id" (·.connectionId) <|
  .field "message" (·.message) <|
  .field "reply_to_message" (·.replyToMessage) <|
  .field "qts" (·.qts)
  .done

instance : Schema ChatBoostUpdate := .record "UpdateBotChatBoost" ChatBoostUpdate.mk <|
  .field "peer" (·.peer) <|
  .field "boost" (·.boost) <|
  .field "qts" (·.qts)
  .done

instance : Schema ShippingQueryUpdate := .record "UpdateBotShippingQuery" ShippingQueryUpdate.mk <|
  .field "query_id" (·.queryId) <|
  .field "user_id" (·.userId) <|
  .field "payload" (·.payload) <|
  .field "shipping_address" (·.shippingAddress)
  .done

/-- The record of a message that is scheduled. -/
@[reducible]
def Update.scheduledRecord : Schema Message :=
  .record "UpdateNewScheduledMessage" (fun message => message) <|
  .field "message" (fun message => message)
  .done

/-- The record that ties a message to the number it was sent with. -/
@[reducible]
def Update.messageIdRecord : Schema (Int32 × Int64) :=
  .record "UpdateMessageId" Prod.mk <|
  .field "id" (·.1) <|
  .field "random_id" (·.2)
  .done

instance : Schema Update := .ofForms
  (fun
    | .newMessage update =>
      tagged "NewMessage" (NumberedMessage.schema "UpdateNewMessage") update
    | .newChannelMessage update =>
      tagged "NewChannelMessage" (NumberedMessage.schema "UpdateNewChannelMessage") update
    | .newScheduledMessage message => tagged "NewScheduledMessage" Update.scheduledRecord message
    | .newBusinessMessage update => tagged "BotNewBusinessMessage" inferInstance update
    | .messageId id randomId => tagged "MessageId" Update.messageIdRecord (id, randomId)
    | .chatBoost update => tagged "BotChatBoost" inferInstance update
    | .shippingQuery update => tagged "BotShippingQuery" inferInstance update)
  [("NewMessage", .of (NumberedMessage.schema "UpdateNewMessage") .newMessage),
    ("NewChannelMessage",
      .of (NumberedMessage.schema "UpdateNewChannelMessage") .newChannelMessage),
    ("NewScheduledMessage", .of Update.scheduledRecord .newScheduledMessage),
    ("BotNewBusinessMessage", .of inferInstance .newBusinessMessage),
    ("MessageId", .of Update.messageIdRecord fun (id, randomId) => .messageId id randomId),
    ("BotChatBoost", .of inferInstance .chatBoost),
    ("BotShippingQuery", .of inferInstance .shippingQuery)]

instance : Schema CombinedUpdates := .record "UpdatesCombined" CombinedUpdates.mk <|
  .field "updates" (·.updates) <|
  .field "users" (·.users) <|
  .field "chats" (·.chats) <|
  .field "date" (·.date) <|
  .field "seq_start" (·.seqStart) <|
  .field "seq" (·.seq)
  .done

instance : Schema UpdateBatch := .record "Updates" UpdateBatch.mk <|
  .field "updates" (·.updates) <|
  .field "users" (·.users) <|
  .field "chats" (·.chats) <|
  .field "date" (·.date) <|
  .field "seq" (·.seq)
  .done

instance : Schema SentMessage := .record "UpdateShortSentMessage" SentMessage.mk <|
  .field "out" (·.out) <|
  .field "id" (·.id) <|
  .field "pts" (·.pts) <|
  .field "pts_count" (·.ptsCount) <|
  .field "date" (·.date) <|
  .field "media" (·.media) <|
  .field "entities" (·.entities) <|
  .field "ttl_period" (·.ttlPeriod)
  .done

/-- The record of a single update. -/
@[reducible]
def Updates.shortRecord : Schema (Update × Int32) :=
  .record "UpdateShort" Prod.mk <|
  .field "update" (·.1) <|
  .field "date" (·.2)
  .done

instance : Schema Updates := .ofForms
  (fun
    | .tooLong => .bare "TooLong"
    | .short update date => tagged "UpdateShort" Updates.shortRecord (update, date)
    | .combined updates => tagged "Combined" inferInstance updates
    | .updates updates => tagged "Updates" inferInstance updates
    | .shortSentMessage message => tagged "UpdateShortSentMessage" inferInstance message)
  [("TooLong", .bare .tooLong),
    ("UpdateShort", .of Updates.shortRecord fun (update, date) => .short update date),
    ("Combined", .of inferInstance .combined),
    ("Updates", .of inferInstance .updates),
    ("UpdateShortSentMessage", .of inferInstance .shortSentMessage)]

end Messenger.Wire
