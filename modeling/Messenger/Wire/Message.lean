import Messenger.Wire.Peer
import Messenger.Wire.Gift
import Messenger.Wire.Media

/-!
# Messages

A message is empty, has content, or reports an action; and what a message replies to, once as a
request says it and once as the server does.
-/

namespace Messenger.Wire

open Schema (tagged)

/-- The message that a request replies to. -/
structure ReplyToMessage where
  messageId : Int32
  topMessageId : Option Int32
  peer : Option InputPeer
  quoteText : Option String
  quoteEntities : Option (List MessageEntity)
  quoteOffset : Option Int32
deriving DecidableEq, Inhabited

/-- What a request replies to. -/
inductive InputReplyTo where
  | message (reply : ReplyToMessage)
  | story (peer : InputPeer) (storyId : Int32)
deriving DecidableEq, Inhabited

/-- What a message replies to. -/
structure ReplyHeader where
  replyToScheduled : Bool
  forumTopic : Bool
  quote : Bool
  messageId : Option Int32
  peer : Option Peer
  topMessageId : Option Int32
  quoteText : Option String
  quoteEntities : Option (List MessageEntity)
  quoteOffset : Option Int32
deriving DecidableEq, Inhabited

/-- A gift code was handed over. -/
structure GiftCodeAction where
  viaGiveaway : Bool
  unclaimed : Bool
  boostPeer : Option Peer
  months : Int32
  slug : String
  currency : Option String
  amount : Option Int64
  cryptoCurrency : Option String
  cryptoAmount : Option Int64
  message : Option FormattedText
deriving DecidableEq, Inhabited

/-- A star gift was given. -/
structure StarGiftAction where
  nameHidden : Bool
  saved : Bool
  converted : Bool
  gift : StarGift
  message : Option FormattedText
  convertStars : Option Int64
deriving DecidableEq, Inhabited

/-- What a service message reports. -/
inductive MessageAction where
  | empty
  | chatEditTitle (title : String)
  | pinMessage
  | giftCode (action : GiftCodeAction)
  | starGift (action : StarGiftAction)
deriving DecidableEq, Inhabited

/-- A message of which only the place is known. -/
structure EmptyMessage where
  id : Int32
  peer : Option Peer
deriving DecidableEq, Inhabited

/-- A message that somebody wrote. -/
structure ContentMessage where
  out : Bool
  mentioned : Bool
  silent : Bool
  post : Bool
  fromScheduled : Bool
  pinned : Bool
  noforwards : Bool
  invertMedia : Bool
  id : Int32
  fromId : Option Peer
  peer : Peer
  replyTo : Option ReplyHeader
  date : Int32
  text : String
  media : Option MessageMedia
  entities : Option (List MessageEntity)
  views : Option Int32
  forwards : Option Int32
  editDate : Option Int32
  postAuthor : Option String
  groupedId : Option Int64
  ttlPeriod : Option Int32
  viaBusinessBotId : Option Int64
deriving Inhabited

/-- A message that reports an action. -/
structure ServiceMessage where
  out : Bool
  mentioned : Bool
  silent : Bool
  post : Bool
  id : Int32
  fromId : Option Peer
  peer : Peer
  replyTo : Option ReplyHeader
  date : Int32
  action : MessageAction
  ttlPeriod : Option Int32
deriving DecidableEq, Inhabited

/-- A message of a conversation. -/
inductive Message where
  | empty (message : EmptyMessage)
  | content (message : ContentMessage)
  | service (message : ServiceMessage)
deriving Inhabited

/-! ## Schemas -/

instance : Schema ReplyToMessage := .record "InputReplyToMessage" ReplyToMessage.mk <|
  .field "reply_to_msg_id" (·.messageId) <|
  .field "top_msg_id" (·.topMessageId) <|
  .field "reply_to_peer_id" (·.peer) <|
  .field "quote_text" (·.quoteText) <|
  .field "quote_entities" (·.quoteEntities) <|
  .field "quote_offset" (·.quoteOffset)
  .done

/-- The record of a reply to a story. -/
@[reducible]
def InputReplyTo.storyRecord : Schema (InputPeer × Int32) :=
  .record "InputReplyToStory" Prod.mk <|
  .field "peer" (·.1) <|
  .field "story_id" (·.2)
  .done

instance : Schema InputReplyTo := .ofForms
  (fun
    | .message reply => tagged "Message" inferInstance reply
    | .story peer id => tagged "Story" InputReplyTo.storyRecord (peer, id))
  [("Message", .of inferInstance .message),
    ("Story", .of InputReplyTo.storyRecord fun (peer, id) => .story peer id)]

instance : Schema ReplyHeader :=
  .single "Header" <| .record "MessageReplyHeader" ReplyHeader.mk <|
  .field "reply_to_scheduled" (·.replyToScheduled) <|
  .field "forum_topic" (·.forumTopic) <|
  .field "quote" (·.quote) <|
  .field "reply_to_msg_id" (·.messageId) <|
  .field "reply_to_peer_id" (·.peer) <|
  .field "reply_to_top_id" (·.topMessageId) <|
  .field "quote_text" (·.quoteText) <|
  .field "quote_entities" (·.quoteEntities) <|
  .field "quote_offset" (·.quoteOffset)
  .done

instance : Schema GiftCodeAction := .record "MessageActionGiftCode" GiftCodeAction.mk <|
  .field "via_giveaway" (·.viaGiveaway) <|
  .field "unclaimed" (·.unclaimed) <|
  .field "boost_peer" (·.boostPeer) <|
  .field "months" (·.months) <|
  .field "slug" (·.slug) <|
  .field "currency" (·.currency) <|
  .field "amount" (·.amount) <|
  .field "crypto_currency" (·.cryptoCurrency) <|
  .field "crypto_amount" (·.cryptoAmount) <|
  .field "message" (·.message)
  .done

instance : Schema StarGiftAction := .record "MessageActionStarGift" StarGiftAction.mk <|
  .field "name_hidden" (·.nameHidden) <|
  .field "saved" (·.saved) <|
  .field "converted" (·.converted) <|
  .field "gift" (·.gift) <|
  .field "message" (·.message) <|
  .field "convert_stars" (·.convertStars)
  .done

/-- The record of a change of title. -/
@[reducible]
def MessageAction.titleRecord : Schema String :=
  .record "MessageActionChatEditTitle" (fun title => title) <|
  .field "title" (fun title => title)
  .done

instance : Schema MessageAction := .ofForms
  (fun
    | .empty => .bare "Empty"
    | .chatEditTitle title => tagged "ChatEditTitle" MessageAction.titleRecord title
    | .pinMessage => .bare "PinMessage"
    | .giftCode action => tagged "GiftCode" inferInstance action
    | .starGift action => tagged "StarGift" inferInstance action)
  [("Empty", .bare .empty),
    ("ChatEditTitle", .of MessageAction.titleRecord .chatEditTitle),
    ("PinMessage", .bare .pinMessage),
    ("GiftCode", .of inferInstance .giftCode),
    ("StarGift", .of inferInstance .starGift)]

instance : Schema EmptyMessage := .record "MessageEmpty" EmptyMessage.mk <|
  .field "id" (·.id) <|
  .field "peer_id" (·.peer)
  .done

instance : Schema ContentMessage := .record "Message" ContentMessage.mk <|
  .field "out" (·.out) <|
  .field "mentioned" (·.mentioned) <|
  .field "silent" (·.silent) <|
  .field "post" (·.post) <|
  .field "from_scheduled" (·.fromScheduled) <|
  .field "pinned" (·.pinned) <|
  .field "noforwards" (·.noforwards) <|
  .field "invert_media" (·.invertMedia) <|
  .field "id" (·.id) <|
  .field "from_id" (·.fromId) <|
  .field "peer_id" (·.peer) <|
  .field "reply_to" (·.replyTo) <|
  .field "date" (·.date) <|
  .field "message" (·.text) <|
  .field "media" (·.media) <|
  .field "entities" (·.entities) <|
  .field "views" (·.views) <|
  .field "forwards" (·.forwards) <|
  .field "edit_date" (·.editDate) <|
  .field "post_author" (·.postAuthor) <|
  .field "grouped_id" (·.groupedId) <|
  .field "ttl_period" (·.ttlPeriod) <|
  .field "via_business_bot_id" (·.viaBusinessBotId)
  .done

instance : Schema ServiceMessage := .record "MessageService" ServiceMessage.mk <|
  .field "out" (·.out) <|
  .field "mentioned" (·.mentioned) <|
  .field "silent" (·.silent) <|
  .field "post" (·.post) <|
  .field "id" (·.id) <|
  .field "from_id" (·.fromId) <|
  .field "peer_id" (·.peer) <|
  .field "reply_to" (·.replyTo) <|
  .field "date" (·.date) <|
  .field "action" (·.action) <|
  .field "ttl_period" (·.ttlPeriod)
  .done

instance : Schema Message := .ofForms
  (fun
    | .empty message => tagged "Empty" inferInstance message
    | .content message => tagged "Message" inferInstance message
    | .service message => tagged "Service" inferInstance message)
  [("Empty", .of inferInstance .empty),
    ("Message", .of inferInstance .content),
    ("Service", .of inferInstance .service)]

end Messenger.Wire
