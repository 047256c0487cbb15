import Messenger.Wire.Response

/-!
# Calls and requests

A `Call` is a function of the server with its arguments, and says of which kind the answer is. What
is sent is a `Request`: a call, possibly on behalf of business connections, one inside the other.
-/

namespace Messenger.Wire

open Schema (tagged)

/-- The version of the schema. -/
def layer : Int32 := 192

/-! ## Arguments -/

/-- Asks for a page of dialogs that comes after the given offset. -/
structure GetDialogs where
  excludePinned : Bool
  folderId : Option Int32
  offsetDate : Int32
  offsetId : Int32
  offsetPeer : InputPeer
  limit : Int32
  hash : Int64
deriving DecidableEq, Inhabited

/-- Answers what shipping costs, or why nothing is shipped. -/
structure ShippingResults where
  queryId : Int64
  error : Option String
  options : Option (List ShippingOption)
deriving DecidableEq, Inhabited

/-- Hands media to the server without sending it. -/
structure UploadMedia where
  businessConnectionId : Option String
  peer : InputPeer
  media : InputMedia
deriving Inhabited

/-- Sends a message with media. -/
structure SendMedia where
  silent : Bool
  background : Bool
  clearDraft : Bool
  noforwards : Bool
  updateStickersetsOrder : Bool
  invertMedia : Bool
  peer : InputPeer
  replyTo : Option InputReplyTo
  media : InputMedia
  message : String
  randomId : Int64
  entities : Option (List MessageEntity)
  scheduleDate : Option Int32
  sendAs : Option InputPeer
  effect : Option Int64
deriving Inhabited

/-- Pays for a reaction to a message. -/
structure SendPaidReaction where
  peer : InputPeer
  messageId : Int32
  count : Int32
  randomId : Int64
  isPrivate : Option Bool
deriving DecidableEq, Inhabited

/-- Asks for a page of the gifts of a user. -/
structure GetUserStarGifts where
  user : InputUser
  offset : String
  limit : Int32
deriving DecidableEq, Inhabited

/-- Shows a gift on the profile, or hides it. -/
structure SaveStarGift where
  unsave : Bool
  user : InputUser
  messageId : Int32
deriving DecidableEq, Inhabited

/-! ## Calls -/

/-- A function of the server, with its arguments. -/
inductive Call where
  | getPrivacy (key : PrivacyKey)
  | setPrivacy (key : PrivacyKey) (rules : List (PrivacyRule InputUser))
  | getAccountTtl
  | setAccountTtl (ttl : AccountDaysTtl)
  | updatePersonalChannel (channel : InputChannel)
  | searchContacts (query : String) (limit : Int32)
  | setBotShippingResults (results : ShippingResults)
  | getDialogs (arguments : GetDialogs)
  | getPinnedDialogs (folderId : Int32)
  | uploadMedia (arguments : UploadMedia)
  | sendMedia (arguments : SendMedia)
  | sendPaidReaction (arguments : SendPaidReaction)
  | getPaymentForm (invoice : InputInvoice) (themeParams : Option String)
  | sendStarsForm (formId : Int64) (invoice : InputInvoice)
  | getStarGifts (hash : Int32)
  | getUserStarGifts (arguments : GetUserStarGifts)
  | saveStarGift (arguments : SaveStarGift)
  | convertStarGift (user : InputUser) (messageId : Int32)
  | checkGiftCode (slug : String)
  | applyGiftCode (slug : String)
deriving Inhabited

namespace Call

/-- The name of the function in the schema. -/
def name : Call → String
  | .getPrivacy _ => "account.getPrivacy"
  | .setPrivacy _ _ => "account.setPrivacy"
  | .getAccountTtl => "account.getAccountTTL"
  | .setAccountTtl _ => "account.setAccountTTL"
  | .updatePersonalChannel _ => "account.updatePersonalChannel"
  | .searchContacts _ _ => "contacts.search"
  | .setBotShippingResults _ => "messages.setBotShippingResults"
  | .getDialogs _ => "messages.getDialogs"
  | .getPinnedDialogs _ => "messages.getPinnedDialogs"
  | .uploadMedia _ => "messages.uploadMedia"
  | .sendMedia _ => "messages.sendMedia"
  | .sendPaidReaction _ => "messages.sendPaidReaction"
  | .getPaymentForm _ _ => "payments.getPaymentForm"
  | .sendStarsForm _ _ => "payments.sendStarsForm"
  | .getStarGifts _ => "payments.getStarGifts"
  | .getUserStarGifts _ => "payments.getUserStarGifts"
  | .saveStarGift _ => "payments.saveStarGift"
  | .convertStarGift _ _ => "payments.convertStarGift"
  | .checkGiftCode _ => "payments.checkGiftCode"
  | .applyGiftCode _ => "payments.applyGiftCode"

/-- The kind of value that the function returns. -/
abbrev returns : Call → ResponseKind
  | .getPrivacy _ => .privacyRules
  | .setPrivacy _ _ => .privacyRules
  | .getAccountTtl => .accountDaysTtl
  | .setAccountTtl _ => .bool
  | .updatePersonalChannel _ => .bool
  | .searchContacts _ _ => .found
  | .setBotShippingResults _ => .bool
  | .getDialogs _ => .dialogs
  | .getPinnedDialogs _ => .peerDialogs
  | .uploadMedia _ => .messageMedia
  | .sendMedia _ => .updates
  | .sendPaidReaction _ => .updates
  | .getPaymentForm _ _ => .paymentForm
  | .sendStarsForm _ _ => .paymentResult
  | .getStarGifts _ => .starGifts
  | .getUserStarGifts _ => .userStarGifts
  | .saveStarGift _ => .bool
  | .convertStarGift _ _ => .bool
  | .checkGiftCode _ => .checkedGiftCode
  | .applyGiftCode _ => .updates

end Call

/-! ## Requests -/

/-- What is sent to the server. -/
inductive Request where
  | call (call : Call)
  /-- A request on behalf of the business account behind the connection. -/
  | onBehalf (connectionId : String) (query : Request)
deriving Inhabited

namespace Request

/-- The name of the outermost function. -/
def name : Request → String
  | .call c => c.name
  | .onBehalf _ _ => "invokeWithBusinessConnection"

/-- The call that will run in the end. -/
@[reducible]
def innermost : Request → Call
  | .call c => c
  | .onBehalf _ query => query.innermost

/-- The kind of value that the request returns; on somebody's behalf it is that of the request
inside. -/
@[reducible]
def returns : Request → ResponseKind
  | .call c => c.returns
  | .onBehalf _ query => query.returns

end Request

/-! ## Schemas -/

instance : Schema GetDialogs := .record "GetDialogs" GetDialogs.mk <|
  .field "exclude_pinned" (·.excludePinned) <|
  .field "folder_id" (·.folderId) <|
  .field "offset_date" (·.offsetDate) <|
  .field "offset_id" (·.offsetId) <|
  .field "offset_peer" (·.offsetPeer) <|
  .field "limit" (·.limit) <|
  .field "hash" (·.hash)
  .done

instance : Schema ShippingResults := .record "SetBotShippingResults" ShippingResults.mk <|
  .field "query_id" (·.queryId) <|
  .field "error" (·.error) <|
  .field "shipping_options" (·.options)
  .done

instance : Schema UploadMedia := .record "UploadMedia" UploadMedia.mk <|
  .field "business_connection_id" (·.businessConnectionId) <|
  .field "peer" (·.peer) <|
  .field "media" (·.media)
  .done

instance : Schema SendMedia := .record "SendMedia" SendMedia.mk <|
  .field "silent" (·.silent) <|
  .field "background" (·.background) <|
  .field "clear_draft" (·.clearDraft) <|
  .field "noforwards" (·.noforwards) <|
  .field "update_stickersets_order" (·.updateStickersetsOrder) <|
  .field "invert_media" (·.invertMedia) <|
  .field "peer" (·.peer) <|
  .field "reply_to" (·.replyTo) <|
  .field "media" (·.media) <|
  .field "message" (·.message) <|
  .field "random_id" (·.randomId) <|
  .field "entities" (·.entities) <|
  .field "schedule_date" (·.scheduleDate) <|
  .field "send_as" (·.sendAs) <|
  .field "effect" (·.effect)
  .done

instance : Schema SendPaidReaction := .record "SendPaidReaction" SendPaidReaction.mk <|
  .field "peer" (·.peer) <|
  .field "msg_id" (·.messageId) <|
  .field "count" (·.count) <|
  .field "random_id" (·.randomId) <|
  .field "private" (·.isPrivate)
  .done

instance : Schema GetUserStarGifts := .record "GetUserStarGifts" GetUserStarGifts.mk <|
  .field "user_id" (·.user) <|
  .field "offset" (·.offset) <|
  .field "limit" (·.limit)
  .done

instance : Schema SaveStarGift := .record "SaveStarGift" SaveStarGift.mk <|
  .field "unsave" (·.unsave) <|
  .field "user_id" (·.user) <|
  .field "msg_id" (·.messageId)
  .done

namespace Call

/-- The record of a call with a single argument under the key. -/
@[reducible]
def argumentRecord {α : Type} [Schema α] (name key : String) : Schema α :=
  .record name (fun argument => argument) (.field key (fun argument => argument) .done)

/-- The record of a call with two arguments under the keys. -/
@[reducible]
def argumentsRecord {α β : Type} [Schema α] [Schema β] (name first second : String) :
    Schema (α × β) :=
  .record name Prod.mk (.field first (·.1) (.field second (·.2) .done))

/-- The record of a call without arguments. -/
@[reducible]
def emptyRecord (name : String) : Schema Unit :=
  .record name () .done

/-- The structure of a call. -/
def view : Call → Term
  | .getPrivacy key => tagged "AccountGetPrivacy" (argumentRecord "GetPrivacy" "key") key
  | .setPrivacy key rules =>
    tagged "AccountSetPrivacy" (argumentsRecord "SetPrivacy" "key" "rules") (key, rules)
  | .getAccountTtl => tagged "AccountGetAccountTtl" (emptyRecord "GetAccountTtl") ()
  | .setAccountTtl ttl => tagged "AccountSetAccountTtl" (argumentRecord "SetAccountTtl" "ttl") ttl
  | .updatePersonalChannel channel =>
    tagged "AccountUpdatePersonalChannel" (argumentRecord "UpdatePersonalChannel" "channel") channel
  | .searchContacts query limit =>
    tagged "ContactsSearch" (argumentsRecord "Search" "q" "limit") (query, limit)
  | .setBotShippingResults results => tagged "MessagesSetBotShippingResults" inferInstance results
  | .getDialogs arguments => tagged "MessagesGetDialogs" inferInstance arguments
  | .getPinnedDialogs folderId =>
    tagged "MessagesGetPinnedDialogs" (argumentRecord "GetPinnedDialogs" "folder_id") folderId
  | .uploadMedia arguments => tagged "MessagesUploadMedia" inferInstance arguments
  | .sendMedia arguments => tagged "MessagesSendMedia" inferInstance arguments
  | .sendPaidReaction arguments => tagged "MessagesSendPaidReaction" inferInstance arguments
  | .getPaymentForm invoice themeParams =>
    tagged "PaymentsGetPaymentForm" (argumentsRecord "GetPaymentForm" "invoice" "theme_params")
      (invoice, themeParams)
  | .sendStarsForm formId invoice =>
    tagged "PaymentsSendStarsForm" (argumentsRecord "SendStarsForm" "form_id" "invoice")
      (formId, invoice)
  | .getStarGifts hash => tagged "PaymentsGetStarGifts" (argumentRecord "GetStarGifts" "hash") hash
  | .getUserStarGifts arguments => tagged "PaymentsGetUserStarGifts" inferInstance arguments
  | .saveStarGift arguments => tagged "PaymentsSaveStarGift" inferInstance arguments
  | .convertStarGift user messageId =>
    tagged "PaymentsConvertStarGift" (argumentsRecord "ConvertStarGift" "user_id" "msg_id")
      (user, messageId)
  | .checkGiftCode slug =>
    tagged "PaymentsCheckGiftCode" (argumentRecord "CheckGiftCode" "slug") slug
  | .applyGiftCode slug =>
    tagged "PaymentsApplyGiftCode" (argumentRecord "ApplyGiftCode" "slug") slug

/-- The forms of calls. -/
def forms : List (String × Schema.Form Call) :=
  [("AccountGetPrivacy", .of (argumentRecord "GetPrivacy" "key") .getPrivacy),
    ("AccountSetPrivacy",
      .of (argumentsRecord "SetPrivacy" "key" "rules") fun (key, rules) => .setPrivacy key rules),
    ("AccountGetAccountTtl", .of (emptyRecord "GetAccountTtl") fun () => .getAccountTtl),
    ("AccountSetAccountTtl", .of (argumentRecord "SetAccountTtl" "ttl") .setAccountTtl),
    ("AccountUpdatePersonalChannel",
      .of (argumentRecord "UpdatePersonalChannel" "channel") .updatePersonalChannel),
    ("ContactsSearch",
      .of (argumentsRecord "Search" "q" "limit") fun (query, limit) => .searchContacts query limit),
    ("MessagesSetBotShippingResults", .of inferInstance .setBotShippingResults),
    ("MessagesGetDialogs", .of inferInstance .getDialogs),
    ("MessagesGetPinnedDialogs",
      .of (argumentRecord "GetPinnedDialogs" "folder_id") .getPinnedDialogs),
    ("MessagesUploadMedia", .of inferInstance .uploadMedia),
    ("MessagesSendMedia", .of inferInstance .sendMedia),
    ("MessagesSendPaidReaction", .of inferInstance .sendPaidReaction),
    ("PaymentsGetPaymentForm",
      .of (argumentsRecord "GetPaymentForm" "invoice" "theme_params")
        fun (invoice, themeParams) => .getPaymentForm invoice themeParams),
    ("PaymentsSendStarsForm",
      .of (argumentsRecord "SendStarsForm" "form_id" "invoice")
        fun (formId, invoice) => .sendStarsForm formId invoice),
    ("PaymentsGetStarGifts", .of (argumentRecord "GetStarGifts" "hash") .getStarGifts),
    ("PaymentsGetUserStarGifts", .of inferInstance .getUserStarGifts),
    ("PaymentsSaveStarGift", .of inferInstance .saveStarGift),
    ("PaymentsConvertStarGift",
      .of (argumentsRecord "ConvertStarGift" "user_id" "msg_id")
        fun (user, messageId) => .convertStarGift user messageId),
    ("PaymentsCheckGiftCode", .of (argumentRecord "CheckGiftCode" "slug") .checkGiftCode),
    ("PaymentsApplyGiftCode", .of (argumentRecord "ApplyGiftCode" "slug") .applyGiftCode)]

end Call

namespace Request

/-- The record of a request on somebody's behalf, given the schema of the request inside. -/
@[reducible]
def behalfRecord {α : Type} (inner : Schema α) : Schema (String × α) :=
  .record "InvokeWithBusinessConnection" Prod.mk <|
  .field "connection_id" (·.1) <|
  .field "query" (·.2)
  .done

/-- The structure of a request. -/
def view : Request → Term
  | .call c => c.view
  | .onBehalf connectionId query =>
    tagged "InvokeWithBusinessConnection" (behalfRecord Schema.viewed) (connectionId, query.view)

/-- A form of calls as a form of requests. -/
def formOfCall : String × Schema.Form Call → String × Schema.Form Request
  | (tag, .bare c) => (tag, .bare (.call c))
  | (tag, .payload read) => (tag, .payload fun document => (read document).map .call)

/-- The forms of requests, given how the request inside another one is read. -/
def forms (inner : Schema Request) : List (String × Schema.Form Request) :=
  ("InvokeWithBusinessConnection",
    .of (behalfRecord inner) fun (connectionId, query) => .onBehalf connectionId query)
    :: Call.forms.map formOfCall

instance : Schema Request := .nested view forms

end Request

end Messenger.Wire
