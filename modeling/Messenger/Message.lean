import Messenger.GiftCode
import Messenger.Payment
import Messenger.StarGift

/-!
# Messages

A message as a client sees it: what the server sent, with the directory of the response that it came
in, so that its chat and its sender can be shown.
-/

namespace Messenger

namespace Wire.Message

/-- The number of the message in its conversation. -/
def id : Message → Int32
  | .empty message => message.id
  | .content message => message.id
  | .service message => message.id

/-- The conversation that the message is in. -/
def peer? : Message → Option Peer
  | .empty message => message.peer
  | .content message => some message.peer
  | .service message => some message.peer

/-- Who the server says sent the message. -/
def fromId? : Message → Option Peer
  | .empty _ => none
  | .content message => message.fromId
  | .service message => message.fromId

/-- When the message was sent. -/
def timestamp : Message → Int32
  | .empty _ => 0
  | .content message => message.date
  | .service message => message.date

/-- The message was sent by the account. -/
def outgoing : Message → Bool
  | .empty _ => false
  | .content message => message.out
  | .service message => message.out

/-- The message was sent without a sound. -/
def silent : Message → Bool
  | .empty _ => false
  | .content message => message.silent
  | .service message => message.silent

/-- What the message replies to. -/
def replyTo? : Message → Option ReplyHeader
  | .empty _ => none
  | .content message => message.replyTo
  | .service message => message.replyTo

/-- The message that somebody wrote, if it is one. -/
def content? : Message → Option ContentMessage
  | .content message => some message
  | _ => none

/-- The action that the message reports, if it reports one. -/
def action? : Message → Option MessageAction
  | .service message => some message.action
  | _ => none

end Wire.Message

/-- A message, with the directory of the response that it came in. -/
structure Message where
  raw : Wire.Message
  directory : Directory
  /-- The business connection through which the message came. -/
  businessConnectionId : Option String
deriving Inhabited

namespace Message

/-- A message that did not come through a business connection. -/
def ofRaw (raw : Wire.Message) (directory : Directory) : Message :=
  ⟨raw, directory, none⟩

/-- The number of the message in its chat. -/
def id (message : Message) : Int32 :=
  message.raw.id

/-- The chat that the message is in. -/
def chat? (message : Message) : Option Chat :=
  message.raw.peer?.bind message.directory.chat?

/-- The sender, if the message names one; what comes in from a private conversation is sent by the
user whose conversation it is. -/
def sender? (message : Message) : Option Chat :=
  match message.raw.fromId?, message.raw.outgoing, message.raw.peer? with
  | some peer, _, _ => message.directory.chat? peer
  | none, false, some (.user id) => message.directory.chat? (.user id)
  | none, _, _ => none

/-- When the message was sent; an empty message is of the start of 1970. -/
def date (message : Message) : Date :=
  .ofTimestamp message.raw.timestamp

/-- The message was sent by the account. -/
def outgoing (message : Message) : Bool :=
  message.raw.outgoing

/-- The message was sent without a sound. -/
def silent (message : Message) : Bool :=
  message.raw.silent

/-- The message cannot be forwarded or saved. -/
def hasProtectedContent (message : Message) : Bool :=
  message.raw.content?.elim false (·.noforwards)

/-- The caption stands above the media. -/
def showCaptionAboveMedia (message : Message) : Bool :=
  message.raw.content?.elim false (·.invertMedia)

/-- The text, or the caption of the media. -/
def text (message : Message) : String :=
  message.raw.content?.elim "" (·.text)

/-- The formatting of the text. -/
def entities? (message : Message) : Option (List Wire.MessageEntity) :=
  message.raw.content?.bind (·.entities)

/-- The number of the message that this one replies to. -/
def replyToMessageId? (message : Message) : Option Int32 :=
  message.raw.replyTo?.bind (·.messageId)

/-- What the messages of an album have in common. -/
def groupedId? (message : Message) : Option Int64 :=
  message.raw.content?.bind (·.groupedId)

/-- What the message shows beside its text. -/
def media? (message : Message) : Option Wire.MessageMedia :=
  message.raw.content?.bind (·.media)

/-- The photo that the message shows. -/
def photo? (message : Message) : Option Wire.PhotoMedia :=
  match message.media? with
  | some (.photo photo) => some photo
  | _ => none

/-- The video that the message shows. -/
def video? (message : Message) : Option Video :=
  match message.media? with
  | some (.document document) => Video.ofDocument? document
  | _ => none

/-- The paid media that the message shows. -/
def paidMedia? (message : Message) : Warned (Option PaidMedia) :=
  match message.media? with
  | some (.paidMedia media) => do
    let info ← PaidMedia.ofRaw media
    pure (some info)
  | _ => pure none

/-- The invoice that the message shows. -/
def invoice? (message : Message) : Option Invoice :=
  match message.media? with
  | some (.invoice invoice) => some (.ofRaw invoice)
  | _ => none

/-- The gift code that the message hands over. -/
def giftCode? (message : Message) : Option GiftCode :=
  match message.raw.action? with
  | some (.giftCode action) => some (.ofAction action message.directory)
  | _ => none

/-- The star gift that the message reports. -/
def starGift? (message : Message) : Warned (Option StarGift) :=
  match message.raw with
  | .service service =>
    match service.action with
    | .starGift action => do
      let gift ← StarGift.ofAction action service message.directory
      pure (some gift)
    | _ => pure none
  | _ => pure none

/-- The outline of the message, for descriptions. -/
def outline (message : Message) : Term :=
  .record "Message" [
    ("id", Schema.view message.id),
    ("outgoing", Schema.view message.outgoing),
    ("date", message.date.outline),
    ("text", Schema.view message.text),
    ("chat", Term.ofOption Chat.outline message.chat?),
    ("sender", Term.ofOption Chat.outline message.sender?),
    ("reply_to_message_id", Schema.view message.replyToMessageId?),
    ("business_connection_id", Schema.view message.businessConnectionId),
    ("paid_media", Term.ofOption PaidMedia.outline message.paidMedia?.value),
    ("invoice", Term.ofOption Invoice.outline message.invoice?),
    ("gift_code", Term.ofOption GiftCode.outline message.giftCode?)]

end Message

end Messenger
