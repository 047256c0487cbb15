import Messenger.Dialog
import Messenger.Present.Payment
import Messenger.Update

/-!
# Messages as documents

How messages, dialogs and updates are presented to programs that do not know the library. To present
a message means to read its paid media and its gift, so it comes with the warnings about them.
-/

namespace Messenger

open Json (orNull each)
open Schema (write)

/-- The document of a message. -/
def Message.present (message : Message) : Warned Json := do
  let paidMedia ← message.paidMedia?
  let gift ← message.starGift?
  pure <| .obj [("id", write message.id),
    ("chat", orNull Chat.present message.chat?),
    ("sender", orNull Chat.present message.sender?),
    ("date", message.date.present),
    ("outgoing", .bool message.outgoing),
    ("silent", .bool message.silent),
    ("has_protected_content", .bool message.hasProtectedContent),
    ("show_caption_above_media", .bool message.showCaptionAboveMedia),
    ("text", .str message.text),
    ("entities", write message.entities?),
    ("reply_to_message_id", write message.replyToMessageId?),
    ("grouped_id", write message.groupedId?),
    ("business_connection_id", write message.businessConnectionId),
    ("photo", orNull Wire.PhotoMedia.present message.photo?),
    ("video", orNull Video.present message.video?),
    ("paid_media", orNull PaidMedia.present paidMedia),
    ("invoice", orNull Invoice.present message.invoice?),
    ("gift_code", orNull GiftCode.present message.giftCode?),
    ("star_gift", orNull StarGift.present gift)]

/-- The document of a message, or null if there is none. -/
def Message.presentOrNull : Option Message → Warned Json
  | some message => message.present
  | none => pure .null

/-- The document of a dialog. -/
def Dialog.present (dialog : Dialog) : Warned Json := do
  let topMessage ← Message.presentOrNull dialog.topMessage
  pure <| .obj [("chat", dialog.chat.present),
    ("top_message", topMessage),
    ("unread_messages_count", write dialog.unreadMessagesCount),
    ("unread_mentions_count", write dialog.unreadMentionsCount),
    ("unread_reactions_count", write dialog.unreadReactionsCount),
    ("unread_mark", .bool dialog.unreadMark),
    ("is_pinned", .bool dialog.isPinned),
    ("folder_id", write dialog.folderId),
    ("ttl_period", write dialog.ttlPeriod),
    ("raw", write dialog.raw)]

/-- The document of a boost. -/
def ChatBoost.present (boost : ChatBoost) : Json :=
  .obj [("id", .str boost.id),
    ("date", boost.date.present),
    ("expire_date", boost.expireDate.present),
    ("multiplier", write boost.multiplier),
    ("from_user", orNull Wire.User.present boost.fromUser),
    ("is_gift", .bool boost.isGift),
    ("is_giveaway", .bool boost.isGiveaway),
    ("is_unclaimed", .bool boost.isUnclaimed),
    ("giveaway_message_id", write boost.giveawayMessageId),
    ("used_gift_slug", write boost.usedGiftSlug)]

/-- The document of an update. -/
def Update.present : Update → Warned Json
  | .newMessage message => do
    let document ← message.present
    pure (.obj [("NewMessage", document)])
  | .chatBoost chat boost =>
    pure (.obj [("ChatBoost",
      .obj [("chat", orNull Chat.present chat), ("boost", boost.present)])])
  | .shippingQuery query => pure (.obj [("ShippingQuery", query.present)])
  | .raw update => pure (.obj [("Raw", write update)])

end Messenger
