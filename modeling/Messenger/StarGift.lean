import Messenger.Directory
import Messenger.FormattedText
import Messenger.Media
import Messenger.Wire.Message

/-!
# Star gifts

A gift that is bought with stars: from the catalogue (`StarGift.ofCatalogue`), from the profile of a
user (`StarGift.ofProfile`) or from a service message (`StarGift.ofAction`). The latter two say from
whom the gift is and in which message it came.
-/

namespace Messenger

/-- A gift that is bought with stars. -/
structure StarGift where
  id : Int64
  sticker : Option Sticker
  text : Option String
  entities : Option (List Wire.MessageEntity)
  messageId : Option Int32
  date : Option Date
  fromUser : Option Wire.User
  /-- The price in stars. -/
  price : Int64
  /-- How many stars the gift can be converted to. -/
  convertPrice : Int64
  /-- How many are left, of a limited gift. -/
  availableAmount : Option Int32
  totalAmount : Option Int32
  isLimited : Bool
  isNameHidden : Option Bool
  isSaved : Option Bool
deriving DecidableEq, Inhabited

namespace StarGift

/-- A gift of the catalogue. One whose document is no sticker is warned about. -/
def ofCatalogue (raw : Wire.StarGift) : Warned StarGift := do
  let sticker := Sticker.ofDocument? (.ofDocument raw.sticker)
  if sticker.isNone then
    Warned.warn (.giftWithoutSticker raw.id)
  pure {
    id := raw.id
    sticker := sticker
    text := none
    entities := none
    messageId := none
    date := none
    fromUser := none
    price := raw.stars
    convertPrice := raw.convertStars
    availableAmount := raw.availabilityRemains
    totalAmount := raw.availabilityTotal
    isLimited := raw.limited
    isNameHidden := none
    isSaved := none }

/-- A gift that a user was given. -/
def ofProfile (raw : Wire.UserStarGift) (directory : Directory) : Warned StarGift := do
  let gift ← ofCatalogue raw.gift
  pure { gift with
    text := Wire.FormattedText.text? raw.message
    entities := Wire.FormattedText.entities? raw.message
    messageId := raw.messageId
    date := some (.ofTimestamp raw.date)
    fromUser := raw.fromId.bind directory.user?
    isNameHidden := some raw.nameHidden
    isSaved := some !raw.unsaved
    convertPrice := raw.convertStars.getD gift.convertPrice }

/-- A gift that a service message reports: it is from the user of the private conversation that the
message is in. -/
def ofAction (action : Wire.StarGiftAction) (message : Wire.ServiceMessage)
    (directory : Directory) : Warned StarGift := do
  let gift ← ofCatalogue action.gift
  pure { gift with
    text := Wire.FormattedText.text? action.message
    entities := Wire.FormattedText.entities? action.message
    messageId := some message.id
    date := some (.ofTimestamp message.date)
    fromUser :=
      match message.peer with
      | .user id => directory.user? id
      | _ => none
    isNameHidden := some action.nameHidden
    isSaved := some action.saved
    convertPrice := action.convertStars.getD gift.convertPrice }

/-- The user from whom the gift is and the message in which it came, if both are known. -/
def origin? (gift : StarGift) : Option (Wire.InputUser × Int32) := do
  let user ← gift.fromUser
  let messageId ← gift.messageId
  pure (user.inputUser, messageId)

/-- The outline of the gift, for descriptions. -/
def outline (gift : StarGift) : Term :=
  .record "StarGift" [
    ("id", Schema.view gift.id),
    ("sticker", Term.ofOption Sticker.outline gift.sticker),
    ("text", Schema.view gift.text),
    ("message_id", Schema.view gift.messageId),
    ("date", Term.ofOption Date.outline gift.date),
    ("from_user", Term.ofOption Chat.outlineUser gift.fromUser),
    ("price", Schema.view gift.price),
    ("convert_price", Schema.view gift.convertPrice),
    ("available_amount", Schema.view gift.availableAmount),
    ("total_amount", Schema.view gift.totalAmount),
    ("is_limited", Schema.view gift.isLimited),
    ("is_name_hidden", Schema.view gift.isNameHidden),
    ("is_saved", Schema.view gift.isSaved)]

end StarGift

end Messenger
