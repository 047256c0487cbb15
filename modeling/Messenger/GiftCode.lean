import Messenger.Date
import Messenger.Directory
import Messenger.FormattedText
import Messenger.Wire.Message
import Messenger.Wire.Payment

/-!
# Gift codes

A code for a subscription, as a service message hands it over (`GiftCode`) and as the server
describes it when asked (`GiftCodeStatus`).
-/

namespace Messenger

/-- A code for a subscription. -/
structure GiftCode where
  /-- How many months the subscription lasts. -/
  months : Int32
  slug : String
  text : Option String
  entities : Option (List Wire.MessageEntity)
  /-- The code was won in a giveaway. -/
  viaGiveaway : Bool
  /-- The giveaway ended without a winner for the code. -/
  isUnclaimed : Bool
  /-- The chat that made the code. -/
  boostedChat : Option Chat
deriving DecidableEq, Inhabited

namespace GiftCode

/-- What a link to a gift code starts with. -/
def linkStart : String := "https://t.me/giftcode/"

/-- The code that a service message reports. -/
def ofAction (action : Wire.GiftCodeAction) (directory : Directory) : GiftCode where
  months := action.months
  slug := action.slug
  text := Wire.FormattedText.text? action.message
  entities := Wire.FormattedText.entities? action.message
  viaGiveaway := action.viaGiveaway
  isUnclaimed := action.unclaimed
  boostedChat := action.boostPeer.bind directory.chat?

/-- A link with which others can apply the code. -/
def link (code : GiftCode) : String :=
  linkStart ++ code.slug

/-- The outline of the code, for descriptions. -/
def outline (code : GiftCode) : Term :=
  .record "GiftCode" [
    ("months", Schema.view code.months),
    ("slug", Schema.view code.slug),
    ("text", Schema.view code.text),
    ("entities", Schema.view code.entities),
    ("via_giveaway", Schema.view code.viaGiveaway),
    ("is_unclaimed", Schema.view code.isUnclaimed),
    ("boosted_chat", Term.ofOption Chat.outline code.boostedChat)]

end GiftCode

/-- What the server knows about a code. -/
structure GiftCodeStatus where
  date : Date
  months : Int32
  viaGiveaway : Bool
  /-- The chat that made the code. -/
  fromChat : Option Chat
  giveawayMessageId : Option Int32
  /-- The user whom the code was given to. -/
  winner : Option Wire.User
  /-- When the code was applied, if it was. -/
  usedDate : Option Date
deriving DecidableEq, Inhabited

namespace GiftCodeStatus

/-- What the server answered about a code. -/
def ofRaw (raw : Wire.CheckedGiftCode) : GiftCodeStatus :=
  let directory := Directory.ofTables raw.users raw.chats
  { date := .ofTimestamp raw.date
    months := raw.months
    viaGiveaway := raw.viaGiveaway
    fromChat := raw.fromId.bind directory.chat?
    giveawayMessageId := raw.giveawayMessageId
    winner := raw.toId.bind directory.user?
    usedDate := raw.usedDate.bind Date.ofTimestamp? }

/-- The code was applied by somebody. -/
def isUsed (code : GiftCodeStatus) : Bool :=
  code.usedDate.isSome

end GiftCodeStatus

end Messenger
