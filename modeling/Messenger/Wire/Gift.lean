import Messenger.Wire.Entity
import Messenger.Wire.File

/-!
# Star gifts

A gift of the catalogue (`StarGift`), and a gift that a user was given (`UserStarGift`).
-/

namespace Messenger.Wire

/-- A gift as the catalogue has it. -/
structure StarGift where
  limited : Bool
  soldOut : Bool
  birthday : Bool
  id : Int64
  sticker : DocumentEntry
  stars : Int64
  availabilityRemains : Option Int32
  availabilityTotal : Option Int32
  convertStars : Int64
  firstSaleDate : Option Int32
  lastSaleDate : Option Int32
deriving DecidableEq, Inhabited

/-- A gift that a user was given. -/
structure UserStarGift where
  nameHidden : Bool
  unsaved : Bool
  fromId : Option Int64
  date : Int32
  gift : StarGift
  message : Option FormattedText
  messageId : Option Int32
  convertStars : Option Int64
deriving DecidableEq, Inhabited

/-! ## Schemas -/

instance : Schema StarGift :=
  .single "Gift" <| .record "StarGift" StarGift.mk <|
  .field "limited" (·.limited) <|
  .field "sold_out" (·.soldOut) <|
  .field "birthday" (·.birthday) <|
  .field "id" (·.id) <|
  .field "sticker" (·.sticker) <|
  .field "stars" (·.stars) <|
  .field "availability_remains" (·.availabilityRemains) <|
  .field "availability_total" (·.availabilityTotal) <|
  .field "convert_stars" (·.convertStars) <|
  .field "first_sale_date" (·.firstSaleDate) <|
  .field "last_sale_date" (·.lastSaleDate)
  .done

instance : Schema UserStarGift :=
  .single "Gift" <| .record "UserStarGift" UserStarGift.mk <|
  .field "name_hidden" (·.nameHidden) <|
  .field "unsaved" (·.unsaved) <|
  .field "from_id" (·.fromId) <|
  .field "date" (·.date) <|
  .field "gift" (·.gift) <|
  .field "message" (·.message) <|
  .field "msg_id" (·.messageId) <|
  .field "convert_stars" (·.convertStars)
  .done

end Messenger.Wire
