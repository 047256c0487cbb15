import Messenger.Client.Payments
import Messenger.Paging
import Messenger.StarGift

/-!
# Star gifts

Gifts are bought from the catalogue for a user, shown on the profile of the user or hidden, and
converted to stars. The gifts of a profile come in pages (`GiftPosition`): each page says where the
next one starts, and the last one says nothing or brings no gifts.
-/

namespace Messenger

/-! ## Pages -/

/-- A place in the list of the gifts of a user. -/
structure GiftPosition where
  user : Wire.InputUser
  /-- What the page before said; empty for the first page. -/
  offset : String
deriving DecidableEq, Inhabited

namespace GiftPosition

/-- The start of the gifts of a user. -/
def start (user : Wire.InputUser) : GiftPosition := ⟨user, ""⟩

/-- The call for the page at the position. -/
def call (position : GiftPosition) (limit : Int32) : Wire.Call :=
  .getUserStarGifts ⟨position.user, position.offset, limit⟩

/-- Where the page after an answer starts, if there is one. -/
def nextOffset? (answer : Wire.UserStarGifts) : Option String :=
  if answer.gifts.isEmpty then none else answer.nextOffset.filter fun offset => !offset.isEmpty

/-- What a page brings. -/
def page (position : GiftPosition) (answer : Wire.UserStarGifts) :
    Warned (Page GiftPosition StarGift) := do
  let directory := Directory.ofTables answer.users []
  let gifts ← answer.gifts.mapM fun gift => StarGift.ofProfile gift directory
  pure {
    items := gifts
    next := ⟨position.user, (nextOffset? answer).getD position.offset⟩
    isLast := (nextOffset? answer).isNone }

instance : Paged GiftPosition StarGift where
  call := call
  page position _ answer := position.page answer
  count _ _ answer := answer.count.toInt64.toUInt64

end GiftPosition

namespace Client

/-- The user that a reference leads to. -/
def userOf (chat : ChatRef) : Client MethodError Wire.InputUser := do
  let peer ← peerOf chat
  match peer.user? with
  | some user => pure user
  | none => throw (.invalidArgument .chatNotUser)

/-! ## Buying -/

/-- The gifts that can be bought. -/
def giftCatalogue : Client CallError (List StarGift) := do
  let answer : Wire.StarGifts ← run (.getStarGifts 0)
  match answer with
  | .gifts _ gifts => warned (gifts.mapM StarGift.ofCatalogue)
  | .notModified =>
    record (.warned .giftsNotModified)
    pure []

/-- The text of a gift as it will be sent; an empty one is as good as none. -/
def giftText (services : Services) (text : Option DraftText) : Option Wire.FormattedText :=
  (text.map services.formatted).filter fun formatted => !formatted.text.isEmpty

/-- Buys a gift for a user. -/
def buyGift (chat : ChatRef) (giftId : Int64) (text : Option DraftText) (hideName : Bool) :
    Client MethodError Bool := do
  let user ← userOf chat
  let services ← read
  payWithStars (.starGift ⟨hideName, user, giftId, giftText services text⟩)

/-! ## Profiles -/

/-- The gifts of a user, the most recent first, for somebody who takes them one by one. -/
def giftsOf (chat : ChatRef) : Client MethodError (Pages GiftPosition StarGift) := do
  let user ← userOf chat
  pure (.ofPosition (.start user))

/-- How many gifts a user has. -/
def giftsCount (chat : ChatRef) : Client MethodError UInt64 := do
  let gifts ← giftsOf chat
  let (count, _) ← gifts.askTotal
  pure count

/-- Shows a gift of the account on the profile, or hides it. The chat is the one that sent the gift,
in the message with the number. -/
def setGiftShown (chat : ChatRef) (messageId : Int32) (shown : Bool) :
    Client MethodError Bool := do
  let user ← userOf chat
  run (.saveStarGift ⟨!shown, user, messageId⟩)

/-- Shows a gift of the account on the profile. -/
def showGift (chat : ChatRef) (messageId : Int32) : Client MethodError Bool :=
  setGiftShown chat messageId true

/-- Hides a gift of the account from the profile. -/
def hideGift (chat : ChatRef) (messageId : Int32) : Client MethodError Bool :=
  setGiftShown chat messageId false

/-- Converts a gift of the account to stars, after which it is gone. -/
def convertGift (chat : ChatRef) (messageId : Int32) : Client MethodError Bool := do
  let user ← userOf chat
  run (.convertStarGift user messageId)

end Client

/-! ## Received gifts -/

namespace StarGift

/-- The user from whom the gift is and the message in which it came. -/
def requireOrigin (gift : StarGift) : Client MethodError (Wire.InputUser × Int32) :=
  match gift.origin? with
  | some origin => pure origin
  | none => throw (.invalidArgument .giftNotReceived)

/-- Shows the gift on the profile of the account that received it, or hides it. -/
def setShown (gift : StarGift) (shown : Bool) : Client MethodError Bool := do
  let (user, messageId) ← gift.requireOrigin
  Client.run (.saveStarGift ⟨!shown, user, messageId⟩)

/-- Shows the gift on the profile of the account that received it. -/
def display (gift : StarGift) : Client MethodError Bool :=
  gift.setShown true

/-- Hides the gift from the profile of the account that received it. -/
def hide (gift : StarGift) : Client MethodError Bool :=
  gift.setShown false

/-- Converts the gift to stars. -/
def convert (gift : StarGift) : Client MethodError Bool := do
  let (user, messageId) ← gift.requireOrigin
  Client.run (.convertStarGift user messageId)

end StarGift

end Messenger
